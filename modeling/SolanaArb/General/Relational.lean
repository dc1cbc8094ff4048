import Mathlib.Algebra.BigOperators.Group.List.Lemmas
import Mathlib.Algebra.Ring.Nat
import Mathlib.Data.List.Dedup
import Mathlib.Data.List.Nodup
import Mathlib.Data.List.Perm.Basic

/-! # Rows and queries

Tables with a unique key, left joins, the first rows of an order and the counts of its
groups. Where a query leaves the order of some rows open, it is a relation.
-/
namespace SolanaArb.General
variable {α β κ : Type*}

/-- The rows of a table with a primary key. -/
structure KeyedRows (α : Type*) {κ : Type*} (key : α → κ) where
  rows : List α
  nodup : (rows.map key).Nodup

namespace KeyedRows
variable {key : α → κ}

def empty : KeyedRows α key := ⟨[], List.nodup_nil⟩

/-- An insertion fails where the key is taken. -/
def insert? [DecidableEq κ] (t : KeyedRows α key) (row : α) : Option (KeyedRows α key) :=
  if h : key row ∈ t.rows.map key then none
  else some {
    rows := t.rows ++ [row]
    nodup := by
      rw [List.map_append, List.map_singleton]
      exact List.nodup_append_comm.mp (List.nodup_cons.mpr ⟨h, t.nodup⟩) }

theorem insert?_eq_some [DecidableEq κ] {t t' : KeyedRows α key} {row : α}
    (h : t.insert? row = some t') : key row ∉ t.rows.map key ∧ t'.rows = t.rows ++ [row] := by
  unfold insert? at h
  split at h
  · cases h
  · next hnew =>
    obtain rfl := Option.some.inj h
    exact ⟨hnew, rfl⟩

end KeyedRows

/-- At most one row of a table with unique keys meets a condition that fixes the key. -/
theorem filter_of_nodup_key {key : α → κ} {rows : List α} (hnodup : (rows.map key).Nodup)
    {p : α → Bool} {k : κ} (hp : ∀ row, p row = true → key row = k) :
    rows.filter p = (rows.find? p).toList := by
  induction rows with
  | nil => rfl
  | cons row rows ih =>
    rw [List.map_cons, List.nodup_cons] at hnodup
    cases hrow : p row with
    | false => rw [List.filter_cons_of_neg (by simp [hrow]), List.find?_cons_of_neg (by simp [hrow]),
        ih hnodup.2]
    | true =>
      have hrest : rows.filter p = [] := by
        rw [List.filter_eq_nil_iff]
        intro other hother hpo
        apply hnodup.1
        rw [hp row hrow, ← hp other hpo]
        exact List.mem_map_of_mem hother
      rw [List.filter_cons_of_pos hrow, List.find?_cons_of_pos hrow, hrest]
      rfl

/-! ## Left joins -/

/-- `l LEFT JOIN r ON on`. -/
def leftJoin (l : List α) (r : List β) (on : α → β → Bool) : List (α × Option β) :=
  l.flatMap (fun a => if (r.filter (on a)).isEmpty then [(a, none)]
    else (r.filter (on a)).map (fun b => (a, some b)))

/-- A left join on a unique key has one row for each row on the left. -/
theorem leftJoin_keyed {key : β → κ} (t : KeyedRows β key) (l : List α) {on : α → β → Bool}
    (ref : α → κ) (hon : ∀ a b, on a b = true → key b = ref a) :
    leftJoin l t.rows on = l.map (fun a => (a, t.rows.find? (on a))) := by
  rw [List.map_eq_flatMap]
  apply List.flatMap_congr
  intro a _
  rw [filter_of_nodup_key t.nodup (hon a)]
  cases t.rows.find? (on a) with
  | none => rfl
  | some b => rfl

/-! ## The first rows of an order -/

/-- `ORDER BY rank DESC LIMIT n`: rows of equal rank come in any order. -/
def TopRows (rank : α → ℤ) (n : ℕ) (rows result : List α) : Prop :=
  ∃ sorted : List α, sorted.Perm rows ∧ sorted.Pairwise (fun a b => rank b ≤ rank a) ∧
    result = sorted.take n

section Top
variable {rank : α → ℤ} {n : ℕ} {rows result : List α}

theorem TopRows.length_eq (h : TopRows rank n rows result) : result.length = min n rows.length := by
  obtain ⟨sorted, hperm, _, rfl⟩ := h
  rw [List.length_take, hperm.length_eq]

/-- What is left out ranks no higher than what is shown. -/
theorem TopRows.split (h : TopRows rank n rows result) : ∃ rest, (result ++ rest).Perm rows ∧
    result.Pairwise (fun a b => rank b ≤ rank a) ∧
    ∀ shown ∈ result, ∀ hidden ∈ rest, rank hidden ≤ rank shown := by
  obtain ⟨sorted, hperm, hsorted, rfl⟩ := h
  have hboth := hsorted
  rw [← List.take_append_drop n sorted, List.pairwise_append] at hboth
  exact ⟨sorted.drop n, by rwa [List.take_append_drop], hboth.1, hboth.2.2⟩

theorem TopRows.of_map {f : α → β} {rank : β → ℤ} {shown : List β}
    (h : TopRows rank n (rows.map f) shown) :
    ∃ result, TopRows (fun a => rank (f a)) n rows result ∧ shown = result.map f := by
  obtain ⟨sorted, hperm, hsorted, rfl⟩ := h
  have himages : List.Forall₂ (fun b a => b = f a) (rows.map f) rows := by
    rw [List.forall₂_map_left_iff, List.forall₂_same]
    exact fun _ _ => rfl
  obtain ⟨before, heach, hbefore⟩ := List.perm_comp_forall₂ hperm himages
  obtain rfl : sorted = before.map f := by
    rw [← List.forall₂_eq_eq_eq, List.forall₂_map_right_iff]
    exact heach
  exact ⟨before.take n, ⟨before, hbefore, List.pairwise_map.mp hsorted, rfl⟩, List.map_take.symm⟩

end Top

/-- The counts of all groups add up to the number of rows. -/
theorem sum_group_counts [DecidableEq κ] (group : α → κ) (rows : List α) :
    ((rows.map group).dedup.map (fun k => (rows.filter (fun a => group a = k)).length)).sum =
      rows.length := by
  have hcount (k : κ) : (rows.filter (fun a => group a = k)).length = (rows.map group).count k := by
    rw [List.count, List.countP_map, List.countP_eq_length_filter]
    rfl
  rw [List.map_congr_left (fun k _ => hcount k), List.sum_map_count_dedup_eq_length, List.length_map]

end SolanaArb.General
