import SolanaArb.General.Tables
import Mathlib.Order.Basic

/-! # Debouncing by key

A table remembers when each key was last let through. It may forget times older than a
horizon: as long as the horizon covers the window, this lets no key through early.
-/
namespace SolanaArb.General
variable {κ : Type*} [DecidableEq κ]

abbrev LastTimes (κ : Type*) := AList (fun _ : κ => ℕ)

def LastTimes.retain (table : LastTimes κ) (keep : ℕ → Bool) : LastTimes κ where
  entries := table.entries.filter (fun entry => keep entry.2)
  nodupKeys := table.nodupKeys.sublist List.filter_sublist

def letsThrough (window : ℕ) (table : LastTimes κ) (now : ℕ) (k : κ) : Bool :=
  match table.lookup k with
  | none => true
  | some last => decide (window ≤ now - last)

/-- The table knows the last time of each key let through within the horizon. -/
structure Remembers (horizon : ℕ) (passed : List (ℕ × κ)) (clock : ℕ) (table : LastTimes κ) :
    Prop where
  past : ∀ t k, (t, k) ∈ passed → t ≤ clock
  sound : ∀ t k, table.lookup k = some t → (t, k) ∈ passed
  complete : ∀ t k, (t, k) ∈ passed →
    horizon ≤ clock - t ∨ ∃ last, table.lookup k = some last ∧ t ≤ last

variable {window horizon clock now t : ℕ} {k : κ} {passed : List (ℕ × κ)} {table : LastTimes κ}
  {keep : ℕ → Bool}

theorem lookup_retain : (table.retain keep).lookup k = some t ↔
    table.lookup k = some t ∧ keep t = true := by
  simp only [← Option.mem_def, AList.mem_lookup_iff, LastTimes.retain, List.mem_filter]

theorem remembers_empty (horizon clock : ℕ) : Remembers horizon [] clock (∅ : LastTimes κ) := by
  constructor
  · intro t k h
    cases h
  · intro t k h
    rw [AList.lookup_empty] at h
    cases h
  · intro t k h
    cases h

theorem Remembers.later (h : Remembers horizon passed clock table) (hle : clock ≤ now) :
    Remembers horizon passed now table := by
  constructor
  · intro t k hmem
    exact (h.past t k hmem).trans hle
  · exact h.sound
  · intro t k hmem
    rcases h.complete t k hmem with hold | hlast
    · exact Or.inl (hold.trans (Nat.sub_le_sub_right hle t))
    · exact Or.inr hlast

theorem Remembers.weaken {shorter : ℕ} (h : Remembers horizon passed clock table)
    (hle : shorter ≤ horizon) : Remembers shorter passed clock table :=
  ⟨h.past, h.sound, fun t k hmem => (h.complete t k hmem).imp_left hle.trans⟩

theorem Remembers.insert (h : Remembers horizon passed clock table) (k : κ) :
    Remembers horizon ((clock, k) :: passed) clock (table.insert k clock) := by
  constructor
  · intro t k' hmem
    rcases List.mem_cons.mp hmem with heq | hmem
    · cases heq
      exact le_rfl
    · exact h.past t k' hmem
  · intro t k' hlookup
    rcases lookup_insert_cases hlookup with ⟨rfl, rfl⟩ | hold
    · exact List.mem_cons_self
    · exact List.mem_cons_of_mem _ (h.sound t k' hold)
  · intro t k' hmem
    by_cases hk : k' = k
    · subst hk
      refine Or.inr ⟨clock, AList.lookup_insert table, ?_⟩
      rcases List.mem_cons.mp hmem with heq | hmem
      · cases heq
        exact le_rfl
      · exact h.past t k' hmem
    · rw [AList.lookup_insert_ne hk]
      rcases List.mem_cons.mp hmem with heq | hmem
      · cases heq
        exact absurd rfl hk
      · exact h.complete t k' hmem

/-- Times as old as the horizon may be thrown away. -/
theorem Remembers.retain (h : Remembers horizon passed clock table)
    (hkeep : ∀ t, keep t = false → horizon ≤ clock - t) :
    Remembers horizon passed clock (table.retain keep) := by
  constructor
  · exact h.past
  · intro t k hlookup
    exact h.sound t k (lookup_retain.mp hlookup).1
  · intro t k hmem
    rcases h.complete t k hmem with hold | ⟨last, hlast, hle⟩
    · exact Or.inl hold
    · cases hk : keep last with
      | true => exact Or.inr ⟨last, lookup_retain.mpr ⟨hlast, hk⟩, hle⟩
      | false => exact Or.inl ((hkeep last hk).trans (Nat.sub_le_sub_left hle clock))

/-- A key passes exactly when it has not passed within the window. -/
theorem Remembers.letsThrough_iff (h : Remembers horizon passed clock table)
    (hwindow : window ≤ horizon) :
    letsThrough window table clock k = true ↔ ∀ t, (t, k) ∈ passed → window ≤ clock - t := by
  unfold letsThrough
  constructor
  · intro hpass t hmem
    rcases h.complete t k hmem with hold | ⟨last, hlast, hle⟩
    · exact hwindow.trans hold
    · rw [hlast] at hpass
      exact (of_decide_eq_true hpass).trans (Nat.sub_le_sub_left hle clock)
  · intro hall
    cases hlookup : table.lookup k with
    | none => rfl
    | some last => exact decide_eq_true (hall last (h.sound last k hlookup))

/-- Keys that only pass when let through are spaced by the window. -/
theorem Remembers.spaced (h : Remembers horizon passed clock table) (hwindow : window ≤ horizon)
    (hpos : 0 < window) (hpass : letsThrough window table clock k = true)
    (hspaced : passed.Pairwise
      (fun newer older => newer.2 = older.2 → older.1 + window ≤ newer.1)) :
    ((clock, k) :: passed).Pairwise
      (fun newer older => newer.2 = older.2 → older.1 + window ≤ newer.1) := by
  apply List.Pairwise.cons _ hspaced
  rintro ⟨t, k'⟩ hmem hk
  obtain rfl : k = k' := hk
  have hquiet := (h.letsThrough_iff hwindow).mp hpass t hmem
  dsimp only
  omega

/-! ## Two tables of one history -/

/-- A table that has thrown away only times older than the horizon. -/
structure Forgets (horizon clock : ℕ) (full table : LastTimes κ) : Prop where
  sound : ∀ k t, table.lookup k = some t → full.lookup k = some t
  complete : ∀ k t, full.lookup k = some t → table.lookup k = some t ∨ horizon ≤ clock - t

variable {full : LastTimes κ}

theorem forgets_refl (horizon clock : ℕ) (table : LastTimes κ) :
    Forgets horizon clock table table :=
  ⟨fun _ _ h => h, fun _ _ h => Or.inl h⟩

theorem Forgets.later (h : Forgets horizon clock full table) (hle : clock ≤ now) :
    Forgets horizon now full table := by
  refine ⟨h.sound, ?_⟩
  intro k t hlookup
  exact (h.complete k t hlookup).imp_right fun hold => hold.trans (Nat.sub_le_sub_right hle t)

theorem Forgets.insert (h : Forgets horizon clock full table) (k : κ) (t : ℕ) :
    Forgets horizon clock (full.insert k t) (table.insert k t) := by
  constructor
  · intro k' t' hlookup
    by_cases hk : k' = k
    · subst hk
      rw [AList.lookup_insert] at hlookup ⊢
      exact hlookup
    · rw [AList.lookup_insert_ne hk] at hlookup ⊢
      exact h.sound k' t' hlookup
  · intro k' t' hlookup
    by_cases hk : k' = k
    · subst hk
      rw [AList.lookup_insert] at hlookup ⊢
      exact Or.inl hlookup
    · rw [AList.lookup_insert_ne hk] at hlookup ⊢
      exact h.complete k' t' hlookup

theorem Forgets.retain (h : Forgets horizon clock full table)
    (hkeep : ∀ t, keep t = false → horizon ≤ clock - t) :
    Forgets horizon clock full (table.retain keep) := by
  constructor
  · intro k t hlookup
    exact h.sound k t (lookup_retain.mp hlookup).1
  · intro k t hlookup
    rcases h.complete k t hlookup with hsame | hold
    · cases hk : keep t with
      | true => exact Or.inl (lookup_retain.mpr ⟨hsame, hk⟩)
      | false => exact Or.inr (hkeep t hk)
    · exact Or.inr hold

/-- Both let the same keys through. -/
theorem Forgets.letsThrough_eq (h : Forgets horizon clock full table) (hwindow : window ≤ horizon)
    (k : κ) : letsThrough window full clock k = letsThrough window table clock k := by
  unfold letsThrough
  cases htable : table.lookup k with
  | some t => rw [h.sound k t htable]
  | none =>
    cases hfull : full.lookup k with
    | none => rfl
    | some t =>
      rcases h.complete k t hfull with hsame | hold
      · rw [htable] at hsame
        cases hsame
      · exact decide_eq_true (hwindow.trans hold)

end SolanaArb.General
