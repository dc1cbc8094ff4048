import SolanaArb.General.Tables

/-! # Caches that are swept

A cache is written under keys, and swept now and then: a sweep drops the entries it does not
keep. What a key holds after any history is its last write, unless a sweep since has dropped
it. Histories are newest first.
-/
namespace SolanaArb.General
variable {κ υ : Type*} [DecidableEq κ]

/-- A sweep, given by the entries it keeps. -/
abbrev Sweep (κ υ : Type*) := κ → υ → Bool

inductive CacheOp (κ υ : Type*)
  | write (key : κ) (value : υ)
  | sweep (keep : Sweep κ υ)

abbrev Cache (κ υ : Type*) := AList (fun _ : κ => υ)

namespace Cache

def retain (cache : Cache κ υ) (keep : Sweep κ υ) : Cache κ υ where
  entries := cache.entries.filter (fun entry => keep entry.1 entry.2)
  nodupKeys := cache.nodupKeys.sublist List.filter_sublist

def apply (op : CacheOp κ υ) (cache : Cache κ υ) : Cache κ υ :=
  match op with
  | .write key value => cache.insert key value
  | .sweep keep => cache.retain keep

def after (ops : List (CacheOp κ υ)) : Cache κ υ := ops.foldr apply ∅

end Cache

/-- The writes of a history. -/
def writes (ops : List (CacheOp κ υ)) : List (κ × υ) :=
  ops.filterMap (fun
    | .write key value => some (key, value)
    | .sweep _ => none)

/-- The value last written under a key. -/
def lastWrite (key : κ) : List (CacheOp κ υ) → Option υ
  | [] => none
  | .write k value :: ops => if k = key then some value else lastWrite key ops
  | .sweep _ :: ops => lastWrite key ops

/-- The sweeps since a key was last written. -/
def sweepsSince (key : κ) : List (CacheOp κ υ) → List (Sweep κ υ)
  | [] => []
  | .write k _ :: ops => if k = key then [] else sweepsSince key ops
  | .sweep keep :: ops => keep :: sweepsSince key ops

namespace Cache
variable {cache : Cache κ υ} {ops : List (CacheOp κ υ)} {key : κ} {value : υ} {keep : Sweep κ υ}

theorem lookup_retain : (cache.retain keep).lookup key = (cache.lookup key).filter (keep key) := by
  apply Option.ext
  intro value
  rw [Option.filter_eq_some_iff]
  simp only [← Option.mem_def, AList.mem_lookup_iff, retain, List.mem_filter]

theorem lookup_after : (after ops).lookup key =
    (lastWrite key ops).filter
      (fun value => (sweepsSince key ops).all (fun keep => keep key value)) := by
  induction ops with
  | nil => rw [after, List.foldr_nil, AList.lookup_empty, lastWrite, Option.filter_none]
  | cons op ops ih =>
    have hafter : after (op :: ops) = (after ops).apply op := rfl
    rw [hafter]
    cases op with
    | write k value =>
      simp only [apply, lastWrite, sweepsSince]
      by_cases hk : k = key
      · subst hk
        simp [AList.lookup_insert, Option.filter_some]
      · simp only [if_neg hk, AList.lookup_insert_ne (Ne.symm hk), ih]
    | sweep keep =>
      simp only [apply, lastWrite, sweepsSince, lookup_retain, ih, Option.filter_filter,
        List.all_cons, Bool.and_comm]

/-- A key holds what was last written, where no sweep since has dropped it. -/
theorem lookup_after_eq_some : (after ops).lookup key = some value ↔
    lastWrite key ops = some value ∧ ∀ keep ∈ sweepsSince key ops, keep key value = true := by
  rw [lookup_after, Option.filter_eq_some_iff, List.all_eq_true]

/-- A reader that only takes entries of some kind does not see sweeps that keep all of these. -/
theorem filter_lookup_after {takes : υ → Bool}
    (hkeeps : ∀ keep ∈ sweepsSince key ops, ∀ value, takes value = true → keep key value = true) :
    ((after ops).lookup key).filter takes = (lastWrite key ops).filter takes := by
  rw [lookup_after, Option.filter_filter]
  congr 1
  funext value
  cases htakes : takes value with
  | false => rw [Bool.and_false]
  | true =>
    rw [Bool.and_true, List.all_eq_true]
    exact fun keep hmem => hkeeps keep hmem value htakes

end Cache

section Histories
variable {key : κ} {value : υ} {ops : List (CacheOp κ υ)}

theorem lastWrite_eq_find (key : κ) (ops : List (CacheOp κ υ)) :
    lastWrite key ops = ((writes ops).find? (fun w => w.1 = key)).map Prod.snd := by
  induction ops with
  | nil => rfl
  | cons op ops ih =>
    cases op with
    | write k value =>
      have hwrites : writes (.write k value :: ops) = (k, value) :: writes ops := rfl
      rw [lastWrite, hwrites, ih]
      by_cases hk : k = key
      · simp [hk]
      · simp [hk]
    | sweep keep => exact ih

theorem mem_of_sweepsSince {keep : Sweep κ υ} (h : keep ∈ sweepsSince key ops) :
    CacheOp.sweep keep ∈ ops := by
  induction ops with
  | nil => cases h
  | cons op ops ih =>
    cases op with
    | write k v =>
      rw [sweepsSince] at h
      split at h
      · cases h
      · exact List.mem_cons_of_mem _ (ih h)
    | sweep keep' =>
      rcases List.mem_cons.mp h with rfl | hold
      · exact List.mem_cons_self
      · exact List.mem_cons_of_mem _ (ih hold)

theorem lastWrite_append_of_none {since : List (CacheOp κ υ)}
    (h : ∀ v, CacheOp.write key v ∉ since) :
    lastWrite key (since ++ ops) = lastWrite key ops ∧
      sweepsSince key (since ++ ops) = sweepsSince key since ++ sweepsSince key ops := by
  induction since with
  | nil => exact ⟨rfl, rfl⟩
  | cons op since ih =>
    obtain ⟨hwrite, hsweeps⟩ := ih (fun v hmem => h v (List.mem_cons_of_mem _ hmem))
    cases op with
    | write k v =>
      have hk : k ≠ key := by
        rintro rfl
        exact h v List.mem_cons_self
      simp only [List.cons_append, lastWrite, sweepsSince, if_neg hk]
      exact ⟨hwrite, hsweeps⟩
    | sweep keep =>
      simp only [List.cons_append, lastWrite, sweepsSince, hwrite, hsweeps]
      exact ⟨trivial, trivial⟩

theorem mem_sweepsSince {since : List (CacheOp κ υ)} (h : ∀ v, CacheOp.write key v ∉ since)
    {keep : Sweep κ υ} : keep ∈ sweepsSince key since ↔ CacheOp.sweep keep ∈ since := by
  induction since with
  | nil => simp [sweepsSince]
  | cons op since ih =>
    have hrest := ih (fun v hmem => h v (List.mem_cons_of_mem _ hmem))
    cases op with
    | write k v =>
      have hk : k ≠ key := by
        rintro rfl
        exact h v List.mem_cons_self
      simp [sweepsSince, hk, hrest]
    | sweep keep' => simp [sweepsSince, hrest]

/-- The history since a key was last written. -/
theorem lastWrite_split (h : lastWrite key ops = some value) : ∃ since before,
    ops = since ++ .write key value :: before ∧ ∀ v, CacheOp.write key v ∉ since := by
  induction ops with
  | nil => cases h
  | cons op ops ih =>
    cases op with
    | write k v =>
      rw [lastWrite] at h
      split at h
      · next hk =>
        subst hk
        obtain rfl := Option.some.inj h
        exact ⟨[], ops, rfl, fun _ => List.not_mem_nil⟩
      · next hk =>
        obtain ⟨since, before, rfl, hnone⟩ := ih h
        refine ⟨.write k v :: since, before, rfl, ?_⟩
        intro v' hmem
        rcases List.mem_cons.mp hmem with heq | hold
        · exact hk (CacheOp.write.inj heq).1.symm
        · exact hnone v' hold
    | sweep keep =>
      obtain ⟨since, before, rfl, hnone⟩ := ih h
      refine ⟨.sweep keep :: since, before, rfl, ?_⟩
      intro v hmem
      rcases List.mem_cons.mp hmem with heq | hold
      · cases heq
      · exact hnone v hold

/-- A key holds a value that was written and neither written over nor swept out since. -/
theorem Cache.lookup_after_iff : (Cache.after ops).lookup key = some value ↔
    ∃ since before, ops = since ++ .write key value :: before ∧
      (∀ v, CacheOp.write key v ∉ since) ∧
      ∀ keep, CacheOp.sweep keep ∈ since → keep key value = true := by
  rw [Cache.lookup_after_eq_some]
  constructor
  · rintro ⟨hlast, hkept⟩
    obtain ⟨since, before, rfl, hnone⟩ := lastWrite_split hlast
    refine ⟨since, before, rfl, hnone, ?_⟩
    intro keep hmem
    apply hkept
    rw [(lastWrite_append_of_none hnone).2]
    exact List.mem_append_left _ ((mem_sweepsSince hnone).mpr hmem)
  · rintro ⟨since, before, rfl, hnone, hkept⟩
    have hlast : lastWrite key (since ++ .write key value :: before) =
        lastWrite key (.write key value :: before) := (lastWrite_append_of_none hnone).1
    have hsweeps : sweepsSince key (since ++ .write key value :: before) =
        sweepsSince key since ++ sweepsSince key (.write key value :: before) :=
      (lastWrite_append_of_none hnone).2
    refine ⟨by rw [hlast, lastWrite, if_pos rfl], ?_⟩
    intro keep hmem
    rw [hsweeps, sweepsSince, if_pos rfl, List.append_nil] at hmem
    exact hkept keep ((mem_sweepsSince hnone).mp hmem)

end Histories

end SolanaArb.General
