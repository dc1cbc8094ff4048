import Mathlib.Data.List.Perm.Basic

/-! # One holder at a time, and events that keep a distance

A resource is either free or held by exactly one entry of a list of tasks. Events at a
distance of at least `gap` are few in any stretch of time.
-/
namespace SolanaArb.General
variable {α : Type*}

/-- The resource is free, or exactly one task holds it. -/
def Exclusive (holds : α → Bool) (free : Bool) (tasks : List α) : Prop :=
  tasks.countP holds + (if free then 1 else 0) = 1

section Exclusive
variable {holds : α → Bool} {free : Bool} {tasks : List α} {i j : ℕ} {a b : α}

theorem countP_set (holds : α → Bool) (h : tasks[i]? = some a) (b : α) :
    (tasks.set i b).countP holds + (if holds a then 1 else 0) =
      tasks.countP holds + (if holds b then 1 else 0) := by
  obtain ⟨hlt, rfl⟩ := List.getElem?_eq_some_iff.mp h
  rw [(List.set_perm_cons_eraseIdx hlt b).countP_eq,
    ← (List.getElem_cons_eraseIdx_perm hlt).countP_eq, List.countP_cons, List.countP_cons]
  omega

/-- A task that goes on without taking or giving up the resource. -/
theorem Exclusive.keep (hs : Exclusive holds free tasks) (h : tasks[i]? = some a)
    (hsame : holds b = holds a) : Exclusive holds free (tasks.set i b) := by
  have hset := countP_set holds h b
  unfold Exclusive at *
  rw [hsame] at hset
  omega

theorem Exclusive.take (hs : Exclusive holds true tasks) (h : tasks[i]? = some a)
    (ha : holds a = false) (hb : holds b = true) : Exclusive holds false (tasks.set i b) := by
  have hset := countP_set holds h b
  unfold Exclusive at *
  simp only [ha, hb, Bool.false_eq_true, if_false, if_true] at *
  omega

theorem Exclusive.give (hs : Exclusive holds free tasks) (h : tasks[i]? = some a)
    (ha : holds a = true) (hb : holds b = false) : Exclusive holds true (tasks.set i b) := by
  have hpos : 0 < tasks.countP holds := List.countP_pos_iff.mpr ⟨a, List.mem_of_getElem? h, ha⟩
  have hset := countP_set holds h b
  unfold Exclusive at *
  simp only [ha, hb, Bool.false_eq_true, if_false, if_true] at *
  omega

theorem Exclusive.append (hs : Exclusive holds free tasks) (ha : holds a = false) :
    Exclusive holds free (tasks ++ [a]) := by
  unfold Exclusive at *
  rw [List.countP_append, List.countP_singleton, ha]
  exact hs

theorem Exclusive.taken (hs : Exclusive holds free tasks) (h : tasks[i]? = some a)
    (ha : holds a = true) : free = false := by
  have hpos : 0 < tasks.countP holds := List.countP_pos_iff.mpr ⟨a, List.mem_of_getElem? h, ha⟩
  cases free with
  | false => rfl
  | true =>
    unfold Exclusive at hs
    rw [if_pos rfl] at hs
    omega

theorem Exclusive.unique (hs : Exclusive holds free tasks) (hi : tasks[i]? = some a)
    (hj : tasks[j]? = some b) (ha : holds a = true) (hb : holds b = true) : i = j := by
  by_contra hne
  have hlt := (List.getElem?_eq_some_iff.mp hi).1
  obtain ⟨hltj, rfl⟩ := List.getElem?_eq_some_iff.mp hj
  have herase : tasks.countP holds = (tasks.eraseIdx i).countP holds + 1 := by
    rw [← (List.getElem_cons_eraseIdx_perm hlt).countP_eq, List.countP_cons,
      (List.getElem?_eq_some_iff.mp hi).2, ha]
    rfl
  have hmem : tasks[j] ∈ tasks.eraseIdx i := by
    rw [List.mem_eraseIdx_iff_getElem]
    exact ⟨j, hltj, fun h => hne h.symm, rfl⟩
  have hpos := List.countP_pos_iff.mpr ⟨_, hmem, hb⟩
  unfold Exclusive at hs
  omega

/-- A resource that is not free has a holder. -/
theorem Exclusive.holder (hs : Exclusive holds false tasks) :
    ∃ (i : ℕ) (a : α), tasks[i]? = some a ∧ holds a = true := by
  have hpos : 0 < tasks.countP holds := by
    unfold Exclusive at hs
    simp only [Bool.false_eq_true, if_false] at hs
    omega
  obtain ⟨a, hmem, ha⟩ := List.countP_pos_iff.mp hpos
  obtain ⟨i, hi⟩ := List.getElem?_of_mem hmem
  exact ⟨i, a, hi, ha⟩

end Exclusive

/-- Events at a distance of at least `gap`, in order. -/
def Spaced (gap : ℕ) (times : List ℕ) : Prop := times.Pairwise (fun a b => a + gap ≤ b)

section Spaced
variable {gap lo hi : ℕ} {times : List ℕ}

theorem Spaced.snoc {t : ℕ} (h : Spaced gap times) (hlast : ∀ a ∈ times.getLast?, a + gap ≤ t) :
    Spaced gap (times ++ [t]) := by
  unfold Spaced at *
  rw [List.pairwise_append]
  refine ⟨h, List.pairwise_singleton _ _, ?_⟩
  intro a ha b hb
  obtain rfl := List.mem_singleton.mp hb
  rcases List.eq_nil_or_concat' times with rfl | ⟨init, last, rfl⟩
  · cases ha
  · have hend : last + gap ≤ b := hlast last (by simp)
    rcases List.mem_append.mp ha with hinit | hsame
    · have hle := (List.pairwise_append.mp h).2.2 a hinit last List.mem_cons_self
      omega
    · obtain rfl := List.mem_singleton.mp hsame
      exact hend

/-- Between two times there are at most as many events as gaps, and one. -/
theorem Spaced.count (h : Spaced gap times) (hlo : ∀ t ∈ times, lo ≤ t)
    (hhi : ∀ t ∈ times, t ≤ hi) : (times.length - 1) * gap ≤ hi - lo := by
  induction times generalizing lo with
  | nil => simp
  | cons t rest ih =>
    obtain ⟨hfirst, hrest⟩ := List.pairwise_cons.mp h
    have hbound := ih hrest hfirst (fun u hu => hhi u (List.mem_cons_of_mem _ hu))
    have hle := hlo t List.mem_cons_self
    cases rest with
    | nil => simp
    | cons u rest =>
      have hgap := hfirst u List.mem_cons_self
      have hu := hhi u (List.mem_cons_of_mem _ List.mem_cons_self)
      simp only [List.length_cons, Nat.add_sub_cancel] at *
      rw [Nat.add_mul]
      omega

end Spaced

end SolanaArb.General
