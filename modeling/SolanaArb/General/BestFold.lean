import Mathlib.Order.Lattice
import Mathlib.Data.List.Basic

/-! # Running maxima and searches with an early exit

A loop that keeps the best element seen so far, replacing it only when strictly
beaten, returns a maximum of the list it ran over. A loop that in addition leaves
at the first element of a kind returns that element, or else the same maximum.
-/
namespace SolanaArb.General
variable {α β : Type*} [LinearOrder β] (key : α → β)

/-- The incumbent stays unless the new element is strictly better. -/
def bestStep (best : Option α) (x : α) : Option α :=
  match best with
  | none => some x
  | some y => if key y < key x then some x else some y

def bestOf (l : List α) : Option α := l.foldl (bestStep key) none

theorem foldl_bestStep_some (y : α) (l : List α) :
    ∃ z, l.foldl (bestStep key) (some y) = some z ∧ (z = y ∨ z ∈ l) ∧
      key y ≤ key z ∧ ∀ x ∈ l, key x ≤ key z := by
  induction l generalizing y with
  | nil => exact ⟨y, rfl, Or.inl rfl, le_rfl, by simp⟩
  | cons x l ih =>
    by_cases hlt : key y < key x
    · obtain ⟨z, hz, hmem, hle, hmax⟩ := ih x
      refine ⟨z, by simpa [bestStep, hlt] using hz, ?_, hlt.le.trans hle, ?_⟩
      · rcases hmem with rfl | hmem
        · exact Or.inr List.mem_cons_self
        · exact Or.inr (List.mem_cons_of_mem _ hmem)
      · intro w hw
        rcases List.mem_cons.mp hw with rfl | hw
        · exact hle
        · exact hmax w hw
    · obtain ⟨z, hz, hmem, hle, hmax⟩ := ih y
      refine ⟨z, by simpa [bestStep, hlt] using hz, ?_, hle, ?_⟩
      · exact hmem.imp_right (List.mem_cons_of_mem _)
      · intro w hw
        rcases List.mem_cons.mp hw with rfl | hw
        · exact (not_lt.mp hlt).trans hle
        · exact hmax w hw

theorem bestOf_cons (x : α) (l : List α) :
    bestOf key (x :: l) = l.foldl (bestStep key) (some x) := rfl

theorem bestOf_eq_none_iff {l : List α} : bestOf key l = none ↔ l = [] := by
  cases l with
  | nil => simp [bestOf]
  | cons x l =>
    obtain ⟨z, hz, _⟩ := foldl_bestStep_some key x l
    simp [bestOf_cons, hz]

theorem bestOf_mem {l : List α} {z : α} (h : bestOf key l = some z) : z ∈ l := by
  cases l with
  | nil => simp [bestOf] at h
  | cons x l =>
    obtain ⟨w, hw, hmem, _⟩ := foldl_bestStep_some key x l
    rw [bestOf_cons, hw, Option.some.injEq] at h
    subst h
    exact List.mem_cons.mpr hmem

theorem bestOf_max {l : List α} {z : α} (h : bestOf key l = some z) :
    ∀ x ∈ l, key x ≤ key z := by
  cases l with
  | nil => simp
  | cons x l =>
    obtain ⟨w, hw, _, hle, hmax⟩ := foldl_bestStep_some key x l
    rw [bestOf_cons, hw, Option.some.injEq] at h
    subst h
    exact List.forall_mem_cons.mpr ⟨hle, hmax⟩

theorem bestOf_of_first_max {x : α} {l : List α} (h : ∀ y ∈ l, key y ≤ key x) :
    bestOf key (x :: l) = some x := by
  rw [bestOf_cons]
  induction l with
  | nil => rfl
  | cons y l ih =>
    have hy : ¬ key x < key y := not_lt.mpr (h y List.mem_cons_self)
    have htail := ih (fun z hz => h z (List.mem_cons_of_mem _ hz))
    rw [List.foldl_cons, bestStep, if_neg hy]
    exact htail

theorem bestOf_of_second_max {x y : α} {l : List α} (hlt : key x < key y)
    (h : ∀ z ∈ l, key z ≤ key y) : bestOf key (x :: y :: l) = some y := by
  have hstep : bestOf key (x :: y :: l) = bestOf key (y :: l) := by
    rw [bestOf_cons, List.foldl_cons, bestStep, if_pos hlt, bestOf_cons]
  rw [hstep]
  exact bestOf_of_first_max key h

/-- An element that strictly beats every other is the one kept, wherever it stands. -/
theorem bestOf_of_strict_max {z : α} {l : List α} (hz : z ∈ l)
    (h : ∀ x ∈ l, x ≠ z → key x < key z) : bestOf key l = some z := by
  cases hbest : bestOf key l with
  | none =>
    rw [(bestOf_eq_none_iff key).mp hbest] at hz
    cases hz
  | some w =>
    by_contra hne
    have hlt := h w (bestOf_mem key hbest) fun heq => hne (congrArg some heq)
    exact absurd (bestOf_max key hbest z hz) (not_le.mpr hlt)

/-- A step that leaves the loop, through `Except.error`, at the first `stop`. -/
def exitStep (stop : α → Bool) (best : Option α) (x : α) : Except α (Option α) :=
  if stop x then .error x else .ok (bestStep key best x)

/-- A search with an early exit finds the first `stop`, or else the maximum. -/
theorem foldlM_exitStep (stop : α → Bool) (l : List α) (best : Option α) :
    l.foldlM (exitStep key stop) best =
      match l.find? stop with
      | some x => .error x
      | none => .ok (l.foldl (bestStep key) best) := by
  induction l generalizing best with
  | nil => rfl
  | cons x l ih =>
    by_cases hx : stop x
    · simp only [List.foldlM_cons, exitStep, hx, if_true, List.find?_cons_of_pos]
      rfl
    · simp only [List.foldlM_cons, exitStep, hx, List.find?_cons_of_neg hx, List.foldl_cons]
      exact ih _

/-- A nested monadic loop is one loop over the concatenated inner lists. -/
theorem foldlM_flatMap {m : Type* → Type*} [Monad m] [LawfulMonad m] {γ δ : Type*} {σ}
    (step : σ → δ → m σ) (inner : γ → List δ) (l : List γ) (s : σ) :
    (l.flatMap inner).foldlM step s = l.foldlM (fun s x => (inner x).foldlM step s) s := by
  induction l generalizing s with
  | nil => rfl
  | cons x l ih => simp only [List.flatMap_cons, List.foldlM_append, List.foldlM_cons, ih]

end SolanaArb.General
