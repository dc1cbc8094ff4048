import Mathlib.Data.List.Nodup
import Mathlib.Data.List.Basic

/-! # The first element of every key

One pass that keeps an element when its key has not been seen before. The kept
elements are exactly the first occurrences, in order, with distinct keys.
-/
namespace SolanaArb.General
variable {α κ : Type*} [DecidableEq κ] (key : α → κ)

def firstBy : List κ → List α → List α
  | _, [] => []
  | seen, x :: xs => if key x ∈ seen then firstBy seen xs else x :: firstBy (key x :: seen) xs

omit [DecidableEq κ] in
theorem first_cons_iff {z x : α} {zs : List α} :
    (∃ before after, z :: zs = before ++ x :: after ∧ ∀ y ∈ before, key y ≠ key x) ↔
      x = z ∨ key z ≠ key x ∧
        ∃ before after, zs = before ++ x :: after ∧ ∀ y ∈ before, key y ≠ key x := by
  constructor
  · rintro ⟨before, after, heq, hb⟩
    cases before with
    | nil => exact Or.inl (List.cons.inj heq).1.symm
    | cons w before =>
      obtain ⟨rfl, rfl⟩ := List.cons.inj heq
      refine Or.inr ⟨hb z List.mem_cons_self, before, after, rfl, ?_⟩
      intro y hy
      exact hb y (List.mem_cons_of_mem _ hy)
  · rintro (rfl | ⟨hne, before, after, rfl, hb⟩)
    · exact ⟨[], zs, rfl, by simp⟩
    · refine ⟨z :: before, after, rfl, ?_⟩
      intro y hy
      rcases List.mem_cons.mp hy with rfl | hy
      · exact hne
      · exact hb y hy

/-- The kept elements are the first occurrences of the unseen keys. -/
theorem mem_firstBy {seen : List κ} {l : List α} {x : α} : x ∈ firstBy key seen l ↔
    key x ∉ seen ∧ ∃ before after, l = before ++ x :: after ∧ ∀ y ∈ before, key y ≠ key x := by
  induction l generalizing seen with
  | nil => simp [firstBy]
  | cons z zs ih =>
    rw [first_cons_iff]
    unfold firstBy
    split
    · next hz =>
      rw [ih]
      constructor
      · rintro ⟨hx, hfirst⟩
        exact ⟨hx, Or.inr ⟨fun h => hx (h ▸ hz), hfirst⟩⟩
      · rintro ⟨hx, rfl | ⟨_, hfirst⟩⟩
        · exact absurd hz hx
        · exact ⟨hx, hfirst⟩
    · next hz =>
      rw [List.mem_cons, ih, List.mem_cons, not_or]
      constructor
      · rintro (rfl | ⟨⟨hne, hx⟩, hfirst⟩)
        · exact ⟨hz, Or.inl rfl⟩
        · exact ⟨hx, Or.inr ⟨Ne.symm hne, hfirst⟩⟩
      · rintro ⟨hx, rfl | ⟨hne, hfirst⟩⟩
        · exact Or.inl rfl
        · exact Or.inr ⟨⟨Ne.symm hne, hx⟩, hfirst⟩

theorem exists_mem_firstBy {seen : List κ} {l : List α} {x : α} (hx : x ∈ l)
    (hseen : key x ∉ seen) : ∃ y ∈ firstBy key seen l, key y = key x := by
  induction l generalizing seen with
  | nil => exact absurd hx List.not_mem_nil
  | cons z zs ih =>
    unfold firstBy
    by_cases hzx : key z = key x
    · rw [if_neg (hzx ▸ hseen)]
      exact ⟨z, List.mem_cons_self, hzx⟩
    · have htail : x ∈ zs := by
        rcases List.mem_cons.mp hx with rfl | htail
        · exact absurd rfl hzx
        · exact htail
      split
      · exact ih htail hseen
      · have hseen' : key x ∉ key z :: seen := by
          rw [List.mem_cons, not_or]
          exact ⟨fun h => hzx h.symm, hseen⟩
        obtain ⟨y, hy, hkey⟩ := ih htail hseen'
        exact ⟨y, List.mem_cons_of_mem _ hy, hkey⟩

theorem firstBy_keys_nodup (seen : List κ) (l : List α) :
    ((firstBy key seen l).map key).Nodup := by
  induction l generalizing seen with
  | nil => exact List.nodup_nil
  | cons x xs ih =>
    unfold firstBy
    split
    · exact ih seen
    · refine List.nodup_cons.mpr ⟨?_, ih _⟩
      intro h
      obtain ⟨y, hy, hkey⟩ := List.mem_map.mp h
      exact ((mem_firstBy key).mp hy).1 (hkey ▸ List.mem_cons_self)

theorem firstBy_sublist (seen : List κ) (l : List α) : (firstBy key seen l).Sublist l := by
  induction l generalizing seen with
  | nil => exact List.Sublist.refl []
  | cons x xs ih =>
    unfold firstBy
    split
    · exact (ih seen).cons x
    · exact (ih _).cons_cons x

theorem firstBy_eq_self {seen : List κ} {l : List α} (hnodup : (l.map key).Nodup)
    (hseen : ∀ x ∈ l, key x ∉ seen) : firstBy key seen l = l := by
  induction l generalizing seen with
  | nil => rfl
  | cons x xs ih =>
    rw [List.map_cons, List.nodup_cons] at hnodup
    rw [firstBy, if_neg (hseen x List.mem_cons_self), ih hnodup.2]
    intro y hy
    rw [List.mem_cons, not_or]
    exact ⟨fun h => hnodup.1 (h ▸ List.mem_map_of_mem hy), hseen y (List.mem_cons_of_mem x hy)⟩

theorem firstBy_idem (l : List α) : firstBy key [] (firstBy key [] l) = firstBy key [] l :=
  firstBy_eq_self key (firstBy_keys_nodup key [] l) (fun _ _ => List.not_mem_nil)

theorem firstBy_map {β : Type*} (f : β → α) (seen : List κ) (l : List β) :
    firstBy key seen (l.map f) = (firstBy (fun x => key (f x)) seen l).map f := by
  induction l generalizing seen with
  | nil => rfl
  | cons x xs ih =>
    rw [List.map_cons, firstBy, firstBy]
    split
    · exact ih seen
    · rw [List.map_cons, ih]

/-- In a list ordered by `R`, the first element of a key stands in `R` to the others. -/
theorem firstBy_first {R : α → α → Prop} {l : List α} (hl : l.Pairwise R) {x y : α}
    (hx : x ∈ firstBy key [] l) (hy : y ∈ l) (hkey : key y = key x) : y = x ∨ R x y := by
  obtain ⟨_, before, after, rfl, hbefore⟩ := (mem_firstBy key).mp hx
  rcases List.mem_append.mp hy with hy | hy
  · exact absurd hkey (hbefore y hy)
  · rcases List.mem_cons.mp hy with rfl | hy
    · exact Or.inl rfl
    · have hafter := (List.pairwise_append.mp hl).2.1
      exact Or.inr (List.rel_of_pairwise_cons hafter hy)

theorem find?_key_of_nodup {l : List α} (h : (l.map key).Nodup) {x : α} (hx : x ∈ l) :
    l.find? (fun y => key y = key x) = some x := by
  induction l with
  | nil => simp at hx
  | cons z zs ih =>
    rw [List.map_cons, List.nodup_cons] at h
    rcases List.mem_cons.mp hx with rfl | hx
    · simp
    · have hne : key z ≠ key x := fun he => h.1 (he ▸ List.mem_map_of_mem hx)
      rw [List.find?_cons_of_neg (by simpa using hne)]
      exact ih h.2 hx

end SolanaArb.General
