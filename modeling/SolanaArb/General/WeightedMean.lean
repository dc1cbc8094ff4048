import SolanaArb.General.BestFold
import Mathlib.Algebra.BigOperators.Group.List.Basic
import Mathlib.Algebra.Order.Field.Basic
import Mathlib.Tactic.Ring

/-! # Weighted means that skip entries

A loop accumulates value times weight, and weight, over the entries whose value and
weight are both positive. The two sums are those of the counted entries in any order,
their quotient lies between the least and the greatest value counted, and a common
factor of the weights cancels.
-/
namespace SolanaArb.General
variable {α K : Type*} [Field K] [LinearOrder K] (value weight : α → K)

/-- An entry enters the mean when its value and its weight are positive. -/
def Counts (x : α) : Prop := 0 < value x ∧ 0 < weight x

instance (x : α) : Decidable (Counts value weight x) := inferInstanceAs (Decidable (_ ∧ _))

def weigh (acc : K × K) (x : α) : K × K :=
  if Counts value weight x then (acc.1 + value x * weight x, acc.2 + weight x) else acc

def counted (l : List α) : List α := l.filter (fun x => decide (Counts value weight x))

def weightedSum (l : List α) : K := (l.map (fun x => value x * weight x)).sum

def totalWeight (l : List α) : K := (l.map weight).sum

def weightedMean (l : List α) : K := weightedSum value weight l / totalWeight weight l

variable {value weight} {value' : α → K} {l l' : List α} {x : α}

theorem mem_counted : x ∈ counted value weight l ↔ x ∈ l ∧ Counts value weight x := by
  simp [counted]

theorem counted_cons (x : α) (l : List α) : counted value weight (x :: l) =
    if Counts value weight x then x :: counted value weight l else counted value weight l := by
  unfold counted
  rw [List.filter_cons]
  simp only [decide_eq_true_eq]

omit [LinearOrder K] in
theorem weightedSum_cons (x : α) (l : List α) :
    weightedSum value weight (x :: l) = value x * weight x + weightedSum value weight l := by
  rw [weightedSum, List.map_cons, List.sum_cons, weightedSum]

omit [LinearOrder K] in
theorem totalWeight_cons (x : α) (l : List α) :
    totalWeight weight (x :: l) = weight x + totalWeight weight l := by
  rw [totalWeight, List.map_cons, List.sum_cons, totalWeight]

/-- The loop adds up the counted entries. -/
theorem foldl_weigh (l : List α) (acc : K × K) :
    l.foldl (weigh value weight) acc =
      (acc.1 + weightedSum value weight (counted value weight l),
        acc.2 + totalWeight weight (counted value weight l)) := by
  induction l generalizing acc with
  | nil => simp [counted, weightedSum, totalWeight]
  | cons x l ih =>
    rw [List.foldl_cons, ih, counted_cons, weigh]
    by_cases hx : Counts value weight x
    · simp only [if_pos hx, weightedSum_cons, totalWeight_cons, add_assoc]
    · simp only [if_neg hx]

omit [LinearOrder K] in
theorem weightedMean_perm (h : l.Perm l') :
    weightedMean value weight l = weightedMean value weight l' := by
  rw [weightedMean, weightedSum, totalWeight, (h.map _).sum_eq, (h.map _).sum_eq]
  rfl

theorem counted_perm (h : l.Perm l') :
    (counted value weight l).Perm (counted value weight l') := h.filter _

section Order
variable [IsStrictOrderedRing K]

theorem totalWeight_pos (hpos : ∀ x ∈ l, 0 < weight x) (hne : l ≠ []) :
    0 < totalWeight weight l := by
  induction l with
  | nil => exact absurd rfl hne
  | cons x l ih =>
    rw [totalWeight_cons]
    have hx := hpos x List.mem_cons_self
    rcases eq_or_ne l [] with rfl | hl
    · simpa [totalWeight] using hx
    · exact add_pos hx (ih (fun y hy => hpos y (List.mem_cons_of_mem x hy)) hl)

theorem weightedSum_mono (hpos : ∀ x ∈ l, 0 < weight x) (hle : ∀ x ∈ l, value x ≤ value' x) :
    weightedSum value weight l ≤ weightedSum value' weight l := by
  induction l with
  | nil => exact le_rfl
  | cons x l ih =>
    rw [weightedSum_cons, weightedSum_cons]
    have hx : value x * weight x ≤ value' x * weight x :=
      mul_le_mul_of_nonneg_right (hle x List.mem_cons_self) (hpos x List.mem_cons_self).le
    exact add_le_add hx (ih (fun y hy => hpos y (List.mem_cons_of_mem x hy))
      (fun y hy => hle y (List.mem_cons_of_mem x hy)))

omit [LinearOrder K] [IsStrictOrderedRing K] in
theorem weightedSum_const (c : K) (l : List α) :
    weightedSum (fun _ => c) weight l = c * totalWeight weight l := by
  induction l with
  | nil => simp [weightedSum, totalWeight]
  | cons x l ih => rw [weightedSum_cons, totalWeight_cons, ih, mul_add]

theorem weightedMean_le {hi : K} (hpos : ∀ x ∈ l, 0 < weight x) (hne : l ≠ [])
    (hle : ∀ x ∈ l, value x ≤ hi) : weightedMean value weight l ≤ hi := by
  rw [weightedMean, div_le_iff₀ (totalWeight_pos hpos hne), ← weightedSum_const]
  exact weightedSum_mono hpos hle

theorem le_weightedMean {lo : K} (hpos : ∀ x ∈ l, 0 < weight x) (hne : l ≠ [])
    (hle : ∀ x ∈ l, lo ≤ value x) : lo ≤ weightedMean value weight l := by
  rw [weightedMean, le_div_iff₀ (totalWeight_pos hpos hne), ← weightedSum_const]
  exact weightedSum_mono hpos hle

/-- The mean lies between two values of the list. -/
theorem weightedMean_between (hpos : ∀ x ∈ l, 0 < weight x) (hne : l ≠ []) :
    (∃ x ∈ l, value x ≤ weightedMean value weight l) ∧
      ∃ x ∈ l, weightedMean value weight l ≤ value x := by
  constructor
  · cases hbest : bestOf (fun x => -value x) l with
    | none => exact absurd ((bestOf_eq_none_iff _).mp hbest) hne
    | some least =>
      refine ⟨least, bestOf_mem _ hbest, le_weightedMean hpos hne ?_⟩
      intro x hx
      exact neg_le_neg_iff.mp (bestOf_max _ hbest x hx)
  · cases hbest : bestOf value l with
    | none => exact absurd ((bestOf_eq_none_iff _).mp hbest) hne
    | some greatest =>
      exact ⟨greatest, bestOf_mem _ hbest, weightedMean_le hpos hne (bestOf_max _ hbest)⟩

theorem weightedMean_pos (hpos : ∀ x ∈ l, Counts value weight x) (hne : l ≠ []) :
    0 < weightedMean value weight l := by
  have hweight : ∀ x ∈ l, 0 < weight x := fun x hx => (hpos x hx).2
  have hlow : ∃ x ∈ l, value x ≤ weightedMean value weight l := (weightedMean_between hweight hne).1
  obtain ⟨x, hx, hle⟩ := hlow
  exact lt_of_lt_of_le (hpos x hx).1 hle

end Order

/-! ## Scaled weights -/

section Scale
variable {β : Type*} {f : α → β} {value₂ weight₂ : β → K} {k : K}

/-- Entries renamed by `f`, their values kept and their weights scaled. -/
structure Scales (f : α → β) (k : K) (value weight : α → K) (value₂ weight₂ : β → K) : Prop where
  value_eq : ∀ x, value₂ (f x) = value x
  weight_eq : ∀ x, weight₂ (f x) = k * weight x

omit [LinearOrder K] in
theorem Scales.weightedSum_map (h : Scales f k value weight value₂ weight₂) (l : List α) :
    weightedSum value₂ weight₂ (l.map f) = k * weightedSum value weight l := by
  induction l with
  | nil => simp [weightedSum]
  | cons x l ih =>
    rw [List.map_cons, weightedSum_cons, weightedSum_cons, ih, h.value_eq, h.weight_eq]
    ring

omit [LinearOrder K] in
theorem Scales.totalWeight_map (h : Scales f k value weight value₂ weight₂) (l : List α) :
    totalWeight weight₂ (l.map f) = k * totalWeight weight l := by
  induction l with
  | nil => simp [totalWeight]
  | cons x l ih =>
    rw [List.map_cons, totalWeight_cons, totalWeight_cons, ih, h.weight_eq, mul_add]

omit [LinearOrder K] in
theorem Scales.weightedMean_map (h : Scales f k value weight value₂ weight₂) (hk : k ≠ 0) :
    weightedMean value₂ weight₂ (l.map f) = weightedMean value weight l := by
  rw [weightedMean, h.weightedSum_map, h.totalWeight_map, mul_div_mul_left _ _ hk, weightedMean]

theorem Scales.counted_map [IsStrictOrderedRing K] (h : Scales f k value weight value₂ weight₂)
    (hk : 0 < k) : counted value₂ weight₂ (l.map f) = (counted value weight l).map f := by
  have hcounts : ∀ x, Counts value₂ weight₂ (f x) ↔ Counts value weight x := by
    intro x
    rw [Counts, h.value_eq, h.weight_eq, mul_pos_iff_of_pos_left hk, Counts]
  unfold counted
  rw [List.filter_map]
  congr 2
  funext x
  simp only [Function.comp_apply, hcounts]

end Scale

end SolanaArb.General
