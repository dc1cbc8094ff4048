import Mathlib.Tactic.Ring
import Mathlib.Tactic.Linarith

/-! # Floored constant-product exchange over the natural numbers

A pool holding `x` of the asset paid in and `y` of the asset paid out keeps the
fraction `f / b` of an input `a` for pricing and pays the floor of the constant
product formula. All bounds below are on the floored output itself; no real
relaxation is used.
-/
namespace SolanaArb.General

/-- Output of a floored constant-product exchange with fee factor `f / b`. -/
def cpOut (b f x y a : ℕ) : ℕ := a * f * y / (x * b + a * f)

variable {b f x y a : ℕ}

@[simp] theorem cpOut_zero_input (b f x y : ℕ) : cpOut b f x y 0 = 0 := by simp [cpOut]
@[simp] theorem cpOut_zero_out (b f x a : ℕ) : cpOut b f x 0 a = 0 := by simp [cpOut]

theorem cpOut_mul_le (b f x y a : ℕ) : cpOut b f x y a * (x * b + a * f) ≤ a * f * y :=
  Nat.div_mul_le_self _ _

theorem cpOut_lt (hb : 0 < b) (hx : 0 < x) (hy : 0 < y) : cpOut b f x y a < y := by
  have hxb : 0 < x * b := Nat.mul_pos hx hb
  apply Nat.div_lt_of_lt_mul
  rw [Nat.add_mul]
  have hpos : 0 < x * b * y := Nat.mul_pos hxb hy
  omega

theorem cpOut_le (hb : 0 < b) (hx : 0 < x) : cpOut b f x y a ≤ y := by
  rcases Nat.eq_zero_or_pos y with rfl | hy
  · simp
  · exact (cpOut_lt hb hx hy).le

/-- Dropping the fee from the denominator: the output is at most the input
valued by the whole input side, `out * (x + a) ≤ a * y`. -/
theorem cpOut_mul_add_le (hf : f ≤ b) : cpOut b f x y a * (x + a) ≤ a * y := by
  rcases Nat.eq_zero_or_pos f with rfl | hpos
  · simp [cpOut]
  · have hle := cpOut_mul_le b f x y a
    have hxf : cpOut b f x y a * (x * f) ≤ cpOut b f x y a * (x * b) :=
      Nat.mul_le_mul_left _ (Nat.mul_le_mul_left _ hf)
    have hscaled : f * (cpOut b f x y a * (x + a)) ≤ f * (a * y) := by
      calc f * (cpOut b f x y a * (x + a))
          = cpOut b f x y a * (x * f) + cpOut b f x y a * (a * f) := by ring
        _ ≤ cpOut b f x y a * (x * b) + cpOut b f x y a * (a * f) := Nat.add_le_add_right hxf _
        _ = cpOut b f x y a * (x * b + a * f) := by ring
        _ ≤ a * f * y := hle
        _ = f * (a * y) := by ring
    exact Nat.le_of_mul_le_mul_left hscaled hpos

/-- The product of the reserves never falls: fee and rounding stay in the pool. -/
theorem cpOut_product_le (hb : 0 < b) (hf : f ≤ b) (hx : 0 < x) :
    x * y ≤ (x + a) * (y - cpOut b f x y a) := by
  have hout := cpOut_mul_add_le (x := x) (y := y) (a := a) hf
  have hle : cpOut b f x y a ≤ y := cpOut_le hb hx
  rw [Nat.mul_sub, Nat.mul_comm (x + a) (cpOut b f x y a)]
  have hexp : (x + a) * y = x * y + a * y := Nat.add_mul _ _ _
  omega

theorem cpOut_spot_lt (ha : 0 < a) (hf : 0 < f) (ho : 0 < cpOut b f x y a) :
    cpOut b f x y a * (x * b) < a * (f * y) := by
  have hle := cpOut_mul_le b f x y a
  have hextra : 0 < cpOut b f x y a * (a * f) := Nat.mul_pos ho (Nat.mul_pos ha hf)
  rw [Nat.mul_add] at hle
  rw [← Nat.mul_assoc a f y]
  omega

theorem cpOut_mono_amount (hb : 0 < b) (hx : 0 < x) {c : ℕ} (h : a ≤ c) :
    cpOut b f x y a ≤ cpOut b f x y c := by
  have hden : 0 < x * b + c * f := Nat.add_pos_left (Nat.mul_pos hx hb) _
  have hle := cpOut_mul_le b f x y a
  have hout : cpOut b f x y a ≤ y := cpOut_le hb hx
  obtain ⟨d, rfl⟩ := Nat.exists_eq_add_of_le h
  refine (Nat.le_div_iff_mul_le hden).mpr ?_
  calc cpOut b f x y a * (x * b + (a + d) * f)
      = cpOut b f x y a * (x * b + a * f) + cpOut b f x y a * (d * f) := by ring
    _ ≤ a * f * y + y * (d * f) := Nat.add_le_add hle (Nat.mul_le_mul_right _ hout)
    _ = (a + d) * f * y := by ring

theorem cpOut_mono_out {z : ℕ} (h : y ≤ z) : cpOut b f x y a ≤ cpOut b f x z a :=
  Nat.div_le_div_right (Nat.mul_le_mul_left _ h)

theorem cpOut_anti_in (hb : 0 < b) (hx : 0 < x) {z : ℕ} (h : x ≤ z) :
    cpOut b f z y a ≤ cpOut b f x y a := by
  have hden : 0 < x * b + a * f := Nat.add_pos_left (Nat.mul_pos hx hb) _
  exact Nat.div_le_div_left (Nat.add_le_add_right (Nat.mul_le_mul_right b h) _) hden

/-- Two exchanges in a row, the reserves moved on by the whole first input and the
floored first output, never pay more than one exchange of both inputs: what is rounded
off the first is paid out by the second only in part, and the fee of the first stays in
the denominator of the second. -/
theorem cpOut_split_le (hb : 0 < b) (hf : f ≤ b) (hx : 0 < x) (c : ℕ) :
    cpOut b f x y a + cpOut b f (x + a) (y - cpOut b f x y a) c ≤ cpOut b f x y (a + c) := by
  have hden : 0 < x * b + (a + c) * f := Nat.add_pos_left (Nat.mul_pos hx hb) _
  have hfirst := cpOut_mul_le b f x y a
  have hsecond := cpOut_mul_le b f (x + a) (y - cpOut b f x y a) c
  obtain ⟨left, hleft⟩ := Nat.exists_eq_add_of_le (cpOut_le (a := a) (f := f) (y := y) hb hx)
  generalize cpOut b f x y a = o at hfirst hsecond hleft ⊢
  have hrest : y - o = left := by omega
  rw [hrest] at hsecond ⊢
  generalize cpOut b f (x + a) left c = p at hsecond ⊢
  have hkept : x * b + (a + c) * f ≤ (x + a) * b + c * f := by
    have hfee : a * f ≤ a * b := Nat.mul_le_mul_left a hf
    linarith [Nat.add_mul a c f, Nat.add_mul x a b]
  refine (Nat.le_div_iff_mul_le hden).mpr ?_
  calc (o + p) * (x * b + (a + c) * f)
      = o * (x * b + a * f) + o * (c * f) + p * (x * b + (a + c) * f) := by ring
    _ ≤ a * f * y + o * (c * f) + p * ((x + a) * b + c * f) :=
        Nat.add_le_add (Nat.add_le_add_right hfirst _) (Nat.mul_le_mul_left p hkept)
    _ ≤ a * f * y + o * (c * f) + c * f * left := Nat.add_le_add_left hsecond _
    _ = (a + c) * f * y := by rw [hleft]; ring

/-- Without a fee the output stays within `r` exactly when taking `r + 1` out would
lower the product of the reserves. -/
theorem cpOut_le_iff (hb : 0 < b) (hx : 0 < x) (hy : 0 < y) (r : ℕ) :
    cpOut b b x y a ≤ r ↔ (x + a) * (y - (r + 1)) < x * y := by
  have hcross : cpOut b b x y a ≤ r ↔ a * y < (r + 1) * (x + a) := by
    have hden : 0 < x * b + a * b := Nat.add_pos_left (Nat.mul_pos hx hb) _
    rw [← Nat.lt_succ_iff, cpOut, Nat.div_lt_iff_lt_mul hden]
    have hl : a * b * y = b * (a * y) := by ring
    have hr : r.succ * (x * b + a * b) = b * ((r + 1) * (x + a)) := by
      rw [Nat.succ_eq_add_one]; ring
    rw [hl, hr]
    exact Nat.mul_lt_mul_left hb
  rw [hcross, Nat.mul_sub]
  have hxy : 0 < x * y := Nat.mul_pos hx hy
  have hexp : (x + a) * y = x * y + a * y := Nat.add_mul _ _ _
  rw [Nat.mul_comm (r + 1), hexp]
  omega

/-- Two exchanges in a row. The first turns `a` into `o` strictly below the rate
`p / q`, the second turns `o` into `s` at most at the rate `r / t`. If the two
rates multiply to at most one, the round trip loses. -/
theorem two_legs_lt {a o s p q r t : ℕ} (ht : 0 < t) (hfirst : o * q < a * p)
    (hsecond : s * t ≤ o * r) (hrates : p * r ≤ q * t) : s < a := by
  have ha : 0 < a := by
    rcases Nat.eq_zero_or_pos a with rfl | h
    · simp at hfirst
    · exact h
  rcases Nat.eq_zero_or_pos r with rfl | hr
  · have hs : s * t ≤ 0 := by simpa using hsecond
    have hs0 : s = 0 := by
      rcases Nat.mul_eq_zero.mp (Nat.le_zero.mp hs) with h | h
      · exact h
      · omega
    omega
  · have hstrict : s * (q * t) < a * (q * t) := by
      calc s * (q * t) = (s * t) * q := by ring
        _ ≤ (o * r) * q := Nat.mul_le_mul_right _ hsecond
        _ = (o * q) * r := by ring
        _ < (a * p) * r := Nat.mul_lt_mul_of_pos_right hfirst hr
        _ = a * (p * r) := by ring
        _ ≤ a * (q * t) := Nat.mul_le_mul_left _ hrates
    exact Nat.lt_of_mul_lt_mul_right hstrict

end SolanaArb.General
