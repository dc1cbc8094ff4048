import Mathlib.Data.BitVec
import Mathlib.Data.UInt
import Mathlib.Data.Nat.Digits.Lemmas
import Mathlib.Data.Rat.Floor
import Mathlib.Tactic.Ring

/-! # Machine words, account bytes and float values

Integers keep the widths of the source and wrap on overflow, as the release
profile compiles them. `u64` and `i64` are the fixed-width types of Lean, `u128`
is a 128-bit vector. Values of type `f64` are read as exact rationals: no
rounding, no infinities, no NaN. Casts out of `f64` keep their truncation and
saturation.
-/
namespace SolanaArb

abbrev U128 := BitVec 128
abbrev Bytes := List UInt8

def widen (x : UInt64) : U128 := BitVec.ofNat 128 x.toNat

/-- `x as u64`, dropping the high half. -/
def narrow (x : U128) : UInt64 := UInt64.ofNat x.toNat

def saturatingSub (a b : UInt64) : UInt64 := if b ≤ a then a - b else 0

def maxU64 (a b : UInt64) : UInt64 := if a ≤ b then b else a

/-- `q as u64`: truncated towards zero and clamped into range. -/
def f64ToU64 (q : ℚ) : UInt64 := UInt64.ofNat (min q.floor.toNat (2^64 - 1))

def clamp (q lo hi : ℚ) : ℚ := if q < lo then lo else if hi < q then hi else q

/-- The nearest integer, the even one of two. -/
def roundHalfEven (q : ℚ) : ℤ :=
  let down := q.floor
  if q - down < 1/2 then down
  else if 1/2 < q - down then down + 1
  else if down % 2 = 0 then down else down + 1

/-- `q` printed with this many decimals. -/
def fixedDecimals (digits : ℕ) (q : ℚ) : String :=
  let scaled := (roundHalfEven (|q| * 10^digits)).toNat
  let whole := (if q < 0 then "-" else "") ++ toString (scaled / 10^digits)
  let fraction := toString (scaled % 10^digits)
  if digits = 0 then whole
  else whole ++ "." ++ String.ofList (List.replicate (digits - fraction.length) '0') ++ fraction

example : fixedDecimals 1 (49/4) = "12.2" := by decide +kernel

def leNat (bytes : Bytes) : ℕ := Nat.ofDigits 256 (bytes.map UInt8.toNat)

def slice (data : Bytes) (off len : ℕ) : Bytes := (data.drop off).take len

def readU64 (data : Bytes) (off : ℕ) : UInt64 := UInt64.ofNat (leNat (slice data off 8))
def readU128 (data : Bytes) (off : ℕ) : U128 := BitVec.ofNat 128 (leNat (slice data off 16))

@[simp] theorem widen_toNat (x : UInt64) : (widen x).toNat = x.toNat := by
  have hx := x.toNat_lt
  simp only [widen, BitVec.toNat_ofNat]
  omega

@[simp] theorem narrow_toNat (x : U128) : (narrow x).toNat = x.toNat % 2^64 := by
  simp [narrow]

theorem saturatingSub_toNat (a b : UInt64) : (saturatingSub a b).toNat = a.toNat - b.toNat := by
  unfold saturatingSub
  split
  · next h => exact UInt64.toNat_sub_of_le _ _ h
  · next h =>
    have hlt : a.toNat < b.toNat := UInt64.lt_iff_toNat_lt.mp (UInt64.not_le.mp h)
    have hz : (0 : UInt64).toNat = 0 := rfl
    omega

theorem saturatingSub_le (a b : UInt64) : (saturatingSub a b).toNat ≤ a.toNat := by
  rw [saturatingSub_toNat]
  exact Nat.sub_le _ _

theorem maxU64_toNat (a b : UInt64) : (maxU64 a b).toNat = max a.toNat b.toNat := by
  unfold maxU64
  split
  · next h => exact (Nat.max_eq_right (UInt64.le_iff_toNat_le.mp h)).symm
  · next h =>
    have hlt : b.toNat < a.toNat := UInt64.lt_iff_toNat_lt.mp (UInt64.not_le.mp h)
    exact (Nat.max_eq_left hlt.le).symm

theorem u64_pos {x : UInt64} : 0 < x ↔ 0 < x.toNat := UInt64.lt_iff_toNat_lt

theorem u64_eq_zero {x : UInt64} : x = 0 ↔ x.toNat = 0 := UInt64.toNat_inj.symm

theorem u64_ne_zero {x : UInt64} : x ≠ 0 ↔ 0 < x.toNat := by
  rw [ne_eq, u64_eq_zero, Nat.pos_iff_ne_zero]

theorem toInt64_toInt {x : UInt64} (h : x.toNat < 2^63) : x.toInt64.toInt = x.toNat := by
  change x.toBitVec.toInt = x.toBitVec.toNat
  exact BitVec.toInt_eq_toNat_of_lt (by change 2 * x.toNat < 2^64; omega)

theorem int64_sub_toInt {a b : Int64} (hlo : -2^63 ≤ a.toInt - b.toInt)
    (hhi : a.toInt - b.toInt < 2^63) : (a - b).toInt = a.toInt - b.toInt := by
  rw [Int64.toInt_sub]
  exact Int.bmod_eq_of_le (by omega) (by omega)

theorem f64ToU64_toNat {q : ℚ} (h : q < 2^64) : (f64ToU64 q).toNat = q.floor.toNat := by
  have hfl : q.floor < 2^64 := by
    have hle : ((q.floor : ℤ) : ℚ) ≤ q := Int.floor_le q
    have hlt : ((q.floor : ℤ) : ℚ) < ((2^64 : ℤ) : ℚ) := by
      push_cast
      exact lt_of_le_of_lt hle h
    exact_mod_cast hlt
  simp only [f64ToU64, UInt64.toNat_ofNat']
  omega

theorem f64ToU64_bounds (q : ℚ) (lo hi : ℕ) (hlo : (lo : ℚ) ≤ q) (hhi : q ≤ hi)
    (h : hi < 2^64) : lo ≤ (f64ToU64 q).toNat ∧ (f64ToU64 q).toNat ≤ hi := by
  have hlt : q < 2^64 := lt_of_le_of_lt hhi (by exact_mod_cast h)
  have hfloor_le : q.floor ≤ (hi : ℤ) := by
    have hle := (Int.floor_le q).trans hhi
    exact_mod_cast hle
  have hfloor_ge : (lo : ℤ) ≤ q.floor := Int.le_floor.mpr (by exact_mod_cast hlo)
  rw [f64ToU64_toNat hlt]
  omega

theorem clamp_bounds {lo hi : ℚ} (q : ℚ) (h : lo ≤ hi) :
    lo ≤ clamp q lo hi ∧ clamp q lo hi ≤ hi := by
  unfold clamp
  split
  · exact ⟨le_rfl, h⟩
  · next hlo =>
    split
    · exact ⟨h, le_rfl⟩
    · next hhi => exact ⟨not_lt.mp hlo, not_lt.mp hhi⟩

end SolanaArb
