import Mathlib.Data.List.AList

/-! # Fallible computations up to their error

Two computations that fail with different texts are compared through
`Except.toOption`, which keeps the value and forgets the error.
-/
namespace SolanaArb.General
variable {ε α β : Type*}

def okOr (opt : Option α) (e : ε) : Except ε α :=
  match opt with
  | some a => .ok a
  | none => .error e

@[simp] theorem okOr_some (a : α) (e : ε) : okOr (some a) e = .ok a := rfl
@[simp] theorem okOr_none (e : ε) : okOr (none : Option α) e = .error e := rfl

@[simp] theorem toOption_ok (a : α) : (Except.ok a : Except ε α).toOption = some a := rfl
@[simp] theorem toOption_error (e : ε) : (Except.error e : Except ε α).toOption = none := rfl

@[simp] theorem toOption_okOr (opt : Option α) (e : ε) : (okOr opt e).toOption = opt := by
  cases opt <;> rfl

theorem okOr_eq_ok {opt : Option α} {e : ε} {a : α} : okOr opt e = .ok a ↔ opt = some a := by
  cases opt <;> simp

theorem toOption_eq_some {x : Except ε α} {a : α} : x.toOption = some a ↔ x = .ok a := by
  cases x <;> simp

theorem toOption_eq_iff {x y : Except ε α} : x.toOption = y.toOption ↔
    ((∃ a, y = .ok a) ↔ ∃ a, x = .ok a) ∧ ∀ a b, x = .ok a → y = .ok b → a = b := by
  cases x <;> cases y <;> simp

theorem bind_eq_ok {ε α β : Type} {x : Except ε α} {f : α → Except ε β} {b : β} :
    x >>= f = .ok b ↔ ∃ a, x = .ok a ∧ f a = .ok b := by
  cases x <;> simp [bind, Except.bind]

theorem toOption_bind {ε α β : Type} (x : Except ε α) (f : α → Except ε β) :
    (x >>= f).toOption = x.toOption.bind (fun a => (f a).toOption) := by
  cases x <;> rfl

end SolanaArb.General
