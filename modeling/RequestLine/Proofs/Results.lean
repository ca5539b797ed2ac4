import Mathlib.Data.List.Basic

/-!
# Results of stages

A stage that is followed by another gives the result of the second or the error of either.
-/

namespace RequestLine

theorem bind_eq_ok {ε α β : Type} {x : Except ε α} {f : α → Except ε β} {b : β} :
    x >>= f = .ok b ↔ ∃ a, x = .ok a ∧ f a = .ok b := by
  constructor
  · intro h
    cases x with
    | error e => cases h
    | ok a => exact ⟨a, rfl, h⟩
  · rintro ⟨a, rfl, h⟩
    exact h

theorem bind_eq_error {ε α β : Type} {x : Except ε α} {f : α → Except ε β} {e : ε} :
    x >>= f = .error e ↔ x = .error e ∨ ∃ a, x = .ok a ∧ f a = .error e := by
  cases x with
  | error e' =>
    have hbind : (.error e' : Except ε α) >>= f = .error e' := rfl
    simp [hbind]
  | ok a =>
    have hbind : (.ok a : Except ε α) >>= f = f a := rfl
    simp [hbind]

theorem throw_bind {ε α β : Type} (e : ε) (f : α → Except ε β) :
    (throw e : Except ε α) >>= f = .error e := rfl

end RequestLine
