/-
Computations that go on until something refuses them.

Checks are made one after another, and the first that fails is reported. Such a computation succeeds
exactly if each of its steps does, so what its checks come to can be read off it step by step.
-/
import LinkTap.Error

set_option autoImplicit false

namespace LinkTap

variable {α β : Type}

/-- A step succeeds, and the next one succeeds with its result. -/
theorem bind_eq_ok_iff {x : Except Error α} {next : α → Except Error β} {y : β} :
    (x >>= next) = .ok y ↔ ∃ a, x = .ok a ∧ next a = .ok y := by
  cases x with
  | error e => simp [bind, Except.bind]
  | ok a => simp [bind, Except.bind]

/-- A check has no result, so what comes behind it only waits for its success. -/
theorem check_bind_eq_ok_iff {check : Except Error Unit} {next : Except Error β} {y : β} :
    (check >>= fun _ => next) = .ok y ↔ check = .ok () ∧ next = .ok y := by
  rw [bind_eq_ok_iff]
  constructor
  · rintro ⟨_, hcheck, hnext⟩
    exact ⟨hcheck, hnext⟩
  · rintro ⟨hcheck, hnext⟩
    exact ⟨(), hcheck, hnext⟩

/-- Where a condition is refused, success means that it does not hold. -/
theorem refuse_eq_ok_iff {p : Prop} [Decidable p] {e : Error} {next : Except Error β} {y : β} :
    (if p then .error e else next) = .ok y ↔ ¬ p ∧ next = .ok y := by
  by_cases hp : p
  · rw [if_pos hp]
    exact ⟨nofun, fun h => absurd hp h.1⟩
  · rw [if_neg hp]
    exact (and_iff_right hp).symm

end LinkTap
