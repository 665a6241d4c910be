/-
What a run leaves behind in a register.

The switch of a gauge and an octet of memory are both registers: a step writes something there or
leaves alone what is there. After a run such a register has what the last step put there that wrote
to it, and if none did, what it had at first. The other parts of the state may change as they
please, as long as what is needed to tell the writing steps does not.
-/
import Mathlib.Data.List.Basic

set_option autoImplicit false

namespace LinkTap

variable {σ ι α : Type} {step : σ → ι → σ} {writes? : ι → Option α}

/-- After a run a register has what the last step put there that wrote to it, or what it had at
first. -/
theorem foldl_last_written (register : σ → α) (Inv : σ → Prop)
    (hinv : ∀ s i, Inv s → Inv (step s i))
    (hstep : ∀ s i, Inv s → register (step s i) = (writes? i).getD (register s))
    (steps : List ι) {s : σ} (hs : Inv s) :
    register (steps.foldl step s) = (steps.filterMap writes?).getLast?.getD (register s) := by
  -- What the register has when the remaining steps begin is the value that they fall back on.
  induction steps generalizing s with
  | nil => rfl
  | cons i steps ih =>
    rw [List.foldl_cons, ih (hinv s i hs), hstep s i hs]
    cases hwrites : writes? i with
    | none => rw [List.filterMap_cons_none hwrites, Option.getD_none]
    | some a =>
      rw [List.filterMap_cons_some hwrites, List.getLast?_cons, Option.getD_some, Option.getD_some]

end LinkTap
