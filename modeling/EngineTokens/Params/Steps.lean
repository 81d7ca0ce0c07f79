import EngineTokens.Error

/-!
# Steps that work in place

A change to a record is made step by step on the record itself, and a failure stops it where it is:
what was assigned before the failure stays assigned. The answer to a change is what it returns or
why it failed, and with it comes the record as it was left.
-/

set_option autoImplicit false

namespace EngineTokens.Params

/-- Steps that work on a state in place and may be stopped by a failure. -/
abbrev Steps (σ α : Type) := ExceptT Error (StateM σ) α

namespace Steps

variable {σ τ α : Type}

/-- Takes the steps: what they return, or the failure that stopped them, and the state they leave. -/
def take (steps : Steps σ α) (state : σ) : Except Error α × σ :=
  steps.run.run state

/-- One assignment, which returns no answer. -/
def assign (f : σ → σ) : Steps σ (Option α) := do
  modify f
  return none

/-- Takes steps on a part of the state. -/
def within (part : σ → τ) (put : σ → τ → σ) (steps : Steps τ α) : Steps σ α :=
  fun state =>
    let taken := steps.take (part state)
    (taken.1, put state taken.2)

end Steps

end EngineTokens.Params
