import EngineTokens.Params.Model

/-!
# Calls on a model

What the holder of a model can ask of it: a change to one field of a tier that the model has, or the
clearing of a tier together with those below it. Whether a call is refused or not, the model is from
then on what the call has left.
-/

set_option autoImplicit false

namespace EngineTokens.Params

/-- A call on a model. -/
inductive Call
  | base (edit : Base.Edit)
  | debug (edit : Debug.Edit)
  | pdf (edit : Pdf.Edit)
  | conformance (edit : Conformance.Edit)
  /-- Sets every field of a tier and of those below it to its default. -/
  | clear (tier : Kind)
  deriving DecidableEq, Repr

namespace Model

/-- Changes a field of the debug tier, in the models that have one. -/
def applyDebug? (files : Files) (model : Model) (edit : Debug.Edit) :
    Option (Except Error (Option Bool) × Model) :=
  match model with
  | .debug p => some ((p.apply files edit).map id .debug)
  | _ => none

/-- Changes a field of the conformance tier, in the models that have one. -/
def applyConformance? (files : Files) (model : Model) (edit : Conformance.Edit) :
    Option (Except Error (Option Bool) × Model) :=
  match model with
  | .conformance p => some ((p.apply files edit).map id .conformance)
  | _ => none

/-- Clears a tier that the model has, with those below it. -/
def clearTier? (model : Model) (tier : Kind) : Option Model :=
  match model, tier with
  | .base _, .base => some (.base {})
  | .debug p, .base => some (.debug { p with base := {} })
  | .debug _, .debug => some (.debug {})
  | .pdf p, .base => some (.pdf { p with base := {} })
  | .pdf _, .pdf => some (.pdf {})
  | .conformance p, .base => some (.conformance { p with pdf := { p.pdf with base := {} } })
  | .conformance p, .pdf => some (.conformance { p with pdf := {} })
  | .conformance _, .conformance => some (.conformance {})
  | _, _ => none

/-- The answer to a call and the model after it, in the models that offer it. -/
def answer? (files : Files) (model : Model) :
    Call → Option (Except Error (Option Bool) × Model)
  | .base edit => some (model.applyBase files edit)
  | .debug edit => model.applyDebug? files edit
  | .pdf edit => model.applyPdf? files edit
  | .conformance edit => model.applyConformance? files edit
  | .clear tier => (model.clearTier? tier).map fun cleared => (.ok none, cleared)

/-- The model after a call. -/
def call (model : Model) (files : Files) (c : Call) : Model :=
  match model.answer? files c with
  | some (_, after) => after
  | none => model

/-- The model after some calls, each with the files as they are then. -/
def callAll (model : Model) (calls : List (Files × Call)) : Model :=
  calls.foldl (fun model (files, c) => model.call files c) model

end Model

end EngineTokens.Params
