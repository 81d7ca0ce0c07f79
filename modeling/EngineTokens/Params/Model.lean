import EngineTokens.Params.Conformance
import EngineTokens.Params.Debug

/-!
# A model of any tier

One run of the engine is described by a model of one of four tiers, each of which contains the base
tier. Whatever the tier, a model turns into tokens with those of the base tier first.
-/

set_option autoImplicit false

namespace EngineTokens.Params

/-- The tiers. -/
inductive Kind
  | base
  | debug
  | pdf
  | conformance
  deriving DecidableEq, Repr

/-- The word for a tier. -/
def Kind.word : Kind → String
  | .base => "base"
  | .debug => "debug"
  | .pdf => "pdf"
  | .conformance => "pdfax"

/-- A model. -/
inductive Model
  | base (p : Base)
  | debug (p : Debug)
  | pdf (p : Pdf)
  | conformance (p : Conformance)
  deriving DecidableEq, Repr

namespace Model

/-- The tier of a model. -/
def kind : Model → Kind
  | .base _ => .base
  | .debug _ => .debug
  | .pdf _ => .pdf
  | .conformance _ => .conformance

/-- The model of a tier with every field at its default. -/
def blank : Kind → Model
  | .base => .base {}
  | .debug => .debug {}
  | .pdf => .pdf {}
  | .conformance => .conformance {}

/-- The base tier of a model. -/
def basis : Model → Base
  | .base p => p
  | .debug p => p.base
  | .pdf p => p.base
  | .conformance p => p.pdf.base

/-- Changes a field of the base tier, which every model has: the answer, and the model after it. -/
def applyBase (files : Files) (model : Model) (edit : Base.Edit) :
    Except Error (Option Bool) × Model :=
  match model with
  | .base p => (p.apply files edit).map id .base
  | .debug p => (p.apply files (.base edit)).map id .debug
  | .pdf p => (p.apply files (.base edit)).map id .pdf
  | .conformance p => (p.apply files (.pdf (.base edit))).map id .conformance

/-- Changes a field of the PDF tier, in the models that have one. -/
def applyPdf? (files : Files) (model : Model) (edit : Pdf.Edit) :
    Option (Except Error (Option Bool) × Model) :=
  match model with
  | .pdf p => some ((p.apply files edit).map id .pdf)
  | .conformance p => some ((p.apply files (.pdf edit)).map id .conformance)
  | _ => none

/-- Sets every field, in every tier, to its default. -/
def clear (model : Model) : Model :=
  blank model.kind

/-- Appends the tokens of a model. -/
def write (files : Files) (model : Model) (host : Display.Host) (out : List String) : Written :=
  match model with
  | .base p => p.write host out
  | .debug p => p.write host out
  | .pdf p => p.write host out
  | .conformance p => p.write files host out

/-- The token list of a model; nothing is returned if it fails. -/
def toArgs (files : Files) (model : Model) (host : Display.Host) : Except Error (List String) :=
  (model.write files host []).result

end Model

end EngineTokens.Params
