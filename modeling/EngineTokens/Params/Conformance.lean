import EngineTokens.Files.Exact
import EngineTokens.Params.Pdf
import EngineTokens.Policy

/-!
# The conformance tier

Options of PDF/A and PDF/X output on top of the PDF tier. Both standards want an ICC profile. While
one of them is asked for, the directory of the profile is searched as well, so that the engine can
open the profile by name; the registered directories themselves do not change.
-/

set_option autoImplicit false

namespace EngineTokens.Params

/-- The PDF tier with the options of the two standards. -/
structure Conformance where
  pdf : Pdf := {}
  /-- The absolute canonical path of the profile, or the empty text. -/
  iccProfile : String := ""
  /-- The part of PDF/A. -/
  level : Int := 3
  policy : Policy := .stop
  outputCondition : String := ""
  deriving DecidableEq, Repr, Inhabited

/-- Checks a part of PDF/A: one, two or three. -/
def checkLevel (number : Int) : Except Error Unit :=
  if 1 ≤ number ∧ number ≤ 3 then .ok () else .error (.outOfRange "PDFA" number)

namespace Conformance

/-- One of the two standards is asked for. -/
def isActive (p : Conformance) : Bool :=
  p.pdf.pdfA || p.pdf.pdfX

/-- The include directories of a run, with the profile's directory where a standard is asked for. -/
def effectiveSources (files : Files) (p : Conformance) : Except Error Sources :=
  if p.isActive then
    match Path.directoryOf? p.iccProfile with
    | some directory =>
      let (added, sources) := p.pdf.base.sources.add files directory
      added.map fun _ => sources
    | none => .ok p.pdf.base.sources
  else .ok p.pdf.base.sources

/-- The tokens after those of the PDF tier. -/
def standardTokens (p : Conformance) : List String :=
  (if p.pdf.pdfA then
      [Token.number "-dPDFA=" p.level, Token.number "-dPDFACompatibilityPolicy=" p.policy.value]
    else if p.pdf.pdfX then [Token.flag "-dPDFX" true]
    else []) ++
  (if p.isActive then Token.textUnless "" p.iccProfile "-sICCProfile=" else []) ++
  Token.textUnless "" p.outputCondition "-sPDFOutputConditionIdentifier="

/-- Appends the tokens of the conformance tier. -/
def write (files : Files) (p : Conformance) (host : Display.Host) (out : List String) : Written :=
  match p.effectiveSources files with
  | .error e => { tokens := out, failure := some e }
  | .ok sources =>
    let written := p.pdf.writeWith host sources out
    match written.failure with
    | some _ => written
    | none => { tokens := written.tokens ++ p.standardTokens }

/-- A change to one field of the conformance tier. -/
inductive Edit
  | pdf (edit : Pdf.Edit)
  /-- Points at an existing profile; the empty path takes it away. -/
  | iccProfile (path : RawPath)
  | level (number : Int)
  | policy (policy : Policy)
  | outputCondition (text : String)
  deriving DecidableEq, Repr

/-- Makes a change in place. -/
def Edit.make (files : Files) : Edit → Steps Conformance (Option Bool)
  | .pdf edit => .within Conformance.pdf (fun p pdf => { p with pdf }) (edit.make files)
  | .iccProfile path =>
    if path = [] then .assign fun p => { p with iccProfile := "" }
    else do
      let resolved ← files.resolveExisting path false
      .assign fun p => { p with iccProfile := resolved }
  | .level number => do
    checkLevel number
    .assign fun p => { p with level := number }
  | .policy choice => .assign fun p => { p with policy := choice }
  | .outputCondition text => .assign fun p => { p with outputCondition := text }

/-- Makes a change: the answer, and the tier after it. -/
def apply (files : Files) (p : Conformance) (edit : Edit) :
    Except Error (Option Bool) × Conformance :=
  (edit.make files).take p

end Conformance

end EngineTokens.Params
