import EngineTokens.Error

/-!
# Advice to the user

Every failure in plain words: what happened, what to try, and how it should be presented.
-/

set_option autoImplicit false

namespace EngineTokens

/-- How a failure looks to the user. -/
inductive Severity
  /-- A setting has to change before the run can start. -/
  | actionRequired
  /-- The chosen combination of options cannot be produced. -/
  | conformance
  /-- Something outside the configuration failed. -/
  | failure
  deriving DecidableEq, Repr

/-- A heading, what to try, and how serious it is. -/
structure Advice where
  message : String
  suggestion : String
  severity : Severity
  deriving DecidableEq, Repr

/-- Advice on a choice that cannot be honoured; the detail follows the suggestion in brackets. -/
def Choice.advice (choice : Choice) (detail : String) : Advice :=
  let say (message suggestion : String) (severity : Severity) : Advice :=
    ⟨message, suggestion ++ " (" ++ detail ++ ")", severity⟩
  match choice with
  | .device =>
    say "Nothing to run yet." "Choose an output device first." .actionRequired
  | .outputFile =>
    say "No output file was given." "This device writes a file. Name one with --output."
      .actionRequired
  | .input =>
    say "No document was given." "Pick the document Ghostscript should process." .actionRequired
  | .debugSwitch =>
    say "That debug switch is not known."
      "Use one of the engine's switch names, such as PDFDEBUG or TTFDEBUG." .actionRequired
  | .modelKind =>
    say "These options cannot be used together."
      "Keep debug switches apart from PDF options, and make --kind fit every option." .conformance
  | .displayOutput =>
    say "On-screen preview is not available here."
      "Choose a file-writing device such as pdfwrite or png16m." .actionRequired
  | .displayFormat =>
    say "The preview page could not be shown." "Try a 24- or 32-bit display format." .failure

/-- What values a field accepts, as a suggestion. -/
def rangeHint (field : String) : String :=
  if field = "PDFA" then "Choose PDF/A level 1, 2 or 3."
  else if field = "FirstPage" ∨ field = "LastPage" then "Page numbers start at 1."
  else "Pick one of the values offered for this option."

/-- Advice on a failure. -/
def Error.advice : Error → Advice
  | .directoryNotFound path =>
    ⟨"A folder could not be found.",
      "Check that " ++ path ++ " exists and is a folder, then add it again.", .actionRequired⟩
  | .fileNotFound path =>
    ⟨"A file could not be found.",
      "Check the spelling (including upper and lower case) of " ++ Path.shown path ++ ".",
      .actionRequired⟩
  | .outOfRange field value =>
    ⟨toString value ++ " is not a valid value for " ++ field ++ ".", rangeHint field,
      .actionRequired⟩
  | .conformance detail =>
    ⟨"These options cannot be combined.",
      "PDF/X output needs the Gray or CMYK color strategy. (" ++ detail ++ ")", .conformance⟩
  | .unsupported choice detail => choice.advice detail
  | .engine detail =>
    ⟨"Ghostscript reported a problem.",
      "Look at the engine output for details. (" ++ detail ++ ")", .failure⟩
  | .settings _ | .serialization _ =>
    ⟨"Saved settings could not be read.",
      "The settings file may be damaged. Delete it to start from defaults.", .failure⟩
  | .io detail =>
    ⟨"A file operation failed.",
      "Check permissions and free disk space. (" ++ detail ++ ")", .failure⟩

end EngineTokens
