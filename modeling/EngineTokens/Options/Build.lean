import EngineTokens.Options.Model
import EngineTokens.Settings.Preferences
import EngineTokens.Words

/-!
# From options to a model

The tier is settled first: debug switches and PDF options exclude each other, and a tier asked for
by name has to have every option given. Then the fields are filled, each from its own option, and
what can be wrong is checked in a fixed order: device, include directories, debug switches, pages,
part of PDF/A, profile.
-/

set_option autoImplicit false

namespace EngineTokens

open Params (Kind Model Base Debug Pdf Conformance Sources)

/-- The lowest tier that has all the options given, unless they exclude each other. -/
def ModelOptions.neededKind (o : ModelOptions) : Except Error Kind :=
  let debug := !o.debug.isEmpty
  let conformance := o.conformance.isGiven
  let pdf := conformance || o.pdf.isGiven
  if debug && pdf then
    .error (.unsupported .modelKind "debug switches cannot be combined with PDF options")
  else if debug then .ok .debug
  else if conformance then .ok .conformance
  else if pdf then .ok .pdf
  else .ok .base

/-- A tier has the options of another one. -/
def Params.Kind.carries (kind needed : Kind) : Bool :=
  needed == .base || kind == needed || (kind == .conformance && needed == .pdf)

/-- The tier of the model: the one asked for if it has all the options given. -/
def ModelOptions.resolveKind (o : ModelOptions) : Except Error Kind :=
  match o.neededKind with
  | .error e => .error e
  | .ok needed =>
    match o.kind with
    | none => .ok needed
    | some kind =>
      if kind.carries needed then .ok kind
      else
        .error (.unsupported .modelKind ("the " ++ kind.word ++
          " model cannot take the options given; they need the " ++ needed.word ++ " model"))

/-- The device: by name, by position, or as saved. A saved position outside the catalog is
ignored. -/
def BaseOptions.chosenDevice (o : BaseOptions) (saved : Preferences) :
    Except Error (Option String) :=
  match o.device, o.deviceIndex with
  | some name, _ => .ok (some name)
  | none, some index => (Device.byIndex index).map some
  | none, none => .ok (Device.at? saved.deviceIndex)

/-- Accepts directories one after another, up to the first that is refused. -/
def Params.Sources.addAll (files : Files) (sources : Sources) :
    List String → Except Error Sources
  | [] => .ok sources
  | path :: rest =>
    match sources.add files path with
    | (.error e, _) => .error e
    | (.ok _, sources) => addAll files sources rest

/-- The base tier of some options. -/
def BaseOptions.build (files : Files) (saved : Preferences) (o : BaseOptions) :
    Except Error Base := do
  let device ← o.chosenDevice saved
  let sources ← Sources.addAll files {} o.includes
  return {
    quiet := !o.verbose
    batch := !o.interactive
    noPagePrompt := o.noPagePrompt
    noPause := o.noPause
    noPrompt := o.noPrompt
    noSafer := o.noSafer
    shortErrors := o.shortErrors
    device := device.getD ""
    displayFormat := o.displayFormat.getD ⟨0⟩
    displayResolution := o.displayResolution.getD 0
    outputFile := o.output.getD ""
    fontResourceDir := o.fontResourceDir.getD ""
    genericResourceDir := o.genericResourceDir.getD ""
    sources }

/-- Turns on the debug switches of a list of names, up to the first that is not known. -/
def Params.Debug.turnOn (flags : BitVec 32) : List String → Except Error (BitVec 32)
  | [] => .ok flags
  | name :: rest =>
    match Debug.switch? name with
    | some (bit, _) => turnOn (Debug.turned flags bit true) rest
    | none => .error (.unsupported .debugSwitch ("unknown debug switch " ++ name))

/-- The page of an option. -/
def pageOf (field : String) (number : Option Int) : Except Error Int :=
  match number with
  | some number => (Params.checkPage field number).map fun _ => number
  | none => .ok Params.pageUnset

/-- The PDF tier of some options on a given base tier. -/
def PdfOptions.build (o : PdfOptions) (base : Base) : Except Error Pdf := do
  let firstPage ← pageOf "FirstPage" o.firstPage
  let lastPage ← pageOf "LastPage" o.lastPage
  return {
    base
    colorStrategy := o.colorStrategy.getD .unset
    embedAllFonts := o.embedAllFonts
    newPdf := o.newPdf
    pdfInfo := o.pdfInfo
    fitPage := o.fitPage
    title := o.title.getD ""
    useBleedBox := o.useBleedBox
    useTrimBox := o.useTrimBox
    useArtBox := o.useArtBox
    useCropBox := o.useCropBox
    password := o.password.getD ""
    showAnnots := !o.hideAnnots
    showAcroForm := !o.hideAcroForm
    noUserUnit := o.noUserUnit
    renderTtNotdef := o.renderTtNotdef
    firstPage
    lastPage
    pageList := o.pageList.getD ""
    subsetFonts := !o.noSubsetFonts }

/-- Where a profile is meant to be: as named, or in the saved directory of profiles if the name is
relative, leads nowhere as it is, and leads somewhere from there. -/
def locateProfile (files : Files) (path : RawPath) (iccDir : String) : RawPath :=
  if !Path.isAbsolute path && !files.doesExist path && iccDir != "" then
    let candidate := Path.join iccDir path
    if files.doesExist candidate then candidate else path
  else path

/-- The profile of an option. -/
def profileOf (files : Files) (saved : Preferences) (path : Option RawPath) : Except Error String :=
  match path with
  | some path =>
    let located := locateProfile files path saved.iccDir
    if located = [] then .ok "" else files.resolveExisting located false
  | none => .ok ""

/-- The PDF tier with the standards asked for; PDF/X is turned on last and so takes the place of
PDF/A. -/
def ConformanceOptions.withStandards (files : Files) (o : ConformanceOptions) (pdf : Pdf) : Pdf :=
  let pdf := if o.pdfA.isSome then (pdf.apply files (.pdfA true)).2 else pdf
  if o.pdfX then (pdf.apply files (.pdfX true)).2 else pdf

/-- The conformance tier of some options on a given PDF tier. -/
def ConformanceOptions.build (files : Files) (saved : Preferences) (o : ConformanceOptions)
    (pdf : Pdf) : Except Error Conformance := do
  let level ← match o.pdfA with
    | some number => (Params.checkLevel number).map fun _ => number
    | none => .ok 3
  let iccProfile ← profileOf files saved o.iccProfile
  return {
    pdf := o.withStandards files pdf
    iccProfile
    level
    policy := o.policy.getD .stop
    outputCondition := o.outputCondition.getD "" }

/-- The model that some options describe, with what is saved where an option is not given. -/
def ModelOptions.build (files : Files) (saved : Preferences) (o : ModelOptions) :
    Except Error Model := do
  let kind ← o.resolveKind
  let base ← o.base.build files saved
  match kind with
  | .base => return .base base
  | .debug => return .debug { base, flags := ← Debug.turnOn 0 o.debug }
  | .pdf => return .pdf (← o.pdf.build base)
  | .conformance =>
    let pdf ← o.pdf.build base
    return .conformance (← o.conformance.build files saved pdf)

/-- The extra arguments that follow the tokens of a model: those of the option, or those saved. -/
def ModelOptions.extraWords (saved : Preferences) (o : ModelOptions) : List String :=
  Words.split (o.extra.getD saved.userArgs)

/-- The tokens of a model and the extra arguments. -/
def ModelOptions.tokens (files : Files) (saved : Preferences) (o : ModelOptions) (model : Model) :
    Except Error (List String) :=
  (model.toArgs files o.host).map fun args => args ++ o.extraWords saved

end EngineTokens
