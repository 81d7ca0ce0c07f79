import EngineTokens.Proofs.Options.Built
import EngineTokens.Proofs.Options.Checks

/-!
# Every option lands in its own field

A model is checked and then filled. The checks come in one order, whatever the tier
(`ModelOptions.checks`), and the first that refuses is the answer; where none does, every option
that is given is the content of its own field, and every other field is at its default
(`ModelOptions.build_eq_unlessRefused`, `ModelOptions.field?_filled`). The settings are consulted in
two places only, for the device and for the profile.
-/

set_option autoImplicit false

namespace EngineTokens

open Params (Kind Model Base Debug Pdf Conformance Sources Content Field)

variable {files : Files} {saved : Preferences}

/-! ## Contents that options give -/

/-- A switch that turns a field on. -/
def raised (given : Bool) : Option Content :=
  if given then some (.flag true) else none

/-- A switch that turns a field off. -/
def lowered (given : Bool) : Option Content :=
  if given then some (.flag false) else none

/-- A switch that raises a flag says what the flag is. -/
theorem getD_raised (given : Bool) : (raised given).getD (.flag false) = .flag given := by
  cases given <;> rfl

/-- A switch that lowers a flag says what the flag is not. -/
theorem getD_lowered (given : Bool) : (lowered given).getD (.flag true) = .flag !given := by
  cases given <;> rfl

/-! ## The base tier -/

namespace BaseOptions

/-- The device asked for, by name or by position. -/
def askedDevice? (o : BaseOptions) : Option String :=
  o.device.or (o.deviceIndex.bind Device.at?)

/-- The device that is saved, where none is asked for. -/
def savedDevice? (saved : Preferences) (o : BaseOptions) : Option String :=
  if o.device = none ∧ o.deviceIndex = none then Device.at? saved.deviceIndex else none

/-- Why the device that is asked for is refused: its position is not in the catalog. -/
def deviceRefusal? (o : BaseOptions) : Option Error :=
  match o.device, o.deviceIndex with
  | none, some index =>
    if (Device.at? index).isSome then none
    else some (.unsupported .device ("no device at index " ++ toString index))
  | _, _ => none

/-- What an option of the base tier gives to a field. -/
def given? (o : BaseOptions) : Base.Field → Option Content
  | .quiet => lowered o.verbose
  | .batch => lowered o.interactive
  | .noPagePrompt => raised o.noPagePrompt
  | .noPause => raised o.noPause
  | .noPrompt => raised o.noPrompt
  | .noSafer => raised o.noSafer
  | .shortErrors => raised o.shortErrors
  | .device => o.askedDevice?.map .text
  | .displayFormat => o.displayFormat.map .format
  | .displayResolution => o.displayResolution.map .number
  | .outputFile => o.output.map .text
  | .fontResourceDir => o.fontResourceDir.map .text
  | .genericResourceDir => o.genericResourceDir.map .text
  | .sources =>
    if o.includes = [] then none
    else some (.directories (o.includes.map Path.canonicalize).eraseDups)

/-- The base tier of some options that are not refused. -/
def filled (saved : Preferences) (o : BaseOptions) : Base where
  quiet := !o.verbose
  batch := !o.interactive
  noPagePrompt := o.noPagePrompt
  noPause := o.noPause
  noPrompt := o.noPrompt
  noSafer := o.noSafer
  shortErrors := o.shortErrors
  device := (o.askedDevice?.or (o.savedDevice? saved)).getD ""
  displayFormat := o.displayFormat.getD ⟨0⟩
  displayResolution := o.displayResolution.getD 0
  outputFile := o.output.getD ""
  fontResourceDir := o.fontResourceDir.getD ""
  genericResourceDir := o.genericResourceDir.getD ""
  sources := ⟨(o.includes.map Path.canonicalize).eraseDups⟩

/-- The device is the one asked for, else the saved one, unless a position is refused. -/
theorem chosenDevice_eq (o : BaseOptions) :
    o.chosenDevice saved =
      unlessRefused o.deviceRefusal? (o.askedDevice?.or (o.savedDevice? saved)) := by
  unfold chosenDevice deviceRefusal? askedDevice? savedDevice?
  cases o.device with
  | some name => rfl
  | none =>
    cases o.deviceIndex with
    | none => rfl
    | some index =>
      simp only [Device.byIndex, Option.none_or, Option.bind_some]
      cases Device.at? index <;> rfl

/-- A position is not refused if it is one of the catalog, or if a name takes its place. -/
theorem deviceRefusal?_eq_none_iff {o : BaseOptions} :
    o.deviceRefusal? = none ↔ (o.device = none → ∀ index, o.deviceIndex = some index →
      0 ≤ index ∧ index < (Device.catalog.length : Int)) := by
  unfold deviceRefusal?
  cases o.device with
  | some name => simp
  | none =>
    cases o.deviceIndex with
    | none => simp
    | some index => simp [Device.at?_isSome]

/-- A base tier is refused for its device, then for the first directory that is none. -/
theorem build_eq_unlessRefused (o : BaseOptions) :
    o.build files saved =
      unlessRefused (o.deviceRefusal?.or (o.includes.findSome? (Sources.refusal? files)))
        (o.filled saved) := by
  unfold build
  rw [chosenDevice_eq, Sources.addAll_eq]
  exact unlessRefused_bind (unlessRefused_bind_ok rfl)

/-- A field of the base tier is what its option says, else what it starts from. -/
theorem get_filled (o : BaseOptions) (f : Base.Field) :
    (o.filled saved).get f =
      (o.given? f).getD (({ device := (o.savedDevice? saved).getD "" } : Base).get f) := by
  cases f with
  | quiet | batch => exact (getD_lowered _).symm
  | noPagePrompt | noPause | noPrompt | noSafer | shortErrors => exact (getD_raised _).symm
  | device => cases asked : o.askedDevice? <;> simp [filled, Base.get, given?, asked]
  | displayFormat | displayResolution | outputFile | fontResourceDir | genericResourceDir =>
    exact (Option.getD_map _ _ _).symm
  | sources => cases listed : o.includes <;> simp [filled, Base.get, given?, listed]

end BaseOptions

/-! ## The PDF tier -/

namespace PdfOptions

/-- What an option of the PDF tier gives to a field. The standards are not asked for here. -/
def given? (o : PdfOptions) : Pdf.Field → Option Content
  | .colorStrategy => o.colorStrategy.map .strategy
  | .embedAllFonts => raised o.embedAllFonts
  | .newPdf => raised o.newPdf
  | .pdfInfo => raised o.pdfInfo
  | .fitPage => raised o.fitPage
  | .title => o.title.map .text
  | .useBleedBox => raised o.useBleedBox
  | .useTrimBox => raised o.useTrimBox
  | .useArtBox => raised o.useArtBox
  | .useCropBox => raised o.useCropBox
  | .password => o.password.map .text
  | .showAnnots => lowered o.hideAnnots
  | .showAcroForm => lowered o.hideAcroForm
  | .noUserUnit => raised o.noUserUnit
  | .renderTtNotdef => raised o.renderTtNotdef
  | .firstPage => o.firstPage.map .number
  | .lastPage => o.lastPage.map .number
  | .pageList => o.pageList.map .text
  | .subsetFonts => lowered o.noSubsetFonts
  | .pdfA | .pdfX => none

/-- Why the first page is refused. -/
def firstPageRefusal? (o : PdfOptions) : Option Error :=
  o.firstPage.bind (Params.pageRefusal? "FirstPage")

/-- Why the last page is refused. -/
def lastPageRefusal? (o : PdfOptions) : Option Error :=
  o.lastPage.bind (Params.pageRefusal? "LastPage")

/-- The PDF tier of some options that are not refused, on a given base tier. -/
def filled (o : PdfOptions) (base : Base) : Pdf where
  base
  colorStrategy := o.colorStrategy.getD .unset
  embedAllFonts := o.embedAllFonts
  newPdf := o.newPdf
  pdfInfo := o.pdfInfo
  fitPage := o.fitPage
  title := o.title.getD ""
  useBleedBox := o.useBleedBox
  useTrimBox := o.useTrimBox
  useArtBox := o.useArtBox
  useCropBox := o.useCropBox
  password := o.password.getD ""
  showAnnots := !o.hideAnnots
  showAcroForm := !o.hideAcroForm
  noUserUnit := o.noUserUnit
  renderTtNotdef := o.renderTtNotdef
  firstPage := o.firstPage.getD Params.pageUnset
  lastPage := o.lastPage.getD Params.pageUnset
  pageList := o.pageList.getD ""
  subsetFonts := !o.noSubsetFonts

/-- A PDF tier is refused for its first page, then for its last. -/
theorem build_eq_unlessRefused (o : PdfOptions) (base : Base) :
    o.build base = unlessRefused (o.firstPageRefusal?.or o.lastPageRefusal?) (o.filled base) := by
  unfold build
  rw [pageOf_eq, pageOf_eq]
  exact unlessRefused_bind (unlessRefused_bind_ok rfl)

/-- The PDF tier of some options has what they give, and its defaults for the rest. -/
theorem get_filled (o : PdfOptions) (base : Base) (f : Pdf.Field) :
    (o.filled base).get f = (o.given? f).getD (({} : Pdf).get f) := by
  cases f with
  | colorStrategy | title | password | pageList | firstPage | lastPage =>
    exact (Option.getD_map _ _ _).symm
  | showAnnots | showAcroForm | subsetFonts => exact (getD_lowered _).symm
  | pdfA | pdfX => rfl
  | _ => exact (getD_raised _).symm

end PdfOptions

/-! ## The conformance tier -/

/-- A profile that is named is meant to be somewhere. -/
theorem locateProfile_ne_nil {path : RawPath} {iccDir : String} (named : path ≠ []) :
    locateProfile files path iccDir ≠ [] := by
  unfold locateProfile
  split
  next =>
    dsimp only
    split
    next there =>
      intro empty
      have nowhere : files.doesExist [] = false := rfl
      rw [empty, nowhere] at there
      cases there
    next => exact named
  next => exact named

namespace ConformanceOptions

/-- Where the profile is meant to be. -/
def located? (files : Files) (saved : Preferences) (o : ConformanceOptions) : Option RawPath :=
  o.iccProfile.map fun path => locateProfile files path saved.iccDir

/-- What the options of the conformance tier give to its fields. -/
def given? (files : Files) (saved : Preferences) (o : ConformanceOptions) :
    Conformance.Field → Option Content
  | .iccProfile => (o.located? files saved).map fun path => .text (Params.keptProfile files path)
  | .level => o.pdfA.map .number
  | .policy => o.policy.map .policy
  | .outputCondition => o.outputCondition.map .text

/-- What an option of the conformance tier gives to a field of the PDF tier. -/
def standardGiven? (o : ConformanceOptions) : Pdf.Field → Option Content
  | .pdfA => raised o.pdfA.isSome
  | .pdfX => raised o.pdfX
  | _ => none

/-- Why the part of PDF/A is refused. -/
def levelRefusal? (o : ConformanceOptions) : Option Error :=
  o.pdfA.bind Params.levelRefusal?

/-- Why the profile is refused. -/
def profileRefusal? (files : Files) (saved : Preferences) (o : ConformanceOptions) : Option Error :=
  (o.located? files saved).bind (Params.profileRefusal? files)

/-- The conformance tier of some options that are accepted. -/
def accepted (files : Files) (saved : Preferences) (o : ConformanceOptions) (pdf : Pdf) :
    Conformance :=
  o.filled files pdf (o.pdfA.getD 3)
    (((o.located? files saved).map (Params.keptProfile files)).getD "")

/-- A profile that is named is not refused exactly if it exists where it is meant to be. -/
theorem profileRefusal?_eq_none_iff {o : ConformanceOptions} (named : o.iccProfile ≠ some []) :
    o.profileRefusal? files saved = none ↔ ∀ path, o.iccProfile = some path →
      ∃ resolved,
        files.resolveExisting (locateProfile files path saved.iccDir) false = .ok resolved := by
  unfold profileRefusal? located?
  cases given : o.iccProfile with
  | none => simp
  | some path =>
    have filled : locateProfile files path saved.iccDir ≠ [] :=
      locateProfile_ne_nil fun empty => named (given.trans (congrArg some empty))
    simp only [Option.some.injEq, forall_eq', Params.resolveExisting_eq filled]
    change Params.profileRefusal? files (locateProfile files path saved.iccDir) = none ↔ _
    cases Params.profileRefusal? files (locateProfile files path saved.iccDir) <;> simp

/-- A part of PDF/A is refused or is the number given, and without a number it is the third. -/
theorem level_eq (o : ConformanceOptions) :
    o.level = unlessRefused o.levelRefusal? (o.pdfA.getD 3) := by
  unfold level levelRefusal?
  cases o.pdfA with
  | none => rfl
  | some number =>
    rw [Option.bind_some, Option.getD_some]
    dsimp only
    rw [Params.checkLevel_eq]
    cases Params.levelRefusal? number <;> rfl

/-- A conformance tier is refused for the part of the standard, then for its profile. -/
theorem build_eq_unlessRefused (o : ConformanceOptions) (pdf : Pdf) :
    o.build files saved pdf =
      unlessRefused (o.levelRefusal?.or (o.profileRefusal? files saved))
        (o.accepted files saved pdf) := by
  rw [build_eq, level_eq, profileOf_eq]
  refine unlessRefused_bind ?_
  rw [unlessRefused_map]
  unfold profileRefusal? accepted located?
  cases o.iccProfile <;> rfl

/-- The conformance tier of some options has what they give, and its defaults for the rest. -/
theorem get_accepted (o : ConformanceOptions) (pdf : Pdf) (f : Conformance.Field) :
    (o.accepted files saved pdf).get f =
      (o.given? files saved f).getD (({} : Conformance).get f) := by
  cases f with
  | iccProfile => cases located : o.located? files saved <;>
      simp [accepted, filled, Conformance.get, given?, located]
  | level | policy | outputCondition => exact (Option.getD_map _ _ _).symm

/-- Asking for a standard changes nothing else in a PDF tier that asks for none. -/
theorem get_pdf_accepted {o : ConformanceOptions} (exclusive : ¬ (o.pdfA.isSome ∧ o.pdfX))
    {pdf : Pdf} (plain : pdf.IsPlain) (f : Pdf.Field) :
    (o.accepted files saved pdf).pdf.get f =
      match f with
      | .pdfA | .pdfX => (o.standardGiven? f).getD (.flag false)
      | _ => pdf.get f := by
  have standards : (o.accepted files saved pdf).pdf = _ := o.withStandards_eq plain
  rw [standards]
  cases f with
  | pdfA | pdfX =>
    -- PDF/X wins where both are asked for, which is the one case that is excluded.
    cases asked : o.pdfA <;> cases other : o.pdfX <;>
      simp_all [Pdf.get, standardGiven?, raised]
  | _ => rfl

end ConformanceOptions

/-! ## The whole model -/

namespace ModelOptions

variable {o : ModelOptions}

/-- Why no tier is settled on. -/
def kindRefusal? (o : ModelOptions) : Option Error :=
  match o.resolveKind with
  | .error e => some e
  | .ok _ => none

/-- What is checked once the tier is settled, in order. -/
def laterChecks (files : Files) (saved : Preferences) (o : ModelOptions) : List (Option Error) :=
  [o.base.deviceRefusal?] ++ o.base.includes.map (Sources.refusal? files) ++
    o.debug.map Debug.switchRefusal? ++
    [o.pdf.firstPageRefusal?, o.pdf.lastPageRefusal?, o.conformance.levelRefusal?,
      o.conformance.profileRefusal? files saved]

/-- All that is checked, in order. -/
def checks (files : Files) (saved : Preferences) (o : ModelOptions) : List (Option Error) :=
  o.kindRefusal? :: o.laterChecks files saved

/-- What an option gives to a field of the model. -/
def given? (files : Files) (saved : Preferences) (o : ModelOptions) : Field → Option Content
  | .base f => o.base.given? f
  | .flags => if o.debug = [] then none else some (.word (Debug.wordOf o.debug))
  | .pdf f => (o.pdf.given? f).or (o.conformance.standardGiven? f)
  | .conformance f => o.conformance.given? files saved f

/-- The model of some options that are not refused, in a given tier. -/
def filled (files : Files) (saved : Preferences) (o : ModelOptions) : Kind → Model
  | .base => .base (o.base.filled saved)
  | .debug => .debug { base := o.base.filled saved, flags := Debug.wordOf o.debug }
  | .pdf => .pdf (o.pdf.filled (o.base.filled saved))
  | .conformance =>
    .conformance (o.conformance.accepted files saved (o.pdf.filled (o.base.filled saved)))

/-- The first check that fails is one of the base tier, of the switches, of the pages, or of the
conformance tier, in this order. -/
theorem firstRefusal?_laterChecks :
    firstRefusal? (o.laterChecks files saved) =
      (o.base.deviceRefusal?.or (o.base.includes.findSome? (Sources.refusal? files))).or
        ((o.debug.findSome? Debug.switchRefusal?).or
          ((o.pdf.firstPageRefusal?.or o.pdf.lastPageRefusal?).or
            (o.conformance.levelRefusal?.or (o.conformance.profileRefusal? files saved)))) := by
  simp only [laterChecks, firstRefusal?_append, firstRefusal?_map, firstRefusal?_cons,
    firstRefusal?_nil, Option.or_none, Option.or_assoc]

/-- Once the tier is settled, the checks decide whether there is a model, and the model is the one
that the options fill. -/
theorem build_eq_unlessRefused {kind : Kind} (settled : o.resolveKind = .ok kind) :
    o.build files saved =
      unlessRefused (firstRefusal? (o.laterChecks files saved)) (o.filled files saved kind) := by
  have built : o.build files saved = o.buildAs files saved kind := by
    rw [build_eq, settled]
    rfl
  have lower : kind ≠ .conformance → o.conformance = {} := conformance_of_resolveKind settled
  have middle := pdf_of_resolveKind settled
  have other : kind ≠ .debug → o.debug = [] := debug_of_resolveKind settled
  rw [built, firstRefusal?_laterChecks, buildAs, BaseOptions.build_eq_unlessRefused]
  refine unlessRefused_bind ?_
  -- In each tier what is left of the checks is about options that the tier does not have, and since
  -- those are not given, nothing of it is refused.
  cases kind with
  | base =>
    rw [lower (by decide), middle (by decide) (by decide), other (by decide)]
    rfl
  | debug =>
    rw [lower (by decide), middle (by decide) (by decide)]
    change _ = unlessRefused ((o.debug.findSome? Debug.switchRefusal?).or none) _
    simp only [Debug.turnOn_zero, Option.or_none]
    exact unlessRefused_bind_ok rfl
  | pdf =>
    rw [lower (by decide), other (by decide)]
    change _ = unlessRefused ((o.pdf.firstPageRefusal?.or o.pdf.lastPageRefusal?).or none) _
    simp only [PdfOptions.build_eq_unlessRefused, Option.or_none]
    exact unlessRefused_bind_ok rfl
  | conformance =>
    rw [other (by decide)]
    simp only [PdfOptions.build_eq_unlessRefused, ConformanceOptions.build_eq_unlessRefused,
      List.findSome?_nil, Option.none_or]
    exact unlessRefused_bind (unlessRefused_bind_ok rfl)

/-- What a field of a tier has if no option gives anything to it: its default, and the saved device
where there is one. -/
def fallback? (saved : Preferences) (o : ModelOptions) (kind : Kind) : Field → Option Content
  | .base .device => some (.text ((o.base.savedDevice? saved).getD ""))
  | field => (Model.blank kind).field? field

/-- A field of the base tier has the same default in every tier. -/
theorem fallback?_base (kind : Kind) (f : Base.Field) :
    o.fallback? saved kind (.base f) =
      some (({ device := (o.base.savedDevice? saved).getD "" } : Base).get f) := by
  cases kind <;> cases f <;> rfl

/-- A tier that is settled on has every field to which an option gives something. -/
theorem given?_eq_none {kind : Kind} (settled : o.resolveKind = .ok kind) {field : Field}
    (absent : o.fallback? saved kind field = none) : o.given? files saved field = none := by
  have lower : kind ≠ .conformance → o.conformance = {} := conformance_of_resolveKind settled
  have middle := pdf_of_resolveKind settled
  have other : kind ≠ .debug → o.debug = [] := debug_of_resolveKind settled
  cases field with
  | base f =>
    rw [fallback?_base] at absent
    cases absent
  | flags =>
    have outside : kind ≠ .debug := by
      rintro rfl
      cases absent
    exact if_pos (other outside)
  | pdf f =>
    have below : kind ≠ .pdf ∧ kind ≠ .conformance := by
      constructor <;> rintro rfl <;> cases absent
    rw [given?, middle below.1 below.2, lower below.2]
    cases f <;> rfl
  | conformance f =>
    have below : kind ≠ .conformance := by
      rintro rfl
      cases absent
    rw [given?, lower below]
    cases f <;> rfl

/-- The PDF tier of a model of the conformance tier has what the options give. -/
theorem get_pdf (files : Files) (saved : Preferences)
    (exclusive : ¬ (o.conformance.pdfA.isSome ∧ o.conformance.pdfX)) (base : Base) (f : Pdf.Field) :
    (o.conformance.accepted files saved (o.pdf.filled base)).pdf.get f =
      (o.given? files saved (.pdf f)).getD (({} : Pdf).get f) := by
  rw [ConformanceOptions.get_pdf_accepted exclusive ⟨rfl, rfl⟩, given?]
  cases f with
  | pdfA | pdfX => rfl
  | _ =>
    simp only [ConformanceOptions.standardGiven?, Option.or_none]
    exact o.pdf.get_filled base _

/-- The tiers above the base tier take it as it is. -/
theorem basis_filled (kind : Kind) :
    (o.filled files saved kind).basis = o.base.filled saved := by
  cases kind with
  | base | debug | pdf => rfl
  | conformance => exact o.conformance.base_withStandards _

/-- A field of the filled model has what an option gives to it, or else what it falls back to. -/
theorem field?_filled {kind : Kind} (settled : o.resolveKind = .ok kind)
    (exclusive : ¬ (o.conformance.pdfA.isSome ∧ o.conformance.pdfX)) (field : Field) :
    (o.filled files saved kind).field? field =
      (o.fallback? saved kind field).map ((o.given? files saved field).getD ·) := by
  have lower : kind ≠ .conformance → o.conformance = {} := conformance_of_resolveKind settled
  have middle := fun f => congrArg some
    (get_pdf files saved exclusive (o.base.filled saved) f)
  cases field with
  | base f =>
    rw [fallback?_base]
    simp only [Model.field?, basis_filled, BaseOptions.get_filled]
    rfl
  | flags =>
    cases kind with
    | debug =>
      have word : (o.given? files saved .flags).getD (.word 0) = .word (Debug.wordOf o.debug) := by
        by_cases unnamed : o.debug = []
        · rw [given?, if_pos unnamed, unnamed]
          rfl
        · rw [given?, if_neg unnamed]
          rfl
      exact congrArg some word.symm
    | base | pdf | conformance => rfl
  | pdf f =>
    cases kind with
    | base | debug => rfl
    | pdf =>
      -- Without conformance options, adding the conformance tier changes nothing below it.
      have plain : o.pdf.filled (o.base.filled saved) =
          (o.conformance.accepted files saved (o.pdf.filled (o.base.filled saved))).pdf := by
        rw [lower (by decide)]
        rfl
      rw [filled, plain]
      exact middle f
    | conformance => exact middle f
  | conformance f =>
    cases kind with
    | base | debug | pdf => rfl
    | conformance => exact congrArg some (o.conformance.get_accepted _ f)

/-! ## What is built -/

/-- What the command line leaves out: both standards at once, a device twice, and an empty path. -/
structure Parsed (o : ModelOptions) : Prop where
  standard : ¬ (o.conformance.pdfA.isSome ∧ o.conformance.pdfX)
  device : o.base.device = none ∨ o.base.deviceIndex = none
  profile : o.conformance.iccProfile ≠ some []

/-- What options have to satisfy. -/
structure Acceptable (files : Files) (saved : Preferences) (o : ModelOptions) : Prop where
  /-- A tier has all the options given, and if one is asked for, it is that one. -/
  kind : ∃ kind, (o.kind = none ∨ o.kind = some kind) ∧ ¬ o.Exceeds kind
  device : o.base.device = none → ∀ index, o.base.deviceIndex = some index →
    0 ≤ index ∧ index < (Device.catalog.length : Int)
  includes : ∀ path ∈ o.base.includes, files.isDirectory (Path.canonicalize path) = true
  debug : ∀ name ∈ o.debug, Debug.Known name
  firstPage : ∀ number, o.pdf.firstPage = some number → number = -1 ∨ 1 ≤ number
  lastPage : ∀ number, o.pdf.lastPage = some number → number = -1 ∨ 1 ≤ number
  level : ∀ number, o.conformance.pdfA = some number → 1 ≤ number ∧ number ≤ 3
  /-- The profile is where it is meant to be, spelled exactly so. -/
  profile : ∀ path, o.conformance.iccProfile = some path →
    ∃ resolved, files.resolveExisting (locateProfile files path saved.iccDir) false = .ok resolved

/-- A model holds what options describe. -/
structure Fills (files : Files) (saved : Preferences) (o : ModelOptions) (model : Model) :
    Prop where
  kind : o.resolveKind = .ok model.kind
  /-- What an option gives is in its field. -/
  given : ∀ field content, o.given? files saved field = some content →
    model.field? field = some content
  /-- A field whose option is absent has its default. -/
  absent : ∀ field, field ≠ .base .device → o.given? files saved field = none →
    model.field? field = (Model.blank model.kind).field? field
  /-- Without an option for it the device is the one saved, if that is in the catalog. -/
  device : o.base.device = none → o.base.deviceIndex = none →
    model.basis.device = (Device.at? saved.deviceIndex).getD ""

/-- Some options find the same in two settings: the device if none is asked for, and the directory
of profiles for a relative name that leads nowhere from here. -/
structure ConsultsAlike (files : Files) (saved other : Preferences) (o : ModelOptions) : Prop where
  device : o.base.device = none → o.base.deviceIndex = none →
    other.deviceIndex = saved.deviceIndex
  profile : ∀ path, o.conformance.iccProfile = some path → Path.isAbsolute path = false →
    files.doesExist path = false → other.iccDir = saved.iccDir

/-- Once a tier is settled, the later checks decide. -/
theorem firstRefusal?_checks {kind : Kind} (settled : o.resolveKind = .ok kind) :
    firstRefusal? (o.checks files saved) = firstRefusal? (o.laterChecks files saved) := by
  rw [checks, firstRefusal?_cons, kindRefusal?, settled]
  rfl

/-- The error of a model is that of the first check that fails. -/
theorem build_eq_error_iff {e : Error} :
    o.build files saved = .error e ↔ firstRefusal? (o.checks files saved) = some e := by
  cases settled : o.resolveKind with
  | error refusal =>
    have built : o.build files saved = .error refusal := by
      rw [build_eq, settled]
      rfl
    rw [built, checks, firstRefusal?_cons, kindRefusal?, settled]
    simp
  | ok kind =>
    rw [build_eq_unlessRefused settled, unlessRefused_eq_error_iff, firstRefusal?_checks settled]

/-- A model is built if no check fails. -/
theorem exists_build_iff :
    (∃ model, o.build files saved = .ok model) ↔ firstRefusal? (o.checks files saved) = none := by
  constructor
  · rintro ⟨model, built⟩
    rw [Option.eq_none_iff_forall_ne_some]
    intro e refused
    rw [build_eq_error_iff.mpr refused] at built
    cases built
  · intro accepted
    cases built : o.build files saved with
    | ok model => exact ⟨model, rfl⟩
    | error e =>
      rw [build_eq_error_iff, accepted] at built
      cases built

/-- A tier is settled on if one that may be taken has all the options given. -/
theorem kindRefusal?_eq_none_iff :
    o.kindRefusal? = none ↔
      ∃ kind, (o.kind = none ∨ o.kind = some kind) ∧ ¬ o.Exceeds kind := by
  rw [← exists_resolveKind_iff, kindRefusal?]
  cases o.resolveKind <;> simp

/-- Options are acceptable exactly if no check fails. -/
theorem acceptable_iff (parsed : o.Parsed) :
    o.Acceptable files saved ↔ firstRefusal? (o.checks files saved) = none := by
  have device := @BaseOptions.deviceRefusal?_eq_none_iff o.base
  have profile := @ConformanceOptions.profileRefusal?_eq_none_iff files saved o.conformance
    parsed.profile
  simp only [checks, firstRefusal?_cons, firstRefusal?_laterChecks, Option.or_eq_none_iff,
    kindRefusal?_eq_none_iff, device, List.findSome?_eq_none_iff, Sources.refusal?_eq_none_iff,
    Debug.switchRefusal?_eq_none_iff, PdfOptions.firstPageRefusal?, PdfOptions.lastPageRefusal?,
    pageRefusal?_eq_none_iff, ConformanceOptions.levelRefusal?, levelRefusal?_eq_none_iff,
    Option.bind_eq_none_iff, profile]
  constructor
  · intro a
    exact ⟨a.kind, ⟨a.device, a.includes⟩, a.debug, ⟨a.firstPage, a.lastPage⟩, a.level, a.profile⟩
  · rintro ⟨kind, ⟨device, includes⟩, debug, ⟨firstPage, lastPage⟩, level, profile⟩
    exact ⟨kind, device, includes, debug, firstPage, lastPage, level, profile⟩

/-- A model that has been built has every field from its option or its default. -/
theorem fills_of_build (exclusive : ¬ (o.conformance.pdfA.isSome ∧ o.conformance.pdfX))
    {model : Model} (built : o.build files saved = .ok model) : o.Fills files saved model := by
  obtain ⟨kind, settled, -⟩ := build_eq_ok_iff.mp built
  rw [build_eq_unlessRefused settled, unlessRefused_eq_ok_iff] at built
  obtain ⟨-, rfl⟩ := built
  have tier : (o.filled files saved kind).kind = kind := by cases kind <;> rfl
  have fields : ∀ field, (o.filled files saved kind).field? field = _ :=
    field?_filled settled exclusive
  refine ⟨by rw [tier, settled], ?_, ?_, ?_⟩
  · intro field content given
    rw [fields]
    cases has : o.fallback? saved kind field with
    | none =>
      rw [given?_eq_none settled has] at given
      cases given
    | some default => simp [given]
  · intro field other absent
    have default : o.fallback? saved kind field = (Model.blank kind).field? field := by
      unfold fallback?
      split
      next => exact absurd rfl other
      next => rfl
    rw [fields, default, tier, absent]
    simp
  · intro unnamed unplaced
    rw [basis_filled]
    simp [BaseOptions.filled, BaseOptions.askedDevice?, BaseOptions.savedDevice?, unnamed, unplaced]

variable {other : Preferences}

/-- Settings that are consulted alike name the same device. -/
theorem ConsultsAlike.savedDevice (alike : o.ConsultsAlike files saved other) :
    o.base.savedDevice? other = o.base.savedDevice? saved := by
  unfold BaseOptions.savedDevice?
  split
  next unasked => rw [alike.device unasked.1 unasked.2]
  next => rfl

/-- Settings that are consulted alike locate the same profile. -/
theorem ConsultsAlike.located (alike : o.ConsultsAlike files saved other) :
    o.conformance.located? files other = o.conformance.located? files saved := by
  unfold ConformanceOptions.located?
  cases named : o.conformance.iccProfile with
  | none => rfl
  | some path =>
    by_cases lost : Path.isAbsolute path = false ∧ files.doesExist path = false
    · rw [alike.profile path named lost.1 lost.2]
    · have kept : ∀ iccDir, locateProfile files path iccDir = path := by
        intro iccDir
        by_contra moved
        obtain ⟨relative, missing, -⟩ := of_locateProfile_ne moved
        exact lost ⟨relative, missing⟩
      rw [Option.map_some, Option.map_some, kept, kept]

/-- Settings that are consulted alike build the same model. -/
theorem build_congr (alike : o.ConsultsAlike files saved other) :
    o.build files other = o.build files saved := by
  cases settled : o.resolveKind with
  | error e =>
    have refused : ∀ saved, o.build files saved = .error e := by
      intro saved
      rw [build_eq, settled]
      rfl
    rw [refused, refused]
  | ok kind =>
    have checked : o.laterChecks files other = o.laterChecks files saved := by
      simp only [laterChecks, ConformanceOptions.profileRefusal?, alike.located]
    have base : o.base.filled other = o.base.filled saved := by
      rw [BaseOptions.filled, BaseOptions.filled, alike.savedDevice]
    have upper : o.conformance.accepted files other = o.conformance.accepted files saved := by
      funext pdf
      rw [ConformanceOptions.accepted, ConformanceOptions.accepted, alike.located]
    have same : o.filled files other kind = o.filled files saved kind := by
      cases kind <;> simp only [filled, base, upper]
    rw [build_eq_unlessRefused settled, build_eq_unlessRefused settled, checked, same]

/-- The options that the command line lets through give a model exactly if they are acceptable; if
not, the first check that fails is the answer. The model holds what the options describe, and the
settings matter only where the options consult them. -/
theorem fills_of_parsed (parsed : o.Parsed) (files : Files) (saved : Preferences) :
    ((∃ model, o.build files saved = .ok model) ↔ o.Acceptable files saved) ∧
    (∀ e, o.build files saved = .error e ↔ firstRefusal? (o.checks files saved) = some e) ∧
    (∀ model, o.build files saved = .ok model → o.Fills files saved model) ∧
    ∀ other, o.ConsultsAlike files saved other → o.build files other = o.build files saved := by
  refine ⟨?_, fun e => build_eq_error_iff, ?_, fun other alike => build_congr alike⟩
  · rw [acceptable_iff parsed, exists_build_iff]
  · intro model built
    exact fills_of_build parsed.standard built

/-- Options of every tier but the debug tier. -/
def archiving : ModelOptions where
  base := { deviceIndex := some 1, verbose := true, includes := ["/b/", "/a", "\\b"] }
  pdf := { hideAnnots := true, firstPage := some 2 }
  conformance := { pdfA := some 1, iccProfile := some (Path.ofText "p.icc") }

/-- Options of three tiers are found in their fields, and a field without an option at its default. -/
theorem fills_of_parsed_archiving :
    let files : Files := ⟨[(["a"], .directory), (["b"], .directory), (["icc"], .directory),
      (["icc", "p.icc"], .file [] false)], []⟩
    let saved : Preferences := { iccDir := "/icc", deviceIndex := 3 }
    archiving.Parsed ∧ archiving.Acceptable files saved ∧
      ∃ model, archiving.build files saved = .ok model ∧
        model.field? (.base .device) = some (.text "pdfwrite") ∧
        model.field? (.base .quiet) = some (.flag false) ∧
        model.field? (.base .sources) = some (.directories ["/b", "/a"]) ∧
        model.field? (.pdf .showAnnots) = some (.flag false) ∧
        model.field? (.pdf .pdfA) = some (.flag true) ∧
        model.field? (.pdf .lastPage) = some (.number (-1)) ∧
        model.field? (.conformance .iccProfile) = some (.text "/icc/p.icc") := by
  intro files saved
  have parsed : archiving.Parsed := ⟨by decide, by decide, by decide⟩
  have spec := fills_of_parsed parsed files saved
  have accepted : firstRefusal? (archiving.checks files saved) = none := by decide +kernel
  obtain ⟨model, built⟩ := exists_build_iff.mpr accepted
  have fills := spec.2.2.1 model built
  have tier : model.kind = .conformance := by
    have settled : archiving.resolveKind = .ok .conformance := by decide +kernel
    rw [fills.kind] at settled
    exact Except.ok.inj settled
  have last := fills.absent (.pdf .lastPage) (by decide) (by decide +kernel)
  rw [tier] at last
  exact ⟨parsed, spec.1.mp ⟨model, built⟩, model, built, fills.given _ _ (by decide +kernel),
    fills.given _ _ (by decide +kernel), fills.given _ _ (by decide +kernel),
    fills.given _ _ (by decide +kernel), fills.given _ _ (by decide +kernel), last,
    fills.given _ _ (by decide +kernel)⟩

end ModelOptions

end EngineTokens
