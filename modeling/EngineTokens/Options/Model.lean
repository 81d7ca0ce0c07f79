import EngineTokens.Params.Model

/-!
# Options of a run

What a user may ask for, tier by tier. An option that is not given leaves its field at the default.
The flags are worded so that not giving one is the default, which turns some of them around:
`verbose` stands for a run that is not quiet.
-/

set_option autoImplicit false

namespace EngineTokens

/-- Options of the base tier. -/
structure BaseOptions where
  device : Option String := none
  /-- A position in the device catalog. -/
  deviceIndex : Option Int := none
  output : Option String := none
  verbose : Bool := false
  interactive : Bool := false
  noPagePrompt : Bool := false
  noPause : Bool := false
  noPrompt : Bool := false
  noSafer : Bool := false
  shortErrors : Bool := false
  displayFormat : Option Display.Format := none
  displayResolution : Option Int := none
  /-- Directories to search, in the order given. -/
  includes : List String := []
  fontResourceDir : Option String := none
  genericResourceDir : Option String := none
  deriving DecidableEq, Repr, Inhabited

/-- Options of the PDF tier. -/
structure PdfOptions where
  colorStrategy : Option Strategy := none
  embedAllFonts : Bool := false
  newPdf : Bool := false
  pdfInfo : Bool := false
  fitPage : Bool := false
  title : Option String := none
  useBleedBox : Bool := false
  useTrimBox : Bool := false
  useArtBox : Bool := false
  useCropBox : Bool := false
  password : Option String := none
  hideAnnots : Bool := false
  hideAcroForm : Bool := false
  noUserUnit : Bool := false
  renderTtNotdef : Bool := false
  firstPage : Option Int := none
  lastPage : Option Int := none
  pageList : Option String := none
  noSubsetFonts : Bool := false
  deriving DecidableEq, Repr, Inhabited

/-- Options of the conformance tier. -/
structure ConformanceOptions where
  /-- PDF/A with a given part of the standard. -/
  pdfA : Option Int := none
  pdfX : Bool := false
  iccProfile : Option RawPath := none
  policy : Option Policy := none
  outputCondition : Option String := none
  deriving DecidableEq, Repr, Inhabited

/-- All options that describe a model, and those that go with its tokens. -/
structure ModelOptions where
  /-- The tier; if it is not given, the lowest tier that has all options given. -/
  kind : Option Params.Kind := none
  base : BaseOptions := {}
  pdf : PdfOptions := {}
  conformance : ConformanceOptions := {}
  /-- Names of debug switches, in the order given. -/
  debug : List String := []
  /-- Extra arguments, in place of the saved ones. -/
  extra : Option String := none
  host : Display.Host := {}
  deriving DecidableEq, Repr, Inhabited

/-- Some option of the PDF tier is given. -/
def PdfOptions.isGiven (o : PdfOptions) : Bool :=
  o.colorStrategy.isSome || o.embedAllFonts || o.newPdf || o.pdfInfo || o.fitPage ||
    o.title.isSome || o.useBleedBox || o.useTrimBox || o.useArtBox || o.useCropBox ||
    o.password.isSome || o.hideAnnots || o.hideAcroForm || o.noUserUnit || o.renderTtNotdef ||
    o.firstPage.isSome || o.lastPage.isSome || o.pageList.isSome || o.noSubsetFonts

/-- Some option of the conformance tier is given. -/
def ConformanceOptions.isGiven (o : ConformanceOptions) : Bool :=
  o.pdfA.isSome || o.pdfX || o.iccProfile.isSome || o.policy.isSome || o.outputCondition.isSome

/-- An option of the PDF tier is given exactly if the options differ from none at all. -/
theorem PdfOptions.isGiven_eq_false_iff {o : PdfOptions} : o.isGiven = false ↔ o = {} := by
  constructor
  · intro h
    simp only [isGiven, Bool.or_eq_false_iff, Option.isSome_eq_false_iff, Option.isNone_iff_eq_none]
      at h
    obtain ⟨a, b, c, d, e, f, g, i, j, k, l, m, n, p, q, r, s, t, u⟩ := o
    simp_all
  · rintro rfl
    rfl

/-- An option of the conformance tier is given exactly if the options differ from none at all. -/
theorem ConformanceOptions.isGiven_eq_false_iff {o : ConformanceOptions} :
    o.isGiven = false ↔ o = {} := by
  constructor
  · intro h
    simp only [isGiven, Bool.or_eq_false_iff, Option.isSome_eq_false_iff, Option.isNone_iff_eq_none]
      at h
    obtain ⟨a, b, c, d, e⟩ := o
    simp_all
  · rintro rfl
    rfl

end EngineTokens
