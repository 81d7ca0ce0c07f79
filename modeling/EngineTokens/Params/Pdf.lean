import EngineTokens.Color
import EngineTokens.Params.Base

/-!
# The PDF tier

Options for reading and writing PDF on top of the base tier. At most one of the standards PDF/A and
PDF/X is asked for, and under PDF/X the color strategy, if there is one, has to be gray or CMYK.
-/

set_option autoImplicit false

namespace EngineTokens.Params

/-- The number that stands for a page that is not set. -/
def pageUnset : Int := -1

/-- The base tier with PDF options. -/
structure Pdf where
  base : Base := {}
  colorStrategy : Strategy := .unset
  embedAllFonts : Bool := false
  /-- The newer interpreter is asked for. -/
  newPdf : Bool := false
  /-- Information on the document is shown instead of rendering it. -/
  pdfInfo : Bool := false
  fitPage : Bool := false
  title : String := ""
  useBleedBox : Bool := false
  useTrimBox : Bool := false
  useArtBox : Bool := false
  useCropBox : Bool := false
  password : String := ""
  showAnnots : Bool := true
  showAcroForm : Bool := true
  noUserUnit : Bool := false
  /-- Missing glyphs of TrueType fonts are drawn as the glyph for them. -/
  renderTtNotdef : Bool := false
  /-- A page counts from one. -/
  firstPage : Int := pageUnset
  lastPage : Int := pageUnset
  /-- The engine's own notation for lists of pages. -/
  pageList : String := ""
  subsetFonts : Bool := true
  /-- PDF/A is asked for. -/
  pdfA : Bool := false
  /-- PDF/X is asked for. -/
  pdfX : Bool := false
  deriving DecidableEq, Repr, Inhabited

/-- Checks a page number: one or more, or the number for a page that is not set. -/
def checkPage (field : String) (number : Int) : Except Error Unit :=
  if number = pageUnset ∨ 1 ≤ number then .ok () else .error (.outOfRange field number)

namespace Pdf

/-- The token of the color strategy, which PDF/X may rule out. -/
def strategyTokens (p : Pdf) : Except Error (List String) :=
  match p.colorStrategy.keyword? with
  | none => .ok []
  | some keyword =>
    if p.pdfX && !p.colorStrategy.allowedForPdfX then
      .error (.conformance
        ("PDF/X output requires the Gray or CMYK color conversion strategy, not " ++ keyword))
    else .ok [Token.text "-sColorConversionStrategy=" keyword]

/-- The tokens of the PDF options after the color strategy. -/
def optionTokens (p : Pdf) : List String :=
  Token.flagUnless false p.embedAllFonts "-dEmbedAllFonts=" ++
  Token.flagUnless false p.newPdf "-dNEWPDF=" ++
  Token.flagUnless false p.pdfInfo "-dPDFINFO" ++
  Token.flagUnless false p.fitPage "-dPDFFitPage" ++
  Token.textUnless "" p.title "-sTitle=" ++
  Token.flagUnless false p.useBleedBox "-dUseBleedBox" ++
  Token.flagUnless false p.useTrimBox "-dUseTrimBox" ++
  Token.flagUnless false p.useArtBox "-dUseArtBox" ++
  Token.flagUnless false p.useCropBox "-dUseCropBox" ++
  Token.textUnless "" p.password "-sPDFPassword=" ++
  Token.flagUnless true p.showAnnots "-dShowAnnots=" ++
  Token.flagUnless true p.showAcroForm "-dShowAcroForm=" ++
  Token.flagUnless false p.noUserUnit "-dNoUserUnit" ++
  Token.flagUnless false p.renderTtNotdef "-dRENDERTTNOTDEF" ++
  Token.numberUnless pageUnset p.firstPage "-dFirstPage=" ++
  Token.numberUnless pageUnset p.lastPage "-dLastPage=" ++
  Token.textUnless "" p.pageList "-sPageList=" ++
  Token.flagUnless true p.subsetFonts "-dSubsetFonts="

/-- Appends the tokens of the base tier, with a given set of include directories, and then those of
the PDF options. -/
def writeWith (p : Pdf) (host : Display.Host) (sources : Sources) (out : List String) : Written :=
  let started := out ++ p.base.tokensWith host sources
  match p.strategyTokens with
  | .error e => { tokens := started, failure := some e }
  | .ok strategy => { tokens := started ++ strategy ++ p.optionTokens }

/-- Appends the tokens of the PDF tier. -/
def write (p : Pdf) (host : Display.Host) (out : List String) : Written :=
  p.writeWith host p.base.sources out

/-- A change to one field of the PDF tier. -/
inductive Edit
  | base (edit : Base.Edit)
  | colorStrategy (strategy : Strategy)
  | embedAllFonts (on : Bool)
  | newPdf (on : Bool)
  | pdfInfo (on : Bool)
  | fitPage (on : Bool)
  | title (text : String)
  | useBleedBox (on : Bool)
  | useTrimBox (on : Bool)
  | useArtBox (on : Bool)
  | useCropBox (on : Bool)
  | password (text : String)
  | showAnnots (on : Bool)
  | showAcroForm (on : Bool)
  | noUserUnit (on : Bool)
  | renderTtNotdef (on : Bool)
  | firstPage (number : Int)
  | lastPage (number : Int)
  | pageList (text : String)
  | subsetFonts (on : Bool)
  | pdfA (on : Bool)
  | pdfX (on : Bool)
  deriving DecidableEq, Repr

/-- Makes a change in place. Each standard takes the place of the other when it is turned on, and
leaves it as it is when it is turned off. -/
def Edit.make (files : Files) : Edit → Steps Pdf (Option Bool)
  | .base edit => .within Pdf.base (fun p base => { p with base }) (edit.make files)
  | .colorStrategy strategy => .assign fun p => { p with colorStrategy := strategy }
  | .embedAllFonts on => .assign fun p => { p with embedAllFonts := on }
  | .newPdf on => .assign fun p => { p with newPdf := on }
  | .pdfInfo on => .assign fun p => { p with pdfInfo := on }
  | .fitPage on => .assign fun p => { p with fitPage := on }
  | .title text => .assign fun p => { p with title := text }
  | .useBleedBox on => .assign fun p => { p with useBleedBox := on }
  | .useTrimBox on => .assign fun p => { p with useTrimBox := on }
  | .useArtBox on => .assign fun p => { p with useArtBox := on }
  | .useCropBox on => .assign fun p => { p with useCropBox := on }
  | .password text => .assign fun p => { p with password := text }
  | .showAnnots on => .assign fun p => { p with showAnnots := on }
  | .showAcroForm on => .assign fun p => { p with showAcroForm := on }
  | .noUserUnit on => .assign fun p => { p with noUserUnit := on }
  | .renderTtNotdef on => .assign fun p => { p with renderTtNotdef := on }
  | .firstPage number => do
    checkPage "FirstPage" number
    .assign fun p => { p with firstPage := number }
  | .lastPage number => do
    checkPage "LastPage" number
    .assign fun p => { p with lastPage := number }
  | .pageList text => .assign fun p => { p with pageList := text }
  | .subsetFonts on => .assign fun p => { p with subsetFonts := on }
  | .pdfA on => do
    modify fun p => { p with pdfA := on }
    if on then modify fun p => { p with pdfX := false }
    return none
  | .pdfX on => do
    modify fun p => { p with pdfX := on }
    if on then modify fun p => { p with pdfA := false }
    return none

/-- Makes a change: the answer, and the tier after it. -/
def apply (files : Files) (p : Pdf) (edit : Edit) : Except Error (Option Bool) × Pdf :=
  (edit.make files).take p

end Pdf

end EngineTokens.Params
