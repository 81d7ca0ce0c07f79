import EngineTokens.Params.Call
import EngineTokens.Proofs.Path.Canonical

/-!
# The fields of a model

A model is seen through its fields, as its holder sees it: each has a content, and two models of one
tier with the same fields are the same (`eq_of_field?_eq`). What a change does is then one field
that takes a content, and another that may be switched off with it; `Effect.on` is the whole of it,
all other fields staying as they are.

Whether a change is refused depends on the change and the files alone, not on the model.
-/

set_option autoImplicit false

namespace EngineTokens.Params

/-- The content of a field. -/
inductive Content
  | flag (on : Bool)
  | text (s : String)
  | number (n : Int)
  | format (format : Display.Format)
  | strategy (strategy : Strategy)
  | policy (policy : Policy)
  | word (bits : BitVec 32)
  | directories (paths : List String)
  deriving DecidableEq, Repr

/-- The fields of the base tier. -/
inductive Base.Field
  | quiet
  | batch
  | noPagePrompt
  | noPause
  | noPrompt
  | noSafer
  | shortErrors
  | device
  | displayFormat
  | displayResolution
  | outputFile
  | fontResourceDir
  | genericResourceDir
  | sources
  deriving DecidableEq, Repr

/-- The fields of the PDF tier. -/
inductive Pdf.Field
  | colorStrategy
  | embedAllFonts
  | newPdf
  | pdfInfo
  | fitPage
  | title
  | useBleedBox
  | useTrimBox
  | useArtBox
  | useCropBox
  | password
  | showAnnots
  | showAcroForm
  | noUserUnit
  | renderTtNotdef
  | firstPage
  | lastPage
  | pageList
  | subsetFonts
  | pdfA
  | pdfX
  deriving DecidableEq, Repr

/-- The fields of the conformance tier. -/
inductive Conformance.Field
  | iccProfile
  | level
  | policy
  | outputCondition
  deriving DecidableEq, Repr

/-- A field of any tier. -/
inductive Field
  | base (field : Base.Field)
  /-- The word of the debug tier. -/
  | flags
  | pdf (field : Pdf.Field)
  | conformance (field : Conformance.Field)
  deriving DecidableEq, Repr

/-! ## Contents -/

/-- The content of a field of the base tier. -/
def Base.get (p : Base) : Base.Field → Content
  | .quiet => .flag p.quiet
  | .batch => .flag p.batch
  | .noPagePrompt => .flag p.noPagePrompt
  | .noPause => .flag p.noPause
  | .noPrompt => .flag p.noPrompt
  | .noSafer => .flag p.noSafer
  | .shortErrors => .flag p.shortErrors
  | .device => .text p.device
  | .displayFormat => .format p.displayFormat
  | .displayResolution => .number p.displayResolution
  | .outputFile => .text p.outputFile
  | .fontResourceDir => .text p.fontResourceDir
  | .genericResourceDir => .text p.genericResourceDir
  | .sources => .directories p.sources.entries

/-- The content of a field of the PDF tier. -/
def Pdf.get (p : Pdf) : Pdf.Field → Content
  | .colorStrategy => .strategy p.colorStrategy
  | .embedAllFonts => .flag p.embedAllFonts
  | .newPdf => .flag p.newPdf
  | .pdfInfo => .flag p.pdfInfo
  | .fitPage => .flag p.fitPage
  | .title => .text p.title
  | .useBleedBox => .flag p.useBleedBox
  | .useTrimBox => .flag p.useTrimBox
  | .useArtBox => .flag p.useArtBox
  | .useCropBox => .flag p.useCropBox
  | .password => .text p.password
  | .showAnnots => .flag p.showAnnots
  | .showAcroForm => .flag p.showAcroForm
  | .noUserUnit => .flag p.noUserUnit
  | .renderTtNotdef => .flag p.renderTtNotdef
  | .firstPage => .number p.firstPage
  | .lastPage => .number p.lastPage
  | .pageList => .text p.pageList
  | .subsetFonts => .flag p.subsetFonts
  | .pdfA => .flag p.pdfA
  | .pdfX => .flag p.pdfX

/-- The content of a field of the conformance tier. -/
def Conformance.get (p : Conformance) : Conformance.Field → Content
  | .iccProfile => .text p.iccProfile
  | .level => .number p.level
  | .policy => .policy p.policy
  | .outputCondition => .text p.outputCondition

/-- The content of a field, if the model has it. -/
def Model.field? (model : Model) (field : Field) : Option Content :=
  match field, model with
  | .base f, model => some (model.basis.get f)
  | .flags, .debug p => some (.word p.flags)
  | .pdf f, .pdf p => some (p.get f)
  | .pdf f, .conformance p => some (p.pdf.get f)
  | .conformance f, .conformance p => some (p.get f)
  | _, _ => none

/-- The fields are all there is to the base tier. -/
theorem Base.eq_of_get_eq {p q : Base} (same : ∀ f, p.get f = q.get f) : p = q := by
  have sources : p.sources = q.sources := by
    have entries := same .sources
    simp only [get, Content.directories.injEq] at entries
    exact congrArg Sources.mk entries
  obtain ⟨⟩ := p
  obtain ⟨⟩ := q
  simp only [get] at same sources
  rw [Base.mk.injEq]
  refine ⟨?_, ?_, ?_, ?_, ?_, ?_, ?_, ?_, ?_, ?_, ?_, ?_, ?_, sources⟩
  · exact Content.flag.inj (same .quiet)
  · exact Content.flag.inj (same .batch)
  · exact Content.flag.inj (same .noPagePrompt)
  · exact Content.flag.inj (same .noPause)
  · exact Content.flag.inj (same .noPrompt)
  · exact Content.flag.inj (same .noSafer)
  · exact Content.flag.inj (same .shortErrors)
  · exact Content.text.inj (same .device)
  · exact Content.format.inj (same .displayFormat)
  · exact Content.number.inj (same .displayResolution)
  · exact Content.text.inj (same .outputFile)
  · exact Content.text.inj (same .fontResourceDir)
  · exact Content.text.inj (same .genericResourceDir)

/-- The fields are all there is to the PDF tier above its base tier. -/
theorem Pdf.eq_of_get_eq {p q : Pdf} (base : p.base = q.base) (same : ∀ f, p.get f = q.get f) :
    p = q := by
  obtain ⟨⟩ := p
  obtain ⟨⟩ := q
  simp only [get] at same base
  rw [Pdf.mk.injEq]
  refine ⟨base, ?_, ?_, ?_, ?_, ?_, ?_, ?_, ?_, ?_, ?_, ?_, ?_, ?_, ?_, ?_, ?_, ?_, ?_, ?_, ?_, ?_⟩
  · exact Content.strategy.inj (same .colorStrategy)
  · exact Content.flag.inj (same .embedAllFonts)
  · exact Content.flag.inj (same .newPdf)
  · exact Content.flag.inj (same .pdfInfo)
  · exact Content.flag.inj (same .fitPage)
  · exact Content.text.inj (same .title)
  · exact Content.flag.inj (same .useBleedBox)
  · exact Content.flag.inj (same .useTrimBox)
  · exact Content.flag.inj (same .useArtBox)
  · exact Content.flag.inj (same .useCropBox)
  · exact Content.text.inj (same .password)
  · exact Content.flag.inj (same .showAnnots)
  · exact Content.flag.inj (same .showAcroForm)
  · exact Content.flag.inj (same .noUserUnit)
  · exact Content.flag.inj (same .renderTtNotdef)
  · exact Content.number.inj (same .firstPage)
  · exact Content.number.inj (same .lastPage)
  · exact Content.text.inj (same .pageList)
  · exact Content.flag.inj (same .subsetFonts)
  · exact Content.flag.inj (same .pdfA)
  · exact Content.flag.inj (same .pdfX)

/-- The fields are all there is to the conformance tier above its PDF tier. -/
theorem Conformance.eq_of_get_eq {p q : Conformance} (pdf : p.pdf = q.pdf)
    (same : ∀ f, p.get f = q.get f) : p = q := by
  obtain ⟨⟩ := p
  obtain ⟨⟩ := q
  simp only [get] at same pdf
  rw [Conformance.mk.injEq]
  refine ⟨pdf, ?_, ?_, ?_, ?_⟩
  · exact Content.text.inj (same .iccProfile)
  · exact Content.number.inj (same .level)
  · exact Content.policy.inj (same .policy)
  · exact Content.text.inj (same .outputCondition)

namespace Model

/-- The fields are all there is to a model of a given tier. -/
theorem eq_of_field?_eq {first second : Model} (tier : first.kind = second.kind)
    (same : ∀ field, first.field? field = second.field? field) : first = second := by
  have base : first.basis = second.basis :=
    Base.eq_of_get_eq fun f => Option.some.inj (same (.base f))
  cases first with
  | base p =>
    cases second with
    | base q => exact congrArg Model.base base
    | _ => cases tier
  | debug p =>
    cases second with
    | debug q =>
      obtain ⟨base, flags⟩ := p
      obtain ⟨base, flags⟩ := q
      have word := Content.word.inj (Option.some.inj (same .flags))
      simp only [basis] at base word
      subst base word
      rfl
    | _ => cases tier
  | pdf p =>
    cases second with
    | pdf q =>
      exact congrArg Model.pdf (Pdf.eq_of_get_eq base fun f => Option.some.inj (same (.pdf f)))
    | _ => cases tier
  | conformance p =>
    cases second with
    | conformance q =>
      have pdf : p.pdf = q.pdf := Pdf.eq_of_get_eq base fun f => Option.some.inj (same (.pdf f))
      exact congrArg Model.conformance
        (Conformance.eq_of_get_eq pdf fun f => Option.some.inj (same (.conformance f)))
    | _ => cases tier

end Model

end EngineTokens.Params
