import Mathlib.Control.Monad.Basic
import EngineTokens.Proofs.Params.Rows

/-!
# Models read back from their tokens

A reader that takes a token list from left to right, the baseline first, gets every field of the
base tier and of the PDF tier back, but for the two standards, and every debug switch. A name that
was never set stands for the default of its field; the baseline sets `QUIET` and `BATCH`, so that
for the reader these two are off by default. The display format and resolution are those in effect
on the host, and the search path is made of the include directories in effect.

This holds of all four tiers. The rows of a model (`Model.spells`) carry it: what is known after the
tokens is the value of each row (`known_rows`), and each field is decoded from its own row.
-/

set_option autoImplicit false

namespace EngineTokens

open Token (Row Known Spells flagRow textRow numberRow readTokens)

/-- The strategy of an engine's keyword. -/
def Strategy.ofKeyword? (keyword : String) : Option Strategy :=
  Strategy.all.find? fun strategy => strategy.keyword? == some keyword

/-- A strategy is read back from its keyword. -/
theorem Strategy.ofKeyword?_keyword {strategy : Strategy} {keyword : String}
    (named : strategy.keyword? = some keyword) : ofKeyword? keyword = some strategy := by
  cases strategy <;> cases named <;> decide

/-! ## Decoding one row -/

namespace Token.Known

variable {known : Known}

/-- A truth value is read back where its row holds. -/
theorem truth_eq {default value : Bool} {name : String}
    (holds : known (.name name) = (flagRow default value name).2) :
    known.truth default name = value := by
  unfold truth flagRow at *
  rw [holds]
  by_cases same : value = default
  · simp [same]
  · cases value <;> simp [same, Token.truth]

/-- A truth value is read back, whatever its default, where its row holds over a value that was set
before. -/
theorem truth_eq_of_or {default before value : Bool} {name : String}
    (holds : known (.name name) =
      (flagRow before value name).2.or (some (Token.truth before))) :
    known.truth default name = value := by
  unfold truth flagRow at *
  rw [holds]
  cases value <;> cases before <;> simp [Token.truth]

/-- A text is read back to the letter where its row holds. -/
theorem text_eq {value name : String} (holds : known (.name name) = (textRow value name).2) :
    known.text name = value := by
  unfold text textRow at *
  rw [holds]
  by_cases empty : value = "" <;> simp [empty]

/-- An integer is read back where its row holds. -/
theorem number?_eq {default value : Int} {name : String}
    (holds : known (.name name) = (numberRow default value name).2) :
    known.number? default name = some value := by
  unfold number? numberRow at *
  rw [holds]
  by_cases same : value = default
  · simp [same]
  · simp [same, Text.Integer.read?_write]

end Token.Known

/-- What the tokens of a table make known after the baseline: for `QUIET` and `BATCH`, the value of
their row or else what the baseline sets, and for everything else the value of its row. -/
theorem known_rows {tokens : List String} {quiet batch : Option String} {others : List Row}
    (spells : Spells tokens ((.name "QUIET", quiet) :: (.name "BATCH", batch) :: others))
    (distinct : (((.name "QUIET", quiet) :: (.name "BATCH", batch) :: others : List Row).map
      (·.1)).Nodup) :
    readTokens (Token.baseline ++ tokens) (.name "QUIET") = quiet.or (some (Token.truth true)) ∧
      readTokens (Token.baseline ++ tokens) (.name "BATCH") = batch.or (some (Token.truth true)) ∧
      ∀ row ∈ others, readTokens (Token.baseline ++ tokens) row.1 = row.2 := by
  have reads := spells.read distinct (readTokens Token.baseline)
  have split : readTokens (Token.baseline ++ tokens) =
      tokens.foldl Known.define (readTokens Token.baseline) := List.foldl_append
  rw [split]
  refine ⟨reads _ List.mem_cons_self, reads _ (List.mem_cons_of_mem _ List.mem_cons_self), ?_⟩
  intro row mem
  rw [reads row (List.mem_cons_of_mem _ (List.mem_cons_of_mem _ mem))]
  simp only [List.map_cons, List.nodup_cons, List.mem_cons, not_or] at distinct
  have slot : row.1 ∈ others.map (·.1) := List.mem_map_of_mem mem
  have notQuiet : row.1 ≠ .name "QUIET" := fun same => distinct.1.2 (same ▸ slot)
  have notBatch : row.1 ≠ .name "BATCH" := fun same => distinct.2.1 (same ▸ slot)
  have before : readTokens Token.baseline row.1 = none :=
    Spells.baseline.read_of_not_mem _ (by simp [notQuiet, notBatch])
  rw [before, Option.or_none]

namespace Params

/-! ## Decoding the tiers -/

/-- The base tier, without its include directories, as it is known after some tokens. -/
def Base.ofKnown? (known : Known) : Option Base := do
  let format ← known.number? 0 "DisplayFormat"
  let resolution ← known.number? 0 "DisplayResolution"
  return {
    quiet := known.truth false "QUIET"
    batch := known.truth false "BATCH"
    noPagePrompt := known.truth false "NOPAGEPROMPT"
    noPause := known.truth false "NOPAUSE"
    noPrompt := known.truth false "NOPROMPT"
    noSafer := known.truth false "NOSAFER"
    shortErrors := known.truth false "SHORTERRORS"
    device := known.text "DEVICE"
    displayFormat := ⟨BitVec.ofInt 32 format⟩
    displayResolution := resolution
    outputFile := known.text "OutputFile"
    fontResourceDir := known.text "FontResourceDir"
    genericResourceDir := known.text "GenericResourceDir" }

/-- The strategy that is known: none if the name was never set. -/
def knownStrategy? (known : Known) : Option Strategy :=
  match known (.name "ColorConversionStrategy") with
  | none => some .unset
  | some keyword => Strategy.ofKeyword? keyword

/-- The PDF tier, without its base tier and the standard asked for, as it is known after some
tokens. -/
def Pdf.ofKnown? (known : Known) : Option Pdf := do
  let colorStrategy ← knownStrategy? known
  let firstPage ← known.number? pageUnset "FirstPage"
  let lastPage ← known.number? pageUnset "LastPage"
  return {
    colorStrategy
    embedAllFonts := known.truth false "EmbedAllFonts"
    newPdf := known.truth false "NEWPDF"
    pdfInfo := known.truth false "PDFINFO"
    fitPage := known.truth false "PDFFitPage"
    title := known.text "Title"
    useBleedBox := known.truth false "UseBleedBox"
    useTrimBox := known.truth false "UseTrimBox"
    useArtBox := known.truth false "UseArtBox"
    useCropBox := known.truth false "UseCropBox"
    password := known.text "PDFPassword"
    showAnnots := known.truth true "ShowAnnots"
    showAcroForm := known.truth true "ShowAcroForm"
    noUserUnit := known.truth false "NoUserUnit"
    renderTtNotdef := known.truth false "RENDERTTNOTDEF"
    firstPage
    lastPage
    pageList := known.text "PageList"
    subsetFonts := known.truth true "SubsetFonts" }

variable {known : Known}

/-- The base tier is read back, with the display and the search path as they were written. -/
theorem Base.ofKnown?_eq (p : Base) (shown : EffectiveDisplay) (sources : Sources)
    (quiet : known (.name "QUIET") =
      (flagRow true p.quiet "QUIET").2.or (some (Token.truth true)))
    (batch : known (.name "BATCH") =
      (flagRow true p.batch "BATCH").2.or (some (Token.truth true)))
    (others : ∀ row ∈ p.ownRows shown sources, known row.1 = row.2) :
    Base.ofKnown? known = some { p with
        displayFormat := shown.format
        displayResolution := shown.resolution
        sources := {} } ∧
      known.searchPath = sources.joined := by
  simp only [ownRows, List.forall_mem_cons] at others
  obtain ⟨noPagePrompt, noPause, noPrompt, noSafer, shortErrors, device, format, resolution,
    search, fontResourceDir, genericResourceDir, outputFile, -⟩ := others
  constructor
  · rw [ofKnown?, Known.number?_eq format, Known.number?_eq resolution]
    simp only [Known.truth_eq_of_or quiet, Known.truth_eq_of_or batch,
      Known.truth_eq noPagePrompt, Known.truth_eq noPause, Known.truth_eq noPrompt,
      Known.truth_eq noSafer, Known.truth_eq shortErrors, Known.text_eq device,
      Known.text_eq outputFile, Known.text_eq fontResourceDir, Known.text_eq genericResourceDir]
    simp
  · unfold Known.searchPath
    rw [search]
    cases empty : sources.isEmpty with
    | false => rfl
    | true =>
      have none : sources.entries = [] := List.isEmpty_iff.mp empty
      rw [Sources.joined, none]
      rfl

/-- The strategy is read back from its keyword, or from there being none. -/
theorem knownStrategy?_eq {strategy : Strategy}
    (holds : known (.name "ColorConversionStrategy") = strategy.keyword?) :
    knownStrategy? known = some strategy := by
  unfold knownStrategy?
  rw [holds]
  cases named : strategy.keyword? with
  | none => cases strategy <;> first | rfl | cases named
  | some keyword => exact Strategy.ofKeyword?_keyword named

/-- A page in decimal, if it is set. -/
def pageText? (page : Int) : Option String :=
  if page = pageUnset then none else some (toString page)

/-- A page is written in decimal where it is set. -/
theorem page_text {page : Int} {name : String}
    (holds : known (.name name) = (numberRow pageUnset page name).2) :
    known (.name name) = pageText? page := by
  rw [holds, numberRow, pageText?, Text.Integer.ofList_write]

/-- The PDF tier is read back, but for the standard asked for. The strategy is known by its keyword,
and a page that is set by its decimal number. -/
theorem Pdf.ofKnown?_eq (p : Pdf) (told : ∀ row ∈ p.rows, known row.1 = row.2) :
    Pdf.ofKnown? known = some { p with base := {}, pdfA := false, pdfX := false } ∧
      known (.name "ColorConversionStrategy") = p.colorStrategy.keyword? ∧
      known (.name "FirstPage") = pageText? p.firstPage ∧
      known (.name "LastPage") = pageText? p.lastPage := by
  simp only [rows, List.forall_mem_cons] at told
  obtain ⟨strategy, embedAllFonts, newPdf, pdfInfo, fitPage, title, useBleedBox, useTrimBox,
    useArtBox, useCropBox, password, showAnnots, showAcroForm, noUserUnit, renderTtNotdef,
    firstPage, lastPage, pageList, subsetFonts, -⟩ := told
  refine ⟨?_, strategy, page_text firstPage, page_text lastPage⟩
  rw [ofKnown?, knownStrategy?_eq strategy, Known.number?_eq firstPage, Known.number?_eq lastPage]
  simp only [Known.truth_eq embedAllFonts, Known.truth_eq newPdf, Known.truth_eq pdfInfo,
    Known.truth_eq fitPage, Known.text_eq title, Known.truth_eq useBleedBox,
    Known.truth_eq useTrimBox, Known.truth_eq useArtBox, Known.truth_eq useCropBox,
    Known.text_eq password, Known.truth_eq showAnnots, Known.truth_eq showAcroForm,
    Known.truth_eq noUserUnit, Known.truth_eq renderTtNotdef, Known.text_eq pageList,
    Known.truth_eq subsetFonts]
  simp

/-- The output condition is read back to the letter. -/
theorem Conformance.text_outputCondition (p : Conformance)
    (told : ∀ row ∈ p.rows, known row.1 = row.2) :
    known.text "PDFOutputConditionIdentifier" = p.outputCondition := by
  simp only [rows, List.forall_mem_cons] at told
  exact Known.text_eq told.2.2.2.2.1

/-- A switch is known to be on exactly if its bit is set in the word whose table holds. -/
theorem Debug.truth_switch {word : BitVec 32}
    (told : ∀ row ∈ Debug.rows word, known row.1 = row.2) :
    ∀ switch ∈ Debug.switches, known.truth false switch.2 = Debug.covers word switch.1 := by
  intro switch mem
  have holds := told _ (List.mem_map_of_mem mem)
  unfold Known.truth
  rw [holds]
  cases Debug.covers word switch.1 <;> rfl

/-! ## Models -/

namespace Model

/-- What is known tells a model: each of its fields is read back, as far as the tokens of a run on a
host with some include directories can tell it. -/
structure Told (model : Model) (host : Display.Host) (sources : Sources) (known : Known) :
    Prop where
  /-- The base tier, with the display in effect. -/
  base : Base.ofKnown? known = some { model.basis with
    displayFormat := (model.basis.effectiveDisplay host).format
    displayResolution := (model.basis.effectiveDisplay host).resolution
    sources := {} }
  /-- The PDF tier without the standard asked for. -/
  pdf : Pdf.ofKnown? known = some { model.pdfPart with base := {}, pdfA := false, pdfX := false }
  /-- The keyword of the strategy, or nothing. -/
  strategy : known (.name "ColorConversionStrategy") = model.pdfPart.colorStrategy.keyword?
  /-- The pages in decimal, where they are set. -/
  firstPage : known (.name "FirstPage") = pageText? model.pdfPart.firstPage
  lastPage : known (.name "LastPage") = pageText? model.pdfPart.lastPage
  /-- The output condition. -/
  outputCondition :
    known.text "PDFOutputConditionIdentifier" = model.conformancePart.outputCondition
  /-- Each debug switch. -/
  switches : ∀ switch ∈ Debug.switches,
    known.truth false switch.2 = Debug.covers model.debugWord switch.1
  /-- The include directories. -/
  searchPath : known.searchPath = sources.joined

/-- The tokens of a model's table tell the model after the baseline. -/
theorem told_of_spells {model : Model} {host : Display.Host} {sources : Sources}
    {tokens : List String} (spells : Spells tokens (model.rows host sources)) :
    model.Told host sources (readTokens (Token.baseline ++ tokens)) := by
  obtain ⟨quiet, batch, others⟩ := known_rows spells (model.rows_distinct host sources)
  have upper : ∀ row ∈ model.upperRows,
      readTokens (Token.baseline ++ tokens) row.1 = row.2 :=
    fun row mem => others row (List.mem_append_right _ mem)
  have pdfRows : ∀ row ∈ model.pdfPart.rows,
      readTokens (Token.baseline ++ tokens) row.1 = row.2 :=
    fun row mem => upper row (List.mem_append_left _ (List.mem_append_left _ mem))
  have conformanceRows : ∀ row ∈ model.conformancePart.rows,
      readTokens (Token.baseline ++ tokens) row.1 = row.2 :=
    fun row mem => upper row (List.mem_append_left _ (List.mem_append_right _ mem))
  have debugRows : ∀ row ∈ Debug.rows model.debugWord,
      readTokens (Token.baseline ++ tokens) row.1 = row.2 :=
    fun row mem => upper row (List.mem_append_right _ mem)
  obtain ⟨base, searchPath⟩ := Base.ofKnown?_eq model.basis
    (model.basis.effectiveDisplay host) sources quiet batch
    fun row mem => others row (List.mem_append_left _ mem)
  obtain ⟨pdf, strategy, firstPage, lastPage⟩ := Pdf.ofKnown?_eq model.pdfPart pdfRows
  exact {
    base, pdf, strategy, firstPage, lastPage, searchPath
    outputCondition := Conformance.text_outputCondition model.conformancePart conformanceRows
    switches := Debug.truth_switch debugRows }

/-- Every token of a written list sets something, nothing is set twice, and a reader that starts
from the baseline gets the model back. -/
theorem told_of_toArgs {files : Files} {model : Model} {host : Display.Host}
    {tokens : List String} (written : model.toArgs files host = .ok tokens) :
    (∀ token ∈ tokens, (Token.assigned? token).isSome = true) ∧
      ((tokens.filterMap Token.assigned?).map (·.1)).Nodup ∧
      ∃ sources, model.effectiveSources files = .ok sources ∧
        model.Told host sources (readTokens (Token.baseline ++ tokens)) := by
  obtain ⟨sources, effective, spells⟩ := Model.spells written
  refine ⟨fun token mem => spells.assigned mem, ?_, sources, effective, told_of_spells spells⟩
  exact spells.nodup (model.rows_distinct host sources)

/-- A PDF/A run on the preview device, with texts that look like tokens themselves. -/
def profileRun : Model :=
  .conformance {
    pdf := {
      base := {
        quiet := false
        device := "Display"
        outputFile := "a=b.pdf"
        sources := ⟨["/inc"]⟩ }
      colorStrategy := .gray
      title := "-dQUIET"
      firstPage := 12
      pdfA := true }
    iccProfile := "/icc/p.icc"
    level := 2
    outputCondition := "FOGRA39" }

/-- A file system with the directories and the profile of that run. -/
def profileFiles : Files where
  entries := [(["inc"], .directory), (["icc"], .directory), (["icc", "p.icc"], .file [] false)]
  here := []

/-- The tokens of that run. -/
def profileTokens : List String :=
  ["-dQUIET=false", "-sDEVICE=Display", "-dDisplayFormat=67588", "-dDisplayResolution=96",
    "-I/inc;/icc", "-sOutputFile=a=b.pdf", "-sColorConversionStrategy=Gray", "-sTitle=-dQUIET",
    "-dFirstPage=12", "-dPDFA=2", "-dPDFACompatibilityPolicy=2", "-sICCProfile=/icc/p.icc",
    "-sPDFOutputConditionIdentifier=FOGRA39"]

/-- That run is read back, although its title and its output file look like definitions. -/
theorem told_of_toArgs_profileRun :
    profileRun.toArgs profileFiles {} = .ok profileTokens ∧
      ((profileTokens.filterMap Token.assigned?).map (·.1)).Nodup ∧
      ∃ sources, profileRun.effectiveSources profileFiles = .ok sources ∧
        profileRun.Told {} sources (readTokens (Token.baseline ++ profileTokens)) := by
  have written : profileRun.toArgs profileFiles {} = .ok profileTokens := by decide +kernel
  exact ⟨written, (told_of_toArgs written).2⟩

end Model

end Params

end EngineTokens
