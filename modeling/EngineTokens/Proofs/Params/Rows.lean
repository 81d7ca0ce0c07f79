import EngineTokens.Proofs.Params.Assembly
import EngineTokens.Proofs.Token.Reading

/-!
# The tables of the tiers

Each tier has a table of what its tokens can set, in the order of the tokens. `Model.spells` is the
main statement: the token list of a model of any tier spells one table with a row for everything
that any tier can set, where the tiers that the model lacks have no values. No two of its rows are
about the same thing (`Model.rows_distinct`), so that no token list sets anything twice.
-/

set_option autoImplicit false

namespace EngineTokens.Params

open Token (Row Spells flagRow textRow numberRow)

/-! ## The tables -/

/-- What the base tier sets besides the two names of the baseline. -/
def Base.ownRows (p : Base) (shown : EffectiveDisplay) (sources : Sources) : List Row :=
  [flagRow false p.noPagePrompt "NOPAGEPROMPT",
    flagRow false p.noPause "NOPAUSE",
    flagRow false p.noPrompt "NOPROMPT",
    flagRow false p.noSafer "NOSAFER",
    flagRow false p.shortErrors "SHORTERRORS",
    textRow p.device "DEVICE",
    numberRow 0 shown.format.bits.toNat "DisplayFormat",
    numberRow 0 shown.resolution "DisplayResolution",
    (.search, if sources.isEmpty then none else some sources.joined),
    textRow p.fontResourceDir "FontResourceDir",
    textRow p.genericResourceDir "GenericResourceDir",
    textRow p.outputFile "OutputFile"]

/-- What the base tier sets. -/
def Base.rows (p : Base) (shown : EffectiveDisplay) (sources : Sources) : List Row :=
  flagRow true p.quiet "QUIET" :: flagRow true p.batch "BATCH" :: p.ownRows shown sources

/-- What the PDF tier sets, the base tier aside. -/
def Pdf.rows (p : Pdf) : List Row :=
  [(.name "ColorConversionStrategy", p.colorStrategy.keyword?),
    flagRow false p.embedAllFonts "EmbedAllFonts",
    flagRow false p.newPdf "NEWPDF",
    flagRow false p.pdfInfo "PDFINFO",
    flagRow false p.fitPage "PDFFitPage",
    textRow p.title "Title",
    flagRow false p.useBleedBox "UseBleedBox",
    flagRow false p.useTrimBox "UseTrimBox",
    flagRow false p.useArtBox "UseArtBox",
    flagRow false p.useCropBox "UseCropBox",
    textRow p.password "PDFPassword",
    flagRow true p.showAnnots "ShowAnnots",
    flagRow true p.showAcroForm "ShowAcroForm",
    flagRow false p.noUserUnit "NoUserUnit",
    flagRow false p.renderTtNotdef "RENDERTTNOTDEF",
    numberRow pageUnset p.firstPage "FirstPage",
    numberRow pageUnset p.lastPage "LastPage",
    textRow p.pageList "PageList",
    flagRow true p.subsetFonts "SubsetFonts"]

/-- An integer in decimal where a condition holds. -/
def numberWhere (condition : Bool) (value : Int) : Option String :=
  if condition then some (String.ofList (Text.Integer.write value)) else none

/-- What the conformance tier sets, the PDF tier aside. PDF/X is written where PDF/A is not. -/
def Conformance.rows (p : Conformance) : List Row :=
  [(.name "PDFA", numberWhere p.pdf.pdfA p.level),
    (.name "PDFACompatibilityPolicy", numberWhere p.pdf.pdfA p.policy.value),
    (.name "PDFX", if !p.pdf.pdfA && p.pdf.pdfX then some (Token.truth true) else none),
    textRow (if p.isActive then p.iccProfile else "") "ICCProfile",
    textRow p.outputCondition "PDFOutputConditionIdentifier"]

/-- What the debug tier sets for a word, the base tier aside. -/
def Debug.rows (word : BitVec 32) : List Row :=
  Debug.switches.map fun switch =>
    (.name switch.2, if Debug.covers word switch.1 then some (Token.truth true) else none)

namespace Model

/-- The PDF tier of a model, at its defaults in a model without one. -/
def pdfPart : Model → Pdf
  | .base _ | .debug _ => {}
  | .pdf p => p
  | .conformance p => p.pdf

/-- The conformance tier of a model, at its defaults in a model without one. -/
def conformancePart : Model → Conformance
  | .base _ | .debug _ | .pdf _ => {}
  | .conformance p => p

/-- The word of debug switches of a model, zero in a model without one. -/
def debugWord : Model → BitVec 32
  | .debug p => p.flags
  | .base _ | .pdf _ | .conformance _ => 0

/-- What the tiers above the base tier set. -/
def upperRows (model : Model) : List Row :=
  model.pdfPart.rows ++ model.conformancePart.rows ++ Debug.rows model.debugWord

/-- What a model sets on a host with some include directories. -/
def rows (model : Model) (host : Display.Host) (sources : Sources) : List Row :=
  model.basis.rows (model.basis.effectiveDisplay host) sources ++ model.upperRows

end Model

/-! ## The tokens of each tier -/

/-- The include directories are one token, if there are any. -/
theorem Sources.spells (sources : Sources) :
    Spells sources.tokens [(.search, if sources.isEmpty then none else some sources.joined)] := by
  unfold Sources.tokens Token.text
  split
  · exact .nil_of_absent (by simp)
  · exact .token (Token.assigned?_append (by decide) _)

/-- The tokens of the base tier spell its table. -/
theorem Base.spells (p : Base) (host : Display.Host) (sources : Sources) :
    Spells (p.tokensWith host sources) (p.rows (p.effectiveDisplay host) sources) := by
  unfold tokensWith
  simp only [List.append_assoc]
  refine .cons (.flag (by decide) (by decide)) (.cons (.flag (by decide) (by decide)) ?_)
  refine .cons (.bare (by decide) (by decide)) (.cons (.bare (by decide) (by decide)) ?_)
  refine .cons (.bare (by decide) (by decide)) (.cons (.bare (by decide) (by decide)) ?_)
  refine .cons (.bare (by decide) (by decide)) (.cons (.text (by decide)) ?_)
  refine .cons (.number (by decide)) (.cons (.number (by decide)) (.cons sources.spells ?_))
  exact .cons (.text (by decide)) (.cons (.text (by decide)) (.text (by decide)))

/-- The tokens of the color strategy, where it is admitted, spell its keyword. -/
theorem Pdf.spells_strategy {p : Pdf} {strategy : List String}
    (written : p.strategyTokens = .ok strategy) :
    Spells strategy [(.name "ColorConversionStrategy", p.colorStrategy.keyword?)] := by
  unfold strategyTokens at written
  cases keyword : p.colorStrategy.keyword? with
  | none =>
    rw [keyword] at written
    cases written
    exact .nil_of_absent (by simp)
  | some word =>
    simp only [keyword] at written
    split at written
    · cases written
    · cases written
      exact .token (Token.assigned?_append (by decide) _)

/-- The tokens of the PDF options spell their table. -/
theorem Pdf.spells {p : Pdf} {strategy : List String}
    (written : p.strategyTokens = .ok strategy) :
    Spells (strategy ++ p.optionTokens) p.rows := by
  refine .cons (spells_strategy written) ?_
  unfold optionTokens
  simp only [List.append_assoc]
  refine .cons (.flag (by decide) (by decide)) (.cons (.flag (by decide) (by decide)) ?_)
  refine .cons (.bare (by decide) (by decide)) (.cons (.bare (by decide) (by decide)) ?_)
  refine .cons (.text (by decide)) (.cons (.bare (by decide) (by decide)) ?_)
  refine .cons (.bare (by decide) (by decide)) (.cons (.bare (by decide) (by decide)) ?_)
  refine .cons (.bare (by decide) (by decide)) (.cons (.text (by decide)) ?_)
  refine .cons (.flag (by decide) (by decide)) (.cons (.flag (by decide) (by decide)) ?_)
  refine .cons (.bare (by decide) (by decide)) (.cons (.bare (by decide) (by decide)) ?_)
  refine .cons (.number (by decide)) (.cons (.number (by decide)) ?_)
  exact .cons (.text (by decide)) (.flag (by decide) (by decide))

/-- An integer is spelled behind its name. -/
theorem spells_number {head name : String} (value : Int)
    (opens : Token.assigned? head = some (.name name, "")) :
    Spells [Token.number head value] [(.name name, numberWhere true value)] :=
  .token (Token.assigned?_append opens _)

/-- The tokens that ask for one of the two standards spell its rows. -/
theorem Conformance.spells_standard (p : Conformance) :
    Spells
      (if p.pdf.pdfA then
          [Token.number "-dPDFA=" p.level,
            Token.number "-dPDFACompatibilityPolicy=" p.policy.value]
        else if p.pdf.pdfX then [Token.flag "-dPDFX" true]
        else [])
      [(.name "PDFA", numberWhere p.pdf.pdfA p.level),
        (.name "PDFACompatibilityPolicy", numberWhere p.pdf.pdfA p.policy.value),
        (.name "PDFX", if !p.pdf.pdfA && p.pdf.pdfX then some (Token.truth true) else none)] := by
  have absent : Spells [] [(.name "PDFA", numberWhere false p.level),
      (.name "PDFACompatibilityPolicy", numberWhere false p.policy.value)] :=
    .nil_of_absent (by simp [numberWhere])
  cases p.pdf.pdfA with
  | true =>
    refine .cons (spells_number _ (by decide)) (.cons (spells_number _ (by decide)) ?_)
    exact .nil_of_absent (by simp)
  | false =>
    cases p.pdf.pdfX with
    | false => exact absent.append (.nil_of_absent (by simp))
    | true => exact absent.append (.token (by decide))

/-- The tokens of the conformance options spell their table. -/
theorem Conformance.spells (p : Conformance) : Spells p.standardTokens p.rows := by
  unfold standardTokens
  rw [List.append_assoc]
  refine .append p.spells_standard (.cons ?_ (.text (by decide)))
  cases p.isActive with
  | false => exact .nil_of_absent (by simp [textRow])
  | true => exact .text (by decide)

/-- A token for each switch that is on spells the table of a word. -/
theorem Debug.spells (word : BitVec 32) :
    Spells ((Debug.enabled word).map fun name => Token.text "-d" name) (Debug.rows word) := by
  have sets : ∀ switch ∈ Debug.switches, Token.assigned? (Token.text "-d" switch.2) =
      some (.name switch.2, Token.truth true) := by decide
  unfold Debug.enabled Debug.rows
  generalize Debug.switches = switches at sets ⊢
  induction switches with
  | nil => exact .nil_of_absent (by simp)
  | cons switch switches ih =>
    have rest := ih fun other mem => sets other (List.mem_cons_of_mem _ mem)
    cases on : Debug.covers word switch.1 with
    | false =>
      simp only [List.map_cons, List.filter_cons, on]
      exact .cons (.nil_of_absent (by simp)) rest
    | true =>
      simp only [List.map_cons, List.filter_cons, on, if_true]
      exact .cons (.token (sets switch List.mem_cons_self)) rest

namespace Model

/-- No two rows of a model are about the same thing. -/
theorem rows_distinct (model : Model) (host : Display.Host) (sources : Sources) :
    ((model.rows host sources).map (·.1)).Nodup := by
  have slots : (model.rows host sources).map (·.1) =
      ((Model.base {}).rows {} {}).map (·.1) := rfl
  rw [slots]
  decide +kernel

/-- The tokens of the tiers above the base tier spell their tables. -/
theorem spells_upper {model : Model} {upper : List String}
    (written : model.upperTokens = .ok upper) : Spells upper model.upperRows := by
  -- what a model lacks is at its default, and a default is not spelled
  have unset : ∀ row ∈ ({} : Pdf).rows ++ ({} : Conformance).rows, row.2 = none := by decide
  have plain : ∀ row ∈ ({} : Conformance).rows ++ Debug.rows 0, row.2 = none := by decide
  have off : ∀ row ∈ Debug.rows 0, row.2 = none := by decide
  unfold upperRows
  cases model with
  | base p =>
    cases written
    have silent : Spells [] (Debug.rows 0) := .nil_of_absent off
    exact (Spells.nil_of_absent unset).append silent
  | debug p =>
    cases written
    exact (Spells.nil_of_absent unset).append (Debug.spells p.flags)
  | pdf p =>
    cases strategy : p.strategyTokens with
    | error e => simp [upperTokens, strategy, Except.map] at written
    | ok tokens =>
      simp only [upperTokens, strategy, Except.map, Except.ok.injEq] at written
      rw [← written, ← List.append_nil (tokens ++ p.optionTokens)]
      exact (Pdf.spells strategy).append (.nil_of_absent plain)
  | conformance p =>
    cases strategy : p.pdf.strategyTokens with
    | error e => simp [upperTokens, strategy, Except.map] at written
    | ok tokens =>
      simp only [upperTokens, strategy, Except.map, Except.ok.injEq] at written
      rw [← written, ← List.append_nil p.standardTokens]
      rw [← List.append_assoc]
      exact ((Pdf.spells strategy).append p.spells).append (.nil_of_absent off)

/-- The token list of a model spells its table, with the include directories that are written. -/
theorem spells {files : Files} {model : Model} {host : Display.Host} {tokens : List String}
    (written : model.toArgs files host = .ok tokens) :
    ∃ sources, model.effectiveSources files = .ok sources ∧
      Spells tokens (model.rows host sources) := by
  obtain ⟨sources, upper, effective, above, eq⟩ := toArgs_eq_ok_iff.mp written
  rw [eq]
  exact ⟨sources, effective, (model.basis.spells host sources).append (spells_upper above)⟩

/-- What a token of a model sets is set by that token alone. -/
theorem filter_startsWith {files : Files} {model : Model} {host : Display.Host}
    {tokens : List String} (written : model.toArgs files host = .ok tokens) {start value : String}
    {slot : Token.Slot} (opens : Token.assigned? start = some (slot, ""))
    (mem : start ++ value ∈ tokens) :
    tokens.filter (Token.startsWith start) = [start ++ value] := by
  obtain ⟨sources, -, spells⟩ := Model.spells written
  have distinct := spells.nodup (model.rows_distinct host sources)
  exact Token.filter_eq_singleton distinct (fun _ => Token.assigned?_of_startsWith opens) mem
    (Token.startsWith_eq_true_iff.mpr ⟨value, rfl⟩)

end Model

end EngineTokens.Params
