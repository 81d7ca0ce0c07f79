import Mathlib.Data.List.Nodup
import EngineTokens.Proofs.Params.Calls
import EngineTokens.Proofs.Params.Readback
import EngineTokens.Proofs.Path.Containing

/-!
# When no token list is written

Two things can stand against the tokens of a model: under a standard, the directory of the profile
is not there, and under PDF/X, the color strategy is one that the standard does not admit. The first
is looked at first, because the directories belong to the base tier. `refusals_of_callAll` says that
a model made by calls fails exactly then, with the directory or the strategy that stands against it,
and that what is written asks for one standard at most and obeys it.

The directory is accepted under its own spelling: the profile of such a model is in its one
spelling, hence so is what stands before its last slash.
-/

set_option autoImplicit false

namespace EngineTokens.Params

/-! ## The color strategy -/

/-- PDF/X is asked for with a color strategy that it does not admit. -/
def Pdf.Violates (p : Pdf) : Prop :=
  p.pdfX = true ∧ (p.colorStrategy = .unchanged ∨ p.colorStrategy = .rgb ∨
    p.colorStrategy = .deviceIndependent)

/-- What is reported of a color strategy that PDF/X does not admit. -/
def Pdf.violation (p : Pdf) : Error :=
  .conformance ("PDF/X output requires the Gray or CMYK color conversion strategy, not " ++
    p.colorStrategy.keyword?.getD "")

/-- The strategy fails exactly if it is not admitted, and with its own report. -/
theorem Pdf.strategyTokens_eq_error_iff {p : Pdf} {e : Error} :
    p.strategyTokens = .error e ↔ p.Violates ∧ e = p.violation := by
  unfold strategyTokens Violates violation
  cases p.pdfX <;> cases p.colorStrategy <;>
    simp [Strategy.keyword?, Strategy.allowedForPdfX, eq_comm]

/-- Under PDF/X a strategy that is written is gray or CMYK. -/
theorem Pdf.keyword_of_pdfX {p : Pdf} {strategy : List String} {keyword : String}
    (written : p.strategyTokens = .ok strategy) (standard : p.pdfX = true)
    (named : p.colorStrategy.keyword? = some keyword) : keyword = "Gray" ∨ keyword = "CMYK" := by
  have admitted : ¬ p.Violates := by
    intro violates
    have fails := strategyTokens_eq_error_iff.mpr ⟨violates, rfl⟩
    rw [written] at fails
    cases fails
  rw [Violates] at admitted
  cases strategy : p.colorStrategy with
  | gray =>
    rw [strategy] at named
    exact .inl (Option.some.inj named).symm
  | cmyk =>
    rw [strategy] at named
    exact .inr (Option.some.inj named).symm
  | unset =>
    rw [strategy] at named
    cases named
  | unchanged | rgb | deviceIndependent => simp [standard, strategy] at admitted

/-! ## The directory of the profile -/

/-- A standard is asked for with a profile whose directory is not there. -/
def Conformance.Misses (files : Files) (p : Conformance) (directory : String) : Prop :=
  (p.pdf.pdfA = true ∨ p.pdf.pdfX = true) ∧ p.iccProfile ≠ "" ∧
    Path.directoryOf? p.iccProfile = some directory ∧ files.isDirectory directory = false

/-- A standard is asked for if one of the two is. -/
theorem Conformance.isActive_iff {p : Conformance} :
    p.isActive = true ↔ p.pdf.pdfA = true ∨ p.pdf.pdfX = true :=
  Bool.or_eq_true_iff

/-- The profile that a model made by calls holds. -/
theorem Conformance.profile_of_sound {p : Conformance} (sound : Sound (Model.conformance p).field?) :
    p.iccProfile = "" ∨
      Path.isAbsolute p.iccProfile = true ∧ Path.canonicalize p.iccProfile = p.iccProfile := by
  obtain ⟨path, same, kept⟩ := sound.profile (.text p.iccProfile) rfl
  cases same
  exact kept

/-- The profile of a model made by calls stands in a directory. -/
theorem Conformance.exists_directory_of_sound {p : Conformance}
    (sound : Sound (Model.conformance p).field?) (given : p.iccProfile ≠ "") :
    ∃ directory, Path.directoryOf? p.iccProfile = some directory := by
  rcases p.profile_of_sound sound with unset | ⟨absolute, -⟩
  · exact absurd unset given
  · exact Path.exists_directoryOf? absolute

/-- The directories fail exactly if the directory of the profile is not there, and with it. -/
theorem Conformance.effectiveSources_eq_error_iff {files : Files} {p : Conformance} {e : Error}
    (sound : Sound (Model.conformance p).field?) :
    p.effectiveSources files = .error e ↔
      ∃ directory, p.Misses files directory ∧ e = .directoryNotFound directory := by
  by_cases active : p.isActive = true
  · have standard := isActive_iff.mp active
    unfold effectiveSources Misses
    rw [if_pos active]
    rcases p.profile_of_sound sound with unset | ⟨absolute, canonical⟩
    · have above : Path.directoryOf? "" = none := by decide
      simp [unset, above]
    · obtain ⟨directory, above⟩ := Path.exists_directoryOf? absolute
      obtain ⟨same, named⟩ := Path.canonicalize_directoryOf? canonical above
      have given := Path.ne_empty_of_isAbsolute absolute
      have refused := @Sources.fst_add_eq_error_iff files p.pdf.base.sources directory e
      rw [same, or_iff_right named] at refused
      simp only [above, Option.some.injEq]
      constructor
      · intro fails
        cases added : (p.pdf.base.sources.add files directory).1 with
        | ok new =>
          rw [added] at fails
          cases fails
        | error reason =>
          rw [added] at fails refused
          cases fails
          obtain ⟨missing, reported⟩ := refused.mp rfl
          exact ⟨directory, ⟨standard, given, rfl, missing⟩, reported⟩
      · rintro ⟨_, ⟨-, -, rfl, missing⟩, reported⟩
        rw [refused.mpr ⟨missing, reported⟩]
        rfl
  · have idle : ∀ directory, ¬ p.Misses files directory := by
      intro directory misses
      exact active (isActive_iff.mpr misses.1)
    simp [effectiveSources, active, idle]

/-! ## What is written -/

/-- A token list asks for one standard at most, and under PDF/X a color strategy that it names is
gray or CMYK. -/
def Conforms (tokens : List String) : Prop :=
  ¬ ((∃ level, "-dPDFA=" ++ level ∈ tokens) ∧ "-dPDFX" ∈ tokens) ∧
    ("-dPDFX" ∈ tokens → ∀ keyword, "-sColorConversionStrategy=" ++ keyword ∈ tokens →
      keyword = "Gray" ∨ keyword = "CMYK")

namespace Model

variable {files : Files} {model : Model} {host : Display.Host} {tokens : List String}

/-- What a token sets is the value of the one row that is about it. -/
theorem content_of_mem (written : model.toArgs files host = .ok tokens) {token value : String}
    {slot : Token.Slot} {content : Option String} (mem : token ∈ tokens)
    (sets : Token.assigned? token = some (slot, value)) (row : (slot, content) ∈ model.upperRows) :
    content = some value := by
  obtain ⟨sources, -, spells⟩ := Model.spells written
  have rows : (slot, content) ∈ model.rows host sources := List.mem_append_right _ row
  have distinct := model.rows_distinct host sources
  exact (Prod.mk.inj (List.inj_on_of_nodup_map distinct rows (spells.mem_rows mem sets) rfl)).2

/-- The rows of the PDF tier are among those above the base tier. -/
theorem mem_upperRows_of_pdf {row : Token.Row} (mem : row ∈ model.pdfPart.rows) :
    row ∈ model.upperRows :=
  List.mem_append_left _ (List.mem_append_left _ mem)

/-- The rows of the conformance tier are among those above the base tier. -/
theorem mem_upperRows_of_conformance {row : Token.Row} (mem : row ∈ model.conformancePart.rows) :
    row ∈ model.upperRows :=
  List.mem_append_left _ (List.mem_append_right _ mem)

/-- PDF/A is written only where it is asked for. -/
theorem pdfA_of_mem (written : model.toArgs files host = .ok tokens) {level : String}
    (mem : "-dPDFA=" ++ level ∈ tokens) : model.conformancePart.pdf.pdfA = true := by
  have row : (Token.Slot.name "PDFA", numberWhere model.conformancePart.pdf.pdfA
      model.conformancePart.level) ∈ model.conformancePart.rows := List.mem_cons_self
  have set := content_of_mem written mem (Token.assigned?_append (by decide) level)
    (mem_upperRows_of_conformance row)
  unfold numberWhere at set
  split at set
  next asked => exact asked
  next => cases set

/-- PDF/X is written only where it is asked for, and PDF/A is not. -/
theorem pdfX_of_mem (written : model.toArgs files host = .ok tokens) (mem : "-dPDFX" ∈ tokens) :
    model.conformancePart.pdf.pdfA = false ∧ model.conformancePart.pdf.pdfX = true := by
  have row : (Token.Slot.name "PDFX",
      if !model.conformancePart.pdf.pdfA && model.conformancePart.pdf.pdfX then
        some (Token.truth true) else none) ∈ model.conformancePart.rows := by
    simp [Conformance.rows]
  have sets : Token.assigned? "-dPDFX" = some (.name "PDFX", Token.truth true) := by decide
  have set := content_of_mem written mem sets (mem_upperRows_of_conformance row)
  split at set
  next asked => simpa using asked
  next => cases set

/-- Whatever is written conforms: the rows of the two standards and of the color strategy tell what
the tokens set, and nothing else in the list sets the same. -/
theorem conforms_of_toArgs (written : model.toArgs files host = .ok tokens) : Conforms tokens := by
  constructor
  · rintro ⟨⟨level, pdfA⟩, pdfX⟩
    have first := pdfA_of_mem written pdfA
    have second := (pdfX_of_mem written pdfX).1
    rw [first] at second
    cases second
  · intro pdfX keyword named
    have standard := (pdfX_of_mem written pdfX).2
    have row : (Token.Slot.name "ColorConversionStrategy",
        model.pdfPart.colorStrategy.keyword?) ∈ model.pdfPart.rows := List.mem_cons_self
    have set := content_of_mem written named (Token.assigned?_append (by decide) keyword)
      (mem_upperRows_of_pdf row)
    obtain ⟨sources, upper, -, above, -⟩ := toArgs_eq_ok_iff.mp written
    cases model with
    | conformance p =>
      cases strategy : p.pdf.strategyTokens with
      | ok tokens => exact Pdf.keyword_of_pdfX strategy standard set
      | error e =>
        rw [upperTokens, strategy] at above
        cases above
    | base p | debug p | pdf p => cases standard

/-- Of the models that calls can make, those of the base and the debug tier are always written. One
of the PDF tier fails exactly if PDF/X does not admit its color strategy. In the conformance tier a
profile has a directory, and a model fails exactly if this is not there under a standard, and where
it is there or not asked for, as the PDF tier does. What is written conforms to the standard it asks
for. -/
theorem refusals_of_callAll (kind : Kind) (calls : List (Files × Call)) (files : Files)
    (host : Display.Host) :
    (match (blank kind).callAll calls with
      | .base p => ∃ tokens, (Model.base p).toArgs files host = .ok tokens
      | .debug p => ∃ tokens, (Model.debug p).toArgs files host = .ok tokens
      | .pdf p => ∀ e, (Model.pdf p).toArgs files host = .error e ↔ p.Violates ∧ e = p.violation
      | .conformance p =>
        (p.iccProfile ≠ "" → ∃ directory, Path.directoryOf? p.iccProfile = some directory) ∧
        ∀ e, (Model.conformance p).toArgs files host = .error e ↔
          (∃ directory, p.Misses files directory ∧ e = .directoryNotFound directory) ∨
          ((¬ ∃ directory, p.Misses files directory) ∧ p.pdf.Violates ∧ e = p.pdf.violation)) ∧
    ∀ tokens, ((blank kind).callAll calls).toArgs files host = .ok tokens → Conforms tokens := by
  obtain ⟨-, sound⟩ := sound_callAll (sound_blank kind) calls
  refine ⟨?_, fun tokens written => conforms_of_toArgs written⟩
  generalize (blank kind).callAll calls = model at sound ⊢
  cases model with
  | base p => exact ⟨_, rfl⟩
  | debug p => exact ⟨_, rfl⟩
  | pdf p =>
    intro e
    rw [toArgs_eq_error_iff, ← Pdf.strategyTokens_eq_error_iff, upperTokens, effectiveSources]
    cases p.strategyTokens <;> simp [Except.map]
  | conformance p =>
    refine ⟨p.exists_directory_of_sound sound, ?_⟩
    intro e
    have directories := @Conformance.effectiveSources_eq_error_iff files p
    have strategy := @Pdf.strategyTokens_eq_error_iff p.pdf e
    rw [toArgs_eq_error_iff, effectiveSources, upperTokens, ← strategy, directories sound]
    refine or_congr Iff.rfl (and_congr ?_ ?_)
    · cases effective : p.effectiveSources files with
      | ok sources =>
        refine iff_of_true ⟨sources, rfl⟩ ?_
        rintro ⟨directory, misses⟩
        have fails := (directories sound).mpr ⟨directory, misses, rfl⟩
        rw [effective] at fails
        cases fails
      | error reason =>
        obtain ⟨directory, misses, -⟩ := (directories sound).mp effective
        refine iff_of_false ?_ fun present => present ⟨directory, misses⟩
        rintro ⟨accepted, same⟩
        cases same
    · cases p.pdf.strategyTokens <;> simp [Except.map]

/-- Calls that ask for PDF/X with a profile and a color strategy. -/
def pdfXCalls (strategy : Strategy) : List (Files × Call) :=
  [.conformance (.iccProfile "/icc/p.icc"), .pdf (.pdfX true),
    .pdf (.colorStrategy strategy)].map fun c => (profileFiles, c)

/-- The tokens after these calls, where the strategy is gray. -/
def pdfXTokens : List String :=
  ["-I/icc", "-sColorConversionStrategy=Gray", "-dPDFX", "-sICCProfile=/icc/p.icc"]

/-- Where the profile has gone with its directory, this is what is reported, though the strategy is
not admitted either; where it is still there, the strategy is. With gray the list is written. -/
theorem refusals_of_callAll_pdfX :
    ((blank .conformance).callAll (pdfXCalls .rgb)).toArgs ⟨[], []⟩ {} =
      .error (.directoryNotFound "/icc") ∧
    ((blank .conformance).callAll (pdfXCalls .rgb)).toArgs profileFiles {} =
      .error (.conformance
        "PDF/X output requires the Gray or CMYK color conversion strategy, not RGB") ∧
    ((blank .conformance).callAll (pdfXCalls .gray)).toArgs profileFiles {} = .ok pdfXTokens ∧
    Conforms pdfXTokens := by
  have made : (blank .conformance).callAll (pdfXCalls .rgb) = .conformance
      { pdf := { colorStrategy := .rgb, pdfX := true }, iccProfile := "/icc/p.icc" } := by
    decide +kernel
  have gone := (refusals_of_callAll .conformance (pdfXCalls .rgb) ⟨[], []⟩ {}).1
  have there := (refusals_of_callAll .conformance (pdfXCalls .rgb) profileFiles {}).1
  have written : ((blank .conformance).callAll (pdfXCalls .gray)).toArgs profileFiles {} =
      .ok pdfXTokens := by decide +kernel
  rw [made] at gone there ⊢
  obtain ⟨-, gone⟩ := gone
  obtain ⟨-, there⟩ := there
  have present : profileFiles.isDirectory "/icc" = true := by decide +kernel
  refine ⟨(gone _).mpr (.inl ⟨"/icc", ⟨.inr rfl, by decide, by decide, by decide +kernel⟩, rfl⟩),
    (there _).mpr (.inr ⟨?_, ⟨rfl, .inr (.inl rfl)⟩, rfl⟩), written,
    (refusals_of_callAll .conformance (pdfXCalls .gray) profileFiles {}).2 _ written⟩
  rintro ⟨directory, -, -, above, missing⟩
  obtain rfl : "/icc" = directory := by
    have found : Path.directoryOf? "/icc/p.icc" = some "/icc" := by decide
    exact Option.some.inj (found.symm.trans above)
  rw [present] at missing
  cases missing

end Model

end EngineTokens.Params
