import Mathlib.Control.Monad.Basic
import EngineTokens.Options.Build
import EngineTokens.Proofs.Params.Assembly

/-!
# A tier asked for by name

A tier that is asked for by name decides whether options are accepted and nothing else. It is
refused exactly if debug switches and PDF options are mixed or an option is given that the tier has
no field for. If it is accepted, then the tokens, or the failure, are those of the lowest tier that
has all options given: a tier that is not needed is at its defaults, and at its defaults it writes
the tokens of the tier below (`Model.toArgs_debug_blank`, `Model.toArgs_pdf_blank`,
`Model.toArgs_conformance_blank`).
-/

set_option autoImplicit false

namespace EngineTokens

open Params (Kind Model Base Debug Pdf Conformance Sources)

/-! ## Tiers at their defaults -/

/-- Neither of the two standards is asked for. -/
def Params.Pdf.IsPlain (p : Pdf) : Prop :=
  p.pdfA = false ∧ p.pdfX = false

namespace Params.Model

/-- Two models with the same base tier, include directories and upper tokens are written alike. -/
theorem toArgs_congr {files : Files} {model other : Model} (basis : model.basis = other.basis)
    (sources : model.effectiveSources files = other.effectiveSources files)
    (upper : model.upperTokens = other.upperTokens) (host : Display.Host) :
    model.toArgs files host = other.toArgs files host := by
  rw [toArgs_eq, toArgs_eq, basis, sources, upper]

/-- Without a switch the debug tier writes the base tier. -/
theorem toArgs_debug_blank (files : Files) (base : Base) (host : Display.Host) :
    (Model.debug { base }).toArgs files host = (Model.base base).toArgs files host := by
  have off : Debug.enabled 0#32 = [] := by decide
  have upper : (Model.debug { base }).upperTokens = (Model.base base).upperTokens := by
    simp [upperTokens, off]
  have basis : (Model.debug { base }).basis = (Model.base base).basis := rfl
  exact toArgs_congr basis rfl upper host

/-- The PDF tier at its defaults writes the base tier. -/
theorem toArgs_pdf_blank (files : Files) (base : Base) (host : Display.Host) :
    (Model.pdf { base }).toArgs files host = (Model.base base).toArgs files host := by
  have options : ({ base } : Pdf).optionTokens = [] := by
    unfold Pdf.optionTokens
    simp [Token.flagUnless, Token.textUnless, Token.numberUnless]
  have upper : (Model.pdf { base }).upperTokens = (Model.base base).upperTokens := by
    simp [upperTokens, Pdf.strategyTokens, Strategy.keyword?, options, Except.map]
  have basis : (Model.pdf { base }).basis = (Model.base base).basis := rfl
  exact toArgs_congr basis rfl upper host

/-- The conformance tier at its defaults writes the PDF tier, where no standard is asked for. -/
theorem toArgs_conformance_blank (files : Files) {pdf : Pdf} (plain : pdf.IsPlain)
    (host : Display.Host) :
    (Model.conformance { pdf }).toArgs files host = (Model.pdf pdf).toArgs files host := by
  have inactive : ({ pdf } : Conformance).isActive = false := by
    simp [Conformance.isActive, plain.1, plain.2]
  have silent : ({ pdf } : Conformance).standardTokens = [] := by
    simp [Conformance.standardTokens, plain.1, plain.2, inactive, Token.textUnless]
  have upper : (Model.conformance { pdf }).upperTokens = (Model.pdf pdf).upperTokens := by
    simp [upperTokens, silent]
  have sources : (Model.conformance { pdf }).effectiveSources files =
      (Model.pdf pdf).effectiveSources files := by
    simp [effectiveSources, Conformance.effectiveSources, inactive]
  have basis : (Model.conformance { pdf }).basis = (Model.pdf pdf).basis := rfl
  exact toArgs_congr basis sources upper host

end Params.Model

/-! ## Options that are not given -/

/-- Without PDF options the PDF tier is at its defaults. -/
theorem PdfOptions.build_blank (base : Base) : ({} : PdfOptions).build base = .ok { base } := rfl

/-- PDF options leave the base tier alone and do not ask for a standard. -/
theorem PdfOptions.lower_of_build {o : PdfOptions} {base : Base} {pdf : Pdf}
    (built : o.build base = .ok pdf) : pdf.base = base ∧ pdf.IsPlain := by
  unfold PdfOptions.build at built
  cases first : pageOf "FirstPage" o.firstPage with
  | error e => simp [first, bind, Except.bind] at built
  | ok firstPage =>
    cases last : pageOf "LastPage" o.lastPage with
    | error e => simp [first, last, bind, Except.bind] at built
    | ok lastPage =>
      simp only [first, last, bind, Except.bind, pure, Except.pure, Except.ok.injEq] at built
      rw [← built]
      exact ⟨rfl, rfl, rfl⟩

/-- PDF options do not ask for a standard. -/
theorem PdfOptions.isPlain_of_build {o : PdfOptions} {base : Base} {pdf : Pdf}
    (built : o.build base = .ok pdf) : pdf.IsPlain :=
  (lower_of_build built).2

/-- Without conformance options the conformance tier is at its defaults. -/
theorem ConformanceOptions.build_blank (files : Files) (saved : Preferences) (pdf : Pdf) :
    ({} : ConformanceOptions).build files saved pdf = .ok { pdf } := rfl

namespace ModelOptions

variable (files : Files) (saved : Preferences)

/-- The model of a given tier that some options describe, whether the tier has all of them or
not. -/
def buildAs (o : ModelOptions) (kind : Kind) : Except Error Model := do
  let base ← o.base.build files saved
  match kind with
  | .base => return .base base
  | .debug => return .debug { base, flags := ← Debug.turnOn 0 o.debug }
  | .pdf => return .pdf (← o.pdf.build base)
  | .conformance =>
    let pdf ← o.pdf.build base
    return .conformance (← o.conformance.build files saved pdf)

/-- A model is built in the tier that the options settle. -/
theorem build_eq (o : ModelOptions) :
    o.build files saved = o.resolveKind >>= o.buildAs files saved := rfl

/-- The tokens of the model that some options describe, in a given tier. -/
def tokensAs (o : ModelOptions) (kind : Kind) : Except Error (List String) :=
  o.buildAs files saved kind >>= o.tokens files saved

/-- What is produced from some options: a model is built and its tokens are written. -/
def produce (o : ModelOptions) : Except Error (List String) := do
  let model ← o.build files saved
  o.tokens files saved model

/-- What is produced is what the settled tier writes. -/
theorem produce_eq (o : ModelOptions) :
    o.produce files saved = o.resolveKind >>= o.tokensAs files saved := by
  rw [produce, build_eq, bind_assoc]
  rfl

variable {o : ModelOptions}

/-- Without debug switches the debug tier writes what the base tier does. -/
theorem tokensAs_debug (absent : o.debug = []) :
    o.tokensAs files saved .debug = o.tokensAs files saved .base := by
  unfold tokensAs buildAs
  cases o.base.build files saved with
  | error e => rfl
  | ok base =>
    have flags : Debug.turnOn 0 o.debug = .ok 0 := by rw [absent, Debug.turnOn]
    simp only [flags, bind, Except.bind, pure, Except.pure, tokens]
    rw [Model.toArgs_debug_blank]

/-- Without PDF options the PDF tier writes what the base tier does. -/
theorem tokensAs_pdf (absent : o.pdf = {}) :
    o.tokensAs files saved .pdf = o.tokensAs files saved .base := by
  unfold tokensAs buildAs
  cases o.base.build files saved with
  | error e => rfl
  | ok base =>
    simp only [absent, PdfOptions.build_blank, bind, Except.bind, pure, Except.pure, tokens]
    rw [Model.toArgs_pdf_blank]

/-- Without conformance options the conformance tier writes what the PDF tier does. -/
theorem tokensAs_conformance (absent : o.conformance = {}) :
    o.tokensAs files saved .conformance = o.tokensAs files saved .pdf := by
  unfold tokensAs buildAs
  cases o.base.build files saved with
  | error e => rfl
  | ok base =>
    cases built : o.pdf.build base with
    | error e => simp [built, bind, Except.bind]
    | ok pdf =>
      have plain := PdfOptions.isPlain_of_build built
      simp only [built, absent, ConformanceOptions.build_blank files saved pdf, bind,
        Except.bind, pure, Except.pure, tokens]
      rw [Model.toArgs_conformance_blank files plain]

/-! ## Asking for a tier -/

/-- Debug switches are mixed with PDF options, or an option is given that a tier has no field for. -/
def Exceeds (o : ModelOptions) (kind : Kind) : Prop :=
  (o.debug ≠ [] ∧ (o.pdf ≠ {} ∨ o.conformance ≠ {})) ∨
  (o.debug ≠ [] ∧ kind ≠ .debug) ∨
  (o.pdf ≠ {} ∧ kind ≠ .pdf ∧ kind ≠ .conformance) ∨
  (o.conformance ≠ {} ∧ kind ≠ .conformance)

/-- If no tier is asked for, it is the one needed. -/
theorem resolveKind_none (o : ModelOptions) :
    { o with kind := none }.resolveKind = o.neededKind := by
  have same : { o with kind := none }.neededKind = o.neededKind := rfl
  rw [resolveKind, same]
  cases o.neededKind <;> rfl

/-- A tier that is asked for is settled on exactly if it carries the one needed. -/
theorem resolveKind_some_eq_ok_iff {kind tier : Kind} :
    { o with kind := some kind }.resolveKind = .ok tier ↔
      tier = kind ∧ ∃ needed, o.neededKind = .ok needed ∧ kind.carries needed = true := by
  have same : { o with kind := some kind }.neededKind = o.neededKind := rfl
  rw [resolveKind, same]
  cases o.neededKind with
  | error e => simp
  | ok needed =>
    by_cases carried : kind.carries needed = true
    · simp only [carried, if_true, Except.ok.injEq]
      constructor
      · rintro rfl
        exact ⟨rfl, needed, rfl, carried⟩
      · rintro ⟨rfl, -⟩
        rfl
    · simp [carried]

/-- A tier is needed for debug switches, for conformance options, for PDF options, or for none of
them; the first exclude the other two. -/
theorem neededKind_eq_ok_iff {needed : Kind} :
    o.neededKind = .ok needed ↔
      match needed with
      | .base => o.debug = [] ∧ o.pdf = {} ∧ o.conformance = {}
      | .debug => o.debug ≠ [] ∧ o.pdf = {} ∧ o.conformance = {}
      | .pdf => o.debug = [] ∧ o.pdf ≠ {} ∧ o.conformance = {}
      | .conformance => o.debug = [] ∧ o.conformance ≠ {} := by
  simp only [neededKind, ne_eq, ← PdfOptions.isGiven_eq_false_iff,
    ← ConformanceOptions.isGiven_eq_false_iff, ← List.isEmpty_iff]
  cases o.debug.isEmpty <;> cases o.pdf.isGiven <;> cases o.conformance.isGiven <;>
    cases needed <;> simp

/-- Options that do not exceed a tier need one that it carries. -/
theorem not_exceeds_iff {kind : Kind} :
    ¬ o.Exceeds kind ↔
      ∃ needed, o.neededKind = .ok needed ∧ kind.carries needed = true := by
  simp only [neededKind_eq_ok_iff]
  constructor
  · intro within
    by_cases conformance : o.conformance = {}
    · by_cases pdf : o.pdf = {}
      · by_cases debug : o.debug = []
        · exact ⟨.base, ⟨debug, pdf, conformance⟩, by cases kind <;> rfl⟩
        · refine ⟨.debug, ⟨debug, pdf, conformance⟩, ?_⟩
          cases kind <;> simp_all [Exceeds, Kind.carries]
      · have debug : o.debug = [] :=
          Classical.byContradiction fun debug => within (.inl ⟨debug, .inl pdf⟩)
        refine ⟨.pdf, ⟨debug, pdf, conformance⟩, ?_⟩
        cases kind <;> simp_all [Exceeds, Kind.carries]
    · have debug : o.debug = [] :=
        Classical.byContradiction fun debug => within (.inl ⟨debug, .inr conformance⟩)
      refine ⟨.conformance, ⟨debug, conformance⟩, ?_⟩
      cases kind <;> simp_all [Exceeds, Kind.carries]
  · rintro ⟨needed, given, carried⟩ exceeds
    cases needed <;> cases kind <;> simp_all [Exceeds, Kind.carries]

/-- A tier that carries the one needed writes what that one does. -/
theorem tokensAs_of_carries {kind needed : Kind} (given : o.neededKind = .ok needed)
    (carried : kind.carries needed = true) :
    o.tokensAs files saved kind = o.tokensAs files saved needed := by
  have given := neededKind_eq_ok_iff.mp given
  cases needed with
  | base =>
    obtain ⟨debug, pdf, conformance⟩ := given
    cases kind with
    | base => rfl
    | debug => exact tokensAs_debug files saved debug
    | pdf => exact tokensAs_pdf files saved pdf
    | conformance =>
      rw [tokensAs_conformance files saved conformance, tokensAs_pdf files saved pdf]
  | debug =>
    cases kind with
    | debug => rfl
    | base | pdf | conformance => cases carried
  | pdf =>
    obtain ⟨-, -, conformance⟩ := given
    cases kind with
    | pdf => rfl
    | conformance => exact tokensAs_conformance files saved conformance
    | base | debug => cases carried
  | conformance =>
    cases kind with
    | conformance => rfl
    | base | debug | pdf => cases carried

/-- A tier that is asked for is refused exactly if the options exceed it. If it is settled on, it is
the one asked for, and what is produced, be it tokens or a failure, is what is produced if no tier
is asked for. -/
theorem refused_iff_exceeds_and_produce_eq (o : ModelOptions) (kind : Kind) :
    ((∃ e, { o with kind := some kind }.resolveKind = .error e) ↔ o.Exceeds kind) ∧
    ∀ tier, { o with kind := some kind }.resolveKind = .ok tier →
      tier = kind ∧
      { o with kind := some kind }.produce files saved =
        { o with kind := none }.produce files saved := by
  constructor
  · rw [← not_iff_not, not_exceeds_iff]
    constructor
    · intro admitted
      cases settled : { o with kind := some kind }.resolveKind with
      | error e => exact absurd ⟨e, settled⟩ admitted
      | ok tier => exact (resolveKind_some_eq_ok_iff.mp settled).2
    · rintro carries ⟨e, refused⟩
      have settled := resolveKind_some_eq_ok_iff.mpr ⟨rfl, carries⟩
      rw [refused] at settled
      cases settled
  · intro tier settled
    obtain ⟨rfl, needed, given, carried⟩ := resolveKind_some_eq_ok_iff.mp settled
    refine ⟨rfl, ?_⟩
    rw [produce_eq, produce_eq, settled, resolveKind_none, given]
    exact tokensAs_of_carries files saved given carried

/-- Annotations are hidden. -/
def hidingAnnots : ModelOptions := { pdf := { hideAnnots := true }, extra := some "-dNOCACHE" }

/-- The PDF and the conformance tier produce the same tokens from an option of the PDF tier. -/
theorem produce_eq_hidingAnnots :
    { hidingAnnots with kind := some .conformance }.resolveKind = .ok .conformance ∧
    { hidingAnnots with kind := some .conformance }.produce ⟨[], []⟩ {} =
      { hidingAnnots with kind := none }.produce ⟨[], []⟩ {} ∧
    { hidingAnnots with kind := none }.produce ⟨[], []⟩ {} =
      .ok ["-dShowAnnots=false", "-dNOCACHE"] := by
  have settled : { hidingAnnots with kind := some .conformance }.resolveKind = .ok .conformance := by
    decide +kernel
  have same := (refused_iff_exceeds_and_produce_eq ⟨[], []⟩ {} hidingAnnots .conformance).2
    .conformance settled
  exact ⟨settled, same.2, by decide +kernel⟩

end ModelOptions

end EngineTokens
