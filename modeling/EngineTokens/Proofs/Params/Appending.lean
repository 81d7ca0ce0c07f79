import EngineTokens.Proofs.Params.Refusals

/-!
# What a write leaves in the list

A write only appends. What it appends begins with the tokens of the base tier, as a model of that
tier alone would write them, and goes on with a tail that knows nothing of the base tier, the host
or what was in the list before. The directory of a profile belongs to the base tier: under a
standard, it is registered there before anything is written (`Model.writtenBasis`).

A write that fails leaves one of two lists behind (`Model.write_appends`). If the directory of the
profile is refused, the list is as it was. If the color strategy is, the base tier stands in it.
-/

set_option autoImplicit false

namespace EngineTokens.Params

/-- The tokens of the base tier take their directories from the set that is given. -/
theorem Base.tokensWith_sources (p : Base) (host : Display.Host) (own sources : Sources) :
    { p with sources := own }.tokensWith host sources = p.tokensWith host sources := rfl

/-- The base tier that a model of the conformance tier writes: its own, and where a standard is
asked for with a profile, this with the directory of the profile registered. -/
def Conformance.writtenBase (files : Files) (p : Conformance) : Except Error Base :=
  if p.isActive = true ∧ p.iccProfile ≠ "" then
    match Path.directoryOf? p.iccProfile with
    | some directory =>
      let (registered, base) := p.pdf.base.apply files (.addSource directory)
      registered.map fun _ => base
    | none => .ok p.pdf.base
  else .ok p.pdf.base

/-- The base tier that is written is the model's own with the directories in effect. -/
theorem Conformance.writtenBase_eq (files : Files) (p : Conformance) :
    p.writtenBase files =
      (p.effectiveSources files).map fun sources => { p.pdf.base with sources } := by
  unfold writtenBase effectiveSources
  by_cases active : p.isActive = true
  · cases above : Path.directoryOf? p.iccProfile with
    | none =>
      rw [if_pos active]
      split <;> rfl
    | some directory =>
      have given : p.iccProfile ≠ "" := by
        intro unset
        rw [unset] at above
        cases above
      rw [if_pos ⟨active, given⟩, if_pos active]
      simp only [Base.apply_addSource]
      cases (p.pdf.base.sources.add files directory).1 <;> rfl
  · have idle : ¬ (p.isActive = true ∧ p.iccProfile ≠ "") := fun both => active both.1
    rw [if_neg idle, if_neg active]
    rfl

/-- The directories in effect fail only with one that is not there. -/
theorem Conformance.exists_of_effectiveSources_eq_error {files : Files} {p : Conformance}
    {e : Error} (fails : p.effectiveSources files = .error e) :
    ∃ path, e = .directoryNotFound path := by
  unfold effectiveSources at fails
  split at fails
  next =>
    split at fails
    next directory _ =>
      simp only at fails
      cases added : (p.pdf.base.sources.add files directory).1 with
      | ok new =>
        rw [added] at fails
        cases fails
      | error reason =>
        rw [added] at fails
        cases fails
        exact ⟨directory, (Sources.fst_add_eq_error_iff.mp added).2⟩
    next => cases fails
  next => cases fails

namespace Model

/-- The same model on another base tier. -/
def withBasis (model : Model) (base : Base) : Model :=
  match model with
  | .base _ => .base base
  | .debug p => .debug { p with base }
  | .pdf p => .pdf { p with base }
  | .conformance p => .conformance { p with pdf := { p.pdf with base } }

/-- The base tier that a model writes. Only the conformance tier does not write it as it is. -/
def writtenBasis (files : Files) : Model → Except Error Base
  | .base p => .ok p
  | .debug p => .ok p.base
  | .pdf p => .ok p.base
  | .conformance p => p.writtenBase files

/-- The tail of a model does not depend on its base tier. -/
theorem upperTokens_withBasis (model : Model) (base : Base) :
    (model.withBasis base).upperTokens = model.upperTokens := by
  cases model <;> rfl

/-- A model of the base tier is always written. -/
theorem toArgs_base (files : Files) (base : Base) (host : Display.Host) :
    (Model.base base).toArgs files host = .ok (base.tokensWith host base.sources) := rfl

/-- The base tier that is written differs from the model's in the include directories alone. -/
theorem writtenBasis_eq (files : Files) (model : Model) :
    model.writtenBasis files =
      (model.effectiveSources files).map fun sources => { model.basis with sources } := by
  cases model with
  | base p | debug p | pdf p => rfl
  | conformance p => exact p.writtenBase_eq files

/-- The directories in effect fail only with one that is not there. -/
theorem exists_of_effectiveSources_eq_error {files : Files} {model : Model} {e : Error}
    (fails : model.effectiveSources files = .error e) : ∃ path, e = .directoryNotFound path := by
  cases model with
  | base p | debug p | pdf p => cases fails
  | conformance p => exact Conformance.exists_of_effectiveSources_eq_error fails

/-- The tail of a model fails only for the sake of a standard. -/
theorem exists_of_upperTokens_eq_error {model : Model} {e : Error}
    (fails : model.upperTokens = .error e) : ∃ detail, e = .conformance detail := by
  -- where there is a PDF tier, only its color strategy can fail
  have only : ∀ (p : Pdf) (rest : List String → List String),
      p.strategyTokens.map rest = .error e → ∃ detail, e = .conformance detail := by
    intro p rest failed
    cases strategy : p.strategyTokens with
    | ok tokens =>
      rw [strategy] at failed
      cases failed
    | error reason =>
      rw [strategy] at failed
      cases failed
      exact ⟨_, (Pdf.strategyTokens_eq_error_iff.mp strategy).2⟩
  cases model with
  | base p | debug p => cases fails
  | pdf p => exact only p _ fails
  | conformance p => exact only p.pdf _ fails

/-- The tail of a model does not change with its base tier. A write that succeeds appends the tokens
of the base tier that is written and then the tail, and the model's own token list is just that. One
that fails for the standard's sake has appended the tokens of the base tier, and one that fails for
a directory nothing. There is no other failure. -/
theorem write_appends (files : Files) (model : Model) (host : Display.Host) (out : List String) :
    (∀ base, (model.withBasis base).upperTokens = model.upperTokens) ∧
    match (model.write files host out).failure with
    | none => ∃ base lower tail, model.writtenBasis files = .ok base ∧
        (Model.base base).toArgs files host = .ok lower ∧ model.upperTokens = .ok tail ∧
        (model.write files host out).tokens = out ++ lower ++ tail ∧
        model.toArgs files host = .ok (lower ++ tail)
    | some (.conformance detail) => ∃ base lower, model.writtenBasis files = .ok base ∧
        (Model.base base).toArgs files host = .ok lower ∧
        (model.write files host out).tokens = out ++ lower ∧
        model.toArgs files host = .error (.conformance detail)
    | some (.directoryNotFound path) => (model.write files host out).tokens = out ∧
        model.toArgs files host = .error (.directoryNotFound path)
    | some _ => False := by
  refine ⟨model.upperTokens_withBasis, ?_⟩
  rw [write_eq, toArgs_eq, writtenBasis_eq]
  cases effective : model.effectiveSources files with
  | error e =>
    obtain ⟨path, rfl⟩ := exists_of_effectiveSources_eq_error effective
    exact ⟨rfl, rfl⟩
  | ok sources =>
    have lower := toArgs_base files { model.basis with sources } host
    rw [Base.tokensWith_sources] at lower
    cases upper : model.upperTokens with
    | error e =>
      obtain ⟨detail, rfl⟩ := exists_of_upperTokens_eq_error upper
      exact ⟨_, _, rfl, lower, rfl, rfl⟩
    | ok tail => exact ⟨_, _, tail, rfl, lower, rfl, rfl, rfl⟩

/-- PDF/X output of a model with a color strategy that is refused leaves its base tier behind. -/
example :
    let model : Model := .pdf {
      base := { device := "pdfwrite" }
      title := "t"
      colorStrategy := .rgb
      pdfX := true }
    (model.write ⟨[], []⟩ {} ["-dNOSAFER"]).tokens = ["-dNOSAFER", "-sDEVICE=pdfwrite"] ∧
      (model.write ⟨[], []⟩ {} ["-dNOSAFER"]).failure.isSome = true := by
  decide +kernel

end Model

end EngineTokens.Params
