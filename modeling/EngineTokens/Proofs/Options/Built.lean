import EngineTokens.Proofs.Options.Tier

/-!
# What a model is built from

A model that has been built gives away what it was built from: the tier that was settled, the base
tier, and what the tier adds to it (`ModelOptions.build_eq_ok_iff`,
`ModelOptions.buildAs_eq_ok_iff`). Two things come from the settings, the device where the options
name none, and the profile where its name leads nowhere from here. So under other settings with the
same device the model is the same but for its profile (`ModelOptions.build_eq_map`).
-/

set_option autoImplicit false

namespace EngineTokens

open Params (Kind Model Base)

variable {files : Files} {saved other : Preferences}

/-! ## The conformance tier -/

/-- The part of PDF/A that some options ask for. -/
def ConformanceOptions.level (o : ConformanceOptions) : Except Error Int :=
  match o.pdfA with
  | some number => (Params.checkLevel number).map fun _ => number
  | none => .ok 3

/-- The conformance tier of some options, where the part of PDF/A and the profile are known. -/
def ConformanceOptions.filled (files : Files) (o : ConformanceOptions) (pdf : Params.Pdf)
    (level : Int) (iccProfile : String) : Params.Conformance where
  pdf := o.withStandards files pdf
  iccProfile
  level
  policy := o.policy.getD .stop
  outputCondition := o.outputCondition.getD ""

/-- Where no standard is asked for yet, the one that is turned on last stands alone. -/
theorem ConformanceOptions.withStandards_eq (o : ConformanceOptions) {pdf : Params.Pdf}
    (plain : pdf.IsPlain) :
    o.withStandards files pdf =
      { pdf with pdfA := o.pdfA.isSome && !o.pdfX, pdfX := o.pdfX } := by
  have untouched : pdf = { pdf with pdfA := false, pdfX := false } := by
    obtain ⟨⟩ := pdf
    obtain ⟨rfl, rfl⟩ := plain
    rfl
  unfold withStandards
  cases o.pdfX <;> cases o.pdfA.isSome
  · exact untouched
  all_goals rfl

/-- Asking for a standard leaves the base tier alone. -/
theorem ConformanceOptions.base_withStandards (o : ConformanceOptions) (pdf : Params.Pdf) :
    (o.withStandards files pdf).base = pdf.base := by
  unfold withStandards
  cases o.pdfX <;> cases o.pdfA.isSome <;> rfl

/-- The conformance tier takes a part of PDF/A and a profile, in this order. -/
theorem ConformanceOptions.build_eq (o : ConformanceOptions) (pdf : Params.Pdf) :
    o.build files saved pdf =
      o.level >>= fun level =>
        (profileOf files saved o.iccProfile).map (o.filled files pdf level) := by
  unfold build level
  cases profileOf files saved o.iccProfile <;> cases o.pdfA <;> rfl

/-- What a conformance tier has been built from. -/
theorem ConformanceOptions.build_eq_ok_iff {o : ConformanceOptions} {pdf : Params.Pdf}
    {p : Params.Conformance} :
    o.build files saved pdf = .ok p ↔
      ∃ level iccProfile, o.level = .ok level ∧
        profileOf files saved o.iccProfile = .ok iccProfile ∧
        o.filled files pdf level iccProfile = p := by
  rw [build_eq]
  cases o.level with
  | error e => simp [bind, Except.bind]
  | ok level => cases profileOf files saved o.iccProfile <;> simp [bind, Except.bind, Except.map]

/-! ## The whole model -/

namespace ModelOptions

variable {o : ModelOptions} {model : Model}

/-- The tier is the lowest that has all the options given if none is asked for, and the one asked
for otherwise, where no option exceeds it. -/
theorem resolveKind_eq_ok_iff {kind : Kind} :
    o.resolveKind = .ok kind ↔
      (o.kind = none ∧ o.neededKind = .ok kind) ∨ (o.kind = some kind ∧ ¬ o.Exceeds kind) := by
  cases asked : o.kind with
  | none =>
    have same : { o with kind := none } = o := by rw [← asked]
    have settled := resolveKind_none o
    rw [same] at settled
    simp [settled]
  | some named =>
    have same : { o with kind := some named } = o := by rw [← asked]
    have settled := @resolveKind_some_eq_ok_iff o named kind
    rw [same] at settled
    rw [settled, not_exceeds_iff]
    constructor
    · rintro ⟨rfl, carries⟩
      exact .inr ⟨rfl, carries⟩
    · rintro (⟨unasked, -⟩ | ⟨⟨⟩, carries⟩)
      · cases unasked
      · exact ⟨rfl, carries⟩

/-- A tier that is settled on has all the options given. -/
theorem not_exceeds_of_resolveKind {kind : Kind} (settled : o.resolveKind = .ok kind) :
    ¬ o.Exceeds kind := by
  obtain ⟨-, given⟩ | ⟨-, within⟩ := resolveKind_eq_ok_iff.mp settled
  · exact not_exceeds_iff.mpr ⟨kind, given, by cases kind <;> rfl⟩
  · exact within

/-- Some tier is settled on exactly if a tier that may be taken has all the options given. -/
theorem exists_resolveKind_iff :
    (∃ kind, o.resolveKind = .ok kind) ↔
      ∃ kind, (o.kind = none ∨ o.kind = some kind) ∧ ¬ o.Exceeds kind := by
  constructor
  · rintro ⟨kind, settled⟩
    refine ⟨kind, ?_, not_exceeds_of_resolveKind settled⟩
    exact (resolveKind_eq_ok_iff.mp settled).imp And.left And.left
  · rintro ⟨kind, unasked | asked, within⟩
    · obtain ⟨needed, given, -⟩ := not_exceeds_iff.mp within
      exact ⟨needed, resolveKind_eq_ok_iff.mpr (.inl ⟨unasked, given⟩)⟩
    · exact ⟨kind, resolveKind_eq_ok_iff.mpr (.inr ⟨asked, within⟩)⟩

/-- Outside the conformance tier no option of that tier is given. -/
theorem conformance_of_resolveKind {kind : Kind} (settled : o.resolveKind = .ok kind)
    (lower : kind ≠ .conformance) : o.conformance = {} :=
  Classical.byContradiction fun given =>
    not_exceeds_of_resolveKind settled (.inr (.inr (.inr ⟨given, lower⟩)))

/-- Below the PDF tier no option of that tier is given. -/
theorem pdf_of_resolveKind {kind : Kind} (settled : o.resolveKind = .ok kind) (lower : kind ≠ .pdf)
    (upper : kind ≠ .conformance) : o.pdf = {} :=
  Classical.byContradiction fun given =>
    not_exceeds_of_resolveKind settled (.inr (.inr (.inl ⟨given, lower, upper⟩)))

/-- Outside the debug tier no switch is named. -/
theorem debug_of_resolveKind {kind : Kind} (settled : o.resolveKind = .ok kind)
    (other : kind ≠ .debug) : o.debug = [] :=
  Classical.byContradiction fun given =>
    not_exceeds_of_resolveKind settled (.inr (.inl ⟨given, other⟩))

/-- What a model of a tier has been built from. -/
theorem buildAs_eq_ok_iff {kind : Kind} :
    o.buildAs files saved kind = .ok model ↔
      ∃ base, o.base.build files saved = .ok base ∧
        match kind with
        | .base => .base base = model
        | .debug => ∃ flags, Params.Debug.turnOn 0 o.debug = .ok flags ∧
            .debug { base, flags } = model
        | .pdf => ∃ pdf, o.pdf.build base = .ok pdf ∧ .pdf pdf = model
        | .conformance => ∃ pdf p, o.pdf.build base = .ok pdf ∧
            o.conformance.build files saved pdf = .ok p ∧ .conformance p = model := by
  unfold buildAs
  cases o.base.build files saved with
  | error e => simp [bind, Except.bind]
  | ok base =>
    simp only [bind, Except.bind, pure, Except.pure, Except.ok.injEq, exists_eq_left']
    cases kind with
    | base => simp
    | debug => cases Params.Debug.turnOn 0 o.debug <;> simp
    | pdf => cases o.pdf.build base <;> simp
    | conformance =>
      cases o.pdf.build base with
      | error e => simp
      | ok pdf =>
        simp only [Except.ok.injEq, exists_and_left, exists_eq_left']
        cases o.conformance.build files saved pdf <;> simp

/-- A model that has been built has been built in the tier that was settled. -/
theorem build_eq_ok_iff :
    o.build files saved = .ok model ↔
      ∃ kind, o.resolveKind = .ok kind ∧ o.buildAs files saved kind = .ok model := by
  rw [build_eq]
  cases o.resolveKind <;> simp [bind, Except.bind]

/-- The base tier of a model is what the options of that tier describe; the tiers above take it as
it is. -/
theorem basis_of_build (built : o.build files saved = .ok model) :
    o.base.build files saved = .ok model.basis := by
  obtain ⟨kind, -, filled⟩ := build_eq_ok_iff.mp built
  obtain ⟨base, basis, rest⟩ := buildAs_eq_ok_iff.mp filled
  have same : model.basis = base := by
    cases kind with
    | base =>
      obtain rfl := rest
      rfl
    | debug =>
      obtain ⟨flags, -, rfl⟩ := rest
      rfl
    | pdf =>
      obtain ⟨pdf, middle, rfl⟩ := rest
      exact (PdfOptions.lower_of_build middle).1
    | conformance =>
      obtain ⟨pdf, p, middle, upper, rfl⟩ := rest
      obtain ⟨level, iccProfile, -, -, rfl⟩ := ConformanceOptions.build_eq_ok_iff.mp upper
      exact (o.conformance.base_withStandards pdf).trans (PdfOptions.lower_of_build middle).1
  rw [same]
  exact basis

end ModelOptions

/-- The device is the one chosen, if any is. -/
theorem BaseOptions.device_of_build {o : BaseOptions} {base : Base}
    (built : o.build files saved = .ok base) :
    ∃ chosen, o.chosenDevice saved = .ok chosen ∧ base.device = chosen.getD "" := by
  unfold BaseOptions.build at built
  cases chosen : o.chosenDevice saved with
  | error e => simp [chosen, bind, Except.bind] at built
  | ok device =>
    cases searched : Params.Sources.addAll files {} o.includes with
    | error e => simp [chosen, searched, bind, Except.bind] at built
    | ok sources =>
      simp only [chosen, searched, bind, Except.bind, pure, Except.pure, Except.ok.injEq] at built
      rw [← built]
      exact ⟨device, rfl, rfl⟩

/-! ## Other settings -/

/-- Only a relative name that leads nowhere from here is taken from the directory of profiles, and
only if it leads somewhere from there. -/
theorem of_locateProfile_ne {path : RawPath} {iccDir : String}
    (moved : locateProfile files path iccDir ≠ path) :
    Path.isAbsolute path = false ∧ files.doesExist path = false ∧
      files.doesExist (Path.join iccDir path) = true := by
  unfold locateProfile at moved
  split at moved
  next searched =>
    simp only [Bool.and_eq_true, Bool.not_eq_true'] at searched
    obtain ⟨⟨relative, absent⟩, -⟩ := searched
    dsimp only at moved
    split at moved
    next there => exact ⟨relative, absent, there⟩
    next => exact absurd rfl moved
  next => exact absurd rfl moved

/-- The same model with another profile, for which only the conformance tier has a field. -/
def Params.Model.withProfile (model : Model) (iccProfile : String) : Model :=
  match model with
  | .conformance p => .conformance { p with iccProfile }
  | .base _ | .debug _ | .pdf _ => model

/-- Under other settings that choose the same device, the model differs in its profile at most, and
is refused only with the profile. -/
theorem ModelOptions.build_eq_map {o : ModelOptions} {model : Model}
    (built : o.build files saved = .ok model)
    (device : o.base.chosenDevice other = o.base.chosenDevice saved) :
    o.build files other =
      (profileOf files other o.conformance.iccProfile).map model.withProfile := by
  obtain ⟨kind, settled, filled⟩ := build_eq_ok_iff.mp built
  obtain ⟨base, basis, rest⟩ := buildAs_eq_ok_iff.mp filled
  have lower : o.base.build files other = .ok base := by
    rw [← basis, BaseOptions.build, BaseOptions.build, device]
  have unnamed : kind ≠ .conformance →
      profileOf files other o.conformance.iccProfile = .ok "" := by
    intro below
    rw [conformance_of_resolveKind settled below]
    rfl
  rw [build_eq, settled]
  change o.buildAs files other kind = _
  cases kind with
  | base =>
    obtain rfl := rest
    simp only [buildAs, lower, unnamed (by decide), bind, Except.bind, pure, Except.pure]
    rfl
  | debug =>
    obtain ⟨flags, switched, rfl⟩ := rest
    simp only [buildAs, lower, switched, unnamed (by decide), bind, Except.bind, pure,
      Except.pure]
    rfl
  | pdf =>
    obtain ⟨pdf, middle, rfl⟩ := rest
    simp only [buildAs, lower, middle, unnamed (by decide), bind, Except.bind, pure, Except.pure]
    rfl
  | conformance =>
    obtain ⟨pdf, p, middle, upper, rfl⟩ := rest
    obtain ⟨level, iccProfile, numbered, -, rfl⟩ := ConformanceOptions.build_eq_ok_iff.mp upper
    simp only [buildAs, lower, middle, ConformanceOptions.build_eq, numbered, bind, Except.bind,
      pure, Except.pure]
    cases profileOf files other o.conformance.iccProfile <;> rfl

end EngineTokens
