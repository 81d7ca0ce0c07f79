import EngineTokens.Proofs.Params.Fields
import EngineTokens.Proofs.Params.Registering

/-!
# What changes do to the fields

A change that succeeds puts one content into one field, and switches off one other field where the
two exclude each other (`Effect`). Whether it is refused depends on the change and the files alone
(`refusal?`). Both are shown for each tier with its own changes and carried to the tiers above,
which show the fields of the tier below as they are.
-/

set_option autoImplicit false

namespace EngineTokens.Params

/-! ## Effects -/

/-- What a change does: one field takes a content, and another may be switched off. -/
structure Effect where
  field : Field
  content : Content
  clears : Option Field := none

namespace Effect

/-- The fields after a change. -/
def on (effect : Effect) (before : Field → Option Content) (field : Field) : Option Content :=
  if field = effect.field then some effect.content
  else if effect.clears = some field then some (.flag false)
  else before field

/-- The change does not concern a field. -/
def Spares (effect : Effect) (field : Field) : Prop :=
  field ≠ effect.field ∧ effect.clears ≠ some field

/-- A field that the change does not concern has the content that it had. -/
theorem on_of_spares {effect : Effect} {field : Field} (spares : effect.Spares field)
    (before : Field → Option Content) : effect.on before field = before field := by
  rw [on, if_neg spares.1, if_neg spares.2]

end Effect

/-- The answer to a change and what it leaves: the change is refused and leaves everything as it
was, or it has its effect on the fields. -/
def Answers {σ : Type} (fields : σ → Field → Option Content) (before : σ) (refusal : Option Error)
    (effect : Effect) (answer : Except Error (Option Bool) × σ) : Prop :=
  match refusal with
  | some e => answer = (.error e, before)
  | none => ∃ after told, answer = (.ok told, after) ∧ fields after = effect.on (fields before)

/-- A change of a part is a change of the whole where the whole shows the fields of the part and the
change spares the others. -/
theorem Answers.lift {σ τ : Type} {fields : σ → Field → Option Content}
    {wider : τ → Field → Option Content} {before : σ} {refusal : Option Error} {effect : Effect}
    {answer : Except Error (Option Bool) × σ}
    (answers : Answers fields before refusal effect answer) (whole : σ → τ)
    (shows : ∀ field, (∀ part, wider (whole part) field = fields part field) ∨
      effect.Spares field ∧ ∀ part, wider (whole part) field = wider (whole before) field) :
    Answers wider (whole before) refusal effect (answer.map id whole) := by
  cases refusal with
  | some e =>
    have refused : answer = (.error e, before) := answers
    rw [Answers, refused]
    rfl
  | none =>
    obtain ⟨after, told, rfl, changed⟩ := answers
    refine ⟨whole after, told, rfl, funext fun field => ?_⟩
    rcases shows field with shown | ⟨spares, same⟩
    · rw [shown, changed, Effect.on, Effect.on, shown]
    · rw [same, Effect.on_of_spares spares]

/-! ## The base tier -/

/-- Why a change of the base tier is refused. -/
def Base.Edit.refusal? (files : Files) : Base.Edit → Option Error
  | .addSource path =>
    if Path.canonicalize path = "" ∨ files.isDirectory (Path.canonicalize path) = false then
      some (.directoryNotFound path)
    else none
  | _ => none

/-- The effect of a change of the base tier. -/
def Base.Edit.effect (p : Base) : Base.Edit → Effect
  | .quiet on => { field := .base .quiet, content := .flag on }
  | .batch on => { field := .base .batch, content := .flag on }
  | .noPagePrompt on => { field := .base .noPagePrompt, content := .flag on }
  | .noPause on => { field := .base .noPause, content := .flag on }
  | .noPrompt on => { field := .base .noPrompt, content := .flag on }
  | .noSafer on => { field := .base .noSafer, content := .flag on }
  | .shortErrors on => { field := .base .shortErrors, content := .flag on }
  | .device name => { field := .base .device, content := .text name }
  | .displayFormat format => { field := .base .displayFormat, content := .format format }
  | .displayResolution dpi => { field := .base .displayResolution, content := .number dpi }
  | .outputFile path => { field := .base .outputFile, content := .text path }
  | .fontResourceDir path => { field := .base .fontResourceDir, content := .text path }
  | .genericResourceDir path => { field := .base .genericResourceDir, content := .text path }
  | .addSource path =>
    { field := .base .sources
      content := .directories <|
        if p.sources.contains path then p.sources.entries
        else p.sources.entries ++ [Path.canonicalize path] }

/-- A change of the base tier concerns no other tier. -/
theorem Base.Edit.spares (p : Base) (edit : Base.Edit) {field : Params.Field}
    (upper : ∀ f, field ≠ .base f) : (edit.effect p).Spares field := by
  cases edit <;> exact ⟨upper _, by simp [effect]⟩

/-- A path that is accepted is there afterwards, at its place if it was there before. -/
theorem Sources.add_eq_ok {files : Files} (sources : Sources) {path : String}
    (accepted : ¬ (Path.canonicalize path = "" ∨
      files.isDirectory (Path.canonicalize path) = false)) :
    ∃ new, sources.add files path =
      (.ok new, ⟨if sources.contains path then sources.entries
        else sources.entries ++ [Path.canonicalize path]⟩) := by
  have form : accepted? files path = some (Path.canonicalize path) := if_neg accepted
  rw [add_eq, form]
  by_cases known : Path.canonicalize path ∈ sources.entries
  · exact ⟨false, by simp only [if_pos known, contains_eq_true_iff.mpr known, if_true]⟩
  · exact ⟨true, by simp only [if_neg known, contains_eq_true_iff]⟩

/-- What is made of the answer afterwards does not concern the state. -/
theorem Steps.take_map {σ α β : Type} (f : α → β) (steps : Steps σ α) (state : σ) :
    (f <$> steps).take state = (steps.take state).map (Except.map f) id := by
  rw [take, ExceptT.run_map, StateT.run_map]
  rfl

/-- The base tier registers a directory as its include directories do. -/
theorem Base.apply_addSource (files : Files) (p : Base) (path : String) :
    p.apply files (.addSource path) =
      ((p.sources.add files path).1.map some,
        { p with sources := (p.sources.add files path).2 }) :=
  Steps.take_map some _ p

/-- A change of the base tier is refused for its reason or has its effect. -/
theorem Base.answers (files : Files) (p : Base) (edit : Base.Edit) :
    Answers (fun p => (Model.base p).field?) p (edit.refusal? files) (edit.effect p)
      (p.apply files edit) := by
  cases edit with
  | addSource path =>
    by_cases refused : Path.canonicalize path = "" ∨
        files.isDirectory (Path.canonicalize path) = false
    · simp only [Base.Edit.refusal?, if_pos refused, Answers, Base.apply_addSource, Sources.add_eq,
        Sources.accepted?_eq_none_iff.mpr refused]
      rfl
    · obtain ⟨new, added⟩ := p.sources.add_eq_ok refused
      simp only [Base.Edit.refusal?, if_neg refused, Answers, Base.apply_addSource, added]
      refine ⟨_, _, rfl, funext fun field => ?_⟩
      rcases field with f | _ | f | f
      · cases f <;> rfl
      all_goals rfl
  | _ =>
    refine ⟨_, _, rfl, funext fun field => ?_⟩
    rcases field with f | _ | f | f
    · cases f <;> rfl
    all_goals rfl

/-! ## The debug tier -/

/-- Why a change of the debug tier is refused. -/
def Debug.Edit.refusal? (files : Files) : Debug.Edit → Option Error
  | .base edit => edit.refusal? files
  | _ => none

/-- The effect of a change of the debug tier. -/
def Debug.Edit.effect (base : Base) (flags : BitVec 32) : Debug.Edit → Effect
  | .base edit => edit.effect base
  | .setBits word => { field := .flags, content := .word (word &&& defined) }
  | .setFlags word => { field := .flags, content := .word word }
  | .turn word on => { field := .flags, content := .word (turned flags word on) }

/-- A change of the debug tier is refused for its reason or has its effect. -/
theorem Debug.answers (files : Files) (p : Debug) (edit : Debug.Edit) :
    Answers (fun p => (Model.debug p).field?) p (edit.refusal? files) (edit.effect p.base p.flags)
      (p.apply files edit) := by
  cases edit with
  | base edit =>
    refine (Base.answers files p.base edit).lift (fun base => { p with base }) fun field => ?_
    rcases field with f | _ | f | f
    · exact .inl fun _ => rfl
    all_goals exact .inr ⟨edit.spares p.base (by simp), fun _ => rfl⟩
  | _ =>
    refine ⟨_, _, rfl, funext fun field => ?_⟩
    rcases field with f | _ | f | f <;> rfl

/-! ## The PDF tier -/

/-- Why a page is refused. -/
def pageRefusal? (name : String) (number : Int) : Option Error :=
  if number = pageUnset ∨ 1 ≤ number then none else some (.outOfRange name number)

/-- A page is refused for its reason. -/
theorem checkPage_eq (name : String) (number : Int) :
    checkPage name number =
      match pageRefusal? name number with
      | some e => .error e
      | none => .ok () := by
  unfold pageRefusal? checkPage
  split <;> rfl

/-- Why a change of the PDF tier is refused. -/
def Pdf.Edit.refusal? (files : Files) : Pdf.Edit → Option Error
  | .base edit => edit.refusal? files
  | .firstPage number => pageRefusal? "FirstPage" number
  | .lastPage number => pageRefusal? "LastPage" number
  | _ => none

/-- The effect of a change of the PDF tier. Turning one standard on turns the other off. -/
def Pdf.Edit.effect (base : Base) : Pdf.Edit → Effect
  | .base edit => edit.effect base
  | .colorStrategy strategy => { field := .pdf .colorStrategy, content := .strategy strategy }
  | .embedAllFonts on => { field := .pdf .embedAllFonts, content := .flag on }
  | .newPdf on => { field := .pdf .newPdf, content := .flag on }
  | .pdfInfo on => { field := .pdf .pdfInfo, content := .flag on }
  | .fitPage on => { field := .pdf .fitPage, content := .flag on }
  | .title text => { field := .pdf .title, content := .text text }
  | .useBleedBox on => { field := .pdf .useBleedBox, content := .flag on }
  | .useTrimBox on => { field := .pdf .useTrimBox, content := .flag on }
  | .useArtBox on => { field := .pdf .useArtBox, content := .flag on }
  | .useCropBox on => { field := .pdf .useCropBox, content := .flag on }
  | .password text => { field := .pdf .password, content := .text text }
  | .showAnnots on => { field := .pdf .showAnnots, content := .flag on }
  | .showAcroForm on => { field := .pdf .showAcroForm, content := .flag on }
  | .noUserUnit on => { field := .pdf .noUserUnit, content := .flag on }
  | .renderTtNotdef on => { field := .pdf .renderTtNotdef, content := .flag on }
  | .firstPage number => { field := .pdf .firstPage, content := .number number }
  | .lastPage number => { field := .pdf .lastPage, content := .number number }
  | .pageList text => { field := .pdf .pageList, content := .text text }
  | .subsetFonts on => { field := .pdf .subsetFonts, content := .flag on }
  | .pdfA on =>
    { field := .pdf .pdfA
      content := .flag on
      clears := if on then some (.pdf .pdfX) else none }
  | .pdfX on =>
    { field := .pdf .pdfX
      content := .flag on
      clears := if on then some (.pdf .pdfA) else none }

/-- A change of the PDF tier concerns no tier but that and the base tier. -/
theorem Pdf.Edit.spares (base : Base) (edit : Pdf.Edit) {field : Params.Field}
    (upper : (∀ f, field ≠ .base f) ∧ ∀ f, field ≠ .pdf f) : (edit.effect base).Spares field := by
  cases edit with
  | base edit => exact edit.spares base upper.1
  | pdfA on => cases on <;> exact ⟨upper.2 _, by simp [effect, upper.2, Ne.symm]⟩
  | pdfX on => cases on <;> exact ⟨upper.2 _, by simp [effect, upper.2, Ne.symm]⟩
  | _ => exact ⟨upper.2 _, by simp [effect]⟩

/-- A check before an assignment either stops the change where it is or lets the assignment
through. -/
theorem take_checked {σ : Type} {check : Except Error Unit} {refusal : Option Error}
    (checks : check = match refusal with
      | some e => .error e
      | none => .ok ()) (f : σ → σ) (state : σ) :
    Steps.take (do check; Steps.assign f) state =
      match refusal with
      | some e => ((.error e : Except Error (Option Bool)), state)
      | none => (.ok none, f state) := by
  rw [checks]
  cases refusal <;> rfl

/-- A change of a page is refused with the page. -/
theorem answers_page {p : Pdf} {field : Pdf.Field} (put : Pdf → Pdf) (name : String) (number : Int)
    (puts : (Model.pdf (put p)).field? =
      Effect.on { field := .pdf field, content := .number number } (Model.pdf p).field?) :
    Answers (fun p => (Model.pdf p).field?) p (pageRefusal? name number)
      { field := .pdf field, content := .number number }
      (Steps.take (do checkPage name number; Steps.assign put) p) := by
  rw [take_checked (checkPage_eq name number)]
  cases pageRefusal? name number with
  | some e => rfl
  | none => exact ⟨put p, none, rfl, puts⟩

/-- A change of the PDF tier is refused for its reason or has its effect. -/
theorem Pdf.answers (files : Files) (p : Pdf) (edit : Pdf.Edit) :
    Answers (fun p => (Model.pdf p).field?) p (edit.refusal? files) (edit.effect p.base)
      (p.apply files edit) := by
  cases edit with
  | base edit =>
    refine (Base.answers files p.base edit).lift (fun base => { p with base }) fun field => ?_
    rcases field with f | _ | f | f
    · exact .inl fun _ => rfl
    all_goals exact .inr ⟨edit.spares p.base (by simp), fun _ => rfl⟩
  | firstPage number =>
    refine answers_page (fun p => { p with firstPage := number }) _ number ?_
    exact funext fun field => by rcases field with f | _ | f | f <;> first | rfl | (cases f <;> rfl)
  | lastPage number =>
    refine answers_page (fun p => { p with lastPage := number }) _ number ?_
    exact funext fun field => by rcases field with f | _ | f | f <;> first | rfl | (cases f <;> rfl)
  | pdfA on | pdfX on =>
    -- turned on, a standard takes two assignments, the second to the other standard
    cases on <;> refine ⟨_, _, rfl, funext fun field => ?_⟩ <;> rcases field with f | _ | f | f
    all_goals first | rfl | (cases f <;> rfl)
  | _ =>
    refine ⟨_, _, rfl, funext fun field => ?_⟩
    rcases field with f | _ | f | f
    · rfl
    · rfl
    · cases f <;> rfl
    · rfl

/-! ## The conformance tier -/

/-- The path under which a profile is kept; the empty path has none. -/
def keptProfile (files : Files) (path : RawPath) : String :=
  match files.absoluteNames path with
  | .ok names => Files.spelled names
  | .error _ => ""

/-- Why a profile is refused: it has no absolute path, or nothing stands there under these very
names. -/
def profileRefusal? (files : Files) (path : RawPath) : Option Error :=
  if path = [] then none
  else
    match files.absoluteNames path with
    | .error fault => some fault.toError
    | .ok names =>
      if files.doesExist (Path.ofNames names) = true ∧ files.matchesExactly [] names = true then none
      else some (.fileNotFound (Path.ofNames names))

/-- Why a part of PDF/A is refused. -/
def levelRefusal? (number : Int) : Option Error :=
  if 1 ≤ number ∧ number ≤ 3 then none else some (.outOfRange "PDFA" number)

/-- Why a change of the conformance tier is refused. -/
def Conformance.Edit.refusal? (files : Files) : Conformance.Edit → Option Error
  | .pdf edit => edit.refusal? files
  | .iccProfile path => profileRefusal? files path
  | .level number => levelRefusal? number
  | _ => none

/-- The effect of a change of the conformance tier. -/
def Conformance.Edit.effect (files : Files) (base : Base) : Conformance.Edit → Effect
  | .pdf edit => edit.effect base
  | .iccProfile path =>
    { field := .conformance .iccProfile, content := .text (keptProfile files path) }
  | .level number => { field := .conformance .level, content := .number number }
  | .policy choice => { field := .conformance .policy, content := .policy choice }
  | .outputCondition text => { field := .conformance .outputCondition, content := .text text }

/-- A path that is not empty is resolved to the one under which a profile is kept, or refused. -/
theorem resolveExisting_eq {files : Files} {path : RawPath} (named : path ≠ []) :
    files.resolveExisting path false =
      match profileRefusal? files path with
      | some e => .error e
      | none => .ok (keptProfile files path) := by
  unfold Files.resolveExisting profileRefusal? keptProfile
  rw [if_neg named]
  cases files.absoluteNames path with
  | error fault => rfl
  | ok names =>
    dsimp only
    cases exists_ : files.doesExist (Path.ofNames names) with
    | false => simp
    | true => cases exact_ : files.matchesExactly [] names <;> simp

/-- A part of PDF/A is refused for its reason. -/
theorem checkLevel_eq (number : Int) :
    checkLevel number =
      match levelRefusal? number with
      | some e => .error e
      | none => .ok () := by
  unfold levelRefusal? checkLevel
  split <;> rfl

/-- A path that is refused leaves the profile as it was; another one puts the profile where it is
kept. -/
theorem Conformance.apply_iccProfile (files : Files) (p : Conformance) (path : RawPath) :
    p.apply files (.iccProfile path) =
      match profileRefusal? files path with
      | some e => (.error e, p)
      | none => (.ok none, { p with iccProfile := keptProfile files path }) := by
  rw [apply, Edit.make]
  by_cases named : path = []
  · have none : profileRefusal? files path = none := if_pos named
    have empty : keptProfile files path = "" := by
      rw [named]
      rfl
    rw [if_pos named, none, empty]
    rfl
  · rw [if_neg named, resolveExisting_eq named]
    cases profileRefusal? files path <;> rfl

/-- A change of the conformance tier is refused for its reason or has its effect. -/
theorem Conformance.answers (files : Files) (p : Conformance) (edit : Conformance.Edit) :
    Answers (fun p => (Model.conformance p).field?) p (edit.refusal? files)
      (edit.effect files p.pdf.base) (p.apply files edit) := by
  cases edit with
  | pdf edit =>
    refine (Pdf.answers files p.pdf edit).lift (fun pdf => { p with pdf }) fun field => ?_
    rcases field with f | _ | f | f
    · exact .inl fun _ => rfl
    · exact .inr ⟨edit.spares p.pdf.base (by simp), fun _ => rfl⟩
    · exact .inl fun _ => rfl
    · exact .inr ⟨edit.spares p.pdf.base (by simp), fun _ => rfl⟩
  | iccProfile path =>
    rw [apply_iccProfile, Edit.refusal?, Edit.effect]
    cases profileRefusal? files path with
    | some e => rfl
    | none =>
      refine ⟨_, _, rfl, funext fun field => ?_⟩
      rcases field with f | _ | f | f <;> first | rfl | (cases f <;> rfl)
  | level number =>
    rw [apply, Edit.make, Edit.refusal?, Edit.effect, take_checked (checkLevel_eq number)]
    cases levelRefusal? number with
    | some e => rfl
    | none =>
      refine ⟨_, _, rfl, funext fun field => ?_⟩
      rcases field with f | _ | f | f <;> first | rfl | (cases f <;> rfl)
  | _ =>
    refine ⟨_, _, rfl, funext fun field => ?_⟩
    rcases field with f | _ | f | f
    · rfl
    · rfl
    · rfl
    · cases f <;> rfl

end EngineTokens.Params
