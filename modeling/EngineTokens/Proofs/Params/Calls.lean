import EngineTokens.Proofs.Params.Effects
import EngineTokens.Proofs.Params.Rows
import EngineTokens.Proofs.Files.Resolving

/-!
# What calls do to a model

A call on a model of any tier is refused for its reason, or leaves the model with the fields that it
should have (`Model.obeys`). From the effects alone follows what holds of every model that calls can
make (`Sound`): the two standards exclude each other, pages count from one, the part of PDF/A is one
that exists, and the profile is an absolute path in its one spelling.
-/

set_option autoImplicit false

namespace EngineTokens.Params

/-! ## Models of any tier -/

/-- The tier of a field. -/
def Field.tier : Field → Kind
  | .base _ => .base
  | .flags => .debug
  | .pdf _ => .pdf
  | .conformance _ => .conformance

/-- A tier is another one or stands above it. -/
def Kind.covers (tier below : Kind) : Bool :=
  below == tier || below == .base || (tier == .conformance && below == .pdf)

/-- Why a call is refused. -/
def Call.refusal? (files : Files) : Call → Option Error
  | .base edit => edit.refusal? files
  | .debug edit => edit.refusal? files
  | .pdf edit => edit.refusal? files
  | .conformance edit => edit.refusal? files
  | .clear _ => none

/-- The fields after a call that is not refused. -/
def Call.fields (files : Files) (model : Model) : Call → Field → Option Content
  | .base edit => (edit.effect model.basis).on model.field?
  | .debug edit => (edit.effect model.basis model.debugWord).on model.field?
  | .pdf edit => (edit.effect model.basis).on model.field?
  | .conformance edit => (edit.effect files model.basis).on model.field?
  | .clear tier => fun field =>
    if tier.covers field.tier then (Model.blank model.kind).field? field else model.field? field

namespace Model

/-- The answer to a call and what it leaves: the call is refused and leaves the model as it was, or
the model keeps its tier and has the given fields. -/
def Obeys (model : Model) (refusal : Option Error) (fields : Field → Option Content)
    (answer : Except Error (Option Bool) × Model) : Prop :=
  match refusal with
  | some e => answer = (.error e, model)
  | none => ∃ after told, answer = (.ok told, after) ∧ after.kind = model.kind ∧ after.field? = fields

/-- A model obeys a change of its tier. -/
theorem obeys_of_answers {σ : Type} {make : σ → Model} {p : σ} {refusal : Option Error}
    {effect : Effect} {answer : Except Error (Option Bool) × σ}
    (answers : Answers (fun p => (make p).field?) p refusal effect answer)
    (tier : ∀ q, (make q).kind = (make p).kind) :
    (make p).Obeys refusal (effect.on (make p).field?) (answer.map id make) := by
  cases refusal with
  | some e =>
    have refused : answer = (.error e, p) := answers
    rw [Obeys, refused]
    rfl
  | none =>
    obtain ⟨after, told, rfl, changed⟩ := answers
    exact ⟨make after, told, rfl, tier after, changed⟩

/-- Clearing a tier keeps the tier of the model and makes the fields of that tier and of those below
it new. -/
theorem clearTier?_eq {model after : Model} {tier : Kind}
    (cleared : model.clearTier? tier = some after) :
    after.kind = model.kind ∧ after.field? = fun field =>
      if tier.covers field.tier then (blank model.kind).field? field else model.field? field := by
  cases model <;> cases tier <;> cases cleared <;> refine ⟨rfl, funext fun field => ?_⟩ <;>
    rcases field with f | _ | f | f <;> rfl

/-- Every call that a model offers is refused for its reason, or leaves the model with the fields
that it should have. -/
theorem obeys {files : Files} {model : Model} {c : Call}
    {answer : Except Error (Option Bool) × Model} (answered : model.answer? files c = some answer) :
    model.Obeys (c.refusal? files) (c.fields files model) answer := by
  cases c with
  | base edit =>
    cases Option.some.inj answered
    cases model with
    | base p => exact obeys_of_answers (Base.answers files p edit) fun _ => rfl
    | debug p => exact obeys_of_answers (Debug.answers files p (.base edit)) fun _ => rfl
    | pdf p => exact obeys_of_answers (Pdf.answers files p (.base edit)) fun _ => rfl
    | conformance p =>
      exact obeys_of_answers (Conformance.answers files p (.pdf (.base edit))) fun _ => rfl
  | debug edit =>
    cases model with
    | debug p =>
      cases Option.some.inj answered
      exact obeys_of_answers (Debug.answers files p edit) fun _ => rfl
    | _ => cases answered
  | pdf edit =>
    cases model with
    | pdf p =>
      cases Option.some.inj answered
      exact obeys_of_answers (Pdf.answers files p edit) fun _ => rfl
    | conformance p =>
      cases Option.some.inj answered
      exact obeys_of_answers (Conformance.answers files p (.pdf edit)) fun _ => rfl
    | _ => cases answered
  | conformance edit =>
    cases model with
    | conformance p =>
      cases Option.some.inj answered
      exact obeys_of_answers (Conformance.answers files p edit) fun _ => rfl
    | _ => cases answered
  | clear tier =>
    obtain ⟨after, cleared, rfl⟩ := Option.map_eq_some_iff.mp answered
    obtain ⟨kind, fields⟩ := clearTier?_eq cleared
    exact ⟨after, none, rfl, kind, fields⟩

/-- Clearing its own tier makes a model new. -/
theorem clearTier?_kind (model : Model) : model.clearTier? model.kind = some (blank model.kind) := by
  cases model <;> rfl

end Model

/-! ## What every model keeps -/

/-- What holds of the fields of every model that calls can make. -/
structure Sound (fields : Field → Option Content) : Prop where
  /-- The two standards exclude each other. -/
  exclusive : ¬ (fields (.pdf .pdfA) = some (.flag true) ∧ fields (.pdf .pdfX) = some (.flag true))
  /-- A page is not set or counts from one. -/
  pages : ∀ page, page = Pdf.Field.firstPage ∨ page = .lastPage → ∀ content,
    fields (.pdf page) = some content → ∃ n, content = .number n ∧ (n = -1 ∨ 1 ≤ n)
  /-- There are three parts of PDF/A. -/
  level : ∀ content, fields (.conformance .level) = some content →
    ∃ n, content = .number n ∧ 1 ≤ n ∧ n ≤ 3
  /-- There is no profile, or its path starts at the root and is spelled in the one way. -/
  profile : ∀ content, fields (.conformance .iccProfile) = some content →
    ∃ path, content = .text path ∧
      (path = "" ∨ Path.isAbsolute path = true ∧ Path.canonicalize path = path)

/-- An effect that keeps this. -/
structure Effect.Keeps (effect : Effect) : Prop where
  clears : ∀ field, effect.clears = some field → field = .pdf .pdfA ∨ field = .pdf .pdfX
  pdfA : effect.field = .pdf .pdfA → effect.content = .flag true →
    effect.clears = some (.pdf .pdfX)
  pdfX : effect.field = .pdf .pdfX → effect.content = .flag true →
    effect.clears = some (.pdf .pdfA)
  pages : effect.field = .pdf .firstPage ∨ effect.field = .pdf .lastPage →
    ∃ n, effect.content = .number n ∧ (n = -1 ∨ 1 ≤ n)
  level : effect.field = .conformance .level → ∃ n, effect.content = .number n ∧ 1 ≤ n ∧ n ≤ 3
  profile : effect.field = .conformance .iccProfile → ∃ path, effect.content = .text path ∧
    (path = "" ∨ Path.isAbsolute path = true ∧ Path.canonicalize path = path)

/-- What a field holds after an effect was put there, is what it was cleared to, or was there
before. -/
theorem Effect.on_eq_some {effect : Effect} {before : Field → Option Content} {field : Field}
    {content : Content} (shown : effect.on before field = some content) :
    (effect.field = field ∧ effect.content = content) ∨
      (effect.clears = some field ∧ content = .flag false) ∨ before field = some content := by
  unfold on at shown
  split at shown
  next same => exact .inl ⟨same.symm, Option.some.inj shown⟩
  next =>
    split at shown
    next off => exact .inr (.inl ⟨off, (Option.some.inj shown).symm⟩)
    next => exact .inr (.inr shown)

/-- The field that an effect clears is off after it. -/
theorem Effect.on_cleared {effect : Effect} {field : Field} (apart : field ≠ effect.field)
    (off : effect.clears = some field) (before : Field → Option Content) :
    effect.on before field = some (.flag false) := by
  rw [on, if_neg apart, if_pos off]

/-- What holds of every model is kept by an effect that keeps it. -/
theorem Sound.on {effect : Effect} {before : Field → Option Content} (sound : Sound before)
    (keeps : effect.Keeps) : Sound (effect.on before) where
  exclusive := by
    rintro ⟨pdfA, pdfX⟩
    -- a standard that the change turns on has turned the other off
    rcases Effect.on_eq_some pdfA with ⟨turned, on⟩ | ⟨-, clash⟩ | keptA
    · have off := Effect.on_cleared (by simp [turned]) (keeps.pdfA turned on) before
      rw [pdfX] at off
      cases off
    · cases clash
    · rcases Effect.on_eq_some pdfX with ⟨turned, on⟩ | ⟨-, clash⟩ | keptX
      · have off := Effect.on_cleared (by simp [turned]) (keeps.pdfX turned on) before
        rw [pdfA] at off
        cases off
      · cases clash
      · exact sound.exclusive ⟨keptA, keptX⟩
  pages := by
    intro page isPage content shown
    rcases Effect.on_eq_some shown with ⟨same, rfl⟩ | ⟨off, -⟩ | kept
    · refine keeps.pages ?_
      rcases isPage with rfl | rfl
      · exact .inl same
      · exact .inr same
    · rcases isPage with rfl | rfl <;> rcases keeps.clears _ off with clash | clash <;> cases clash
    · exact sound.pages page isPage content kept
  level := by
    intro content shown
    rcases Effect.on_eq_some shown with ⟨same, rfl⟩ | ⟨off, -⟩ | kept
    · exact keeps.level same
    · rcases keeps.clears _ off with clash | clash <;> cases clash
    · exact sound.level content kept
  profile := by
    intro content shown
    rcases Effect.on_eq_some shown with ⟨same, rfl⟩ | ⟨off, -⟩ | kept
    · exact keeps.profile same
    · rcases keeps.clears _ off with clash | clash <;> cases clash
    · exact sound.profile content kept

/-- Changes of the base tier keep what holds of every model. -/
theorem Base.Edit.keeps (p : Base) (edit : Base.Edit) : (edit.effect p).Keeps := by
  cases edit <;> constructor <;> simp [effect]

/-- A page that is accepted is not set or counts from one. -/
theorem pageRefusal?_eq_none {name : String} {number : Int}
    (accepted : pageRefusal? name number = none) : number = -1 ∨ 1 ≤ number := by
  unfold pageRefusal? at accepted
  split at accepted
  next good => exact good
  next => cases accepted

/-- Changes of the PDF tier that are not refused keep what holds of every model. -/
theorem Pdf.Edit.keeps {files : Files} (base : Base) {edit : Pdf.Edit}
    (accepted : edit.refusal? files = none) : (edit.effect base).Keeps := by
  cases edit with
  | base edit => exact edit.keeps base
  | firstPage number =>
    have good := pageRefusal?_eq_none accepted
    constructor <;> simp [effect, good]
  | lastPage number =>
    have good := pageRefusal?_eq_none accepted
    constructor <;> simp [effect, good]
  | _ => constructor <;> simp [effect]

/-- There is no profile, or its path starts at the root and is spelled in the one way. -/
theorem keptProfile_sound (files : Files) (path : RawPath) :
    keptProfile files path = "" ∨ Path.isAbsolute (keptProfile files path) = true ∧
      Path.canonicalize (keptProfile files path) = keptProfile files path := by
  unfold keptProfile
  split
  next names _ =>
    exact .inr ⟨Files.isAbsolute_spelled names, Path.canonicalize_canonicalize _⟩
  next => exact .inl rfl

/-- Changes of the conformance tier that are not refused keep what holds of every model. -/
theorem Conformance.Edit.keeps {files : Files} (base : Base) {edit : Conformance.Edit}
    (accepted : edit.refusal? files = none) : (edit.effect files base).Keeps := by
  cases edit with
  | pdf edit => exact Pdf.Edit.keeps base accepted
  | iccProfile path =>
    have good := keptProfile_sound files path
    constructor <;> simp [effect, good]
  | level number =>
    have good : 1 ≤ number ∧ number ≤ 3 := by
      simp only [refusal?, levelRefusal?] at accepted
      split at accepted
      next good => exact good
      next => cases accepted
    constructor <;> simp [effect, good]
  | _ => constructor <;> simp [effect]

/-- Changes of the debug tier keep what holds of every model. -/
theorem Debug.Edit.keeps (base : Base) (flags : BitVec 32) (edit : Debug.Edit) :
    (edit.effect base flags).Keeps := by
  cases edit with
  | base edit => exact edit.keeps base
  | _ => constructor <;> simp [effect]

/-- A new model has what holds of every model. -/
theorem Model.sound_blank (kind : Kind) : Sound (blank kind).field? := by
  cases kind <;> constructor <;>
    simp [Model.field?, blank, Pdf.get, Conformance.get, pageUnset]

/-- A tier that is cleared has all its fields from the blank model, so the two standards come from
the same model, cleared or not. -/
theorem Sound.clear {before blank : Field → Option Content} (sound : Sound before)
    (fresh : Sound blank) (tier : Kind) :
    Sound fun field => if tier.covers field.tier then blank field else before field where
  exclusive := by
    cases covered : tier.covers .pdf
    · simpa [Field.tier, covered] using sound.exclusive
    · simpa [Field.tier, covered] using fresh.exclusive
  pages := by
    intro page isPage content shown
    split at shown
    · exact fresh.pages page isPage content shown
    · exact sound.pages page isPage content shown
  level := by
    intro content shown
    split at shown
    · exact fresh.level content shown
    · exact sound.level content shown
  profile := by
    intro content shown
    split at shown
    · exact fresh.profile content shown
    · exact sound.profile content shown

/-- A call that is not refused keeps what holds of every model. -/
theorem Call.sound_fields {files : Files} {model : Model} (sound : Sound model.field?) {c : Call}
    (accepted : c.refusal? files = none) : Sound (c.fields files model) := by
  cases c with
  | base edit => exact sound.on (edit.keeps model.basis)
  | debug edit => exact sound.on (edit.keeps model.basis model.debugWord)
  | pdf edit => exact sound.on (Pdf.Edit.keeps model.basis accepted)
  | conformance edit => exact sound.on (Conformance.Edit.keeps model.basis accepted)
  | clear tier => exact sound.clear (Model.sound_blank model.kind) tier

namespace Model

/-- One call keeps the tier and what holds of every model. -/
theorem sound_call {model : Model} (sound : Sound model.field?) (files : Files) (c : Call) :
    (model.call files c).kind = model.kind ∧ Sound (model.call files c).field? := by
  cases answered : model.answer? files c with
  | none =>
    rw [call, answered]
    exact ⟨rfl, sound⟩
  | some answer =>
    have obeys := obeys answered
    cases refusal : c.refusal? files with
    | some e =>
      rw [refusal] at obeys
      obtain rfl : answer = (.error e, model) := obeys
      rw [call, answered]
      exact ⟨rfl, sound⟩
    | none =>
      rw [refusal] at obeys
      obtain ⟨after, told, rfl, kind, fields⟩ := obeys
      rw [call, answered]
      refine ⟨kind, ?_⟩
      rw [fields]
      exact c.sound_fields sound refusal

/-- By induction on the calls. -/
theorem sound_callAll {model : Model} (sound : Sound model.field?) (calls : List (Files × Call)) :
    (model.callAll calls).kind = model.kind ∧ Sound (model.callAll calls).field? := by
  induction calls generalizing model with
  | nil => exact ⟨rfl, sound⟩
  | cons first calls ih =>
    obtain ⟨files, c⟩ := first
    obtain ⟨kind, kept⟩ := sound_call sound files c
    obtain ⟨kinds, all⟩ := ih kept
    exact ⟨kinds.trans kind, all⟩

end Model

/-- The error names a value or a path that is not accepted, or tells that a path could not be worked
out. -/
def isRefusal : Error → Bool
  | .outOfRange _ _ => true
  | .fileNotFound _ => true
  | .directoryNotFound _ => true
  | .io _ => true
  | _ => false

/-- A change of the base tier is refused for a path. -/
theorem Base.Edit.isRefusal_of_refusal? {files : Files} {edit : Base.Edit} {e : Error}
    (refused : edit.refusal? files = some e) : isRefusal e = true := by
  cases edit with
  | addSource path =>
    simp only [refusal?] at refused
    split at refused <;> cases refused
    rfl
  | _ => cases refused

/-- A page is refused for its number. -/
theorem isRefusal_of_pageRefusal? {name : String} {number : Int} {e : Error}
    (refused : pageRefusal? name number = some e) : isRefusal e = true := by
  unfold pageRefusal? at refused
  split at refused <;> cases refused
  rfl

/-- A profile is refused for its path. -/
theorem isRefusal_of_profileRefusal? {files : Files} {path : RawPath} {e : Error}
    (refused : profileRefusal? files path = some e) : isRefusal e = true := by
  unfold profileRefusal? at refused
  split at refused
  next => cases refused
  next =>
  split at refused
  next =>
    cases refused
    rfl
  next =>
    split at refused <;> cases refused
    rfl

/-- A change of the PDF tier is refused for a value or a path. -/
theorem Pdf.Edit.isRefusal_of_refusal? {files : Files} {edit : Pdf.Edit} {e : Error}
    (refused : edit.refusal? files = some e) : isRefusal e = true := by
  cases edit with
  | base edit => exact Base.Edit.isRefusal_of_refusal? refused
  | firstPage number => exact isRefusal_of_pageRefusal? refused
  | lastPage number => exact isRefusal_of_pageRefusal? refused
  | _ => cases refused

/-- A call is refused for a value or a path. -/
theorem Call.isRefusal_of_refusal? {files : Files} {c : Call} {e : Error}
    (refused : c.refusal? files = some e) : isRefusal e = true := by
  cases c with
  | base edit => exact Base.Edit.isRefusal_of_refusal? refused
  | debug edit =>
    cases edit with
    | base edit => exact Base.Edit.isRefusal_of_refusal? refused
    | _ => cases refused
  | pdf edit => exact Pdf.Edit.isRefusal_of_refusal? refused
  | conformance edit =>
    cases edit with
    | pdf edit => exact Pdf.Edit.isRefusal_of_refusal? refused
    | iccProfile path => exact isRefusal_of_profileRefusal? refused
    | level number =>
      simp only [refusal?, Conformance.Edit.refusal?, levelRefusal?] at refused
      split at refused <;> cases refused
      rfl
    | _ => cases refused
  | clear tier => cases refused

/-- Whatever is called on a new model, in whatever state the files are at each call: the model stays
sound; a call that is refused leaves it as it was, and one that succeeds changes its own field, and
switches the other standard off where it turns one on; clearing makes the model new. -/
theorem Model.callAll_lawful (kind : Kind) (calls : List (Files × Call)) :
    Sound ((blank kind).callAll calls).field? ∧
    ∀ files c answer after,
      ((blank kind).callAll calls).answer? files c = some (answer, after) →
        ((blank kind).callAll calls).call files c = after ∧
        match c.refusal? files with
        | some e =>
          answer = .error e ∧ isRefusal e = true ∧ after = (blank kind).callAll calls
        | none =>
          (∃ told, answer = .ok told) ∧
          after.field? = c.fields files ((blank kind).callAll calls) ∧
          (c = .clear kind → after = blank kind) := by
  obtain ⟨tier, sound⟩ := sound_callAll (sound_blank kind) calls
  have tier : ((blank kind).callAll calls).kind = kind := tier.trans (by cases kind <;> rfl)
  generalize (blank kind).callAll calls = model at tier sound ⊢
  refine ⟨sound, fun files c answer after answered => ⟨by rw [call, answered], ?_⟩⟩
  have obeys := obeys answered
  cases refusal : c.refusal? files with
  | some e =>
    rw [refusal] at obeys
    obtain ⟨rfl, rfl⟩ := Prod.mk.inj (obeys : (answer, after) = (.error e, model))
    exact ⟨rfl, Call.isRefusal_of_refusal? refusal, rfl⟩
  | none =>
    rw [refusal] at obeys
    obtain ⟨after, told, same, -, fields⟩ := obeys
    obtain ⟨rfl, rfl⟩ := Prod.mk.inj same
    refine ⟨⟨told, rfl⟩, fields, ?_⟩
    rintro rfl
    rw [← tier] at answered ⊢
    rw [answer?, clearTier?_kind] at answered
    cases answered
    rfl

/-- The second standard takes the place of the first, and a page that is refused changes nothing. -/
example : let calls := [Call.pdf (.pdfA true), .pdf (.firstPage 2), .pdf (.pdfX true),
      .pdf (.firstPage 0)].map fun c => ((⟨[], []⟩ : Files), c)
    (Model.blank .conformance).callAll calls =
      .conformance { pdf := { firstPage := 2, pdfX := true } } := by
  decide

end EngineTokens.Params
