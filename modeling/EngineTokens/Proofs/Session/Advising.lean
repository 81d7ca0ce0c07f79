import EngineTokens.Proofs.Options.Built
import EngineTokens.Proofs.Params.Appending
import EngineTokens.Proofs.Session.Saving
import EngineTokens.Proofs.Settings.Changing

/-!
# Whom the advice blames

A choice that cannot be honoured is the user's to change, and the advice should say so. It does
wherever options are turned into a model, tokens or a command line (`correctable_of_error`): nothing
that fails there counts as a failure of the engine or the disk, but for a profile that is to be
looked for from a directory that is gone. A device selection that is refused is told apart by what
the text stands for: a position outside the catalog is presented as a choice to be changed, but a
text that stands for no number is presented as damage to the settings file.
-/

set_option autoImplicit false

namespace EngineTokens

open Params (Model Base Pdf Debug Sources)

/-! ## Failures that can be put right -/

/-- The advice is to change the options or what they are combined with. -/
def Error.IsCorrectable (e : Error) : Prop :=
  e.advice.severity = .actionRequired ∨ e.advice.severity = .conformance

instance (e : Error) : Decidable e.IsCorrectable :=
  inferInstanceAs (Decidable (_ ∨ _))

/-- The advice for a settings file that may be damaged. -/
def Advice.damagedFile : Advice where
  message := "Saved settings could not be read."
  suggestion := "The settings file may be damaged. Delete it to start from defaults."
  severity := .failure

/-- A choice that cannot be honoured can be changed, unless it is the engine's. -/
theorem Error.isCorrectable_unsupported {choice : Choice} (detail : String)
    (shown : choice ≠ .displayFormat) : (Error.unsupported choice detail).IsCorrectable := by
  cases choice with
  | displayFormat => exact absurd rfl shown
  | modelKind => exact .inr rfl
  | _ => exact .inl rfl

/-- The advice to delete the settings file is not for what can be put right. -/
theorem Error.IsCorrectable.advice_ne {e : Error} (correctable : e.IsCorrectable) :
    e.advice ≠ .damagedFile := by
  intro damaged
  rw [Error.IsCorrectable, damaged] at correctable
  revert correctable
  decide

/-- Whatever goes wrong is of a certain kind. -/
def FailsWithin {α : Type} (kind : Error → Prop) (outcome : Except Error α) : Prop :=
  ∀ e, outcome = .error e → kind e

/-- Whatever goes wrong can be put right. -/
abbrev FailsCorrectably {α : Type} (outcome : Except Error α) : Prop :=
  FailsWithin Error.IsCorrectable outcome

namespace FailsWithin

variable {α β : Type} {kind wider : Error → Prop}

/-- Nothing goes wrong where there is a result. -/
theorem ok (a : α) : FailsWithin kind (.ok a) :=
  fun _ failed => nomatch failed

/-- What goes wrong is the error. -/
theorem error {e : Error} (known : kind e) : FailsWithin kind (.error e : Except Error α) := by
  rintro _ ⟨⟩
  exact known

/-- Of two steps it is the first that goes wrong, or the second. -/
theorem bind {first : Except Error α} {next : α → Except Error β}
    (here : FailsWithin kind first) (later : ∀ a, FailsWithin kind (next a)) :
    FailsWithin kind (first >>= next) := by
  cases first with
  | error e => exact error (here e rfl)
  | ok a => exact later a

/-- What is made of the result does not go wrong. -/
theorem map {outcome : Except Error α} (here : FailsWithin kind outcome) (f : α → β) :
    FailsWithin kind (outcome.map f) :=
  here.bind fun a => ok (f a)

/-- More may be allowed to go wrong than does. -/
theorem mono {outcome : Except Error α} (here : FailsWithin kind outcome)
    (covers : ∀ e, kind e → wider e) : FailsWithin wider outcome :=
  fun e failed => covers e (here e failed)

end FailsWithin

/-! ## Building a model -/

/-- A position outside the catalog can be changed. -/
theorem Device.failsCorrectably_byIndex (index : Int) : FailsCorrectably (byIndex index) := by
  unfold byIndex
  split
  · exact .ok _
  · exact .error (Error.isCorrectable_unsupported _ (by decide))

/-- Options that no tier has together can be changed. -/
theorem ModelOptions.failsCorrectably_neededKind (o : ModelOptions) :
    FailsCorrectably o.neededKind := by
  unfold neededKind
  dsimp only
  split
  · exact .error (Error.isCorrectable_unsupported _ (by decide))
  · split
    · exact .ok _
    · split
      · exact .ok _
      · split <;> exact .ok _

/-- So can a tier that lacks some of them. -/
theorem ModelOptions.failsCorrectably_resolveKind (o : ModelOptions) :
    FailsCorrectably o.resolveKind := by
  have needed := o.failsCorrectably_neededKind
  unfold resolveKind
  split
  next e failed => exact .error (needed e failed)
  next =>
    split
    · exact .ok _
    · split
      · exact .ok _
      · exact .error (Error.isCorrectable_unsupported _ (by decide))

/-- Directories to search are missing at worst. -/
theorem Params.Sources.failsCorrectably_addAll (files : Files) (sources : Sources)
    (paths : List String) : FailsCorrectably (sources.addAll files paths) := by
  induction paths generalizing sources with
  | nil => exact .ok _
  | cons path rest ih =>
    unfold addAll
    split
    next e _ refused =>
      obtain ⟨-, rfl⟩ := fst_add_eq_error_iff.mp (congrArg Prod.fst refused)
      exact .error (.inl rfl)
    next => exact ih _

/-- A base tier fails for its device or for a directory to search. -/
theorem BaseOptions.failsCorrectably_build (files : Files) (saved : Preferences) (o : BaseOptions) :
    FailsCorrectably (o.build files saved) := by
  have device : FailsCorrectably (o.chosenDevice saved) := by
    unfold chosenDevice
    split
    · exact .ok _
    · exact (Device.failsCorrectably_byIndex _).map _
    · exact .ok _
  have sources := Sources.failsCorrectably_addAll files {} o.includes
  exact device.bind fun _ => sources.bind fun _ => .ok _

/-- A switch that is unknown can be left out. -/
theorem Params.Debug.failsCorrectably_turnOn (flags : BitVec 32) (names : List String) :
    FailsCorrectably (turnOn flags names) := by
  induction names generalizing flags with
  | nil => exact .ok _
  | cons name rest ih =>
    unfold turnOn
    split
    · exact ih _
    · exact .error (Error.isCorrectable_unsupported _ (by decide))

/-- A page is out of range at worst. -/
theorem failsCorrectably_pageOf (field : String) (number : Option Int) :
    FailsCorrectably (pageOf field number) := by
  unfold pageOf
  split
  · refine FailsWithin.map ?_ _
    unfold Params.checkPage
    split
    · exact .ok _
    · exact .error (.inl rfl)
  · exact .ok _

/-- A PDF tier fails for a page at worst. -/
theorem PdfOptions.failsCorrectably_build (o : PdfOptions) (base : Base) :
    FailsCorrectably (o.build base) :=
  (failsCorrectably_pageOf _ _).bind fun _ => (failsCorrectably_pageOf _ _).bind fun _ => .ok _

/-- A profile is asked for by a path that starts at the directory at hand, which is gone. -/
def ConformanceOptions.StartsNowhere (files : Files) (o : ConformanceOptions) : Prop :=
  files.entry? files.here ≠ some .directory ∧
    ∃ path, o.iccProfile = some path ∧ Path.isAbsolute path = false

/-- What goes wrong with options can be put right, or there is nowhere to look for the profile. -/
def ConformanceOptions.MayFail (files : Files) (o : ConformanceOptions) (e : Error) : Prop :=
  e.IsCorrectable ∨ e = Fault.missing.toError ∧ o.StartsNowhere files

/-- A profile is found at a relative path only if a relative path was given. -/
theorem isAbsolute_eq_false_of_locateProfile {files : Files} {path : RawPath} {iccDir : String}
    (relative : Path.isAbsolute (locateProfile files path iccDir) = false) :
    Path.isAbsolute path = false := by
  by_cases moved : locateProfile files path iccDir = path
  · rwa [moved] at relative
  · exact (of_locateProfile_ne moved).1

/-- A profile that is named is missing at worst, or there is nowhere to look for it. That no path is
given at all is asked first. -/
theorem ConformanceOptions.failsWithin_profileOf (files : Files) (saved : Preferences)
    (o : ConformanceOptions) :
    FailsWithin (o.MayFail files) (profileOf files saved o.iccProfile) := by
  unfold profileOf
  split
  next path asked =>
    dsimp only
    split
    next => exact .ok _
    next named =>
      unfold Files.resolveExisting
      cases looked : files.absoluteNames (locateProfile files path saved.iccDir) with
      | error fault =>
        obtain ⟨unnamed, -⟩ | ⟨-, relative, gone, rfl⟩ := Files.absoluteNames_eq_error_iff.mp looked
        · exact absurd unnamed named
        · have start := isAbsolute_eq_false_of_locateProfile relative
          exact .error (.inr ⟨rfl, gone, path, asked, start⟩)
      | ok names =>
        dsimp only
        split
        · exact .error (.inl (.inl rfl))
        · split
          · exact .error (.inl (.inl rfl))
          · exact .ok _
  next => exact .ok _

/-- A conformance tier fails for the part of the standard or for the profile. -/
theorem ConformanceOptions.failsWithin_build (files : Files) (saved : Preferences)
    (o : ConformanceOptions) (pdf : Pdf) :
    FailsWithin (o.MayFail files) (o.build files saved pdf) := by
  have level : FailsWithin (o.MayFail files) o.level := by
    unfold ConformanceOptions.level
    split
    next number _ =>
      refine FailsWithin.map ?_ _
      unfold Params.checkLevel
      split
      · exact .ok _
      · exact .error (.inl (.inl rfl))
    next => exact .ok _
  rw [build_eq]
  exact level.bind fun _ => (o.failsWithin_profileOf files saved).map _

/-- A model fails to be built for its options, or with the directory at hand. -/
theorem ModelOptions.failsWithin_build (files : Files) (saved : Preferences) (o : ModelOptions) :
    FailsWithin (o.conformance.MayFail files) (o.build files saved) := by
  have covers : ∀ e : Error, e.IsCorrectable → o.conformance.MayFail files e := fun _ => .inl
  refine (o.failsCorrectably_resolveKind.mono covers).bind fun kind => ?_
  refine ((o.base.failsCorrectably_build files saved).mono covers).bind fun base => ?_
  cases kind with
  | base => exact .ok _
  | debug =>
    exact ((Debug.failsCorrectably_turnOn 0 o.debug).mono covers).bind fun _ => .ok _
  | pdf => exact ((o.pdf.failsCorrectably_build base).mono covers).bind fun _ => .ok _
  | conformance =>
    exact ((o.pdf.failsCorrectably_build base).mono covers).bind fun pdf =>
      (o.conformance.failsWithin_build files saved pdf).bind fun _ => .ok _

/-! ## Tokens and the command line -/

/-- Tokens are refused for a directory that is missing, or for what a standard rules out. -/
theorem ModelOptions.failsCorrectably_tokens (files : Files) (saved : Preferences)
    (o : ModelOptions) (model : Model) : FailsCorrectably (o.tokens files saved model) := by
  have args : FailsCorrectably (model.toArgs files o.host) := by
    intro e failed
    rcases Model.toArgs_eq_error_iff.mp failed with directory | ⟨-, upper⟩
    · obtain ⟨path, rfl⟩ := Model.exists_of_effectiveSources_eq_error directory
      exact .inl rfl
    · obtain ⟨detail, rfl⟩ := Model.exists_of_upperTokens_eq_error upper
      exact .inr rfl
  exact args.map _

/-- An output that is not named can be named. -/
theorem Engine.Output.failsCorrectably_of (device outputFile : String) :
    FailsCorrectably (Output.of device outputFile) := by
  unfold Output.of
  split
  · exact .ok _
  · split
    · exact .ok _
    · exact .error (Error.isCorrectable_unsupported _ (by decide))

/-- A command line wants a document and an output other than the display. -/
theorem Engine.failsCorrectably_commandLine (request : Request) :
    FailsCorrectably (commandLine request) := by
  unfold commandLine
  split
  · exact .error (Error.isCorrectable_unsupported _ (by decide))
  · split
    · exact .error (Error.isCorrectable_unsupported _ (by decide))
    · exact .ok _

/-! ## Changing a setting -/

/-- Of a refused change, the advice is to choose another device or to delete the settings file. -/
theorem Preferences.advice_of_change {saved : Preferences} {key : Key} {value : String} {e : Error}
    (refused : saved.change key value = .error e) :
    (e.IsCorrectable ∧ e.advice ≠ .damagedFile ∧ ∃ index, Selects value index) ∨
      (¬ e.IsCorrectable ∧ e.advice = .damagedFile ∧ ∀ index, ¬ Selects value index) := by
  obtain ⟨-, why⟩ := change_eq_error_iff.mp refused
  cases why with
  | @unlisted index selects beyond =>
    have correctable :
        (Error.unsupported .device ("no device at index " ++ toString index)).IsCorrectable :=
      Error.isCorrectable_unsupported _ (by decide)
    exact .inl ⟨correctable, correctable.advice_ne, index, selects⟩
  | unreadable unread =>
    refine .inr ⟨fun correctable => ?_, rfl, unread⟩
    exact correctable.advice_ne rfl

/-- Whatever goes wrong with options on their way to a command line can be put right and is
presented so, unless a profile is to be looked for from a directory that is gone. Of the changes of
a setting that are refused, those are that select a device behind the end of the catalog. A text
that stands for no number is answered with the advice to delete the settings file, and nothing else
is. -/
theorem correctable_of_error (files : Files) (saved : Preferences) (o : ModelOptions) :
    (∀ e, o.build files saved = .error e →
      e.IsCorrectable ∨ e = Fault.missing.toError ∧ o.conformance.StartsNowhere files) ∧
    (∀ model, FailsCorrectably (o.tokens files saved model)) ∧
    (∀ device outputFile, FailsCorrectably (Engine.Output.of device outputFile)) ∧
    (∀ request, FailsCorrectably (Engine.commandLine request)) ∧
    ∀ key value e, saved.change key value = .error e →
      (e.IsCorrectable ↔ ∃ index, Preferences.Selects value index) ∧
      (e.advice = .damagedFile ↔ ∀ index, ¬ Preferences.Selects value index) := by
  refine ⟨o.failsWithin_build files saved, o.failsCorrectably_tokens files saved,
    Engine.Output.failsCorrectably_of, Engine.failsCorrectably_commandLine, ?_⟩
  intro key value e refused
  rw [← not_exists]
  rcases Preferences.advice_of_change refused with
    ⟨correctable, apart, read⟩ | ⟨blamed, damaged, unread⟩
  · exact ⟨iff_of_true correctable read, iff_of_false apart (not_not_intro read)⟩
  · have unread := not_exists.mpr unread
    exact ⟨iff_of_false blamed unread, iff_of_true damaged unread⟩

/-- The position behind the last device is refused as a choice, by an option and by a setting, and a
word for it is not. -/
theorem correctable_of_error_behind :
    (∃ e, ModelOptions.build ⟨[], []⟩ {} { base := { deviceIndex := some 11 } } = .error e ∧
      e.IsCorrectable) ∧
    (∃ e, Preferences.change {} .deviceIndex "11" = .error e ∧ e.IsCorrectable) ∧
    ∃ e, Preferences.change {} .deviceIndex "eleven" = .error e ∧ ¬ e.IsCorrectable := by
  have built : ModelOptions.build ⟨[], []⟩ {} { base := { deviceIndex := some 11 } } =
      .error (.unsupported .device "no device at index 11") := by rfl
  have refused : Preferences.change {} .deviceIndex "11" =
      .error (.unsupported .device "no device at index 11") := by decide +kernel
  have unread : Preferences.change {} .deviceIndex "eleven" =
      .error (.settings "device_index must be an integer, got \"eleven\"") := by decide +kernel
  have selects : Preferences.Selects "11" 11 :=
    Preferences.readWithin?_eq_some_iff.mp (by decide +kernel)
  obtain ⟨builds, -, -, -, told⟩ :=
    correctable_of_error ⟨[], []⟩ {} { base := { deviceIndex := some 11 } }
  have chosen := (told _ _ _ refused).1.mpr ⟨11, selects⟩
  have blamed := (told _ _ _ unread).2.mp rfl
  have correctable := (builds _ built).resolve_right (by rintro ⟨⟨⟩, -⟩)
  exact ⟨⟨_, built, correctable⟩, ⟨_, refused, chosen⟩, _, unread,
    fun correctable => (not_exists.mpr blamed) ((told _ _ _ unread).1.mp correctable)⟩

/-- A word for the position of a device is refused with the advice to delete a settings file, where
there is none. -/
theorem exists_damagedFile :
    (∃ e, Preferences.change {} .deviceIndex "many" = .error e ∧ ¬ e.IsCorrectable ∧
      e.advice = .damagedFile) ∧
    Files.doesExist ⟨[], []⟩ "s.json" = false ∧
    runProgram Engine.spawnNothing ⟨[], []⟩ {}
        ["--settings", "s.json", "settings", "set", "device-index", "many"] =
      { files := ⟨[], []⟩
        code := 2
        out := ""
        err := "error: Saved settings could not be read.\n" ++
          "  The settings file may be damaged. Delete it to start from defaults.\n" } := by
  refine ⟨⟨.settings "device_index must be an integer, got \"many\"", ?_⟩, ?_, ?_⟩ <;>
    decide +kernel

end EngineTokens
