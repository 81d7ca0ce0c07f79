import Mathlib.Control.Monad.Basic
import EngineTokens.Proofs.Path.Canonical
import EngineTokens.Proofs.Session.Saving
import EngineTokens.Proofs.Settings.Changing
import EngineTokens.Proofs.Settings.Persistence

/-!
# The settings file over its whole history

A settings file that did not exist in the beginning, and that only the program writes, is sound ever
after (`sound_of_history`): it is not there yet, or it holds the five settings and nothing else, the
selected device is none or one of the catalog, and the two directories are in their one spelling.
Two places write settings, the change of one of them and the start of a run; both keep them sound,
whatever they are given.
-/

set_option autoImplicit false

namespace EngineTokens

/-! ## Sound settings -/

/-- No device or one of the catalog is selected, and the directories are in their one spelling. -/
structure Preferences.Sound (p : Preferences) : Prop where
  device : p.deviceIndex = -1 ∨ (Device.at? p.deviceIndex).isSome = true
  libraryDir : Path.canonicalize p.libraryDir = p.libraryDir
  iccDir : Path.canonicalize p.iccDir = p.iccDir

namespace Preferences

/-- Preferences that nobody has set are sound. -/
theorem sound_default : Sound {} where
  device := .inl rfl
  libraryDir := Path.canonicalize_empty
  iccDir := Path.canonicalize_empty

/-- Sound preferences can be written. -/
theorem Sound.fits {p : Preferences} (sound : p.Sound) : p.Fits := by
  have size : Device.catalog.length = 11 := rfl
  simp only [Fits, Json.Datum.Fits, integerBounds]
  rcases sound.device with none | some
  · omega
  · have bounds := Device.at?_isSome.mp some
    omega

/-- A position that is kept is that of a device, or stands for none. -/
theorem readIndex_eq_ok {value : String} {index : Int} (read : readIndex value = .ok index) :
    index = -1 ∨ (Device.at? index).isSome = true := by
  rcases readIndex_cases value with ⟨e, -, refused⟩ | ⟨selected, -, listed, accepted⟩
  · rw [refused] at read
    cases read
  · obtain rfl := Except.ok.inj (accepted.symm.trans read)
    rw [Device.at?_isSome]
    omega

/-- A change of a setting keeps the settings sound. -/
theorem Sound.change {p changed : Preferences} (sound : p.Sound) {key : Key} {value : String}
    (changes : p.change key value = .ok changed) : changed.Sound := by
  obtain ⟨device, libraryDir, iccDir⟩ := sound
  cases key with
  | lastFilePath => cases changes; exact ⟨device, libraryDir, iccDir⟩
  | libraryDir => cases changes; exact ⟨device, Path.canonicalize_canonicalize value, iccDir⟩
  | iccDir => cases changes; exact ⟨device, libraryDir, Path.canonicalize_canonicalize value⟩
  | userArgs => cases changes; exact ⟨device, libraryDir, iccDir⟩
  | deviceIndex =>
    unfold Preferences.change at changes
    cases read : readIndex value with
    | error e =>
      rw [read] at changes
      cases changes
    | ok index =>
      rw [read] at changes
      cases changes
      exact ⟨readIndex_eq_ok read, libraryDir, iccDir⟩

/-- What a run remembers is sound: its device is remembered by its position in the catalog. -/
theorem Sound.remember {p : Preferences} (sound : p.Sound) (c : RunCommand) (device : String) :
    (c.remember device p).Sound := by
  refine ⟨?_, sound.libraryDir, ?_⟩
  · unfold RunCommand.remember
    dsimp only
    split
    next index found =>
      have inside : index < Device.catalog.length := by
        unfold Device.position? at found
        exact (List.findIdx?_eq_some_iff_getElem.mp found).choose
      exact .inr (Device.at?_isSome.mpr (by omega))
    next => exact sound.device
  · unfold RunCommand.remember
    dsimp only
    split
    next => exact Path.canonicalize_canonicalize _
    next => exact sound.iccDir

/-- The settings as members in the order of their keys. -/
def sorted (p : Preferences) : Json.Object :=
  [("device_index", .number (.integer p.deviceIndex)), ("icc_dir", .string p.iccDir),
    ("last_file_path", .string p.lastFilePath), ("library_dir", .string p.libraryDir),
    ("user_args", .string p.userArgs)]

/-- Preferences that are stored in an empty object are its members, in order. -/
theorem store_nil (p : Preferences) : p.store [] = p.sorted := by
  simp only [store, members, List.foldl_cons, List.foldl_nil, Json.Object.insert, sorted,
    String.reduceEq, String.reduceLT, if_true, if_false]

/-- Settings take the place of those that were there. -/
theorem store_sorted (p q : Preferences) : p.store q.sorted = p.sorted := by
  simp only [store, members, List.foldl_cons, List.foldl_nil, Json.Object.insert, sorted,
    String.reduceEq, String.reduceLT, if_true, if_false]

/-- Settings are read back from their members. -/
theorem Sound.load_sorted {p : Preferences} (sound : p.Sound) : load p.sorted = p := by
  refine load_of_get? sound.fits ?_
  simp [data, sorted, Json.Object.get?, Json.Datum.value, List.lookup_cons]

end Preferences

/-- What a command saves is sound where what it starts from is. -/
theorem Command.sound_of_saved? {files : Files} {store : Store} (sound : store.preferences.Sound)
    {command : Command} {p : Preferences} (saves : command.saved? files store = some p) :
    p.Sound := by
  cases command with
  | args c => cases saves
  | run c =>
    obtain ⟨plan, -, -, rfl⟩ := RunCommand.exists_of_saved? saves
    exact sound.remember c plan.device
  | settings c =>
    obtain ⟨key, value, rfl, changes⟩ := SettingsCommand.exists_of_saved? saves
    exact sound.change changes

/-! ## Sound files -/

/-- The settings file is the same to a reader in two states of the files. -/
def SameFile (path : RawPath) (files after : Files) : Prop :=
  after.doesExist path = files.doesExist path ∧ after.read path = files.read path

/-- The settings file is not there, or it holds sound settings and nothing else. -/
def SoundFile (path : RawPath) (files : Files) : Prop :=
  files.doesExist path = false ∨
    ∃ p : Preferences, p.Sound ∧ Store.openAt files path = .ok { path, values := p.sorted }

/-- A settings file that is the same to a reader opens alike. -/
theorem openAt_of_sameFile {path : RawPath} {files after : Files} (same : SameFile path files after) :
    Store.openAt after path = Store.openAt files path := by
  rw [Store.openAt, Store.openAt, same.1, same.2]

/-- A sound settings file stays one where it is the same to a reader. -/
theorem SoundFile.of_sameFile {path : RawPath} {files after : Files} (sound : SoundFile path files)
    (same : SameFile path files after) : SoundFile path after := by
  rcases sound with absent | ⟨p, sound, opens⟩
  · exact .inl (same.1.trans absent)
  · exact .inr ⟨p, sound, (openAt_of_sameFile same).trans opens⟩

/-- A sound file opens, and whatever is recorded in it takes the place of all that it held. -/
theorem SoundFile.exists_openAt {path : RawPath} {files : Files} (sound : SoundFile path files) :
    ∃ store : Store, Store.openAt files path = .ok store ∧ store.path = path ∧
      store.preferences.Sound ∧ ∀ p, store.record p = { path, values := p.sorted } := by
  rcases sound with absent | ⟨q, sound, opens⟩
  · refine ⟨{ path, values := [] }, ?_, rfl, Preferences.sound_default, fun p => ?_⟩
    · simp [Store.openAt, absent]
    · rw [Store.record, p.store_nil]
  · refine ⟨_, opens, rfl, ?_, fun p => ?_⟩
    · rw [Store.preferences, sound.load_sorted]
      exact sound
    · rw [Store.record, p.store_sorted]

/-- Sound settings can be saved. -/
theorem Preferences.Sound.savable {p : Preferences} (sound : p.Sound) :
    Json.Object.Savable p.sorted := by
  rw [← p.store_nil, p.store_eq_writeData]
  exact Json.Object.savable_nil.writeData sound.fits.data

/-! ## Histories -/

/-- During an invocation nothing but its saving touches the settings file: a saving that is refused
leaves the file as it was, and the engine of a run leaves it as it was saved. -/
structure Invocation.Alone (spawn : Engine.Spawn) (path : RawPath) (files : Files)
    (env : Environment) (invocation : Invocation) : Prop where
  refused : ∀ {store : Store} {p : Preferences} {after : Files} {e : Error},
    Store.openAt files path = .ok store → invocation.command.saved? files store = some p →
    (store.record p).save files = (after, .error e) → SameFile path files after
  engine : ∀ {c : RunCommand} {store : Store} {plan : Plan} {after : Files},
    invocation.command = .run c → c.dryRun = false → Store.openAt files path = .ok store →
    c.plan files store.preferences = .ok plan →
    (store.record (c.remember plan.device store.preferences)).save files = (after, .ok ()) →
    SameFile path after (plan.execute spawn after env).files

/-- What may happen between two states of the files, as far as one settings file goes. -/
inductive Happens (path : RawPath) : Files → Files → Prop
  /-- The program runs on this settings file, on a machine with whatever engines, or stops at a
  mistake in its command line. -/
  | program {spawn : Engine.Spawn} {files : Files} {env : Environment} {words : List String}
      (uses : ∀ invocation, Invocation.read words = .ok invocation →
        invocation.settingsPath env = path ∧ invocation.Alone spawn path files env) :
      Happens path files (runProgram spawn files env words).files
  /-- Something happens elsewhere. -/
  | elsewhere {files after : Files} (same : SameFile path files after) : Happens path files after

/-- What may happen over time. -/
inductive History (path : RawPath) : Files → Files → Prop
  | refl (files : Files) : History path files files
  | step {first second third : Files} :
      History path first second → Happens path second third → History path first third

/-- After a saving that is accepted the settings file stays as it was saved. -/
theorem Invocation.Alone.sameFile {spawn : Engine.Spawn} {path : RawPath} {files after : Files}
    {env : Environment} {invocation : Invocation} {store : Store} {p : Preferences}
    (alone : invocation.Alone spawn path files env) (opens : Store.openAt files path = .ok store)
    (saves : invocation.command.saved? files store = some p)
    (saved : (store.record p).save files = (after, .ok ())) :
    SameFile path after (invocation.command.perform spawn files env store).files := by
  have engine := @alone.engine
  generalize invocation.command = command at saves engine ⊢
  cases command with
  | args c => cases saves
  | run c =>
    obtain ⟨plan, planned, runs, rfl⟩ := RunCommand.exists_of_saved? saves
    rw [Command.perform, RunCommand.files_of_accepted planned runs saved]
    exact engine rfl runs opens planned saved
  | settings c =>
    rw [Command.perform, SettingsCommand.files_of_saved?_eq_some saves, saved]
    exact ⟨rfl, rfl⟩

/-- An invocation leaves a sound settings file. -/
theorem SoundFile.perform {spawn : Engine.Spawn} {path : RawPath} {files : Files}
    (sound : SoundFile path files) {env : Environment} {invocation : Invocation}
    (uses : invocation.settingsPath env = path) (alone : invocation.Alone spawn path files env) :
    SoundFile path (invocation.perform spawn files env).files := by
  obtain ⟨store, opens, here, good, records⟩ := sound.exists_openAt
  have performs : invocation.perform spawn files env =
      invocation.command.perform spawn files env store := by
    rw [Invocation.perform, uses, opens]
  cases saves : invocation.command.saved? files store with
  | none =>
    rw [performs, Command.files_of_saved?_eq_none saves]
    exact sound
  | some p =>
    cases result : (store.record p).save files with
    | mk after outcome =>
      cases outcome with
      | error e =>
        rw [performs, Command.files_of_refused saves result]
        exact sound.of_sameFile (alone.refused opens saves result)
      | ok done =>
        have fine := Command.sound_of_saved? good saves
        have kept := alone.sameFile opens saves result
        rw [← performs] at kept
        rw [records p] at result
        have reopens := Store.openAt_save fine.savable result
        exact .inr ⟨p, fine, (openAt_of_sameFile kept).trans reopens⟩

/-- Whatever happens, a sound settings file stays one. -/
theorem SoundFile.happens {path : RawPath} {files after : Files} (sound : SoundFile path files)
    (happens : Happens path files after) : SoundFile path after := by
  cases happens with
  | @program spawn _ env words uses =>
    rw [runProgram]
    split
    next invocation read =>
      obtain ⟨here, alone⟩ := uses invocation read
      exact sound.perform here alone
    next => split <;> exact sound
  | elsewhere same => exact sound.of_sameFile same

/-- A device is saved, and yet none is chosen. -/
def BaseOptions.IgnoresSaved (o : BaseOptions) (saved : Preferences) : Prop :=
  0 ≤ saved.deviceIndex ∧ o.chosenDevice saved = .ok none

/-- No choice of a device ignores the one that sound settings hold. -/
theorem Preferences.Sound.not_ignoresSaved {p : Preferences} (sound : p.Sound) (o : BaseOptions) :
    ¬ o.IgnoresSaved p := by
  rintro ⟨saved, chosen⟩
  unfold BaseOptions.chosenDevice at chosen
  split at chosen
  next => cases chosen
  next index _ _ =>
    cases known : Device.byIndex index with
    | error e =>
      rw [known] at chosen
      cases chosen
    | ok name =>
      rw [known] at chosen
      cases chosen
  next =>
    have missing : Device.at? p.deviceIndex = none := Except.ok.inj chosen
    rcases sound.device with none | known
    · omega
    · rw [missing] at known
      cases known

/-- However often the program has run on a settings file that did not exist at first: the file is
not there, or it holds exactly the five settings, with no device or one of the catalog selected and
with the directories in their one spelling; and no choice of a device ignores the one it holds. -/
theorem sound_of_history {path : RawPath} {first files : Files}
    (fresh : first.doesExist path = false) (history : History path first files) :
    (files.doesExist path = false ∨
      ∃ p : Preferences, Store.openAt files path = .ok { path, values := p.sorted } ∧
        (p.deviceIndex = -1 ∨ (Device.at? p.deviceIndex).isSome = true) ∧
        Path.canonicalize p.libraryDir = p.libraryDir ∧ Path.canonicalize p.iccDir = p.iccDir) ∧
    ∃ store, Store.openAt files path = .ok store ∧
      ∀ o : BaseOptions, ¬ o.IgnoresSaved store.preferences := by
  have sound : SoundFile path files := by
    induction history with
    | refl => exact .inl fresh
    | step _ happens ih => exact ih.happens happens
  obtain ⟨store, opens, -, good, -⟩ := sound.exists_openAt
  refine ⟨sound.imp_right ?_, store, opens, good.not_ignoresSaved⟩
  rintro ⟨p, ⟨device, libraryDir, iccDir⟩, opens⟩
  exact ⟨p, opens, device, libraryDir, iccDir⟩

/-- An invocation on the settings starts no engine, so it is alone where its saving is accepted. -/
theorem Invocation.alone_of_settings {spawn : Engine.Spawn} {path : RawPath} {files : Files}
    {env : Environment} {invocation : Invocation} {c : SettingsCommand}
    (changes : invocation.command = .settings c)
    (accepted : ∀ store p, Store.openAt files path = .ok store → c.saved? store = some p →
      ((store.record p).save files).2.isOk = true) :
    invocation.Alone spawn path files env where
  refused := by
    intro store p after e opens saves refused
    rw [changes, Command.saved?] at saves
    have done := accepted store p opens saves
    rw [refused] at done
    cases done
  engine := by
    intro c store plan after runs
    rw [changes] at runs
    cases runs

/-- A command line that selects a device by a text. -/
def selecting (text : String) : List String :=
  ["--settings", "s.json", "settings", "set", "device-index", text]

/-- The invocation of that command line. -/
def selection (text : String) : Invocation where
  settings := some (Path.ofText "s.json")
  command := .settings (.change .deviceIndex text)

/-- The files after a device was selected, where there were none before. -/
def selectedFiles : Files :=
  (runProgram Engine.spawnNothing ⟨[], []⟩ {} (selecting "1")).files

/-- The files after another selection, which is refused. -/
def refusedFiles : Files :=
  (runProgram Engine.spawnNothing selectedFiles {} (selecting "11")).files

/-- A device is selected, and then one is refused that is not in the catalog. -/
theorem sound_of_history_selecting :
    Files.doesExist ⟨[], []⟩ "s.json" = false ∧
      History "s.json" ⟨[], []⟩ refusedFiles ∧
      ∃ p : Preferences, Store.openAt refusedFiles "s.json" =
          .ok { path := "s.json", values := p.sorted } ∧
        p.deviceIndex = 1 ∧ (Device.at? p.deviceIndex).isSome = true := by
  have fresh : Files.doesExist ⟨[], []⟩ "s.json" = false := by decide +kernel
  have reads : Invocation.read (selecting "1") = .ok (selection "1") ∧
      Invocation.read (selecting "11") = .ok (selection "11") := by decide +kernel
  have accepted : Preferences.change {} .deviceIndex "1" = .ok { deviceIndex := 1 } := by
    decide +kernel
  have refused : (Preferences.readIndex "11").toOption = none := by decide +kernel
  have writes : (Store.save ⟨[], []⟩ ⟨"s.json", Preferences.sorted { deviceIndex := 1 }⟩).2.isOk =
      true := by decide +kernel
  have selects : Happens "s.json" ⟨[], []⟩ selectedFiles := by
    refine .program fun invocation read => ?_
    obtain rfl : selection "1" = invocation := Except.ok.inj (reads.1.symm.trans read)
    refine ⟨rfl, Invocation.alone_of_settings rfl fun store p opens saves => ?_⟩
    obtain rfl : { path := "s.json", values := [] } = store := by
      simpa [Store.openAt, fresh] using opens
    have loaded : Store.preferences { path := "s.json", values := [] } = {} := rfl
    rw [SettingsCommand.saved?, loaded, accepted] at saves
    obtain rfl := Option.some.inj saves
    rw [Store.record, Preferences.store_nil]
    exact writes
  have refuses : Happens "s.json" selectedFiles refusedFiles := by
    refine .program fun invocation read => ?_
    obtain rfl : selection "11" = invocation := Except.ok.inj (reads.2.symm.trans read)
    refine ⟨rfl, Invocation.alone_of_settings rfl fun store p opens saves => ?_⟩
    rw [SettingsCommand.saved?, Preferences.change] at saves
    cases read : Preferences.readIndex "11" with
    | error e =>
      rw [read] at saves
      cases saves
    | ok index =>
      rw [read] at refused
      cases refused
  have history := ((History.refl _).step selects).step refuses
  have holds : (Store.openAt refusedFiles "s.json").toOption.map
      (fun store => store.preferences.deviceIndex) = some 1 := by
    decide +kernel
  obtain ⟨absent | ⟨p, opens, device, libraryDir, iccDir⟩, -⟩ := sound_of_history fresh history
  · simp only [Store.openAt, absent] at holds
    cases holds
  · have sound : p.Sound := ⟨device, libraryDir, iccDir⟩
    simp only [opens, Except.toOption, Option.map_some, Store.preferences, sound.load_sorted,
      Option.some.injEq] at holds
    refine ⟨fresh, history, p, opens, holds, ?_⟩
    rw [holds]
    rfl

end EngineTokens
