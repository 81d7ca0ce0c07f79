import EngineTokens.Session.Perform

/-!
# What a command saves

A command saves settings at one moment at most: a change of a setting that is accepted, or a run
that is planned and not only shown, before its engine is started (`Command.saved?`). Apart from the
saving and the engine no command changes a file.
-/

set_option autoImplicit false

namespace EngineTokens

/-- A machine on which no executable is found. -/
def Engine.spawnNothing : Engine.Spawn := fun _ _ _ _ => .error .missing

/-- The settings that a run saves: it has to be planned, and to be more than shown. -/
def RunCommand.saved? (files : Files) (store : Store) (c : RunCommand) : Option Preferences :=
  match c.plan files store.preferences with
  | .ok plan => if c.dryRun then none else some (c.remember plan.device store.preferences)
  | .error _ => none

/-- The settings that a change saves: it has to be accepted. -/
def SettingsCommand.saved? (store : Store) : SettingsCommand → Option Preferences
  | .print | .location => none
  | .change key value => (store.preferences.change key value).toOption

/-- The settings that a command saves. -/
def Command.saved? (files : Files) (store : Store) : Command → Option Preferences
  | .args _ => none
  | .run c => c.saved? files store
  | .settings c => c.saved? store

variable {spawn : Engine.Spawn} {files after : Files} {env : Environment} {store : Store}
  {p : Preferences}

/-- A command that saves nothing changes no file. -/
theorem Command.files_of_saved?_eq_none {command : Command}
    (silent : command.saved? files store = none) :
    (command.perform spawn files env store).files = files := by
  cases command with
  | args c =>
    rw [Command.perform, ArgsCommand.perform]
    split <;> rfl
  | run c =>
    rw [Command.saved?, RunCommand.saved?] at silent
    rw [Command.perform, RunCommand.perform]
    cases planned : c.plan files store.preferences with
    | error e => rfl
    | ok plan =>
      simp only [planned] at silent ⊢
      split at silent
      next shown =>
        rw [if_pos shown]
        split <;> rfl
      next => cases silent
  | settings c =>
    cases c with
    | print => rfl
    | location => rfl
    | change key value =>
      rw [Command.saved?, SettingsCommand.saved?] at silent
      rw [Command.perform, SettingsCommand.perform]
      cases changed : store.preferences.change key value with
      | error e => rfl
      | ok changed => simp [changed, Except.toOption] at silent

/-- What a settings command saves is a change that is accepted. -/
theorem SettingsCommand.exists_of_saved? {command : SettingsCommand}
    (saves : command.saved? store = some p) :
    ∃ key value, command = .change key value ∧ store.preferences.change key value = .ok p := by
  cases command with
  | print => cases saves
  | location => cases saves
  | change key value =>
    rw [SettingsCommand.saved?] at saves
    cases changes : store.preferences.change key value with
    | error e => simp [changes, Except.toOption] at saves
    | ok changed =>
      simp only [changes, Except.toOption, Option.some.injEq] at saves
      subst saves
      exact ⟨key, value, rfl, changes⟩

/-- What a run saves is what its plan makes it remember. -/
theorem RunCommand.exists_of_saved? {c : RunCommand} (saves : c.saved? files store = some p) :
    ∃ plan, c.plan files store.preferences = .ok plan ∧ c.dryRun = false ∧
      c.remember plan.device store.preferences = p := by
  rw [RunCommand.saved?] at saves
  split at saves
  next plan planned =>
    split at saves
    next => cases saves
    next runs => exact ⟨plan, planned, by simpa using runs, Option.some.inj saves⟩
  next => cases saves

/-- A settings command whose saving is refused fails with it. -/
theorem SettingsCommand.perform_of_refused {command : SettingsCommand} {e : Error}
    (saves : command.saved? store = some p)
    (refused : (store.record p).save files = (after, .error e)) :
    command.perform files store = .failed after e := by
  obtain ⟨key, value, rfl, changes⟩ := SettingsCommand.exists_of_saved? saves
  simp only [SettingsCommand.perform, changes, refused]

/-- A settings command whose saving is accepted says nothing. -/
theorem SettingsCommand.perform_of_accepted {command : SettingsCommand}
    (saves : command.saved? store = some p)
    (accepted : (store.record p).save files = (after, .ok ())) :
    command.perform files store = .said after [] := by
  obtain ⟨key, value, rfl, changes⟩ := SettingsCommand.exists_of_saved? saves
  simp only [SettingsCommand.perform, changes, accepted]

/-- A change of a setting does nothing after its saving, accepted or refused. -/
theorem SettingsCommand.files_of_saved?_eq_some {command : SettingsCommand}
    (saves : command.saved? store = some p) :
    (command.perform files store).files = ((store.record p).save files).1 := by
  cases saved : (store.record p).save files with
  | mk after outcome =>
    cases outcome with
    | error e =>
      rw [SettingsCommand.perform_of_refused saves saved]
      rfl
    | ok _ =>
      rw [SettingsCommand.perform_of_accepted saves saved]
      rfl

/-- After its saving a run starts its engine. -/
theorem RunCommand.perform_of_accepted {c : RunCommand} {plan : Plan}
    (planned : c.plan files store.preferences = .ok plan) (runs : c.dryRun = false)
    (accepted : (store.record (c.remember plan.device store.preferences)).save files =
      (after, .ok ())) :
    c.perform spawn files env store = plan.execute spawn after env := by
  rw [RunCommand.perform, planned]
  dsimp only
  rw [runs, if_neg Bool.false_ne_true, accepted]

/-- After its saving a run does nothing to the files but what its engine does. -/
theorem RunCommand.files_of_accepted {c : RunCommand} {plan : Plan}
    (planned : c.plan files store.preferences = .ok plan) (runs : c.dryRun = false)
    (accepted : (store.record (c.remember plan.device store.preferences)).save files =
      (after, .ok ())) :
    (c.perform spawn files env store).files = (plan.execute spawn after env).files := by
  rw [RunCommand.perform_of_accepted planned runs accepted]

/-- A command whose saving is refused fails with it. -/
theorem Command.perform_of_refused {command : Command} {e : Error}
    (saves : command.saved? files store = some p)
    (refused : (store.record p).save files = (after, .error e)) :
    command.perform spawn files env store = .failed after e := by
  cases command with
  | args c => cases saves
  | run c =>
    obtain ⟨plan, planned, runs, rfl⟩ := RunCommand.exists_of_saved? saves
    rw [Command.perform, RunCommand.perform, planned]
    dsimp only
    rw [runs, if_neg Bool.false_ne_true, refused]
  | settings c =>
    rw [Command.perform, SettingsCommand.perform_of_refused saves refused]

/-- A command whose saving is refused does nothing after it. -/
theorem Command.files_of_refused {command : Command} {e : Error}
    (saves : command.saved? files store = some p)
    (refused : (store.record p).save files = (after, .error e)) :
    (command.perform spawn files env store).files = after := by
  rw [Command.perform_of_refused saves refused]
  rfl

end EngineTokens
