import EngineTokens.Proofs.Text.Numbers
import EngineTokens.Session.Perform

/-!
# A setting is changed in full or not at all

A device is selected by a number between blanks that fits in sixty-four bits and is below the length
of the catalog; any other text is refused, and nothing else is (`readIndex_eq_error_iff`). Told step
by step, a change works in place, first on the settings and then on the store and the file, and a
refusal comes before the first step that changes anything. `change_settles` puts this together: a
refused change leaves everything as it was, and an accepted one changes its setting, leaves the
others alone and changes nothing when it is made again.
-/

set_option autoImplicit false

namespace EngineTokens

namespace Preferences

/-! ## The selection of a device -/

/-- The text stands for an integer of sixty-four bits, with blanks around it or without. -/
structure Selects (value : String) (index : Int) : Prop where
  denoted : ∃ word, Text.Padded value.toList word ∧ Text.Integer.Denotes word index
  low : -2 ^ 63 ≤ index
  high : index ≤ 2 ^ 63 - 1

/-- The reader accepts a text, blanks around it aside, exactly if it selects a position. -/
theorem readWithin?_eq_some_iff {value : String} {index : Int} :
    Text.Integer.readWithin? integerBounds.1 integerBounds.2 (Text.trim value.toList) =
      some index ↔ Selects value index := by
  rw [Text.Integer.readWithin?, Option.filter_eq_some_iff, Text.Integer.read?_trim_eq_some_iff,
    Bool.and_eq_true, decide_eq_true_eq, decide_eq_true_eq]
  exact ⟨fun ⟨denoted, low, high⟩ => ⟨denoted, low, high⟩,
    fun ⟨denoted, low, high⟩ => ⟨denoted, low, high⟩⟩

/-- Why a text selects no device. -/
inductive RefusesIndex (value : String) : Error → Prop
  | unreadable (unread : ∀ index, ¬ Selects value index) :
      RefusesIndex value
        (.settings ("device_index must be an integer, got " ++ Text.Quoted.quote value))
  | unlisted {index : Int} (selects : Selects value index)
      (beyond : (Device.catalog.length : Int) ≤ index) :
      RefusesIndex value (.unsupported .device ("no device at index " ++ toString index))

/-- A text that selects nothing is refused with itself in quotes. -/
theorem readIndex_of_unread {value : String} (unread : ∀ index, ¬ Selects value index) :
    readIndex value =
      .error (.settings ("device_index must be an integer, got " ++ Text.Quoted.quote value)) := by
  have none : Text.Integer.readWithin? integerBounds.1 integerBounds.2 (Text.trim value.toList) =
      none :=
    Option.eq_none_iff_forall_ne_some.mpr fun index =>
      mt readWithin?_eq_some_iff.mp (unread index)
  rw [readIndex, none]

/-- A position behind the catalog is refused with its number. -/
theorem readIndex_of_beyond {value : String} {index : Int} (selects : Selects value index)
    (beyond : (Device.catalog.length : Int) ≤ index) :
    readIndex value =
      .error (.unsupported .device ("no device at index " ++ toString index)) := by
  have outside : Device.at? index = none := by
    rw [← Option.not_isSome_iff_eq_none, Device.at?_isSome]
    omega
  rw [readIndex, readWithin?_eq_some_iff.mpr selects]
  dsimp only
  rw [if_pos (by omega), Device.byIndex, outside]
  rfl

/-- Any other position is kept, a negative one as no device at all. -/
theorem readIndex_of_listed {value : String} {index : Int} (selects : Selects value index)
    (listed : index < Device.catalog.length) : readIndex value = .ok (max index (-1)) := by
  rw [readIndex, readWithin?_eq_some_iff.mpr selects]
  dsimp only
  split
  next nonneg =>
    obtain ⟨name, known⟩ := Option.isSome_iff_exists.mp (Device.at?_isSome.mpr ⟨nonneg, listed⟩)
    rw [Device.byIndex, known, max_eq_left (by omega)]
    rfl
  next negative => rw [max_eq_right (by omega)]

/-- A text selects no device, for a reason, or one of the catalog or none at all. -/
theorem readIndex_cases (value : String) :
    (∃ e, RefusesIndex value e ∧ readIndex value = .error e) ∨
      ∃ index, Selects value index ∧ index < Device.catalog.length ∧
        readIndex value = .ok (max index (-1)) := by
  by_cases read : ∃ index, Selects value index
  · obtain ⟨index, selects⟩ := read
    rcases lt_or_ge index (Device.catalog.length : Int) with listed | beyond
    · exact .inr ⟨index, selects, listed, readIndex_of_listed selects listed⟩
    · exact .inl ⟨_, .unlisted selects beyond, readIndex_of_beyond selects beyond⟩
  · have unread := not_exists.mp read
    exact .inl ⟨_, .unreadable unread, readIndex_of_unread unread⟩

/-- A selection is refused for the reasons that there are, and for no others. -/
theorem readIndex_eq_error_iff {value : String} {e : Error} :
    readIndex value = .error e ↔ RefusesIndex value e := by
  constructor
  · intro refused
    rcases readIndex_cases value with ⟨_, why, same⟩ | ⟨_, -, -, accepted⟩
    · obtain rfl := Except.error.inj (refused.symm.trans same)
      exact why
    · rw [accepted] at refused
      cases refused
  · intro why
    cases why with
    | unreadable unread => exact readIndex_of_unread unread
    | unlisted selects beyond => exact readIndex_of_beyond selects beyond

/-- Only the position of a device is ever refused. -/
theorem change_eq_error_iff {p : Preferences} {key : Key} {value : String} {e : Error} :
    p.change key value = .error e ↔ key = .deviceIndex ∧ RefusesIndex value e := by
  cases key with
  | deviceIndex =>
    rw [← readIndex_eq_error_iff, change]
    cases readIndex value <;> simp [Except.map]
  | lastFilePath | libraryDir | iccDir | userArgs => simp [change]

/-! ## In place -/

/-- Changes one setting in place. -/
def assign (key : Key) (value : String) : ExceptT Error (StateM Preferences) Unit :=
  match key with
  | .lastFilePath => modify fun p => { p with lastFilePath := value }
  | .libraryDir => modify fun p => { p with libraryDir := Path.canonicalize value }
  | .iccDir => modify fun p => { p with iccDir := Path.canonicalize value }
  | .userArgs => modify fun p => { p with userArgs := value }
  | .deviceIndex => do
    let some index :=
        Text.Integer.readWithin? integerBounds.1 integerBounds.2 (Text.trim value.toList)
      | throw (.settings ("device_index must be an integer, got " ++ Text.Quoted.quote value))
    if 0 ≤ index then
      let _ ← liftM (Device.byIndex index)
    modify fun p => { p with deviceIndex := max index (-1) }

/-- The change in place makes of the settings what they are changed to, and nothing when it is
refused. -/
theorem run_assign (p : Preferences) (key : Key) (value : String) :
    (assign key value).run.run p =
      match p.change key value with
      | .error e => (.error e, p)
      | .ok q => (.ok (), q) := by
  cases key with
  | deviceIndex =>
    rw [assign, change, readIndex]
    cases Text.Integer.readWithin? integerBounds.1 integerBounds.2 (Text.trim value.toList) with
    | none => rfl
    | some index =>
      dsimp only
      -- Only a position that could be in the catalog is looked up there.
      by_cases nonneg : 0 ≤ index
      · rw [if_pos nonneg, if_pos nonneg]
        have kept : max index (-1) = index := max_eq_left (by omega)
        cases Device.byIndex index with
        | error e => rfl
        | ok name =>
          rw [kept]
          rfl
      · rw [if_neg nonneg, if_neg nonneg]
        have none : max index (-1) = -1 := max_eq_right (by omega)
        rw [none]
        rfl
  | lastFilePath | libraryDir | iccDir | userArgs => rfl

end Preferences

/-- What a settings command works on: the files, the opened settings file, and the settings that
were loaded from it. -/
structure Opened where
  files : Files
  store : Store
  preferences : Preferences

namespace Opened

/-- Works on the settings alone. -/
def onPreferences {α : Type} (steps : ExceptT Error (StateM Preferences) α) :
    ExceptT Error (StateM Opened) α :=
  fun opened =>
    let worked := steps.run.run opened.preferences
    (worked.1, { opened with preferences := worked.2 })

/-- A change of the preferences leaves the store and the files alone. -/
theorem run_onPreferences {α : Type} (steps : ExceptT Error (StateM Preferences) α)
    (opened : Opened) :
    (onPreferences steps).run.run opened =
      ((steps.run.run opened.preferences).1,
        { opened with preferences := (steps.run.run opened.preferences).2 }) := rfl

/-- Writes the settings into the opened file. -/
def record : ExceptT Error (StateM Opened) Unit :=
  modify fun opened => { opened with store := opened.store.record opened.preferences }

/-- Recording changes the store only. -/
theorem run_record (opened : Opened) :
    record.run.run opened =
      (.ok (), { opened with store := opened.store.record opened.preferences }) := rfl

/-- Saves the opened file. -/
def save : ExceptT Error (StateM Opened) Unit :=
  fun opened =>
    let saved := opened.store.save opened.files
    (saved.2, { opened with files := saved.1 })

/-- Saving changes the files only. -/
theorem run_save (opened : Opened) :
    save.run.run opened =
      ((opened.store.save opened.files).2,
        { opened with files := (opened.store.save opened.files).1 }) := rfl

/-- What is left behind in the end, with the lines that are shown. -/
def report : Except Error (List String) × Opened → Report
  | (.error e, opened) => .failed opened.files e
  | (.ok lines, opened) => .said opened.files lines

end Opened

/-- Carries out a settings command in place, and tells what to show. -/
def SettingsCommand.carryOut : SettingsCommand → ExceptT Error (StateM Opened) (List String)
  | .print => return [(← get).preferences.render]
  | .location => return [Path.shown (← get).store.path]
  | .change key value => do
    Opened.onPreferences (Preferences.assign key value)
    Opened.record
    Opened.save
    return []

/-- Steps after others are taken only if those were not stopped. -/
theorem run_bind {σ α β : Type} (first : ExceptT Error (StateM σ) α)
    (next : α → ExceptT Error (StateM σ) β) (state : σ) :
    (first >>= next).run.run state =
      match first.run.run state with
      | (.error e, state) => (.error e, state)
      | (.ok a, state) => (next a).run.run state := by
  rw [ExceptT.run_bind, StateT.run_bind]
  cases first.run.run state with
  | mk result state => cases result <;> rfl

namespace SettingsCommand

/-- A refused change stops before anything is recorded; an accepted one is recorded and saved. -/
theorem run_carryOut_change (files : Files) (store : Store) (p : Preferences)
    (key : Preferences.Key) (value : String) :
    (carryOut (.change key value)).run.run ⟨files, store, p⟩ =
      match p.change key value with
      | .error e => (.error e, ⟨files, store, p⟩)
      | .ok q =>
        match (store.record q).save files with
        | (after, .error e) => (.error e, ⟨after, store.record q, q⟩)
        | (after, .ok ()) => (.ok [], ⟨after, store.record q, q⟩) := by
  rw [carryOut, run_bind, Opened.run_onPreferences, Preferences.run_assign]
  cases p.change key value with
  | error e => rfl
  | ok q =>
    dsimp only
    rw [run_bind, Opened.run_record]
    dsimp only
    rw [run_bind, Opened.run_save]
    cases (store.record q).save files with
    | mk after result => cases result <;> rfl

/-- In place, a settings command does what it does to the files. -/
theorem report_carryOut (files : Files) (store : Store) (c : SettingsCommand) :
    Opened.report (c.carryOut.run.run ⟨files, store, store.preferences⟩) =
      c.perform files store := by
  cases c with
  | print | location => rfl
  | change key value =>
    rw [perform, run_carryOut_change]
    cases store.preferences.change key value with
    | error e => rfl
    | ok q =>
      dsimp only
      cases (store.record q).save files with
      | mk after result => cases result <;> rfl

end SettingsCommand

/-! ## What a change does -/

namespace Preferences

/-- The setting under a key. -/
def get (p : Preferences) : Key → Json.Datum
  | .lastFilePath => .text p.lastFilePath
  | .libraryDir => .text p.libraryDir
  | .iccDir => .text p.iccDir
  | .userArgs => .text p.userArgs
  | .deviceIndex => .integer p.deviceIndex

/-- What a setting becomes when it is changed to a text. -/
inductive Becomes (value : String) : Key → Json.Datum → Prop
  | lastFilePath : Becomes value .lastFilePath (.text value)
  | libraryDir : Becomes value .libraryDir (.text (Path.canonicalize value))
  | iccDir : Becomes value .iccDir (.text (Path.canonicalize value))
  | userArgs : Becomes value .userArgs (.text value)
  | deviceIndex {index : Int} (selects : Selects value index)
      (listed : index < Device.catalog.length) :
      Becomes value .deviceIndex (.integer (max index (-1)))

variable {p q : Preferences} {key : Key} {value : String}

/-- An accepted device selection is one of the catalog, or none. -/
theorem exists_of_change_deviceIndex (accepted : p.change .deviceIndex value = .ok q) :
    ∃ index, Selects value index ∧ index < Device.catalog.length ∧
      readIndex value = .ok (max index (-1)) ∧ { p with deviceIndex := max index (-1) } = q := by
  rw [change] at accepted
  rcases readIndex_cases value with ⟨e, -, refused⟩ | ⟨index, selects, listed, reads⟩
  · rw [refused] at accepted
    cases accepted
  · rw [reads] at accepted
    exact ⟨index, selects, listed, reads, Except.ok.inj accepted⟩

/-- The setting that is changed has the value that was given. -/
theorem becomes_of_change (accepted : p.change key value = .ok q) :
    Becomes value key (q.get key) := by
  cases key with
  | deviceIndex =>
    obtain ⟨index, selects, listed, -, rfl⟩ := exists_of_change_deviceIndex accepted
    exact .deviceIndex selects listed
  | lastFilePath | libraryDir | iccDir | userArgs =>
    obtain rfl := Except.ok.inj accepted
    constructor

/-- The other settings are as before. -/
theorem get_of_change (accepted : p.change key value = .ok q) {other : Key} (apart : other ≠ key) :
    q.get other = p.get other := by
  cases key with
  | deviceIndex =>
    obtain ⟨index, -, -, -, rfl⟩ := exists_of_change_deviceIndex accepted
    cases other <;> first | rfl | exact absurd rfl apart
  | lastFilePath | libraryDir | iccDir | userArgs =>
    obtain rfl := Except.ok.inj accepted
    cases other <;> first | rfl | exact absurd rfl apart

/-- To change a setting to what it is changes nothing. -/
theorem change_of_change (accepted : p.change key value = .ok q) : q.change key value = .ok q := by
  cases key with
  | deviceIndex =>
    obtain ⟨index, -, -, reads, rfl⟩ := exists_of_change_deviceIndex accepted
    rw [change, reads]
    rfl
  | lastFilePath | libraryDir | iccDir | userArgs =>
    obtain rfl := Except.ok.inj accepted
    rfl

/-- A change of a setting is refused only if it selects a device by a text that stands for no
integer of sixty-four bits or for one that is not below the length of the catalog, and then it
leaves the settings, the store and the files as they were. Otherwise it changes its own setting and
no other, and nothing more when it is made again. -/
theorem change_settles (p : Preferences) (key : Key) (value : String) :
    (∀ e, p.change key value = .error e ↔ key = .deviceIndex ∧ RefusesIndex value e) ∧
    (∀ e, p.change key value = .error e →
      (assign key value).run.run p = (.error e, p) ∧
      ∀ files store, (SettingsCommand.carryOut (.change key value)).run.run ⟨files, store, p⟩ =
          (.error e, ⟨files, store, p⟩) ∧
        (store.preferences = p →
          SettingsCommand.perform files store (.change key value) = .failed files e)) ∧
    ∀ q, p.change key value = .ok q →
      (assign key value).run.run p = (.ok (), q) ∧ Becomes value key (q.get key) ∧
      (∀ other, other ≠ key → q.get other = p.get other) ∧
      q.change key value = .ok q ∧ (assign key value).run.run q = (.ok (), q) := by
  refine ⟨fun e => change_eq_error_iff, fun e refused => ?_, fun q accepted => ?_⟩
  · refine ⟨by rw [run_assign, refused], fun files store => ⟨?_, ?_⟩⟩
    · rw [SettingsCommand.run_carryOut_change, refused]
    · rintro rfl
      rw [← SettingsCommand.report_carryOut, SettingsCommand.run_carryOut_change, refused]
      rfl
  · have again := change_of_change accepted
    exact ⟨by rw [run_assign, accepted], becomes_of_change accepted,
      fun _ => get_of_change accepted, again, by rw [run_assign, again]⟩

/-- A position in the catalog is accepted with a sign, leading zeros and blanks around it, and the
one behind the last device is refused. -/
theorem change_settles_padded :
    change {} .deviceIndex "\t+007\u3000" = .ok { deviceIndex := 7 } ∧
    Becomes "\t+007\u3000" .deviceIndex (.integer 7) ∧
    change { deviceIndex := 7 } .deviceIndex "\t+007\u3000" = .ok { deviceIndex := 7 } ∧
    change { deviceIndex := 7 } .deviceIndex "11" =
      .error (.unsupported .device "no device at index 11") ∧
    ((assign .deviceIndex "11").run.run { deviceIndex := 7 }).2 = { deviceIndex := 7 } := by
  have accepted : change {} .deviceIndex "\t+007\u3000" = .ok { deviceIndex := 7 } := by
    decide +kernel
  have refused : change { deviceIndex := 7 } .deviceIndex "11" =
      .error (.unsupported .device "no device at index 11") := by decide +kernel
  obtain ⟨-, becomes, -, again, -⟩ := (change_settles {} .deviceIndex "\t+007\u3000").2.2 _ accepted
  obtain ⟨stays, -⟩ := (change_settles { deviceIndex := 7 } .deviceIndex "11").2.1 _ refused
  exact ⟨accepted, becomes, again, refused, congrArg Prod.snd stays⟩

end Preferences

end EngineTokens
