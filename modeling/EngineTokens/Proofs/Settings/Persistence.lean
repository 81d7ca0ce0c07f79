import EngineTokens.Proofs.Files.Writing
import EngineTokens.Proofs.Json.RoundTrip
import EngineTokens.Proofs.Text.Utf8
import EngineTokens.Settings.Store

/-!
# What is saved is what is opened again

A store is opened, changed any number of times and saved, and what is then opened is the same store
(`openAt_save`). Two things are needed for this: the store holds only what the reader can give back
(`Object.Savable`), which is so of every file that was opened and stays so under changes, and the
file system gives back what was written to it. The only numbers that are not given back for sure are
those that are read as doubles, integers beyond sixty-four bits among them.

What a store holds under a key is the last datum written there, or what the opened file had there.
-/

set_option autoImplicit false

namespace EngineTokens

/-! ## Data under keys -/

namespace Json

/-- The value as which a datum is kept. -/
def Datum.value : Datum → Value
  | .text s => .string s
  | .integer n => .number (.integer n)

/-- The text that a datum is. -/
def Datum.text? : Datum → Option String
  | .text s => some s
  | .integer _ => none

/-- The integer that a datum is. -/
def Datum.integer? : Datum → Option Int
  | .text _ => none
  | .integer n => some n

/-- An integer is one that a setting can hold. -/
def Datum.Fits : Datum → Prop
  | .text _ => True
  | .integer n => Preferences.integerBounds.1 ≤ n ∧ n ≤ Preferences.integerBounds.2

instance (datum : Datum) : Decidable datum.Fits :=
  match datum with
  | .text _ => inferInstanceAs (Decidable True)
  | .integer _ => inferInstanceAs (Decidable (_ ∧ _))

namespace Object

/-- Writes data under their keys, one after another. -/
def writeData (object : Object) (data : List (String × Datum)) : Object :=
  data.foldl (fun object (key, datum) => object.insert key datum.value) object

/-- The last datum written under a key is there; a key that none is written under stays. -/
theorem get?_writeData (object : Object) (data : List (String × Datum)) (key : String) :
    (object.writeData data).get? key =
      match data.reverse.lookup key with
      | some datum => some datum.value
      | none => object.get? key := by
  induction data generalizing object with
  | nil => rfl
  | cons entry data ih =>
    obtain ⟨written, datum⟩ := entry
    have first : object.writeData ((written, datum) :: data) =
        (object.insert written datum.value).writeData data := rfl
    rw [first, ih, List.reverse_cons, List.lookup_append]
    cases data.reverse.lookup key with
    | some later => rfl
    | none =>
      by_cases same : key = written
      · subst same
        simp [get?_insert_self]
      · simp [get?_insert_of_ne same, List.lookup_cons, beq_false_of_ne same]

/-- An object that can be saved and opened again: it has its keys in order, is not nested too deep
and holds no number but integers. -/
structure Savable (object : Object) : Prop where
  ascending : object.Ascending
  regular : ∀ m ∈ object, m.2.Regular (depthLimit - 1)
  integers : ∀ m ∈ object, ∀ n ∈ m.2.numbers, n.isInteger = true

/-- An empty object can be saved. -/
theorem savable_nil : Savable [] where
  ascending := ascending_nil
  regular := fun _ mem => absurd mem List.not_mem_nil
  integers := fun _ mem => absurd mem List.not_mem_nil

/-- An object to which a datum that fits is added can be saved. -/
theorem Savable.insert {object : Object} (savable : object.Savable) (key : String) {datum : Datum}
    (fits : datum.Fits) : (object.insert key datum.value).Savable := by
  have regular : datum.value.Regular (depthLimit - 1) := by
    cases datum with
    | text s => exact .string _ s
    | integer n =>
      simp only [Datum.Fits, Preferences.integerBounds] at fits
      refine .number _ ?_
      simp only [Number.Regular, integerRange]
      omega
  have integers : ∀ n ∈ datum.value.numbers, n.isInteger = true := by
    cases datum <;> simp [Datum.value, Value.numbers, Number.isInteger]
  refine ⟨savable.ascending.insert key _, ?_, ?_⟩
  · intro m mem
    rcases mem_of_mem_insert mem with rfl | mem
    · exact regular
    · exact savable.regular m mem
  · intro m mem
    rcases mem_of_mem_insert mem with rfl | mem
    · exact integers
    · exact savable.integers m mem

/-- So can an object to which several are added. -/
theorem Savable.writeData {object : Object} (savable : object.Savable)
    {data : List (String × Datum)} (fit : ∀ entry ∈ data, entry.2.Fits) :
    (object.writeData data).Savable := by
  induction data generalizing object with
  | nil => exact savable
  | cons entry data ih =>
    exact ih (savable.insert entry.1 (fit entry List.mem_cons_self))
      fun other mem => fit other (List.mem_cons_of_mem _ mem)

/-- What can be saved is read back as it was. -/
theorem Savable.parse?_write {object : Object} (savable : object.Savable) :
    parse? (write (.object object)) = some (.object object) := by
  refine Json.parse?_write (.object savable.ascending savable.regular) ?_
  intro n mem
  obtain ⟨m, member, mem⟩ := mem_numbersOfMembers.mp mem
  exact savable.integers m member n mem

end Object

end Json

namespace Preferences

/-- The settings as data under their keys. -/
def data (p : Preferences) : List (String × Json.Datum) :=
  [("last_file_path", .text p.lastFilePath), ("library_dir", .text p.libraryDir),
    ("icc_dir", .text p.iccDir), ("user_args", .text p.userArgs),
    ("device_index", .integer p.deviceIndex)]

/-- Preferences are stored by writing their data into the object. -/
theorem store_eq_writeData (p : Preferences) (object : Json.Object) :
    p.store object = object.writeData p.data := rfl

/-- The selected device is given by an integer that a setting can hold. -/
def Fits (p : Preferences) : Prop :=
  (Json.Datum.integer p.deviceIndex).Fits

/-- The data of preferences that fit do so one by one. -/
theorem Fits.data {p : Preferences} (fits : p.Fits) : ∀ entry ∈ p.data, entry.2.Fits := by
  simpa [Preferences.data, Json.Datum.Fits, Fits] using fits

/-- A text is found where one was written, and not where a number was. -/
theorem text?_of_get? {object : Json.Object} {key : String} {datum : Json.Datum}
    (held : object.get? key = some datum.value) :
    text? object key = datum.text? := by
  unfold text?
  rw [held]
  cases datum <;> rfl

/-- An integer is found where one was written, and not where a text was. -/
theorem integer?_of_get? {object : Json.Object} {key : String} {datum : Json.Datum}
    (fits : datum.Fits) (held : object.get? key = some datum.value) :
    integer? object key = datum.integer? := by
  unfold integer?
  rw [held]
  cases datum with
  | text s => rfl
  | integer n => exact if_pos fits

/-- Settings are read from every object that holds them under their keys. -/
theorem load_of_get? {p : Preferences} (fits : p.Fits) {object : Json.Object}
    (held : ∀ entry ∈ p.data, object.get? entry.1 = some entry.2.value) : load object = p := by
  simp only [data, List.forall_mem_cons] at held
  obtain ⟨lastFilePath, libraryDir, iccDir, userArgs, deviceIndex, -⟩ := held
  simp only [load, text?_of_get? lastFilePath, text?_of_get? libraryDir, text?_of_get? iccDir,
    text?_of_get? userArgs, integer?_of_get? fits deviceIndex, Json.Datum.text?,
    Json.Datum.integer?, Option.getD_some]

end Preferences

/-! ## Changes of a store -/

namespace Store

/-- A change of a store. -/
inductive Edit
  | text (key value : String)
  | integer (key : String) (value : Int)
  | preferences (p : Preferences)

/-- The data that a change writes. -/
def Edit.data : Edit → List (String × Json.Datum)
  | .text key value => [(key, .text value)]
  | .integer key value => [(key, .integer value)]
  | .preferences p => p.data

/-- The integers of a change are ones that a setting can hold. -/
def Edit.Fits (edit : Edit) : Prop :=
  ∀ entry ∈ edit.data, entry.2.Fits

instance (edit : Edit) : Decidable edit.Fits :=
  inferInstanceAs (Decidable (∀ entry ∈ edit.data, entry.2.Fits))

/-- Makes a change. -/
def edit (store : Store) : Edit → Store
  | .text key value => store.setText key value
  | .integer key value => store.setInteger key value
  | .preferences p => store.record p

/-- Makes changes one after another. -/
def editAll (store : Store) (edits : List Edit) : Store :=
  edits.foldl edit store

/-- The datum that changes write last under a key. -/
def lastWritten? (edits : List Edit) (key : String) : Option Json.Datum :=
  (edits.flatMap Edit.data).reverse.lookup key

/-- What is read from under a key is a datum, and nothing of the other kind. -/
def Holds (store : Store) (key : String) (datum : Json.Datum) : Prop :=
  store.text? key = datum.text? ∧ store.integer? key = datum.integer?

/-- A store holds the datum that stands in its values. -/
theorem holds_of_get? {store : Store} {key : String} {datum : Json.Datum} (fits : datum.Fits)
    (held : store.values.get? key = some datum.value) : store.Holds key datum :=
  ⟨Preferences.text?_of_get? held, Preferences.integer?_of_get? fits held⟩

/-- A change writes its data and leaves the path as it is. -/
theorem edit_eq (store : Store) (e : Edit) :
    store.edit e = { store with values := store.values.writeData e.data } := by
  cases e <;> rfl

/-- Edits write their data one after another. -/
theorem editAll_eq (store : Store) (edits : List Edit) :
    store.editAll edits =
      { store with values := store.values.writeData (edits.flatMap Edit.data) } := by
  induction edits generalizing store with
  | nil => rfl
  | cons e edits ih =>
    have first : store.editAll (e :: edits) = (store.edit e).editAll edits := rfl
    rw [first, ih, edit_eq]
    simp [Json.Object.writeData]

/-- The datum that was written last fits if all do. -/
theorem fits_of_lastWritten? {edits : List Edit} (fit : ∀ e ∈ edits, e.Fits) {key : String}
    {datum : Json.Datum} (last : lastWritten? edits key = some datum) : datum.Fits := by
  obtain ⟨before, after, written, -⟩ := List.lookup_eq_some_iff.mp last
  have mem : (key, datum) ∈ edits.flatMap Edit.data := by
    rw [← List.mem_reverse, written]
    simp
  obtain ⟨e, member, mem⟩ := List.mem_flatMap.mp mem
  exact fit e member _ mem

/-! ## Saving and opening -/

/-- A file that opens and has no number but integers can be saved again. -/
theorem savable_of_openAt {files : Files} {path : RawPath} {store : Store}
    (opens : openAt files path = .ok store)
    (integers : ∀ n ∈ Json.numbersOfMembers store.values, n.isInteger = true) :
    store.path = path ∧ store.values.Savable := by
  unfold openAt at opens
  split at opens
  next =>
    split at opens
    next => cases opens
    next =>
      split at opens
      next => cases opens
      next text _ =>
        unfold readObject at opens
        split at opens
        next => cases opens
        next members parsed =>
          cases opens
          have regular : (Json.Value.object members).Regular (126 + 1) :=
            Json.regular_of_parse? parsed
          cases regular with
          | object ascending regular =>
            exact ⟨rfl, ascending, regular, fun m member n mem =>
              integers n (Json.mem_numbersOfMembers.mpr ⟨m, member, mem⟩)⟩
        next => cases opens
  next =>
    cases opens
    exact ⟨rfl, Json.Object.savable_nil⟩

/-- A save that succeeds has written the text of the store. -/
theorem read_of_save {now saved : Files} {store : Store}
    (saves : store.save now = (saved, .ok ())) :
    saved.read store.path = .ok (Text.Utf8.encode store.text.toList) := by
  unfold save at saves
  split at saves
  next files refusal made =>
    cases refusal with
    | some fault => cases (Prod.mk.inj saves).2
    | none =>
      dsimp only at saves
      split at saves
      next after written =>
        obtain rfl : after = saved := (Prod.mk.inj saves).1
        exact Files.read_of_write written
      next => cases (Prod.mk.inj saves).2

/-- A file that holds the text of a store opens as that store. -/
theorem openAt_of_read {files : Files} {store : Store} (savable : store.values.Savable)
    (reads : files.read store.path = .ok (Text.Utf8.encode store.text.toList)) :
    openAt files store.path = .ok store := by
  have parsed : Json.parse? store.text.toList = some (.object store.values) := by
    simpa [text, Json.Value.render] using savable.parse?_write
  simp [openAt, Files.doesExist_of_read reads, reads, Text.Utf8.decode?_encode, readObject, parsed,
    Except.map]

/-- What was saved is opened as it was. -/
theorem openAt_save {now saved : Files} {store : Store} (savable : store.values.Savable)
    (saves : store.save now = (saved, .ok ())) : openAt saved store.path = .ok store :=
  openAt_of_read savable (read_of_save saves)

/-- What was written last was written by the later edits, or else by the earlier ones. -/
theorem lastWritten?_append (before after : List Edit) (key : String) :
    lastWritten? (before ++ after) key =
      (lastWritten? after key).or (lastWritten? before key) := by
  simp [lastWritten?, List.lookup_append]

/-- Recorded settings are what is written last where no later change writes one of their keys. -/
theorem lastWritten?_record {p : Preferences} {after : List Edit} {entry : String × Json.Datum}
    (mem : entry ∈ p.data) (untouched : lastWritten? after entry.1 = none) (before : List Edit) :
    lastWritten? (before ++ .preferences p :: after) entry.1 = some entry.2 := by
  have recorded : lastWritten? [.preferences p] entry.1 = some entry.2 := by
    simp only [lastWritten?, List.flatMap_cons, List.flatMap_nil, List.append_nil, Edit.data]
    revert entry
    simp [Preferences.data, List.lookup_cons]
  rw [List.append_cons, lastWritten?_append, lastWritten?_append, untouched, recorded]
  rfl

/-- A file whose numbers are integers is opened, changed and saved: opened again, it holds the same
values. Under each key stands the last datum written there, or what stood there before, and the
settings are those last recorded if none of their keys was written later. -/
theorem exists_openAt_of_save {files now saved : Files} {path : RawPath} {opened : Store}
    {edits : List Edit} (opens : openAt files path = .ok opened)
    (integers : ∀ n ∈ Json.numbersOfMembers opened.values, n.isInteger = true)
    (fit : ∀ e ∈ edits, e.Fits) (saves : (opened.editAll edits).save now = (saved, .ok ())) :
    ∃ reopened, openAt saved path = .ok reopened ∧
      reopened.values = (opened.editAll edits).values ∧
      (∀ key, match lastWritten? edits key with
        | some datum => reopened.Holds key datum
        | none => reopened.values.get? key = opened.values.get? key) ∧
      ∀ before p after, edits = before ++ .preferences p :: after →
        (∀ entry ∈ p.data, lastWritten? after entry.1 = none) → reopened.preferences = p := by
  obtain ⟨rfl, savable⟩ := savable_of_openAt opens integers
  have fitting : ∀ entry ∈ edits.flatMap Edit.data, entry.2.Fits := by
    intro entry mem
    obtain ⟨e, member, mem⟩ := List.mem_flatMap.mp mem
    exact fit e member entry mem
  have written := editAll_eq opened edits
  have held : ∀ key, (opened.editAll edits).values.get? key =
      match lastWritten? edits key with
      | some datum => some datum.value
      | none => opened.values.get? key := by
    intro key
    rw [written]
    exact Json.Object.get?_writeData _ _ key
  have reopens : openAt saved opened.path = .ok (opened.editAll edits) := by
    rw [written] at saves ⊢
    exact openAt_save (savable.writeData fitting) saves
  refine ⟨opened.editAll edits, reopens, rfl, ?_, ?_⟩
  · intro key
    specialize held key
    split
    next datum last =>
      rw [last] at held
      exact holds_of_get? (fits_of_lastWritten? fit last) held
    next last =>
      rw [last] at held
      exact held
  · intro before p after recorded untouched
    have fits : p.Fits := by
      refine fit (.preferences p) ?_ ("device_index", .integer p.deviceIndex) ?_
      · simp [recorded]
      · simp [Edit.data, Preferences.data]
    refine Preferences.load_of_get? fits fun entry mem => ?_
    rw [held, recorded, lastWritten?_record mem (untouched entry mem)]

/-- Opens a settings file, makes changes, saves and opens again: the store as it was opened first
and as it is opened in the end, unless any of this fails. -/
def reopen? (files : Files) (path : RawPath) (edits : List Edit) : Option (Store × Store) :=
  match openAt files path with
  | .error _ => none
  | .ok opened =>
    match (opened.editAll edits).save files with
    | (_, .error _) => none
    | (saved, .ok ()) =>
      match openAt saved path with
      | .error _ => none
      | .ok reopened => some (opened, reopened)

/-- A store that is opened again has been opened, edited and saved. -/
theorem exists_of_reopen? {files : Files} {path : RawPath} {edits : List Edit}
    {opened reopened : Store} (run : reopen? files path edits = some (opened, reopened)) :
    ∃ saved, openAt files path = .ok opened ∧
      (opened.editAll edits).save files = (saved, .ok ()) ∧ openAt saved path = .ok reopened := by
  unfold reopen? at run
  split at run
  next => cases run
  next opens =>
    split at run
    next => cases run
    next saved saves =>
      split at run
      next => cases run
      next reopens =>
        cases run
        exact ⟨saved, opens, saves, reopens⟩

/-- A machine with nothing but a settings file. -/
def machine (text : String) : Files where
  entries := [(["s.json"], .file (Text.Utf8.encode text.toList) false)]
  here := []

/-- A settings file with a member of another program, nested and with an extreme integer. -/
def nestedText : String :=
  "\x7b\"z\": [-9223372036854775808], \"user_args\": 7\x7d"

/-- Changes with a backslash, a control character and an empty key. -/
def nestedEdits : List Edit :=
  [.preferences { userArgs := "\\\x01" }, .text "" "é\n"]

/-- The changes replace the number under a key of the settings, and the other members stay. -/
theorem exists_openAt_of_save_nested :
    ∃ opened saved reopened, openAt (machine nestedText) "s.json" = .ok opened ∧
      (∀ n ∈ Json.numbersOfMembers opened.values, n.isInteger = true) ∧
      (∀ e ∈ nestedEdits, e.Fits) ∧
      (opened.editAll nestedEdits).save (machine nestedText) = (saved, .ok ()) ∧
      openAt saved "s.json" = .ok reopened ∧ opened.integer? "user_args" = some 7 ∧
      reopened.preferences = { userArgs := "\\\x01" } ∧ reopened.text? "" = some "é\n" ∧
      reopened.values.get? "z" = opened.values.get? "z" := by
  have run : (reopen? (machine nestedText) "s.json" nestedEdits).map (fun (opened, _) =>
      ((Json.numbersOfMembers opened.values).all Json.Number.isInteger,
        opened.integer? "user_args")) = some (true, some 7) := by decide +kernel
  obtain ⟨⟨opened, reopened⟩, run, checked⟩ := Option.map_eq_some_iff.mp run
  obtain ⟨saved, opens, saves, reopens⟩ := exists_of_reopen? run
  obtain ⟨integers, seven⟩ := Prod.mk.inj checked
  have integers : ∀ n ∈ Json.numbersOfMembers opened.values, n.isInteger = true :=
    List.all_eq_true.mp integers
  have fit : ∀ e ∈ nestedEdits, e.Fits := by decide +kernel
  obtain ⟨same, again, values, laws, recorded⟩ := exists_openAt_of_save opens integers fit saves
  obtain rfl : same = reopened := Except.ok.inj (again.symm.trans reopens)
  refine ⟨opened, saved, same, opens, integers, fit, saves, reopens, seven,
    recorded [] _ [_] rfl (by decide), (laws "").1, laws "z"⟩

/-- A settings file with an integer beyond sixty-four bits. -/
def oversizedText : String :=
  "\x7b\"big\": 300000000000000000000000\x7d"

/-- The integer is read as a double, which is written with an exponent and read from there as the
double below. Settings that were recorded are not those read where one of them was changed later. -/
theorem exists_reopened_ne :
    ((∀ c ∈ oversizedText.toList, c ∉ ['.', 'e', 'E', '-']) ∧
      ∃ opened saved reopened, openAt (machine oversizedText) "s.json" = .ok opened ∧
        opened.save (machine oversizedText) = (saved, .ok ()) ∧
        openAt saved "s.json" = .ok reopened ∧ reopened.values ≠ opened.values) ∧
    ∃ opened saved reopened, openAt ⟨[], []⟩ "s.json" = .ok opened ∧
      ((opened.record { userArgs := "-q" }).setText "user_args" "-r150").save ⟨[], []⟩ =
        (saved, .ok ()) ∧
      openAt saved "s.json" = .ok reopened ∧ reopened.preferences ≠ { userArgs := "-q" } := by
  constructor
  · have texts : (reopen? (machine oversizedText) "s.json" []).map
        (fun (opened, reopened) => (opened.text, reopened.text)) =
        some ("\x7b\n  \"big\": 3e+23\n\x7d", "\x7b\n  \"big\": 2.9999999999999997e+23\n\x7d") := by
      decide +kernel
    obtain ⟨⟨opened, reopened⟩, run, texts⟩ := Option.map_eq_some_iff.mp texts
    obtain ⟨saved, opens, saves, reopens⟩ := exists_of_reopen? run
    refine ⟨by simp [oversizedText], opened, saved, reopened, opens, saves, reopens, fun same => ?_⟩
    have alike : opened.text = reopened.text := by rw [text, text, same]
    rw [(Prod.mk.inj texts).1, (Prod.mk.inj texts).2] at alike
    exact absurd alike (by decide +kernel)
  · have read : (reopen? ⟨[], []⟩ "s.json"
          [.preferences { userArgs := "-q" }, .text "user_args" "-r150"]).map
        (fun (_, reopened) => reopened.preferences) = some { userArgs := "-r150" } := by
      decide +kernel
    obtain ⟨⟨opened, reopened⟩, run, read⟩ := Option.map_eq_some_iff.mp read
    obtain ⟨saved, opens, saves, reopens⟩ := exists_of_reopen? run
    refine ⟨opened, saved, reopened, opens, saves, reopens, ?_⟩
    rw [show reopened.preferences = _ from read]
    decide +kernel

end Store

end EngineTokens
