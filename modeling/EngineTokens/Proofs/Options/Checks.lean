import EngineTokens.Options.Build
import EngineTokens.Proofs.Params.Effects

/-!
# Refusals apart from values

What is read from an option is refused or has a value, and neither looks at what was read before it.
So each reader is a refusal and a value of its own (`unlessRefused`), and of readers that follow
each other the first refusal counts (`unlessRefused_bind`). This holds for the loops over names as
well: include directories (`Sources.addAll_eq`) and debug switches (`Debug.turnOn_eq`).
-/

set_option autoImplicit false

namespace EngineTokens

open Params (Sources Debug)

/-- A value, unless something is refused. -/
def unlessRefused {α : Type} (refusal : Option Error) (value : α) : Except Error α :=
  match refusal with
  | some e => .error e
  | none => .ok value

section

variable {α β : Type} {refusal : Option Error} {value : α}

/-- There is a value exactly if nothing is refused. -/
theorem unlessRefused_eq_ok_iff {other : α} :
    unlessRefused refusal value = .ok other ↔ refusal = none ∧ value = other := by
  cases refusal <;> simp [unlessRefused]

/-- The failure is the refusal. -/
theorem unlessRefused_eq_error_iff {e : Error} :
    unlessRefused refusal value = .error e ↔ refusal = some e := by
  cases refusal <;> simp [unlessRefused]

/-- What is made of a value does not concern the refusal. -/
theorem unlessRefused_map (f : α → β) :
    (unlessRefused refusal value).map f = unlessRefused refusal (f value) := by
  cases refusal <;> rfl

/-- A step that always succeeds refuses nothing more. -/
theorem unlessRefused_bind_ok {next : α → Except Error β} {result : β}
    (continues : next value = .ok result) :
    (unlessRefused refusal value >>= next) = unlessRefused refusal result := by
  cases refusal with
  | some e => rfl
  | none => exact continues

/-- Of two readers in a row the first that refuses counts. -/
theorem unlessRefused_bind {next : α → Except Error β} {later : Option Error} {result : β}
    (continues : next value = unlessRefused later result) :
    (unlessRefused refusal value >>= next) = unlessRefused (refusal.or later) result := by
  cases refusal with
  | some e => rfl
  | none => exact continues

end

/-- The first refusal of some checks. -/
def firstRefusal? (checks : List (Option Error)) : Option Error :=
  checks.findSome? id

/-- No checks refuse nothing. -/
@[simp] theorem firstRefusal?_nil : firstRefusal? [] = none := rfl

/-- The first check counts before the others. -/
@[simp] theorem firstRefusal?_cons (check : Option Error) (checks : List (Option Error)) :
    firstRefusal? (check :: checks) = check.or (firstRefusal? checks) := by
  cases check <;> rfl

/-- Earlier checks count before later ones. -/
@[simp] theorem firstRefusal?_append (checks later : List (Option Error)) :
    firstRefusal? (checks ++ later) = (firstRefusal? checks).or (firstRefusal? later) :=
  List.findSome?_append

/-- The same check of several items refuses with the first item that it refuses. -/
@[simp] theorem firstRefusal?_map {α : Type} (check : α → Option Error) (items : List α) :
    firstRefusal? (items.map check) = items.findSome? check :=
  List.findSome?_map

/-! ## Include directories -/

namespace Params.Sources

variable {files : Files}

/-- Why a path is refused as an include directory. -/
def refusal? (files : Files) (path : String) : Option Error :=
  if (accepted? files path).isSome then none else some (.directoryNotFound path)

/-- What is accepted is a directory in its canonical spelling; the empty path leads to none. -/
theorem refusal?_eq_none_iff {path : String} :
    refusal? files path = none ↔ files.isDirectory (Path.canonicalize path) = true := by
  have accepts : refusal? files path = none ↔ accepted? files path ≠ none := by
    cases accepted : accepted? files path <;> simp [refusal?, accepted]
  rw [accepts, ne_eq, accepted?_eq_none_iff, not_or, Bool.not_eq_false]
  constructor
  · exact And.right
  · intro there
    refine ⟨fun empty => ?_, there⟩
    have nowhere : files.isDirectory "" = false := rfl
    rw [empty, nowhere] at there
    cases there

/-- A directory that is not refused is there afterwards, and new if it was not there before. -/
theorem add_eq_of_refusal? (files : Files) (sources : Sources) (path : String) :
    sources.add files path =
      match refusal? files path with
      | some e => (.error e, sources)
      | none =>
        if Path.canonicalize path ∈ sources.entries then (.ok false, sources)
        else (.ok true, ⟨sources.entries ++ [Path.canonicalize path]⟩) := by
  rw [add_eq, refusal?]
  cases accepted : accepted? files path with
  | none => rfl
  | some canonical =>
    obtain ⟨rfl, -⟩ := accepted?_eq_some_iff.mp accepted
    rfl

/-- The directories are canonical and stand in the order of their first occurrence. -/
theorem addAll_after (before paths : List String) :
    addAll files ⟨(before.map Path.canonicalize).eraseDups⟩ paths =
      unlessRefused (paths.findSome? (refusal? files))
        ⟨((before ++ paths).map Path.canonicalize).eraseDups⟩ := by
  -- The induction takes the paths from the front; the directories so far are those of the paths before.
  induction paths generalizing before with
  | nil =>
    rw [addAll, List.append_nil]
    rfl
  | cons path rest ih =>
    rw [addAll, add_eq_of_refusal?, List.findSome?_cons]
    cases refusal? files path with
    | some e => rfl
    | none =>
      have later := ih (before ++ [path])
      rw [List.map_append, List.map_singleton, eraseDups_concat, List.append_assoc,
        List.singleton_append] at later
      simp only [List.mem_eraseDups]
      by_cases known : Path.canonicalize path ∈ before.map Path.canonicalize
      · rw [if_pos known] at later ⊢
        exact later
      · rw [if_neg known] at later ⊢
        exact later

/-- Directories are refused with the first that is refused, or all registered. -/
theorem addAll_eq (files : Files) (paths : List String) :
    addAll files {} paths =
      unlessRefused (paths.findSome? (refusal? files))
        ⟨(paths.map Path.canonicalize).eraseDups⟩ :=
  addAll_after [] paths

end Params.Sources

/-! ## Debug switches -/

namespace Params.Debug

/-- Why a name is refused as a debug switch. -/
def switchRefusal? (name : String) : Option Error :=
  if (switch? name).isSome then none
  else some (.unsupported .debugSwitch ("unknown debug switch " ++ name))

/-- A name names a switch, up to ASCII case. -/
def Known (name : String) : Prop :=
  ∃ switch ∈ switches, Text.sameWord switch.2 name = true

/-- A name names a switch exactly if one is found for it. -/
theorem known_iff_isSome {name : String} : Known name ↔ (switch? name).isSome = true := by
  rw [Known, switch?, List.find?_isSome]

/-- Only a name that names no switch is refused. -/
theorem switchRefusal?_eq_none_iff {name : String} : switchRefusal? name = none ↔ Known name := by
  rw [known_iff_isSome]
  cases found : switch? name <;> simp [switchRefusal?, found]

/-- A name that names no switch is refused with itself. -/
theorem switchRefusal?_eq_some {name : String} (unknown : ¬ Known name) :
    switchRefusal? name = some (.unsupported .debugSwitch ("unknown debug switch " ++ name)) := by
  rw [known_iff_isSome] at unknown
  exact if_neg unknown

/-- Names of switches are not refused. -/
theorem findSome?_switchRefusal? {names : List String} (known : ∀ name ∈ names, Known name) :
    names.findSome? switchRefusal? = none := by
  rw [List.findSome?_eq_none_iff]
  intro name mem
  exact switchRefusal?_eq_none_iff.mpr (known name mem)

/-- The bits of the switches that some names name. -/
def wordOf : List String → BitVec 32
  | [] => 0
  | name :: rest => (switch? name).elim 0 (·.1) ||| wordOf rest

/-- Switches are refused with the first name that is not known, or all turned on. -/
theorem turnOn_eq (flags : BitVec 32) (names : List String) :
    turnOn flags names =
      unlessRefused (names.findSome? switchRefusal?) (flags ||| wordOf names) := by
  induction names generalizing flags with
  | nil => simp [turnOn, wordOf, unlessRefused]
  | cons name rest ih =>
    rw [turnOn, List.findSome?_cons]
    cases found : switch? name with
    | none => simp [switchRefusal?, found, unlessRefused]
    | some switch =>
      have later := ih (turned flags switch.1 true)
      simp only [turned, if_true, BitVec.or_assoc] at later
      simp only [switchRefusal?, wordOf, found, Option.isSome_some, if_true, Option.elim_some]
      exact later

/-- From no switch at all, those that are named are turned on. -/
theorem turnOn_zero (names : List String) :
    turnOn 0 names = unlessRefused (names.findSome? switchRefusal?) (wordOf names) := by
  rw [turnOn_eq]
  exact congrArg (unlessRefused _) BitVec.zero_or

end Params.Debug

/-! ## Numbers and the profile -/

/-- A page is accepted if it counts from one, or stands for none. -/
theorem pageRefusal?_eq_none_iff {name : String} {number : Int} :
    Params.pageRefusal? name number = none ↔ number = -1 ∨ 1 ≤ number := by
  unfold Params.pageRefusal?
  split
  next accepted => exact iff_of_true rfl accepted
  next refused => exact iff_of_false nofun refused

/-- A page is refused or is the number given, and without a number it is not set. -/
theorem pageOf_eq (name : String) (number : Option Int) :
    pageOf name number =
      unlessRefused (number.bind (Params.pageRefusal? name)) (number.getD Params.pageUnset) := by
  cases number with
  | none => rfl
  | some number =>
    rw [pageOf, Params.checkPage_eq, Option.bind_some]
    cases Params.pageRefusal? name number <;> rfl

/-- There are three parts of PDF/A. -/
theorem levelRefusal?_eq_none_iff {number : Int} :
    Params.levelRefusal? number = none ↔ 1 ≤ number ∧ number ≤ 3 := by
  unfold Params.levelRefusal?
  split
  next accepted => exact iff_of_true rfl accepted
  next refused => exact iff_of_false nofun refused

/-- A profile is refused or kept, under the path where it is meant to be. -/
theorem profileOf_eq (files : Files) (saved : Preferences) (path : Option RawPath) :
    profileOf files saved path =
      unlessRefused
        (path.bind fun path => Params.profileRefusal? files (locateProfile files path saved.iccDir))
        ((path.map fun path =>
          Params.keptProfile files (locateProfile files path saved.iccDir)).getD "") := by
  cases path with
  | none => rfl
  | some path =>
    simp only [profileOf, Option.bind_some, Option.map_some, Option.getD_some]
    by_cases nothing : locateProfile files path saved.iccDir = []
    · rw [if_pos nothing, nothing]
      rfl
    · rw [if_neg nothing, Params.resolveExisting_eq nothing]
      rfl

end EngineTokens
