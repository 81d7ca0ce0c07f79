import EngineTokens.Files.Tree

/-!
# One step of a lookup

All that a lookup can do with its next name (`Passes`), and that it does nothing else
(`advance_cons_iff`). Proofs about whole lookups are by induction on the names, with one case for
each of these.
-/

set_option autoImplicit false

namespace EngineTokens.Files

/-- A name that is looked up in a directory: no dots, and not too long. -/
def IsStep (name : RawName) : Prop :=
  name ≠ Path.dot ∧ name ≠ Path.dotDot ∧ name.length ≤ nameLimit

/-- A lookup that has come to a place passes the next name, with some left, and comes to what is
found. -/
inductive Passes (files : Files) (follow : Bool) (enter : Place → List RawName → Except Fault Found)
    (place : Place) (name : RawName) (rest : List RawName) (found : Found) : Prop
  /-- `.` stays where the lookup is. -/
  | stays (dot : name = Path.dot) (goes : files.advance follow enter place rest = .ok found)
  /-- `..` goes to the containing directory. -/
  | up (dots : name = Path.dotDot)
      (goes : files.advance follow enter place.dropLast rest = .ok found)
  | down (step : IsStep name) (stands : files.entry? (place ++ [name]) = some .directory)
      (goes : files.advance follow enter (place ++ [name]) rest = .ok found)
  /-- Where nothing stands, the name is the last. -/
  | free (step : IsStep name) (stands : files.entry? (place ++ [name]) = none) (last : rest = [])
      (comes : found = .vacant (place ++ [name]))
  /-- Neither is anything looked up in a file, in something special or in a link that is not
  followed. -/
  | ends {entry : Entry} (step : IsStep name) (stands : files.entry? (place ++ [name]) = some entry)
      (last : rest = []) (closed : entry ≠ .directory)
      (kept : ∀ target, entry = .link target → follow = false)
      (comes : found = .entry (place ++ [name]) entry)
  /-- A link that is followed leads elsewhere. -/
  | enters {target : RawPath} (step : IsStep name)
      (stands : files.entry? (place ++ [name]) = some (.link target))
      (followed : rest = [] → follow = true) (named : target ≠ [])
      (goes : enter (if Path.isAbsolute target then [] else place) (steps target ++ rest) =
        .ok found)

variable {files : Files} {follow : Bool} {enter : Place → List RawName → Except Fault Found}
  {place : Place} {name : RawName} {rest : List RawName} {found : Found}

/-- In a directory, what stands under the name decides how the lookup goes on. -/
theorem advance_of_isStep (step : IsStep name) :
    files.advance follow enter place (name :: rest) =
      match files.entry? (place ++ [name]) with
      | none => if rest = [] then .ok (.vacant (place ++ [name])) else .error .missing
      | some .directory => files.advance follow enter (place ++ [name]) rest
      | some (.file contents executable) =>
        if rest = [] then .ok (.entry (place ++ [name]) (.file contents executable))
        else .error .notDirectory
      | some .special =>
        if rest = [] then .ok (.entry (place ++ [name]) .special) else .error .notDirectory
      | some (.link target) =>
        if rest = [] && !follow then .ok (.entry (place ++ [name]) (.link target))
        else if target = [] then .error .missing
        else enter (if Path.isAbsolute target then [] else place) (steps target ++ rest) := by
  obtain ⟨dot, dots, short⟩ := step
  exact (if_neg dot).trans ((if_neg dots).trans (if_neg (Nat.not_lt.mpr short)))

/-- What comes of a step into a directory is one of the ways to pass a name. -/
theorem passes_of_advance (step : IsStep name)
    (looked : files.advance follow enter place (name :: rest) = .ok found) :
    Passes files follow enter place name rest found := by
  rw [advance_of_isStep step] at looked
  split at looked
  next stands =>
    split at looked
    next last => exact .free step stands last (Except.ok.inj looked).symm
    next => cases looked
  next stands => exact .down step stands looked
  next stands =>
    split at looked
    next last => exact .ends step stands last nofun nofun (Except.ok.inj looked).symm
    next => cases looked
  next stands =>
    split at looked
    next last => exact .ends step stands last nofun nofun (Except.ok.inj looked).symm
    next => cases looked
  next stands =>
    split at looked
    next kept =>
      simp only [Bool.and_eq_true, decide_eq_true_eq, Bool.not_eq_true'] at kept
      exact .ends step stands kept.1 nofun (fun _ _ => kept.2) (Except.ok.inj looked).symm
    next followed =>
    split at looked
    next => cases looked
    next named => exact .enters step stands (by simpa using followed) named looked

/-- A lookup finds what it does by passing its first name, and in no other way. -/
theorem advance_cons_iff :
    files.advance follow enter place (name :: rest) = .ok found ↔
      Passes files follow enter place name rest found := by
  constructor
  · intro looked
    by_cases dot : name = Path.dot
    · rw [advance, if_pos dot] at looked
      exact .stays dot looked
    by_cases dots : name = Path.dotDot
    · rw [advance, if_neg dot, if_pos dots] at looked
      exact .up dots looked
    by_cases short : name.length ≤ nameLimit
    · exact passes_of_advance ⟨dot, dots, short⟩ looked
    · rw [advance, if_neg dot, if_neg dots, if_pos (Nat.lt_of_not_le short)] at looked
      cases looked
  · intro passes
    cases passes with
    | stays dot goes => rw [advance, if_pos dot, goes]
    | up dots goes =>
      have plain : name ≠ Path.dot := by
        rw [dots]
        decide
      rw [advance, if_neg plain, if_pos dots, goes]
    | down step stands goes =>
      rw [advance_of_isStep step, stands]
      exact goes
    | free step stands last comes =>
      rw [advance_of_isStep step, stands, comes]
      exact if_pos last
    | @ends entry step stands last closed kept comes =>
      rw [advance_of_isStep step, stands, comes]
      cases entry with
      | directory => exact absurd rfl closed
      | file | special => exact if_pos last
      | link target => simp [last, kept target rfl]
    | enters step stands followed named goes =>
      have on : ¬ (decide (rest = []) && !follow) = true := by simpa using followed
      rw [advance_of_isStep step, stands]
      simp only [if_neg on, if_neg named, goes]

end EngineTokens.Files
