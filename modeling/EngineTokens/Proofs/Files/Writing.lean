import EngineTokens.Files.Change
import EngineTokens.Proofs.Files.Stepping

/-!
# A file that was written is read back

A file is written at the place to which the lookup of its path comes: a vacant one, or one where a
file stands. No lookup passes through such a place, so after the writing the same lookup goes the
same way and finds the new file (`walk_put`). Hence what was written is what is read
(`read_of_write`), links on the way or not.
-/

set_option autoImplicit false

namespace EngineTokens

/-- The place at which a file is written where the lookup of its path comes to this. -/
def Found.target? : Found → Option Place
  | .vacant place => some place
  | .entry place (.file _ _) => some place
  | .entry _ _ => none

namespace Files

variable {files : Files} {place other : Place}

/-! ## Places -/

/-- What is found at a place after an entry was put at one. -/
theorem lookup_put (entries : List (Place × Entry)) (place other : Place) (entry : Entry) :
    (entries.filter (fun (known, _) => known != place) ++ [(place, entry)]).lookup other =
      if other = place then some entry else entries.lookup other := by
  induction entries with
  | nil =>
    by_cases same : other = place
    · simp [same]
    · simp [List.lookup_cons, same, beq_false_of_ne same]
  | cons head entries ih =>
    obtain ⟨known, old⟩ := head
    by_cases replaced : known = place
    · subst replaced
      rw [List.filter_cons_of_neg (by simp), ih]
      by_cases same : other = known
      · simp [same]
      · simp [List.lookup_cons, same, beq_false_of_ne same]
    · rw [List.filter_cons_of_pos (by simpa using replaced), List.cons_append]
      by_cases here : other = known
      · subst here
        simp [replaced]
      · simp only [List.lookup_cons, beq_false_of_ne here, ih]

/-- After an entry was put at a place other than the root, it stands there, and elsewhere stands
what stood there. -/
theorem entry?_put (below : place ≠ []) (entry : Entry) (other : Place) :
    entry? (files.put place entry) other =
      if other = place then some entry else files.entry? other := by
  by_cases root : other = []
  · subst root
    rw [if_neg (Ne.symm below)]
    rfl
  · simp only [ entry?, if_neg root, put, lookup_put]

/-- Nothing or a file stands at a place. -/
def IsOpen (files : Files) (place : Place) : Prop :=
  ∀ entry, files.entry? place = some entry → ∃ contents executable, entry = .file contents executable

/-- A place at which nothing stands is open. -/
theorem isOpen_of_vacant (vacant : files.entry? place = none) : files.IsOpen place := by
  intro entry stands
  rw [vacant] at stands
  cases stands

/-- A place at which a file stands is open. -/
theorem isOpen_of_file {contents : List UInt8} {executable : Bool}
    (file : files.entry? place = some (.file contents executable)) : files.IsOpen place := by
  intro entry stands
  rw [file] at stands
  cases stands
  exact ⟨contents, executable, rfl⟩

/-- The root is not open. -/
theorem IsOpen.ne_root (free : files.IsOpen place) : place ≠ [] := by
  rintro rfl
  obtain ⟨_, _, directory⟩ := free .directory rfl
  cases directory

/-- What stands where something other than a file was found stays when a file is put at an open
place. -/
theorem entry?_put_of_isOpen (free : files.IsOpen place) {contents : List UInt8}
    {executable : Bool} {entry : Entry} (stands : files.entry? other = some entry)
    (solid : ∀ old mode, entry ≠ .file old mode) :
    entry? (files.put place (.file contents executable)) other = some entry := by
  have apart : other ≠ place := by
    rintro rfl
    obtain ⟨old, mode, file⟩ := free entry stands
    exact solid old mode file
  rw [entry?_put free.ne_root, if_neg apart, stands]

/-! ## Lookups -/

section Lookup

variable {follow : Bool} {found : Found} {contents : List UInt8} {executable : Bool}

/-- By induction on the steps: a step into a directory or over a link passes a place that is not
open, so it is the same after the writing, and the last step comes to the place itself. -/
theorem advance_put {enter enterAfter : Place → List RawName → Except Fault Found}
    (target : found.target? = some place)
    (entered : ∀ start steps, enter start steps = .ok found → files.IsOpen place ∧
      enterAfter start steps = .ok (.entry place (.file contents executable)))
    {start : Place} {steps : List RawName}
    (looked : files.advance follow enter start steps = .ok found) :
    files.IsOpen place ∧
      (files.put place (.file contents executable)).advance follow enterAfter start steps =
        .ok (.entry place (.file contents executable)) := by
  -- the file that is put at an open place is found there
  have written (free : files.IsOpen place) :
      entry? (files.put place (.file contents executable)) place =
        some (.file contents executable) := by
    rw [entry?_put free.ne_root, if_pos rfl]
  induction steps generalizing start with
  | nil =>
    simp only [advance, Except.ok.injEq] at looked
    subst looked
    cases target
  | cons name rest ih =>
    rw [advance_cons_iff] at looked ⊢
    cases looked with
    | stays dot goes =>
      obtain ⟨free, after⟩ := ih goes
      exact ⟨free, .stays dot after⟩
    | up dots goes =>
      obtain ⟨free, after⟩ := ih goes
      exact ⟨free, .up dots after⟩
    | down step stands goes =>
      obtain ⟨free, after⟩ := ih goes
      exact ⟨free, .down step (entry?_put_of_isOpen free stands (by simp)) after⟩
    | free step stands last comes =>
      subst comes
      cases target
      have free := isOpen_of_vacant stands
      exact ⟨free, .ends step (written free) last (by simp) (by simp) rfl⟩
    | @ends entry step stands last closed kept comes =>
      subst comes
      cases entry with
      | file =>
        cases target
        have free := isOpen_of_file stands
        exact ⟨free, .ends step (written free) last (by simp) (by simp) rfl⟩
      | directory | special | link => cases target
    | enters step stands followed named goes =>
      obtain ⟨free, after⟩ := entered _ _ goes
      exact ⟨free, .enters step (entry?_put_of_isOpen free stands (by simp)) followed named after⟩

/-- A lookup that comes to an open place finds the file that is put there. -/
theorem walk_put (contents : List UInt8) (executable : Bool) (target : found.target? = some place)
    {links : Nat} {start : Place} {steps : List RawName}
    (looked : files.walk follow links start steps = .ok found) :
    files.IsOpen place ∧
      (files.put place (.file contents executable)).walk follow links start steps =
        .ok (.entry place (.file contents executable)) := by
  induction links generalizing start steps with
  | zero => exact advance_put target (fun _ _ refused => by cases refused) looked
  | succ links ih => exact advance_put target (fun _ _ entered => ih entered) looked

end Lookup

/-! ## Writing -/

/-- What a file that was written has replaced. -/
theorem exists_of_write {written : Files} {path : RawPath} {contents : List UInt8}
    (writes : files.write path contents = .ok written) :
    ∃ found place executable, files.find true path = .ok found ∧ found.target? = some place ∧
      written = files.put place (.file contents executable) := by
  have looked : ∀ found, files.findToWrite path = .ok found → files.find true path = .ok found := by
    intro found ready
    unfold findToWrite at ready
    split at ready
    next => cases ready
    next => cases ready
    next =>
      split at ready
      next file => cases ready; exact file
      next => cases ready
      next => cases ready
      next => exact ready
  unfold write at writes
  split at writes
  next place old executable ready =>
    cases writes
    exact ⟨_, place, executable, looked _ ready, rfl, rfl⟩
  next => cases writes
  next place ready =>
    unfold create at writes
    split at writes
    next => cases writes
    next =>
    split at writes
    next =>
      cases writes
      exact ⟨_, place, false, looked _ ready, rfl, rfl⟩
    next => cases writes
  next => cases writes

/-- A path to which a file was written leads to a file with what was written. -/
theorem stat_of_write {written : Files} {path : RawPath} {contents : List UInt8}
    (writes : files.write path contents = .ok written) :
    ∃ place executable, written.stat path = .ok (place, .file contents executable) := by
  obtain ⟨found, place, executable, looked, target, rfl⟩ := exists_of_write writes
  refine ⟨place, executable, ?_⟩
  cases refused : refusal? path with
  | some fault => simp [find, refused] at looked
  | none =>
    simp only [find, refused] at looked
    have finds := (walk_put contents executable target looked).2
    have origin : (files.put place (.file contents executable)).origin path = files.origin path :=
      rfl
    simp only [stat, find, refused, origin, finds]

/-- What was written to a path is what is read from it. -/
theorem read_of_write {written : Files} {path : RawPath} {contents : List UInt8}
    (writes : files.write path contents = .ok written) : written.read path = .ok contents := by
  obtain ⟨place, executable, looked⟩ := stat_of_write writes
  simp only [read, looked]

/-- A path from which something is read exists. -/
theorem doesExist_of_read {path : RawPath} {contents : List UInt8}
    (reads : files.read path = .ok contents) : files.doesExist path = true := by
  unfold read at reads
  unfold doesExist
  split at reads
  next looked =>
    rw [looked]
    rfl
  all_goals cases reads

end Files

end EngineTokens
