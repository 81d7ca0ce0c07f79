import EngineTokens.Proofs.Files.Resolving
import EngineTokens.Proofs.Files.Stepping
import EngineTokens.Proofs.Path.Containing

/-!
# The directory of what is found

A lookup that goes on has come to a directory (`walk_of_append`): whatever the links on the way, the
steps so far are a lookup of their own that ends there, and those that are left start from there.
Hence if a path from the root leads to something, what stands before its last slash leads to a
directory (`isDirectory_directoryOf?`).
-/

set_option autoImplicit false

namespace EngineTokens.Files

variable {files : Files}

section Lookup

variable {found : Found} {back : List RawName}

/-- By induction on the steps in front. The steps of a link's target come before those that are
left, so what is behind stays behind. -/
theorem advance_of_append {enter : Place → List RawName → Except Fault Found} {GoesOn : Place → Prop}
    (more : back ≠ [])
    (reached : ∀ place, files.advance true enter place back = .ok found → GoesOn place)
    (entered : ∀ start front, enter start (front ++ back) = .ok found →
      ∃ place, enter start front = .ok (.entry place .directory) ∧ GoesOn place)
    {start : Place} {front : List RawName}
    (looked : files.advance true enter start (front ++ back) = .ok found) :
    ∃ place, files.advance true enter start front = .ok (.entry place .directory) ∧
      GoesOn place := by
  induction front generalizing start with
  | nil => exact ⟨start, rfl, reached start looked⟩
  | cons name rest ih =>
    have further : rest ++ back ≠ [] := by simp [more]
    rw [List.cons_append, advance_cons_iff] at looked
    simp only [advance_cons_iff]
    cases looked with
    | stays dot goes =>
      obtain ⟨place, comes, goesOn⟩ := ih goes
      exact ⟨place, .stays dot comes, goesOn⟩
    | up dots goes =>
      obtain ⟨place, comes, goesOn⟩ := ih goes
      exact ⟨place, .up dots comes, goesOn⟩
    | down step stands goes =>
      obtain ⟨place, comes, goesOn⟩ := ih goes
      exact ⟨place, .down step stands comes, goesOn⟩
    | free _ _ last | ends _ _ last => exact absurd last further
    | enters step stands _ named goes =>
      rw [← List.append_assoc] at goes
      obtain ⟨place, comes, goesOn⟩ := entered _ _ goes
      exact ⟨place, .enters step stands (fun _ => rfl) named comes, goesOn⟩

/-- A lookup that goes on has come to a directory, and goes on from there. -/
theorem walk_of_append (more : back ≠ []) {links : Nat} {start : Place} {front : List RawName}
    (looked : files.walk true links start (front ++ back) = .ok found) :
    ∃ place, files.walk true links start front = .ok (.entry place .directory) ∧
      ∃ left, files.walk true left place back = .ok found := by
  induction links generalizing start front with
  | zero =>
    refine advance_of_append more (fun place further => ⟨0, further⟩) ?_ looked
    rintro start front ⟨⟩
  | succ links ih =>
    refine advance_of_append more (fun place further => ⟨links + 1, further⟩) ?_ looked
    intro start front entered
    exact ih entered

end Lookup

variable {path : RawPath} {place : Place}

/-- A path leads to an entry if it is accepted and its lookup ends there. -/
theorem stat_eq_ok_iff {entry : Entry} :
    files.stat path = .ok (place, entry) ↔ refusal? path = none ∧
      files.walk true linkLimit (files.origin path) (steps path) = .ok (.entry place entry) := by
  unfold stat find
  cases refusal? path with
  | some fault => simp
  | none =>
    cases files.walk true linkLimit (files.origin path) (steps path) with
    | error fault => simp
    | ok found => cases found <;> simp

/-- A path that exists leads to an entry. -/
theorem doesExist_iff :
    files.doesExist path = true ↔ ∃ place entry, files.stat path = .ok (place, entry) := by
  unfold doesExist
  cases files.stat path with
  | error fault => simp [Except.isOk, Except.toBool]
  | ok found => exact iff_of_true rfl ⟨found.1, found.2, rfl⟩

/-- A directory is a path that leads to one. -/
theorem isDirectory_iff :
    files.isDirectory path = true ↔ ∃ place, files.stat path = .ok (place, .directory) := by
  unfold isDirectory
  split
  next place found => simp [found]
  next other => simpa using other

/-- The root is a directory. -/
theorem isDirectory_slash (files : Files) : files.isDirectory "/" = true :=
  isDirectory_iff.mpr ⟨[], stat_eq_ok_iff.mpr ⟨by decide, by rfl⟩⟩

/-! ## What stands before the last slash -/

/-- A path is accepted if it holds no zero byte, is not empty and is not too long. -/
theorem refusal?_eq_none_iff :
    refusal? path = none ↔ 0 ∉ path ∧ path ≠ [] ∧ path.length ≤ pathLimit := by
  unfold refusal?
  by_cases zero : 0 ∈ path
  · simp [zero]
  · by_cases empty : path = []
    · simp [empty]
    · simp [zero, empty]

/-- The beginning of an accepted path is accepted if it is not empty. -/
theorem refusal?_of_append {back : RawPath} (filled : path ≠ [])
    (accepted : refusal? (path ++ back) = none) : refusal? path = none := by
  obtain ⟨zero, -, short⟩ := refusal?_eq_none_iff.mp accepted
  rw [List.mem_append, not_or] at zero
  rw [List.length_append] at short
  exact refusal?_eq_none_iff.mpr ⟨zero.1, filled, by omega⟩

/-- If a path leads to something, its directory is one. -/
theorem isDirectory_directoryOf? {path directory : String} (absolute : Path.isAbsolute path = true)
    (canonical : Path.canonicalize path = path) (above : Path.directoryOf? path = some directory)
    (found : files.doesExist path = true) : files.isDirectory directory = true := by
  have start := Path.isAbsolute_directoryOf? absolute above
  obtain ⟨same, named⟩ := Path.canonicalize_directoryOf? canonical above
  by_cases ends : Path.endsWithSlash directory = true
  · rw [Path.eq_slash start same ends]
    exact isDirectory_slash files
  · obtain ⟨place, entry, stands⟩ := doesExist_iff.mp found
    obtain ⟨accepted, looked⟩ := stat_eq_ok_iff.mp stands
    obtain ⟨back, whole⟩ := Path.eq_append_of_directoryOf? above
    obtain ⟨name, parts, more⟩ := Path.components_directoryOf? above
    have steps_eq : steps path = steps directory ++
        (Path.components name ++ if Path.endsWithSlash path then [Path.dot] else []) := by
      rw [steps, steps, parts, if_neg ends, List.append_nil, List.append_assoc]
    have further :
        Path.components name ++ (if Path.endsWithSlash path then [Path.dot] else []) ≠ [] := by
      rcases more with name | slash
      · simp [name]
      · simp [slash]
    rw [origin, if_pos absolute, steps_eq] at looked
    obtain ⟨place, reached, -⟩ := walk_of_append further looked
    have filled : Path.ofText directory ≠ [] := by simpa using named
    rw [whole, Path.ofText_append] at accepted
    refine isDirectory_iff.mpr ⟨place, stat_eq_ok_iff.mpr ⟨refusal?_of_append filled accepted, ?_⟩⟩
    rw [origin, if_pos start, reached]

end EngineTokens.Files
