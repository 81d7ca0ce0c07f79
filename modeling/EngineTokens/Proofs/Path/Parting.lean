import EngineTokens.Proofs.Path.Segments
import EngineTokens.Proofs.Path.Spellings

/-!
# A path parted into directory and name

The name of a path is what stands behind its last slash. A path in its one spelling is parted into
its directory and its name without a loss: joined again by a slash, they spell the path
(`parted_of_canonical`). Where the directory is a root it has kept its slash, and the second one
that comes between is dropped again. Only a root has no name, and a root is its own directory.
-/

set_option autoImplicit false

namespace EngineTokens.Path

variable {path directory front name : String}

/-- A path has no directory exactly if it has no slash. -/
theorem directoryOf?_eq_none_iff : directoryOf? path = none ↔ '/' ∉ path.toList := by
  rw [directoryOf?, directory?, Option.map_eq_none_iff, Option.map_eq_none_iff]
  constructor
  · intro uncut slash
    obtain ⟨before, cut⟩ := exists_beforeLastSlash? slash
    rw [uncut] at cut
    cases cut
  · intro slashless
    cases cut : beforeLastSlash? path.toList with
    | none => rfl
    | some before =>
      obtain ⟨name, -, whole⟩ := beforeLastSlash?_eq_some cut
      rw [whole] at slashless
      simp at slashless

/-- The directory is what stands before the last slash, with that slash where it belongs to a root.
-/
theorem exists_directoryOf?_eq (slash : '/' ∈ path.toList) :
    ∃ front name, path = front ++ "/" ++ name ∧ '/' ∉ name.toList ∧
      directoryOf? path = some
        (if front = "" ∨ isDriveRoot (front ++ "/").toList = true then front ++ "/"
          else front) := by
  obtain ⟨before, cut⟩ := exists_beforeLastSlash? slash
  obtain ⟨last, slashless, whole⟩ := beforeLastSlash?_eq_some cut
  refine ⟨String.ofList before, String.ofList last, ?_, by simpa using slashless, ?_⟩
  · apply String.toList_injective
    simp [whole]
  · have root : (String.ofList before = "" ∨
        isDriveRoot (String.ofList before ++ "/").toList = true) ↔
        (before = [] ∨ isDriveRoot (before ++ ['/']) = true) := by
      simp
    rw [directoryOf?, directory?, cut, Option.map_some, Option.map_some, Option.some.injEq]
    by_cases kept : before = [] ∨ isDriveRoot (before ++ ['/']) = true
    · rw [if_pos kept, if_pos (root.mpr kept)]
      apply String.toList_injective
      simp
    · rw [if_neg kept, if_neg (mt root.mp kept)]

/-- Two slashes between texts are as good as one. -/
theorem canonicalize_slashes (front back : String) :
    canonicalize (front ++ "/" ++ "/" ++ back) = canonicalize (front ++ "/" ++ back) := by
  have run : IsRun "//" := ⟨by decide, by simp [isSeparator]⟩
  have both : front ++ "/" ++ "/" = front ++ "//" := by
    rw [String.append_assoc]
    rfl
  rw [both]
  exact canonicalize_run run front back

/-- A path in its one spelling ends with a slash exactly if it is a root. -/
theorem getLast?_eq_slash_iff (canonical : canonicalize path = path) :
    path.toList.getLast? = some '/' ↔ path = "/" ∨ isDriveRoot path.toList = true := by
  have closed := (isSpelling_canonicalize path).closed
  rwa [canonical] at closed

/-- A path ends with its last slash exactly if it has no name. -/
theorem getLast?_append_eq_slash_iff (slashless : '/' ∉ name.toList) :
    (front ++ "/" ++ name).toList.getLast? = some '/' ↔ name = "" := by
  rw [String.toList_append, ← String.toList_eq_nil_iff]
  cases chars : name.toList.getLast? with
  | none =>
    have nameless := List.getLast?_eq_none_iff.mp chars
    simp [nameless]
  | some c =>
    obtain ⟨start, whole⟩ := List.getLast?_eq_some_iff.mp chars
    have apart : c ≠ '/' := by
      rintro rfl
      exact slashless (List.mem_of_getLast? chars)
    rw [whole, ← List.append_assoc, List.getLast?_concat]
    simp [apart]

/-- A path is parted into a directory and a name. -/
structure IsParted (path directory name : String) : Prop where
  /-- The name is what stands behind the last slash. -/
  last : ∃ front, path = front ++ "/" ++ name ∧ '/' ∉ name.toList
  filled : directory ≠ ""
  canonical : canonicalize directory = directory
  rejoined : canonicalize (directory ++ "/" ++ name) = path
  nameless : name = "" ↔ path = "/" ∨ isDriveRoot path.toList = true
  root : name = "" → directory = path

/-- A path in its one spelling has no directory exactly if it has no slash, and is parted into its
directory and its name otherwise. -/
theorem parted_of_canonical (canonical : canonicalize path = path) :
    (directoryOf? path = none ↔ '/' ∉ path.toList) ∧
      ('/' ∈ path.toList →
        ∃ directory name, directoryOf? path = some directory ∧ IsParted path directory name) := by
  refine ⟨directoryOf?_eq_none_iff, fun slash => ?_⟩
  obtain ⟨front, name, whole, slashless, above⟩ := exists_directoryOf?_eq slash
  obtain ⟨same, filled⟩ := canonicalize_directoryOf? canonical above
  have ends : name = "" ↔ path = "/" ∨ isDriveRoot path.toList = true := by
    rw [← getLast?_eq_slash_iff canonical, whole]
    exact (getLast?_append_eq_slash_iff slashless).symm
  refine ⟨_, name, above, ⟨front, whole, slashless⟩, filled, same, ?_, ends, ?_⟩
  · split
    next =>
      rw [canonicalize_slashes, ← whole]
      exact canonical
    next =>
      rw [← whole]
      exact canonical
  · rintro rfl
    have closed : path = front ++ "/" := by rw [whole, String.append_empty]
    refine (if_pos ?_).trans closed.symm
    rcases ends.mp rfl with rooted | drive
    · left
      apply String.toList_injective
      have chars := congrArg String.toList (closed.symm.trans rooted)
      simpa using chars
    · right
      rwa [← closed]

/-- A profile beside the root of a drive, and that root itself. -/
theorem parted_of_canonical_drive :
    canonicalize "C:/é.icc" = "C:/é.icc" ∧ canonicalize "C:/" = "C:/" ∧
    (∃ name, IsParted "C:/é.icc" "C:/" name) ∧ ∃ name, IsParted "C:/" "C:/" name ∧ name = "" := by
  have spelled : canonicalize "C:/é.icc" = "C:/é.icc" ∧ canonicalize "C:/" = "C:/" := by decide
  have cut : directoryOf? "C:/é.icc" = some "C:/" ∧ directoryOf? "C:/" = some "C:/" := by decide
  obtain ⟨directory, name, above, parted⟩ := (parted_of_canonical spelled.1).2 (by decide)
  obtain ⟨root, none, same, whole⟩ := (parted_of_canonical spelled.2).2 (by decide)
  obtain rfl := Option.some.inj (cut.1.symm.trans above)
  obtain rfl := Option.some.inj (cut.2.symm.trans same)
  exact ⟨spelled.1, spelled.2, ⟨name, parted⟩, none, whole, whole.nameless.mpr (.inr (by decide))⟩

end EngineTokens.Path
