import EngineTokens.Proofs.Path.Names

/-!
# The directory of a path

A path in its one spelling is cut at its last slash, and what stands before it is in its one
spelling again (`canonicalize_directoryOf?`): only a root keeps the slash, and no other slash can
stand before the last one. A path from the root always has a directory (`exists_directoryOf?`). Its
directory is the place that its components lead to without the last one (`components_directoryOf?`).
-/

set_option autoImplicit false

namespace EngineTokens.Path

/-- Something stands before the last slash if there is a slash. -/
theorem exists_beforeLastSlash? {path : List Char} (slash : '/' ∈ path) :
    ∃ before, beforeLastSlash? path = some before := by
  induction path with
  | nil => cases slash
  | cons c rest ih =>
    rw [beforeLastSlash?]
    cases later : beforeLastSlash? rest with
    | some front => exact ⟨_, rfl⟩
    | none =>
      have last : '/' ∉ rest := by
        intro mem
        obtain ⟨before, found⟩ := ih mem
        rw [later] at found
        cases found
      have first : c = '/' := ((List.mem_cons.mp slash).resolve_right last).symm
      exact ⟨[], by simp [first]⟩

/-- A path is what stands before its last slash, that slash, and a name without a slash. -/
theorem beforeLastSlash?_eq_some {path before : List Char}
    (cut : beforeLastSlash? path = some before) :
    ∃ name, '/' ∉ name ∧ path = before ++ '/' :: name := by
  induction path generalizing before with
  | nil => cases cut
  | cons c rest ih =>
    rw [beforeLastSlash?] at cut
    cases later : beforeLastSlash? rest with
    | some front =>
      simp only [later, Option.some.injEq] at cut
      subst cut
      obtain ⟨name, slashless, whole⟩ := ih later
      exact ⟨name, slashless, by rw [whole, List.cons_append]⟩
    | none =>
      simp only [later] at cut
      split at cut
      next slash =>
        cases cut
        refine ⟨rest, fun mem => ?_, by rw [slash, List.nil_append]⟩
        obtain ⟨before, found⟩ := exists_beforeLastSlash? mem
        rw [later] at found
        cases found
      next => cases cut

/-- What stands before the last slash of a path in its one spelling is in its one spelling. -/
theorem spell_directory? {path directory : List Char} (canonical : spell path = path)
    (above : directory? path = some directory) : spell directory = directory ∧ directory ≠ [] := by
  obtain ⟨before, cut, kept⟩ := Option.map_eq_some_iff.mp above
  obtain ⟨name, -, whole⟩ := beforeLastSlash?_eq_some cut
  have collapsed : Collapsed false (before ++ ['/'] ++ name) := by
    have spelled := collapsed_spell path
    rw [canonical, whole] at spelled
    simpa using spelled
  have withSlash : Collapsed false (before ++ ['/']) := collapsed.of_append
  by_cases root : before = [] ∨ isDriveRoot (before ++ ['/']) = true
  · rw [if_pos root] at kept
    subst kept
    refine ⟨spell_of_collapsed withSlash ?_, by simp⟩
    rcases root with rfl | drive
    · simp [Overhangs]
    · simp [Overhangs, drive]
  · rw [if_neg root] at kept
    subst kept
    rw [not_or] at root
    refine ⟨spell_of_collapsed withSlash.of_append ?_, root.1⟩
    -- a slash at the end would stand beside the one that was cut off
    intro hangs
    simp only [Overhangs, Bool.and_eq_true, beq_iff_eq] at hangs
    obtain ⟨front, ends⟩ := List.getLast?_eq_some_iff.mp hangs.1.2
    rw [ends, List.append_assoc] at withSlash
    exact withSlash.not_slashes

/-- The directory of a path in its one spelling is in its one spelling and not empty. -/
theorem canonicalize_directoryOf? {path directory : String} (canonical : canonicalize path = path)
    (above : directoryOf? path = some directory) :
    canonicalize directory = directory ∧ directory ≠ "" := by
  obtain ⟨chars, found, rfl⟩ := Option.map_eq_some_iff.mp above
  have spelled : spell path.toList = path.toList := by
    have same := congrArg String.toList canonical
    rwa [canonicalize, String.toList_ofList] at same
  obtain ⟨same, named⟩ := spell_directory? spelled found
  constructor
  · rw [canonicalize, String.toList_ofList, same]
  · simpa using named

/-- An absolute path has a directory. -/
theorem exists_directoryOf? {path : String} (absolute : isAbsolute path = true) :
    ∃ directory, directoryOf? path = some directory := by
  have slash : '/' ∈ path.toList := by
    obtain ⟨rest, starts⟩ := isAbsolute_iff.mp absolute
    simp [starts]
  obtain ⟨before, cut⟩ := exists_beforeLastSlash? slash
  rw [directoryOf?, directory?, cut]
  exact ⟨_, rfl⟩

/-- A path goes on from its directory. -/
theorem eq_append_of_directoryOf? {path directory : String}
    (above : directoryOf? path = some directory) : ∃ back, path = directory ++ back := by
  obtain ⟨chars, found, rfl⟩ := Option.map_eq_some_iff.mp above
  obtain ⟨before, cut, rfl⟩ := Option.map_eq_some_iff.mp found
  obtain ⟨name, -, whole⟩ := beforeLastSlash?_eq_some cut
  split
  next =>
    refine ⟨String.ofList name, String.toList_injective ?_⟩
    simp [whole]
  next =>
    refine ⟨String.ofList ('/' :: name), String.toList_injective ?_⟩
    simp [whole]

/-! ## Components -/

/-- A path that is cut at a slash has the pieces of both parts. -/
theorem piecesFrom_append_slash (piece : RawName) (front back : RawPath) :
    piecesFrom piece (front ++ slash :: back) = piecesFrom piece front ++ piecesFrom [] back := by
  induction front generalizing piece with
  | nil =>
    rw [List.nil_append, piecesFrom_slash, piecesFrom]
    rfl
  | cons b front ih =>
    by_cases cut : b = slash
    · rw [cut, List.cons_append, piecesFrom_slash, piecesFrom_slash, ih, List.cons_append]
    · rw [List.cons_append, piecesFrom_cons cut, piecesFrom_cons cut, ih]

/-- A slash only separates. -/
theorem components_slash (front back : RawPath) :
    components (front ++ slash :: back) = components front ++ components back := by
  rw [components, pieces, piecesFrom_append_slash, List.filter_append]
  rfl

/-- Bytes without a slash are one component. -/
theorem components_of_slashless {name : RawName} (slashless : slash ∉ name) (filled : name ≠ []) :
    components name = [name] := by
  have whole := piecesFrom_append slashless [] []
  rw [List.append_nil] at whole
  rw [components, pieces, whole]
  simp [piecesFrom, filled]

/-- A path goes on behind its directory: with one more component, or with the slash at its end. -/
theorem components_directoryOf? {path directory : String}
    (above : directoryOf? path = some directory) :
    ∃ name, components path = components directory ++ components name ∧
      (components name ≠ [] ∨ endsWithSlash path = true) := by
  obtain ⟨chars, found, rfl⟩ := Option.map_eq_some_iff.mp above
  obtain ⟨before, cut, kept⟩ := Option.map_eq_some_iff.mp found
  obtain ⟨name, slashless, whole⟩ := beforeLastSlash?_eq_some cut
  have path_eq : path = String.ofList before ++ "/" ++ String.ofList name := by
    apply String.toList_injective
    simp [whole]
  have bytes : ofText path =
      ofText (String.ofList before) ++ slash :: ofText (String.ofList name) := by
    rw [path_eq, ofText_append, ofText_append, List.append_assoc]
    rfl
  have same : components (String.ofList chars) = components (String.ofList before) := by
    split at kept
    next =>
      have withSlash :
          ofText (String.ofList chars) = ofText (String.ofList before) ++ slash :: [] := by
        rw [← kept, String.ofList_append, ofText_append]
        rfl
      rw [withSlash, components_slash]
      exact List.append_nil _
    next => rw [kept]
  refine ⟨String.ofList name, by rw [bytes, components_slash, same], ?_⟩
  by_cases filled : name = []
  · right
    rw [endsWithSlash_ofText, path_eq, filled]
    simp
  · left
    have single : components (String.ofList name) = [ofText (String.ofList name)] :=
      components_of_slashless (by simpa [slash_mem_ofText_iff] using slashless)
        (by simpa using filled)
    rw [single]
    exact List.cons_ne_nil _ _

/-! ## Paths from the root -/

/-- The directory of an absolute path is absolute. -/
theorem isAbsolute_directoryOf? {path directory : String} (absolute : isAbsolute path = true)
    (above : directoryOf? path = some directory) : isAbsolute directory = true := by
  obtain ⟨chars, found, rfl⟩ := Option.map_eq_some_iff.mp above
  obtain ⟨before, cut, kept⟩ := Option.map_eq_some_iff.mp found
  obtain ⟨name, -, whole⟩ := beforeLastSlash?_eq_some cut
  obtain ⟨rest, starts⟩ := isAbsolute_iff.mp absolute
  rw [isAbsolute_iff, String.toList_ofList, ← kept]
  cases before with
  | nil => exact ⟨[], rfl⟩
  | cons c before =>
    obtain rfl : c = '/' := by
      rw [whole] at starts
      exact (List.cons.inj starts).1
    split
    next => exact ⟨before ++ ['/'], rfl⟩
    next => exact ⟨before, rfl⟩

/-- What starts with a slash is not the root of a drive. -/
theorem not_isDriveRoot (rest : List Char) : isDriveRoot ('/' :: rest) = false := by
  unfold isDriveRoot
  split
  next letter drive =>
    obtain ⟨rfl, -⟩ := List.cons.inj drive
    decide
  next => rfl

/-- From the root, only the root itself keeps a slash at its end. -/
theorem eq_slash {path : String} (absolute : isAbsolute path = true)
    (canonical : canonicalize path = path) (ends : endsWithSlash path = true) : path = "/" := by
  obtain ⟨rest, starts⟩ := isAbsolute_iff.mp absolute
  have trimmed := not_overhangs_spell path.toList
  rw [← String.toList_ofList (l := spell path.toList), ← canonicalize, canonical] at trimmed
  rw [endsWithSlash_ofText] at ends
  rw [Overhangs, ends, starts, not_isDriveRoot] at trimmed
  apply String.toList_injective
  have only : rest = [] := by simpa using trimmed
  rw [starts, only]
  rfl

/-- A profile beside the root of a drive, and one below a directory. -/
example : directoryOf? "C:/p.icc" = some "C:/" ∧ directoryOf? "/icc/p.icc" = some "/icc" := by
  decide

end EngineTokens.Path
