import EngineTokens.Proofs.Path.Canonical

/-!
# One path spelled in many ways

How the separators of a path are written does not matter. Any run of slashes and backslashes can
stand for a slash (`canonicalize_run`). At the end of a path such a run means nothing
(`canonicalize_trailing`), unless it makes a root of the path: the empty path becomes `/`, and `C:`
becomes `C:/`.
-/

set_option autoImplicit false

namespace EngineTokens.Path

/-- One or more separators. -/
structure IsRun (run : String) : Prop where
  nonempty : run ≠ ""
  separators : ∀ c ∈ run.toList, isSeparator c = true

/-- What follows a text is collapsed by what the text ends with. -/
theorem collapse_append (inRun : Bool) (front back : List Char) :
    collapse inRun (front ++ back) =
      collapse inRun front ++ collapse (front.foldl (fun _ c => isSeparator c) inRun) back := by
  induction front generalizing inRun with
  | nil => rfl
  | cons c front ih =>
    cases separator : isSeparator c with
    | true => cases inRun <;> simp [collapse, separator, ih]
    | false => simp [collapse, separator, ih]

/-- Within a run, further separators are dropped. -/
theorem collapse_separators {run : List Char} (separators : ∀ c ∈ run, isSeparator c = true)
    (rest : List Char) : collapse true (run ++ rest) = collapse true rest := by
  induction run with
  | nil => rfl
  | cons c run ih =>
    have first := separators c List.mem_cons_self
    have others := ih fun other mem => separators other (List.mem_cons_of_mem c mem)
    simp [collapse, first, others]

/-- A run of separators is collapsed as a slash is. -/
theorem collapse_run {run : List Char} (filled : run ≠ [])
    (separators : ∀ c ∈ run, isSeparator c = true) (front back : List Char) :
    collapse false (front ++ run ++ back) = collapse false (front ++ '/' :: back) := by
  obtain ⟨c, run, rfl⟩ := List.exists_cons_of_ne_nil filled
  have first := separators c List.mem_cons_self
  have others := collapse_separators
    (fun other mem => separators other (List.mem_cons_of_mem c mem)) back
  have slash : isSeparator '/' = true := rfl
  rw [List.append_assoc, List.cons_append, collapse_append, collapse_append]
  simp only [collapse, first, slash, others, if_true]

/-- Paths that collapse to the same are spelled the same. -/
theorem spell_congr {path other : List Char} (same : collapse false path = collapse false other) :
    spell path = spell other := by
  rw [spell, spell, same]

/-- A run of separators can stand for a slash. -/
theorem canonicalize_run {run : String} (isRun : IsRun run) (front back : String) :
    canonicalize (front ++ run ++ back) = canonicalize (front ++ "/" ++ back) := by
  have filled : run.toList ≠ [] := by simpa using isRun.nonempty
  have collapsed := collapse_run filled isRun.separators front.toList back.toList
  simp only [canonicalize, String.toList_append]
  rw [spell_congr collapsed]
  simp

/-- A text that has no slash once it is collapsed had nothing to be collapsed. -/
theorem collapse_of_not_mem {path : List Char} (slashless : '/' ∉ collapse false path) :
    collapse false path = path := by
  induction path with
  | nil => rfl
  | cons c rest ih =>
    cases separator : isSeparator c with
    | true => simp [collapse, separator] at slashless
    | false =>
      simp only [collapse, separator, Bool.false_eq_true, if_false, List.mem_cons, not_or]
        at slashless ⊢
      rw [ih slashless.2]

/-- Only a drive without a slash becomes the root of a drive by one. -/
theorem isDriveRoot_of_collapse {path : List Char}
    (root : isDriveRoot (collapse false path ++ ['/']) = true) :
    isDriveRoot (path ++ ['/']) = true := by
  have slashless : '/' ∉ collapse false path := by
    generalize collapse false path = out at root
    unfold isDriveRoot at root
    split at root
    next letter whole =>
      obtain rfl : out = [letter, ':'] := by simpa using congrArg List.dropLast whole
      intro mem
      obtain rfl : letter = '/' := by simpa [eq_comm] using mem
      cases root
    next => cases root
  rwa [collapse_of_not_mem slashless] at root

/-- A slash behind a character of a name is dropped, unless it makes a root. -/
theorem spell_name_slash {front : List Char} {c : Char} (name : isSeparator c = false)
    (rootless : isDriveRoot (front ++ [c] ++ ['/']) = false) :
    spell (front ++ [c] ++ ['/']) = spell (front ++ [c]) := by
  have slash : isSeparator '/' = true := rfl
  have last : collapse false (front ++ [c]) = collapse false front ++ [c] := by
    simp [collapse_append, collapse, name]
  have whole : collapse false (front ++ [c] ++ ['/']) = collapse false (front ++ [c]) ++ ['/'] := by
    simp [collapse_append, collapse, name, slash]
  have plain : isDriveRoot (collapse false (front ++ [c]) ++ ['/']) = false := by
    rw [← Bool.not_eq_true]
    intro root
    rw [isDriveRoot_of_collapse root] at rootless
    cases rootless
  have apart : c ≠ '/' := by
    rintro rfl
    cases name
  have hangs : Overhangs (collapse false (front ++ [c]) ++ ['/']) := by
    unfold Overhangs
    rw [plain, last]
    simp
  have trimmed : ¬ Overhangs (collapse false (front ++ [c])) := by
    rw [last]
    simp [Overhangs, apart]
  have cut : spell (front ++ [c] ++ ['/']) = (collapse false (front ++ [c]) ++ ['/']).dropLast := by
    rw [spell, whole]
    exact if_pos hangs
  have kept : spell (front ++ [c]) = collapse false (front ++ [c]) := if_neg trimmed
  rw [cut, kept, List.dropLast_concat]

/-- A slash at the end is dropped, unless it makes a root. -/
theorem spell_slash {path : List Char} (filled : path ≠ [])
    (rootless : isDriveRoot (path ++ ['/']) = false) : spell (path ++ ['/']) = spell path := by
  obtain ⟨front, c, rfl⟩ : ∃ front c, path = front ++ [c] :=
    ⟨_, _, (List.dropLast_concat_getLast filled).symm⟩
  cases separator : isSeparator c with
  | true =>
    -- the slash prolongs a run
    have slash : isSeparator '/' = true := rfl
    have run : ∀ other ∈ [c, '/'], isSeparator other = true := by simp [separator, slash]
    have longer := collapse_run (List.cons_ne_nil c ['/']) run front []
    have shorter := collapse_run (List.cons_ne_nil c []) (by simpa using separator) front []
    refine spell_congr ?_
    simpa using longer.trans shorter.symm
  | false => exact spell_name_slash separator rootless

/-- Separators at the end mean nothing, unless they make a root. -/
theorem canonicalize_trailing {path run : String} (isRun : IsRun run) (filled : path ≠ "")
    (rootless : isDriveRoot (path.toList ++ ['/']) = false) :
    canonicalize (path ++ run) = canonicalize path := by
  have slash := canonicalize_run isRun path ""
  simp only [String.append_empty] at slash
  have chars : path.toList ≠ [] := by simpa using filled
  rw [slash, canonicalize, String.toList_append]
  exact congrArg String.ofList (spell_slash chars rootless)

/-- A directory spelled with backslashes and a slash at its end, and a drive that is not its root. -/
example : canonicalize "\\icc\\/sub//" = canonicalize "/icc/sub" ∧
    canonicalize "C:\\" ≠ canonicalize "C:" := by
  decide

end EngineTokens.Path
