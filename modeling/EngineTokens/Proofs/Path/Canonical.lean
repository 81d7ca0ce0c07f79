import EngineTokens.Path.Canonical
import EngineTokens.Proofs.Path.Raw

/-!
# The one spelling is reached at once

Spelling a path a second time changes nothing (`canonicalize_canonicalize`), and a path from the
root stays one. A text in which every separator is a single slash is left alone by the collapsing of
separators, and taking a slash from its end leaves no other slash there.
-/

set_option autoImplicit false

namespace EngineTokens.Path

/-- Every separator is a slash and no two stand together; `inRun` tells whether the character before
was a separator. -/
def Collapsed (inRun : Bool) : List Char → Prop
  | [] => True
  | c :: rest =>
    if isSeparator c then c = '/' ∧ inRun = false ∧ Collapsed true rest else Collapsed false rest

/-- Collapsing leaves every separator as a single slash. -/
theorem collapsed_collapse (inRun : Bool) (path : List Char) :
    Collapsed inRun (collapse inRun path) := by
  induction path generalizing inRun with
  | nil => trivial
  | cons c rest ih =>
    rw [collapse]
    split
    next separator =>
      cases inRun with
      | true => exact ih true
      | false => exact ⟨rfl, rfl, ih true⟩
    next plain =>
      rw [Collapsed, if_neg plain]
      exact ih false

/-- A text whose separators are single slashes is not changed by collapsing. -/
theorem collapse_of_collapsed {inRun : Bool} {path : List Char} (collapsed : Collapsed inRun path) :
    collapse inRun path = path := by
  induction path generalizing inRun with
  | nil => rfl
  | cons c rest ih =>
    rw [Collapsed] at collapsed
    rw [collapse]
    split at collapsed
    next separator =>
      obtain ⟨rfl, rfl, further⟩ := collapsed
      rw [if_pos separator, ih further]
      rfl
    next plain => rw [if_neg plain, ih collapsed]

/-- The beginning of a text whose separators are single slashes is one as well. -/
theorem Collapsed.of_append {inRun : Bool} {front back : List Char}
    (collapsed : Collapsed inRun (front ++ back)) : Collapsed inRun front := by
  induction front generalizing inRun with
  | nil => trivial
  | cons c front ih =>
    rw [List.cons_append, Collapsed] at collapsed
    rw [Collapsed]
    split at collapsed
    next separator =>
      rw [if_pos separator]
      exact ⟨collapsed.1, collapsed.2.1, ih collapsed.2.2⟩
    next plain =>
      rw [if_neg plain]
      exact ih collapsed

/-- A text in which each separator is a single slash has no backslash. -/
theorem Collapsed.straight {inRun : Bool} {path : List Char} (collapsed : Collapsed inRun path) :
    '\\' ∉ path := by
  induction path generalizing inRun with
  | nil => exact List.not_mem_nil
  | cons c rest ih =>
    rw [Collapsed] at collapsed
    rw [List.mem_cons, not_or]
    split at collapsed
    next =>
      obtain ⟨rfl, -, further⟩ := collapsed
      exact ⟨by decide, ih further⟩
    next name =>
      refine ⟨?_, ih collapsed⟩
      rintro rfl
      exact name rfl

/-- Before a slash at the end stands no other slash. -/
theorem Collapsed.not_slashes {inRun : Bool} {front : List Char} :
    ¬ Collapsed inRun (front ++ ['/', '/']) := by
  induction front generalizing inRun with
  | nil => simp [Collapsed, isSeparator]
  | cons c front ih =>
    rw [List.cons_append, Collapsed]
    split
    next => exact fun collapsed => ih collapsed.2.2
    next => exact ih

/-- A collapsed path without its slash at the end has no slash at the end. -/
theorem Collapsed.getLast?_dropLast {inRun : Bool} {path : List Char}
    (collapsed : Collapsed inRun path) (slash : path.getLast? = some '/') :
    path.dropLast.getLast? ≠ some '/' := by
  intro other
  obtain ⟨front, rfl⟩ := List.getLast?_eq_some_iff.mp slash
  rw [List.dropLast_concat] at other
  obtain ⟨front, rfl⟩ := List.getLast?_eq_some_iff.mp other
  rw [List.append_assoc] at collapsed
  exact collapsed.not_slashes

/-- A slash stands at the end of a path, and the path is neither a slash alone nor the root of a
drive. -/
def Overhangs (path : List Char) : Prop :=
  (1 < path.length && path.getLast? == some '/' && !isDriveRoot path) = true

/-- A text is spelled as it is if its separators are single slashes and none hangs over at the end. -/
theorem spell_of_collapsed {path : List Char} (collapsed : Collapsed false path)
    (trimmed : ¬ Overhangs path) : spell path = path := by
  rw [spell, collapse_of_collapsed collapsed]
  exact if_neg trimmed

/-- In the one spelling, every separator is a single slash. -/
theorem collapsed_spell (path : List Char) : Collapsed false (spell path) := by
  have collapsed := collapsed_collapse false path
  by_cases cut : Overhangs (collapse false path)
  · have spelled : spell path = (collapse false path).dropLast := if_pos cut
    simp only [Overhangs, Bool.and_eq_true, beq_iff_eq] at cut
    obtain ⟨front, whole⟩ := List.getLast?_eq_some_iff.mp cut.1.2
    rw [spelled, whole, List.dropLast_concat]
    rw [whole] at collapsed
    exact collapsed.of_append
  · have spelled : spell path = collapse false path := if_neg cut
    rw [spelled]
    exact collapsed

/-- In the one spelling, no slash hangs over at the end. -/
theorem not_overhangs_spell (path : List Char) : ¬ Overhangs (spell path) := by
  have collapsed := collapsed_collapse false path
  by_cases cut : Overhangs (collapse false path)
  · have spelled : spell path = (collapse false path).dropLast := if_pos cut
    simp only [Overhangs, Bool.and_eq_true, beq_iff_eq] at cut
    rw [spelled]
    simp [Overhangs, collapsed.getLast?_dropLast cut.1.2]
  · have spelled : spell path = collapse false path := if_neg cut
    rw [spelled]
    exact cut

/-- Spelling the characters of a path a second time changes nothing. -/
theorem spell_spell (path : List Char) : spell (spell path) = spell path :=
  spell_of_collapsed (collapsed_spell path) (not_overhangs_spell path)

/-- Spelling a path a second time changes nothing. -/
theorem canonicalize_canonicalize (path : String) :
    canonicalize (canonicalize path) = canonicalize path := by
  simp [canonicalize, spell_spell]

/-- The empty path is spelled as it is. -/
theorem canonicalize_empty : canonicalize "" = "" := by decide

/-- The one spelling of an absolute path is absolute. -/
theorem isAbsolute_canonicalize {path : String} (absolute : isAbsolute path = true) :
    isAbsolute (canonicalize path) = true := by
  obtain ⟨rest, chars⟩ := isAbsolute_iff.mp absolute
  have out : collapse false path.toList = '/' :: collapse true rest := by
    rw [chars]
    rfl
  rw [isAbsolute_iff, canonicalize, String.toList_ofList, spell, out]
  split
  next cut =>
    simp only [List.length_cons, Bool.and_eq_true, decide_eq_true_eq] at cut
    exact ⟨_, List.dropLast_cons_of_ne_nil (List.length_pos_iff.mp (by omega))⟩
  next => exact ⟨_, rfl⟩

end EngineTokens.Path
