import EngineTokens.Proofs.Path.Containing

/-!
# A path from its segments

The segments of a path are the non-empty pieces between its separators (`segments_eq_splitOnP`). The
one spelling of a path is made of them: they are joined by slashes, behind a slash if the path
starts with a separator (`spell_eq_ofSegments`). A slash stays at the end only behind a drive, as in
`C:/`. So two paths are spelled alike exactly if they have the same segments and agree on starting
with a separator, and on ending with one where this makes the root of a drive.
-/

set_option autoImplicit false

namespace EngineTokens.Path

/-! ## Segments -/

/-- The segments are the pieces between separators that are not empty. -/
theorem segmentsFrom_eq (segment path : List Char) :
    segmentsFrom segment path =
      (path.splitOnPPrepend isSeparator segment).filter fun piece => piece ≠ [] := by
  induction path generalizing segment with
  | nil =>
    by_cases empty : segment = []
    · simp [segmentsFrom, empty]
    · simp [segmentsFrom, empty]
  | cons c rest ih =>
    cases separator : isSeparator c with
    | true =>
      rw [List.splitOnPPrepend_cons_pos separator, List.filter_cons]
      by_cases empty : segment = []
      · simp [segmentsFrom, separator, empty, ih]
      · simp [segmentsFrom, separator, empty, ih]
    | false =>
      rw [List.splitOnPPrepend_cons_neg separator, ← ih]
      simp [segmentsFrom, separator]

/-- The segments are the pieces between the separators, without the empty ones. -/
theorem segments_eq_splitOnP (path : List Char) :
    segments path = (path.splitOnP isSeparator).filter fun piece => piece ≠ [] :=
  segmentsFrom_eq [] path

/-- A separator only separates. -/
theorem segments_append {c : Char} (separator : isSeparator c = true) (front back : List Char) :
    segments (front ++ c :: back) = segments front ++ segments back := by
  simp only [segments_eq_splitOnP, List.splitOnP_append_cons front back separator,
    List.filter_append]

/-- A separator at the start adds no segment. -/
theorem segments_separator {c : Char} (separator : isSeparator c = true) (rest : List Char) :
    segments (c :: rest) = segments rest :=
  segments_append separator [] rest

/-- A text without a separator is one segment, if it is not empty. -/
theorem segments_of_plain {name : List Char} (plain : ∀ c ∈ name, isSeparator c = false)
    (filled : name ≠ []) : segments name = [name] := by
  rw [segments_eq_splitOnP, List.splitOnP_eq_singleton plain]
  simp [filled]

/-- A segment is not empty and holds no separator. -/
theorem of_mem_segmentsFrom {segment path piece : List Char}
    (plain : ∀ c ∈ segment, isSeparator c = false) (mem : piece ∈ segmentsFrom segment path) :
    piece ≠ [] ∧ ∀ c ∈ piece, isSeparator c = false := by
  induction path generalizing segment with
  | nil =>
    rw [segmentsFrom] at mem
    split at mem
    next => cases mem
    next filled =>
      obtain rfl := List.mem_singleton.mp mem
      exact ⟨by simpa using filled, by simpa using plain⟩
  | cons c rest ih =>
    rw [segmentsFrom] at mem
    split at mem
    next =>
      split at mem
      next => exact ih (List.forall_mem_nil _) mem
      next filled =>
        obtain rfl | later := List.mem_cons.mp mem
        · exact ⟨by simpa using filled, by simpa using plain⟩
        · exact ih (List.forall_mem_nil _) later
    next name => exact ih (List.forall_mem_cons.mpr ⟨by simpa using name, plain⟩) mem

/-- A segment is not empty and has no separator. -/
theorem of_mem_segments {path piece : List Char} (mem : piece ∈ segments path) :
    piece ≠ [] ∧ ∀ c ∈ piece, isSeparator c = false :=
  of_mem_segmentsFrom (List.forall_mem_nil _) mem

/-- A segment has no slash. -/
theorem slash_not_mem_of_mem_segments {path piece : List Char} (mem : piece ∈ segments path) :
    '/' ∉ piece := by
  intro slash
  have plain := (of_mem_segments mem).2 '/' slash
  cases plain

/-- A segment that is begun comes to be one. -/
theorem segmentsFrom_ne_nil {segment : List Char} (filled : segment ≠ []) (path : List Char) :
    segmentsFrom segment path ≠ [] := by
  induction path generalizing segment with
  | nil => simp [segmentsFrom, filled]
  | cons c rest ih =>
    rw [segmentsFrom]
    split
    next => exact List.cons_ne_nil _ _
    next => exact ih (List.cons_ne_nil c segment)

/-! ## Separators at the two ends -/

/-- The path starts with a separator. -/
def startsSeparated (path : List Char) : Bool :=
  path.head?.any isSeparator

/-- The path ends with a separator. -/
def endsSeparated (path : List Char) : Bool :=
  path.getLast?.any isSeparator

/-- A slash, if there is to be one. -/
def slashIf (wanted : Bool) : List Char :=
  if wanted then ['/'] else []

/-- The end of a path is that of its rest. -/
theorem endsSeparated_cons (c : Char) {rest : List Char} (more : rest ≠ []) :
    endsSeparated (c :: rest) = endsSeparated rest := by
  rw [endsSeparated, List.getLast?_cons_of_ne_nil more, endsSeparated]

/-- A path without segments ends with a separator, if it is not empty. -/
theorem endsSeparated_of_segments_eq_nil {path : List Char} (none : segments path = [])
    (filled : path ≠ []) : endsSeparated path = true := by
  induction path with
  | nil => exact absurd rfl filled
  | cons c rest ih =>
    cases separator : isSeparator c with
    | false =>
      rw [segments, segmentsFrom, if_neg (by simp [separator])] at none
      exact absurd none (segmentsFrom_ne_nil (List.cons_ne_nil c []) rest)
    | true =>
      by_cases last : rest = []
      · simp [last, endsSeparated, separator]
      · rw [segments_separator separator] at none
        rw [endsSeparated_cons c last]
        exact ih none last

/-! ## Collapsing -/

/-- How the collapsed form of the rest of a path is made of segments. In a run of separators the
slash has been written, so that only one at the end is left to be told. -/
structure JoinsSegments (path : List Char) : Prop where
  inHand : ∀ segment ≠ [], segment.reverse ++ collapse false path =
    ['/'].intercalate (segmentsFrom segment path) ++ slashIf (endsSeparated path)
  inRun : collapse true path =
    ['/'].intercalate (segments path) ++ slashIf (endsSeparated path && !(segments path).isEmpty)

variable {c : Char} {rest : List Char}

/-- A separator in front of a path becomes the slash that it starts with. -/
theorem JoinsSegments.separator (joins : JoinsSegments rest) (separator : isSeparator c = true) :
    JoinsSegments (c :: rest) where
  inHand segment filled := by
    have first : segmentsFrom segment (c :: rest) = segment.reverse :: segments rest := by
      simp [segmentsFrom, separator, filled, segments]
    have slash : collapse false (c :: rest) = '/' :: collapse true rest := by
      simp [collapse, separator]
    rw [first, slash, joins.inRun]
    by_cases none : segments rest = []
    · have ends : endsSeparated (c :: rest) = true :=
        endsSeparated_of_segments_eq_nil ((segments_separator separator rest).trans none)
          (List.cons_ne_nil c rest)
      simp [none, ends, slashIf]
    · have more : rest ≠ [] := by
        rintro rfl
        exact none rfl
      have some : (segments rest).isEmpty = false := by simpa using none
      rw [endsSeparated_cons c more, List.intercalate_cons_of_ne_nil none, some]
      simp
  inRun := by
    have written : collapse true (c :: rest) = collapse true rest := by
      simp [collapse, separator]
    rw [written, joins.inRun, segments_separator separator]
    by_cases last : rest = []
    · rw [last]
      simp [segments, segmentsFrom]
    · rw [endsSeparated_cons c last]

/-- A letter in front of a path goes into its first segment. -/
theorem JoinsSegments.name (joins : JoinsSegments rest) (name : isSeparator c = false) :
    JoinsSegments (c :: rest) := by
  have ends : endsSeparated (c :: rest) = endsSeparated rest := by
    by_cases last : rest = []
    · rw [last]
      simp [endsSeparated, name]
    · exact endsSeparated_cons c last
  have kept : ∀ inRun, collapse inRun (c :: rest) = c :: collapse false rest := by
    simp [collapse, name]
  have taken : ∀ segment, segmentsFrom segment (c :: rest) = segmentsFrom (c :: segment) rest := by
    simp [segmentsFrom, name]
  constructor
  · intro segment filled
    rw [kept, taken, ends, ← joins.inHand (c :: segment) (List.cons_ne_nil c segment)]
    simp
  · have some : (segmentsFrom [c] rest).isEmpty = false := by
      simpa using segmentsFrom_ne_nil (List.cons_ne_nil c []) rest
    rw [kept, segments, taken, ends, some, Bool.not_false, Bool.and_true,
      ← joins.inHand [c] (List.cons_ne_nil c [])]
    rfl

/-- Every path is collapsed to its segments with single slashes between them. -/
theorem joinsSegments (path : List Char) : JoinsSegments path := by
  induction path with
  | nil =>
    refine ⟨?_, rfl⟩
    intro segment filled
    simp [segmentsFrom, collapse, filled, endsSeparated, slashIf]
  | cons c rest ih =>
    cases kind : isSeparator c with
    | true => exact ih.separator kind
    | false => exact ih.name kind

/-- A path is collapsed to its segments, with a slash at either end if a separator stands there. -/
theorem collapse_eq_segments (path : List Char) :
    collapse false path =
      slashIf (startsSeparated path) ++ ['/'].intercalate (segments path) ++
        slashIf (endsSeparated path && !(segments path).isEmpty) := by
  rw [List.append_assoc, ← (joinsSegments path).inRun]
  cases path with
  | nil => rfl
  | cons c rest => cases separator : isSeparator c <;>
      simp [collapse, separator, startsSeparated, slashIf]

/-! ## The spelling -/

/-- The segments are those of a drive: one letter and a colon. -/
def isDrive : List (List Char) → Bool
  | [[letter, ':']] => letter.isAlpha
  | _ => false

/-- The text that joins segments by slashes, behind a slash if it is rooted. At the end of the text
of a drive alone a slash can stand. -/
def ofSegments (rooted closed : Bool) (segments : List (List Char)) : List Char :=
  slashIf rooted ++ ['/'].intercalate segments ++ slashIf (closed && !rooted && isDrive segments)

/-- Only a single segment is spelled as a drive. -/
theorem intercalate_eq_drive {segments : List (List Char)} {letter : Char}
    (slashless : ∀ piece ∈ segments, '/' ∉ piece) (named : letter ≠ '/')
    (whole : ['/'].intercalate segments = [letter, ':']) : segments = [[letter, ':']] := by
  have filled : segments ≠ [] := by
    rintro rfl
    cases whole
  have drive : '/' ∉ [letter, ':'] := by simpa using named.symm
  rw [← List.splitOn_intercalate '/' slashless filled, whole, List.splitOn_eq_singleton drive]

/-- Behind segments, a slash makes the root of a drive exactly if they are those of one. -/
theorem isDriveRoot_intercalate {segments : List (List Char)}
    (slashless : ∀ piece ∈ segments, '/' ∉ piece) :
    isDriveRoot (['/'].intercalate segments ++ ['/']) = isDrive segments := by
  by_cases drive : isDrive segments = true
  · rw [drive]
    unfold isDrive at drive
    split at drive
    next letter => simpa [isDriveRoot] using drive
    next => cases drive
  · rw [Bool.not_eq_true] at drive
    rw [drive, ← Bool.not_eq_true]
    intro root
    unfold isDriveRoot at root
    split at root
    next letter whole =>
      have joined : ['/'].intercalate segments = [letter, ':'] := by
        simpa using congrArg List.dropLast whole
      have named : letter ≠ '/' := by
        rintro rfl
        cases root
      rw [intercalate_eq_drive slashless named joined, isDrive, root] at drive
      cases drive
    next => cases root

/-- Joined segments do not end with a slash. -/
theorem getLast?_intercalate {segments : List (List Char)} (filled : segments ≠ [])
    (plain : ∀ piece ∈ segments, piece ≠ [] ∧ '/' ∉ piece) :
    ∃ c, (['/'].intercalate segments).getLast? = some c ∧ c ≠ '/' := by
  induction segments with
  | nil => exact absurd rfl filled
  | cons first others ih =>
    by_cases last : others = []
    · obtain ⟨named, slashless⟩ := plain first List.mem_cons_self
      refine ⟨first.getLast named, by simp [last, List.getLast?_eq_some_getLast named], ?_⟩
      intro slash
      exact slashless (slash ▸ List.getLast_mem named)
    · obtain ⟨c, ends, apart⟩ :=
        ih last fun piece mem => plain piece (List.mem_cons_of_mem first mem)
      refine ⟨c, ?_, apart⟩
      rw [List.intercalate_cons_of_ne_nil last, List.getLast?_append, ends, Option.some_or]

/-- A path that does not end with a slash has none to spare. -/
theorem not_overhangs_of_getLast? {path : List Char} (ends : path.getLast? ≠ some '/') :
    ¬ Overhangs path := by
  simp [Overhangs, ends]

/-- A slash behind segments stays exactly if it makes the root of a drive. -/
theorem overhangs_slash (rooted : Bool) {segments : List (List Char)} (filled : segments ≠ [])
    (plain : ∀ piece ∈ segments, piece ≠ [] ∧ '/' ∉ piece) :
    Overhangs (slashIf rooted ++ ['/'].intercalate segments ++ ['/']) ↔
      (!rooted && isDrive segments) = false := by
  obtain ⟨c, ends, -⟩ := getLast?_intercalate filled plain
  have long : 0 < (['/'].intercalate segments).length := by
    rw [List.length_pos_iff]
    intro nothing
    rw [nothing] at ends
    cases ends
  have root : isDriveRoot (slashIf rooted ++ ['/'].intercalate segments ++ ['/']) =
      (!rooted && isDrive segments) := by
    cases rooted with
    | true => exact not_isDriveRoot _
    | false => exact isDriveRoot_intercalate fun piece mem => (plain piece mem).2
  have longer : 1 < (slashIf rooted ++ ['/'].intercalate segments ++ ['/']).length := by
    simp only [List.length_append, List.length_singleton]
    omega
  rw [Overhangs, root, List.getLast?_concat, decide_eq_true longer]
  cases !rooted && isDrive segments <;> simp

/-- The one spelling of a path is made of its segments. -/
theorem spell_eq_ofSegments (path : List Char) :
    spell path = ofSegments (startsSeparated path) (endsSeparated path) (segments path) := by
  have whole := collapse_eq_segments path
  have plain : ∀ piece ∈ segments path, piece ≠ [] ∧ '/' ∉ piece :=
    fun piece mem => ⟨(of_mem_segments mem).1, slash_not_mem_of_mem_segments mem⟩
  by_cases none : segments path = []
  · -- a slash, or nothing at all
    have short : ¬ Overhangs (collapse false path) := by
      rw [whole, none]
      cases startsSeparated path <;> simp [Overhangs, slashIf]
    have kept : spell path = collapse false path := if_neg short
    rw [kept, whole, none]
    simp [ofSegments, isDrive]
  · have some : (segments path).isEmpty = false := by simpa using none
    rw [some, Bool.not_false, Bool.and_true] at whole
    cases ends : endsSeparated path with
    | false =>
      have trimmed : ¬ Overhangs (collapse false path) := by
        obtain ⟨c, last, apart⟩ := getLast?_intercalate none plain
        apply not_overhangs_of_getLast?
        rw [whole, ends, slashIf, slashIf, if_neg Bool.false_ne_true, List.append_nil,
          List.getLast?_append, last]
        simpa using apart
      have kept : spell path = collapse false path := if_neg trimmed
      rw [kept, whole, ends]
      rfl
    | true =>
      rw [ends] at whole
      have hangs := overhangs_slash (startsSeparated path) none plain
      change collapse false path =
        slashIf (startsSeparated path) ++ ['/'].intercalate (segments path) ++ ['/'] at whole
      cases drive : !startsSeparated path && isDrive (segments path) with
      | true =>
        have kept : spell path = collapse false path := by
          refine if_neg ?_
          rw [whole]
          exact fun cut => by simpa [drive] using hangs.mp cut
        rw [kept, whole, ofSegments, Bool.true_and, drive]
        rfl
      | false =>
        have cut : spell path = (collapse false path).dropLast := by
          refine if_pos ?_
          rw [whole]
          exact hangs.mpr drive
        rw [cut, whole, ofSegments, Bool.true_and, drive, List.dropLast_concat]
        simp [slashIf]

/-! ## Paths spelled alike -/

/-- The segments of a path are got back from its spelling. -/
theorem segments_intercalate {segs : List (List Char)}
    (plain : ∀ piece ∈ segs, piece ≠ [] ∧ ∀ c ∈ piece, isSeparator c = false) :
    segments (['/'].intercalate segs) = segs := by
  induction segs with
  | nil => rfl
  | cons first others ih =>
    obtain ⟨filled, clean⟩ := plain first List.mem_cons_self
    by_cases last : others = []
    · rw [last, List.intercalate_singleton, segments_of_plain clean filled]
    · have slash : isSeparator '/' = true := rfl
      rw [List.intercalate_cons_of_ne_nil last, List.append_assoc, List.singleton_append,
        segments_append slash, segments_of_plain clean filled,
        ih fun piece mem => plain piece (List.mem_cons_of_mem first mem), List.singleton_append]

/-- The segments can be read off the spelling. -/
theorem segments_spell (path : List Char) : segments (spell path) = segments path := by
  have slash : isSeparator '/' = true := rfl
  have joined : segments (['/'].intercalate (segments path)) = segments path :=
    segments_intercalate fun piece mem => of_mem_segments mem
  have behind : ∀ closed, segments (['/'].intercalate (segments path) ++ slashIf closed) =
      segments path := by
    intro closed
    cases closed with
    | false => rw [slashIf, if_neg Bool.false_ne_true, List.append_nil, joined]
    | true => rw [slashIf, if_pos rfl, segments_append slash, joined]; exact List.append_nil _
  rw [spell_eq_ofSegments, ofSegments, List.append_assoc]
  cases startsSeparated path with
  | false => exact behind _
  | true => exact (segments_separator slash _).trans (behind _)

/-- A path is empty if it has no segment and does not start with a separator. -/
theorem eq_nil_iff {path : List Char} :
    path = [] ↔ segments path = [] ∧ startsSeparated path = false := by
  constructor
  · rintro rfl
    exact ⟨rfl, rfl⟩
  · rintro ⟨none, inside⟩
    cases path with
    | nil => rfl
    | cons c rest =>
      have plain : isSeparator c = false := by simpa [startsSeparated] using inside
      rw [segments, segmentsFrom, if_neg (by simp [plain])] at none
      exact absurd none (segmentsFrom_ne_nil (List.cons_ne_nil c []) rest)

/-- Whether a path starts with a separator can be told from its spelling. -/
theorem startsSeparated_spell (path : List Char) :
    startsSeparated (spell path) = startsSeparated path := by
  rw [spell_eq_ofSegments, ofSegments]
  cases starts : startsSeparated path with
  | true => rfl
  | false =>
    cases segs : segments path with
    | nil =>
      rw [eq_nil_iff.mpr ⟨segs, starts⟩]
      rfl
    | cons first others =>
      have mem : first ∈ segments path := segs ▸ List.mem_cons_self
      obtain ⟨filled, clean⟩ := of_mem_segments mem
      obtain ⟨c, name, rfl⟩ := List.exists_cons_of_ne_nil filled
      rw [List.intercalate_cons_cons_left]
      exact clean c List.mem_cons_self

/-- A slash is there exactly if it is asked for. -/
theorem slashIf_inj {first second : Bool} (same : slashIf first = slashIf second) :
    first = second := by
  cases first <;> cases second <;> first | rfl | cases same

/-- Two paths are spelled alike exactly if they have the same segments and agree at their ends, as
far as these matter. -/
theorem spell_eq_spell_iff {path other : List Char} :
    spell path = spell other ↔
      startsSeparated path = startsSeparated other ∧ segments path = segments other ∧
        (startsSeparated path = false → isDrive (segments path) = true →
          endsSeparated path = endsSeparated other) := by
  constructor
  · intro same
    have starts : startsSeparated path = startsSeparated other := by
      rw [← startsSeparated_spell path, same, startsSeparated_spell]
    have segs : segments path = segments other := by
      rw [← segments_spell path, same, segments_spell]
    refine ⟨starts, segs, fun inside drive => ?_⟩
    rw [spell_eq_ofSegments, spell_eq_ofSegments other, ← starts, ← segs, ofSegments, ofSegments,
      inside, drive] at same
    simpa using slashIf_inj (List.append_cancel_left same)
  · rintro ⟨starts, segs, ends⟩
    rw [spell_eq_ofSegments, spell_eq_ofSegments other, ← starts, ← segs, ofSegments, ofSegments]
    cases inside : startsSeparated path with
    | true => simp
    | false =>
      cases drive : isDrive (segments path) with
      | false => simp
      | true => rw [ends inside drive]

/-- What the one spelling of a path is. -/
structure IsSpelling (path spelled : String) : Prop where
  /-- Segments are the longest non-empty texts between separators. -/
  segments : segments path.toList =
    (path.toList.splitOnP isSeparator).filter fun piece => piece ≠ []
  empty : path = "" → spelled = ""
  root : path ≠ "" → Path.segments path.toList = [] → spelled = "/"
  /-- The segments are joined by slashes, with a slash before them if the path starts with a
  separator, and one behind them if it ends with one and is a drive otherwise. -/
  joined : Path.segments path.toList ≠ [] →
    spelled.toList = slashIf (startsSeparated path.toList) ++
      ['/'].intercalate (Path.segments path.toList) ++
      slashIf (endsSeparated path.toList && !startsSeparated path.toList &&
        isDrive (Path.segments path.toList))
  again : canonicalize spelled = spelled
  straight : '\\' ∉ spelled.toList
  single : ¬ ['/', '/'] <:+: spelled.toList
  closed : spelled.toList.getLast? = some '/' ↔
    spelled = "/" ∨ isDriveRoot spelled.toList = true

/-- In a text in which each separator is a slash and stands alone, no two slashes stand together. -/
theorem Collapsed.single {inRun : Bool} {path : List Char} (collapsed : Collapsed inRun path) :
    ¬ ['/', '/'] <:+: path := by
  rintro ⟨front, back, rfl⟩
  exact collapsed.of_append.not_slashes

/-- A path in its one spelling ends with a slash exactly if it is a root. -/
theorem getLast?_spell (path : List Char) :
    (spell path).getLast? = some '/' ↔ spell path = ['/'] ∨ isDriveRoot (spell path) = true := by
  have trimmed := not_overhangs_spell path
  generalize spell path = spelled at trimmed ⊢
  constructor
  · intro slash
    by_cases drive : isDriveRoot spelled = true
    · exact .inr drive
    · left
      obtain ⟨front, rfl⟩ := List.getLast?_eq_some_iff.mp slash
      have short : front = [] := by simpa [Overhangs, drive] using trimmed
      rw [short, List.nil_append]
  · rintro (rfl | drive)
    · rfl
    · unfold isDriveRoot at drive
      split at drive
      next => rfl
      next => cases drive

/-- The canonical form is a spelling of the path. -/
theorem isSpelling_canonicalize (path : String) : IsSpelling path (canonicalize path) where
  segments := segments_eq_splitOnP path.toList
  empty := by
    rintro rfl
    exact canonicalize_empty
  root filled none := by
    have chars : path.toList ≠ [] := by simpa using filled
    have starts : startsSeparated path.toList = true := by
      rw [← Bool.not_eq_false]
      exact fun inside => chars (eq_nil_iff.mpr ⟨none, inside⟩)
    rw [canonicalize, spell_eq_ofSegments, none, starts]
    simp [ofSegments, slashIf]
  joined _ := by
    rw [canonicalize, String.toList_ofList, spell_eq_ofSegments, ofSegments]
  again := canonicalize_canonicalize path
  straight := by
    rw [canonicalize, String.toList_ofList]
    exact (collapsed_spell path.toList).straight
  single := by
    rw [canonicalize, String.toList_ofList]
    exact (collapsed_spell path.toList).single
  closed := by
    have root : canonicalize path = "/" ↔ spell path.toList = ['/'] := by
      rw [canonicalize, ← String.toList_inj, String.toList_ofList]
      rfl
    rw [root, canonicalize, String.toList_ofList]
    exact getLast?_spell path.toList

/-- A path is spelled by its segments, and two paths are spelled alike exactly if they agree on
being empty, on their segments, on starting with a separator, and on ending with one where that
makes the root of a drive. -/
theorem spelled_by_segments (path : String) :
    IsSpelling path (canonicalize path) ∧
      ∀ other, canonicalize path = canonicalize other ↔
        (path = "" ↔ other = "") ∧
        startsSeparated path.toList = startsSeparated other.toList ∧
        segments path.toList = segments other.toList ∧
        (startsSeparated path.toList = false → isDrive (segments path.toList) = true →
          endsSeparated path.toList = endsSeparated other.toList) := by
  refine ⟨isSpelling_canonicalize path, fun other => ?_⟩
  have spelled : canonicalize path = canonicalize other ↔
      spell path.toList = spell other.toList := by
    rw [canonicalize, canonicalize, String.ofList_inj]
  have empty : ∀ text : String, text = "" ↔
      segments text.toList = [] ∧ startsSeparated text.toList = false := by
    intro text
    rw [← eq_nil_iff, String.toList_eq_nil_iff]
  rw [spelled, spell_eq_spell_iff]
  constructor
  · intro alike
    refine ⟨?_, alike⟩
    rw [empty, empty other, alike.1, alike.2.1]
  · exact And.right

/-- The root of a drive is told from the drive, and nothing else depends on how a path ends. -/
example : segments "\\a//b\\".toList = ["a".toList, "b".toList] ∧
    canonicalize "\\a//b\\" = "/a/b" ∧ canonicalize "C:\\/" = "C:/" := by
  decide

end EngineTokens.Path
