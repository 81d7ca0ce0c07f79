import EngineTokens.Proofs.Path.Canonical

/-!
# Names and the paths made of them

The components of a path are names (`isName_of_mem_components`), and a path that is made of names
has them as its components (`components_ofNames`). What is left of a path once `.` and `..` are
worked out does not change when this is done again (`resolve_of_settled`).

A path is kept as a text in canonical spelling. The text is this path exactly if all its names are
texts without a backslash (`ofText_canonicalize_ofNames_iff`).
-/

set_option autoImplicit false

namespace EngineTokens.Path

open Text.Utf8 (encode encode_append)

/-- Bytes that can stand between two slashes. -/
structure IsName (name : RawName) : Prop where
  nonempty : name ≠ []
  slashless : slash ∉ name

variable {names : List RawName}

/-! ## Cutting at slashes -/

/-- At a slash, the piece in hand is done. -/
theorem piecesFrom_slash (piece : RawName) (rest : RawPath) :
    piecesFrom piece (slash :: rest) = piece.reverse :: piecesFrom [] rest := by
  rw [piecesFrom, if_pos rfl]

/-- A byte that is no slash goes into the piece in hand. -/
theorem piecesFrom_cons {b : UInt8} (other : b ≠ slash) (piece : RawName) (rest : RawPath) :
    piecesFrom piece (b :: rest) = piecesFrom (b :: piece) rest := by
  rw [piecesFrom, if_neg other]

/-- Bytes without a slash go into the piece in hand. -/
theorem piecesFrom_append {name : RawName} (slashless : slash ∉ name) (piece : RawName)
    (rest : RawPath) : piecesFrom piece (name ++ rest) = piecesFrom (name.reverse ++ piece) rest := by
  induction name generalizing piece with
  | nil => rfl
  | cons b name ih =>
    obtain ⟨first, others⟩ : slash ≠ b ∧ slash ∉ name := by simpa using slashless
    rw [List.cons_append, piecesFrom_cons first.symm, ih others, List.reverse_cons,
      List.append_assoc, List.singleton_append]

/-- No piece holds a slash. -/
theorem slash_not_mem_piecesFrom {piece : RawName} (slashless : slash ∉ piece) (path : RawPath) :
    ∀ part ∈ piecesFrom piece path, slash ∉ part := by
  induction path generalizing piece with
  | nil => simpa [piecesFrom] using slashless
  | cons b rest ih =>
    by_cases cut : b = slash
    · subst cut
      rw [piecesFrom_slash]
      intro part mem
      obtain rfl | later := List.mem_cons.mp mem
      · simpa using slashless
      · exact ih List.not_mem_nil part later
    · rw [piecesFrom_cons cut]
      exact ih (by simp [slashless, Ne.symm cut])

/-- Every component of a path is a name. -/
theorem isName_of_mem_components {path : RawPath} {component : RawName}
    (mem : component ∈ components path) : IsName component := by
  obtain ⟨piece, filled⟩ := List.mem_filter.mp mem
  exact ⟨by simpa using filled, slash_not_mem_piecesFrom List.not_mem_nil _ _ piece⟩

/-! ## Paths of names -/

/-- The path of some names, each behind a slash. -/
theorem ofNames_of_ne_nil (named : names ≠ []) :
    ofNames names = names.flatMap fun name => slash :: name := by
  rw [ofNames]
  exact named

/-- A path of names starts with a slash. -/
theorem isAbsolute_ofNames (names : List RawName) : isAbsolute (ofNames names) = true := by
  cases names <;> rfl

/-- Names that stand behind one slash each are cut apart again. -/
theorem piecesFrom_flatMap (plain : ∀ name ∈ names, IsName name) (piece : RawName) :
    piecesFrom piece (names.flatMap fun name => slash :: name) = piece.reverse :: names := by
  induction names generalizing piece with
  | nil => rfl
  | cons name names ih =>
    have slashless := (plain name List.mem_cons_self).slashless
    have further := ih (fun other mem => plain other (List.mem_cons_of_mem name mem)) name.reverse
    rw [List.flatMap_cons, List.cons_append, piecesFrom_slash, piecesFrom_append slashless,
      List.append_nil, further, List.reverse_reverse]

/-- A path of names has them as its components. -/
theorem components_ofNames (plain : ∀ name ∈ names, IsName name) :
    components (ofNames names) = names := by
  by_cases named : names = []
  · rw [named]
    rfl
  · have kept : ∀ name ∈ names, (name != []) = true := by
      intro name mem
      simpa using (plain name mem).nonempty
    rw [components, pieces, ofNames_of_ne_nil named, piecesFrom_flatMap plain]
    simpa using kept

/-- A path of names does not end with a slash. -/
theorem endsWithSlash_ofNames (named : names ≠ []) (plain : ∀ name ∈ names, IsName name) :
    endsWithSlash (ofNames names) = false := by
  obtain ⟨front, last, rfl⟩ := (List.eq_nil_or_concat names).resolve_left named
  have name := plain last (by simp)
  have ends : last.getLast? ≠ some slash := fun mem => name.slashless (List.mem_of_getLast? mem)
  rw [endsWithSlash, ofNames_of_ne_nil named, List.concat_eq_append, List.flatMap_append,
    List.flatMap_singleton, List.getLast?_append, List.getLast?_cons_of_ne_nil name.nonempty]
  cases chars : last.getLast? with
  | none => exact absurd (List.getLast?_eq_none_iff.mp chars) name.nonempty
  | some b =>
    rw [chars] at ends
    simpa using ends

/-! ## Working out `.` and `..` -/

/-- A name on the stack was there before or is a component that is no dots. -/
theorem mem_foldl_push {components names : List RawName} {name : RawName}
    (mem : name ∈ components.foldl push names) :
    name ∈ names ∨ (name ∈ components ∧ name ≠ dot ∧ name ≠ dotDot) := by
  induction components generalizing names with
  | nil => exact .inl mem
  | cons component components ih =>
    obtain old | ⟨later, plain⟩ := ih mem
    · rw [push] at old
      split at old
      next => exact .inl old
      next here =>
        split at old
        next => exact .inl (List.mem_of_mem_tail old)
        next above =>
          obtain rfl | old := List.mem_cons.mp old
          · exact .inr ⟨List.mem_cons_self, here, above⟩
          · exact .inl old
    · exact .inr ⟨List.mem_cons_of_mem component later, plain⟩

/-- What is worked out are components, and no dots are among them. -/
theorem mem_resolve {components : List RawName} {name : RawName} (mem : name ∈ resolve components) :
    name ∈ components ∧ name ≠ dot ∧ name ≠ dotDot := by
  obtain nothing | found := mem_foldl_push (List.mem_reverse.mp mem)
  · cases nothing
  · exact found

/-- Components that are no dots are put on the stack one after another. -/
theorem foldl_push_of_settled {components : List RawName}
    (settled : ∀ name ∈ components, name ≠ dot ∧ name ≠ dotDot) (names : List RawName) :
    components.foldl push names = components.reverse ++ names := by
  induction components generalizing names with
  | nil => rfl
  | cons component components ih =>
    obtain ⟨here, above⟩ := settled component List.mem_cons_self
    have later := ih (fun name mem => settled name (List.mem_cons_of_mem component mem))
      (component :: names)
    rw [List.foldl_cons, push, if_neg here, if_neg above, later]
    simp

/-- Where there are no dots, nothing is left to be worked out. -/
theorem resolve_of_settled {components : List RawName}
    (settled : ∀ name ∈ components, name ≠ dot ∧ name ≠ dotDot) : resolve components = components := by
  rw [resolve, foldl_push_of_settled settled, List.append_nil, List.reverse_reverse]

/-! ## Names that are texts without a backslash -/

/-- The name is a text without a backslash, and so is shown and spelled as it is. -/
def IsStraight (name : RawName) : Prop :=
  ∃ text : String, name = ofText text ∧ '\\' ∉ text.toList

/-- The characters of a name without a backslash are no separators. -/
theorem not_isSeparator {text : String} (plain : IsName text) (straight : '\\' ∉ text.toList) :
    ∀ c ∈ text.toList, ¬ isSeparator c = true := by
  intro c mem separates
  obtain rfl | rfl : c = '/' ∨ c = '\\' := by simpa [isSeparator] using separates
  · exact plain.slashless (slash_mem_ofText_iff.mpr mem)
  · exact straight mem

/-- A name without separators may stand in front of single separators. -/
theorem collapsed_append {name rest : List Char} (plain : ∀ c ∈ name, ¬ isSeparator c = true)
    (filled : name ≠ []) (collapsed : Collapsed false rest) (inRun : Bool) :
    Collapsed inRun (name ++ rest) := by
  induction name generalizing inRun with
  | nil => exact absurd rfl filled
  | cons c name ih =>
    rw [List.cons_append, Collapsed, if_neg (plain c List.mem_cons_self)]
    by_cases last : name = []
    · rw [last]
      exact collapsed
    · exact ih (fun other mem => plain other (List.mem_cons_of_mem c mem)) last false

/-- Names that are texts without a backslash, each behind a slash, make a text whose separators are
single slashes. -/
theorem exists_collapsed_flatMap (plain : ∀ name ∈ names, IsName name)
    (straight : ∀ name ∈ names, IsStraight name) :
    ∃ text : String, (names.flatMap fun name => slash :: name) = ofText text ∧
      Collapsed false text.toList := by
  induction names with
  | nil => exact ⟨"", rfl, trivial⟩
  | cons name names ih =>
    obtain ⟨first, rfl, clean⟩ := straight name List.mem_cons_self
    obtain ⟨text, whole, collapsed⟩ := ih (fun other mem => plain other (List.mem_cons_of_mem _ mem))
      fun other mem => straight other (List.mem_cons_of_mem _ mem)
    have named := plain _ List.mem_cons_self
    have filled : first.toList ≠ [] := by simpa using named.nonempty
    refine ⟨"/" ++ first ++ text, ?_, ?_⟩
    · rw [List.flatMap_cons, whole, ofText_append, ofText_append]
      rfl
    · have chars : ("/" ++ first ++ text).toList = '/' :: (first.toList ++ text.toList) := by simp
      rw [chars]
      exact ⟨rfl, rfl, collapsed_append (not_isSeparator named clean) filled collapsed true⟩

/-- What is cut out of a text at slashes is text. By induction on the characters: those of the piece
in hand are `piece`. -/
theorem exists_text_of_mem_piecesFrom {piece chars : List Char} {part : RawName}
    (mem : part ∈ piecesFrom (encode piece).reverse (encode chars)) :
    ∃ text, part = encode text ∧ ∀ c ∈ text, c ∈ piece ∨ c ∈ chars := by
  induction chars generalizing piece with
  | nil =>
    have last : piecesFrom (encode piece).reverse (encode []) = [encode piece] := by
      simp [encode, piecesFrom]
    rw [last] at mem
    exact ⟨piece, List.mem_singleton.mp mem, fun c mem => .inl mem⟩
  | cons c rest ih =>
    rw [← List.singleton_append, encode_append] at mem
    by_cases separates : c = '/'
    · have first : encode [c] = [slash] := by
        rw [separates]
        decide
      rw [first, List.singleton_append, piecesFrom_slash, List.reverse_reverse] at mem
      obtain rfl | later := List.mem_cons.mp mem
      · exact ⟨piece, rfl, fun c mem => .inl mem⟩
      · obtain ⟨text, whole, among⟩ := @ih [] later
        exact ⟨text, whole, fun d mem =>
          .inr (List.mem_cons_of_mem c ((among d mem).resolve_left List.not_mem_nil))⟩
    · have slashless : slash ∉ encode [c] := by
        simpa [slash_mem_encode_iff] using Ne.symm separates
      rw [piecesFrom_append slashless, ← List.reverse_append, ← encode_append] at mem
      obtain ⟨text, whole, among⟩ := ih mem
      refine ⟨text, whole, fun d mem => ?_⟩
      have whence := among d mem
      rw [List.mem_append, List.mem_singleton] at whence
      rw [List.mem_cons]
      exact or_assoc.mp whence

/-- The components of a text without a backslash are texts without a backslash. -/
theorem isStraight_of_mem_components {text : String} {component : RawName}
    (straight : '\\' ∉ text.toList) (mem : component ∈ components text) : IsStraight component := by
  have cut : component ∈ piecesFrom (encode []).reverse (encode text.toList) :=
    (List.mem_filter.mp mem).1
  obtain ⟨chars, rfl, among⟩ := exists_text_of_mem_piecesFrom cut
  refine ⟨String.ofList chars, by rw [ofText, String.toList_ofList], fun backslash => ?_⟩
  rw [String.toList_ofList] at backslash
  exact straight ((among _ backslash).resolve_left List.not_mem_nil)

/-- A path whose names are texts without a backslash is kept as it is. -/
theorem ofText_canonicalize_ofNames (plain : ∀ name ∈ names, IsName name)
    (straight : ∀ name ∈ names, IsStraight name) :
    ofText (canonicalize (shown (ofNames names))) = ofNames names := by
  by_cases named : names = []
  · rw [named]
    decide
  · obtain ⟨text, whole, collapsed⟩ := exists_collapsed_flatMap plain straight
    have open_ := endsWithSlash_ofNames named plain
    rw [ofNames_of_ne_nil named, whole] at open_ ⊢
    rw [endsWithSlash_ofText] at open_
    have trimmed : ¬ Overhangs text.toList := by simp [Overhangs, open_]
    rw [shown_ofText, canonicalize, spell_of_collapsed collapsed trimmed, String.ofList_toList]

/-- A path is kept as it is exactly if all its names are texts without a backslash. -/
theorem ofText_canonicalize_ofNames_iff (plain : ∀ name ∈ names, IsName name) :
    ofText (canonicalize (shown (ofNames names))) = ofNames names ↔
      ∀ name ∈ names, IsStraight name := by
  refine ⟨fun same name mem => ?_, ofText_canonicalize_ofNames plain⟩
  have straight : '\\' ∉ (canonicalize (shown (ofNames names))).toList := by
    rw [canonicalize, String.toList_ofList]
    exact (collapsed_spell _).straight
  rw [← components_ofNames plain, ← same] at mem
  exact isStraight_of_mem_components straight mem

end EngineTokens.Path
