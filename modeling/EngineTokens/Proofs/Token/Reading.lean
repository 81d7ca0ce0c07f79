import EngineTokens.Token

/-!
# Reading tokens back

A token list is read from left to right, and a later token takes the place of an earlier one that
sets the same thing. `-dName` sets a name to true, `-dName=value` and `-sName=value` set it to what
stands after the first `=`, and `-Ipath` sets the search path.

What a writer of tokens sets is stated by a table: one row for each thing that can be set, with a
value where a token sets it. `Spells` ties tokens to a table, piece by piece along the writer, and
`Spells.read` says what has been read once the tokens of a table are: exactly its values, provided
that no two rows are about the same thing.
-/

set_option autoImplicit false

namespace EngineTokens.Token

/-! ## The reader -/

/-- What a token can set: a name, or the search path. -/
inductive Slot
  | name (name : String)
  | search
  deriving DecidableEq, Repr

/-- The characters before the first `=` and, if there is one, those after it. -/
def cutAtSign : List Char → List Char × Option (List Char)
  | [] => ([], none)
  | c :: rest =>
    if c = '=' then ([], some rest)
    else (c :: (cutAtSign rest).1, (cutAtSign rest).2)

/-- What a token sets, and to which value. -/
def assigned? (token : String) : Option (Slot × String) :=
  match token.toList with
  | '-' :: 'd' :: rest =>
    some (.name (String.ofList (cutAtSign rest).1),
      ((cutAtSign rest).2.map String.ofList).getD (truth true))
  | '-' :: 's' :: rest =>
    (cutAtSign rest).2.map fun value =>
      (.name (String.ofList (cutAtSign rest).1), String.ofList value)
  | '-' :: 'I' :: path => some (.search, String.ofList path)
  | _ => none

/-- What is known after some tokens: the value of everything that one of them has set. -/
abbrev Known := Slot → Option String

/-- Reads one more token. -/
def Known.define (known : Known) (token : String) : Known :=
  match assigned? token with
  | some (slot, value) => fun other => if other = slot then some value else known other
  | none => known

/-- Reads a token list from its left to its right end. -/
def readTokens (tokens : List String) : Known :=
  tokens.foldl Known.define fun _ => none

/-- The truth value of a name. -/
def Known.truth (known : Known) (default : Bool) (name : String) : Bool :=
  match known (.name name) with
  | none => default
  | some value => value == Token.truth true

/-- The text of a name, or the empty text. -/
def Known.text (known : Known) (name : String) : String :=
  (known (.name name)).getD ""

/-- The integer of a name, if what it is set to is one. -/
def Known.number? (known : Known) (default : Int) (name : String) : Option Int :=
  match known (.name name) with
  | none => some default
  | some value => Text.Integer.read? value.toList

/-- The search path, or the empty text. -/
def Known.searchPath (known : Known) : String :=
  (known .search).getD ""

/-! ## What one token sets -/

/-- A text that has an `=` is cut at the same place whatever follows it. -/
theorem cutAtSign_append {text value : List Char} (more : List Char)
    (cut : (cutAtSign text).2 = some value) :
    cutAtSign (text ++ more) = ((cutAtSign text).1, some (value ++ more)) := by
  induction text with
  | nil => simp [cutAtSign] at cut
  | cons c rest ih =>
    by_cases sign : c = '='
    · simp only [cutAtSign, sign, if_true, Option.some.injEq] at cut
      simp [cutAtSign, sign, cut]
    · simp only [cutAtSign, if_neg sign] at cut
      simp [cutAtSign, sign, ih cut]

/-- A token that sets something to the empty text sets it to any text put behind it. -/
theorem assigned?_append {head : String} {slot : Slot} (opens : assigned? head = some (slot, ""))
    (value : String) : assigned? (head ++ value) = some (slot, value) := by
  unfold assigned? at opens ⊢
  rw [String.toList_append]
  split at opens
  · rename_i rest chars
    rw [chars]
    cases cut : (cutAtSign rest).2 with
    | none => simp [cut, truth] at opens
    | some written =>
      have empty : written = [] := by simpa [cut] using (Prod.mk.inj (Option.some.inj opens)).2
      subst empty
      simp only [cut] at opens
      simp [cutAtSign_append value.toList cut, (Prod.mk.inj (Option.some.inj opens)).1]
  · rename_i rest chars
    rw [chars]
    cases cut : (cutAtSign rest).2 with
    | none => simp [cut] at opens
    | some written =>
      simp only [cut, Option.map_some, Option.some.injEq, Prod.mk.injEq] at opens
      have empty : written = [] := by simpa using opens.2
      subst empty
      simp [cutAtSign_append value.toList cut, opens.1]
  · rename_i path chars
    simp only [Option.some.injEq, Prod.mk.injEq] at opens
    have empty : path = [] := by simpa using opens.2
    simp [chars, empty, opens.1]
  · simp at opens

/-- What a token starts with and what follows. -/
theorem startsWith_eq_true_iff {start token : String} :
    startsWith start token = true ↔ ∃ value, token = start ++ value := by
  rw [startsWith, List.isPrefixOf_iff_prefix]
  constructor
  · rintro ⟨value, chars⟩
    refine ⟨String.ofList value, ?_⟩
    rw [← String.toList_inj, String.toList_append, String.toList_ofList, chars]
  · rintro ⟨value, rfl⟩
    rw [String.toList_append]
    exact List.prefix_append _ _

/-- A token that starts with one that sets something to the empty text sets the same thing. -/
theorem assigned?_of_startsWith {start token : String} {slot : Slot}
    (opens : assigned? start = some (slot, "")) (starts : startsWith start token = true) :
    ∃ value, assigned? token = some (slot, value) := by
  obtain ⟨value, rfl⟩ := startsWith_eq_true_iff.mp starts
  exact ⟨value, assigned?_append opens value⟩

/-- Where nothing is set twice, only one token sets a given thing. -/
theorem filter_eq_singleton {tokens : List String} {token : String} {slot : Slot}
    {about : String → Bool} (distinct : ((tokens.filterMap assigned?).map (·.1)).Nodup)
    (sets : ∀ token, about token = true → ∃ value, assigned? token = some (slot, value))
    (mem : token ∈ tokens) (holds : about token = true) : tokens.filter about = [token] := by
  induction tokens with
  | nil => cases mem
  | cons head rest ih =>
    by_cases first : about head = true
    · obtain ⟨value, assigned⟩ := sets head first
      simp only [List.filterMap_cons, assigned, List.map_cons, List.nodup_cons] at distinct
      -- any other such token would set the same thing again
      have others : ∀ other ∈ rest, ¬ about other = true := by
        intro other later again
        obtain ⟨value, assigned⟩ := sets other again
        have found : (slot, value) ∈ rest.filterMap assigned? :=
          List.mem_filterMap.mpr ⟨other, later, assigned⟩
        exact distinct.1 (List.mem_map_of_mem found)
      have same : token = head := by
        rcases List.mem_cons.mp mem with same | later
        · exact same
        · exact absurd holds (others token later)
      rw [List.filter_cons_of_pos first, List.filter_eq_nil_iff.mpr others, same]
    · have later : token ∈ rest := by
        rcases List.mem_cons.mp mem with rfl | later
        · exact absurd holds first
        · exact later
      have fewer : (rest.filterMap assigned?).Sublist ((head :: rest).filterMap assigned?) :=
        (List.sublist_cons_self head rest).filterMap _
      rw [List.filter_cons_of_neg first]
      exact ih (distinct.sublist (fewer.map _)) later

/-! ## Tables of what is set -/

/-- Something that can be set, with the value where it is set. -/
abbrev Row := Slot × Option String

/-- The row of a truth value that is set where it differs from its default. -/
def flagRow (default value : Bool) (name : String) : Row :=
  (.name name, if value = default then none else some (truth value))

/-- The row of a text that is set where it is not empty. -/
def textRow (value name : String) : Row :=
  (.name name, if value = "" then none else some value)

/-- The row of an integer that is set where it differs from its default. -/
def numberRow (default value : Int) (name : String) : Row :=
  (.name name, if value = default then none else some (String.ofList (Text.Integer.write value)))

/-- What the rows of a table set, in their order. -/
def assignments (rows : List Row) : List (Slot × String) :=
  rows.filterMap fun row => row.2.map fun value => (row.1, value)

/-- Every one of some tokens sets what the next row with a value says, and no such row is left
over. -/
def Spells (tokens : List String) (rows : List Row) : Prop :=
  tokens.map assigned? = (assignments rows).map some

namespace Spells

/-- Rows without a value are spelled by no token. -/
theorem nil_of_absent {rows : List Row} (absent : ∀ row ∈ rows, row.2 = none) :
    Spells [] rows := by
  have empty : assignments rows = [] := by
    rw [assignments, List.filterMap_eq_nil_iff]
    intro row mem
    rw [absent row mem, Option.map_none]
  simp [Spells, empty]

/-- Tables are spelled one after the other. -/
theorem append {tokens more : List String} {rows others : List Row} (left : Spells tokens rows)
    (right : Spells more others) : Spells (tokens ++ more) (rows ++ others) := by
  unfold Spells assignments at *
  rw [List.map_append, List.filterMap_append, List.map_append, left, right]

/-- A first row, with its token if it has one, comes before the others. -/
theorem cons {tokens more : List String} {row : Row} {rows : List Row}
    (first : Spells tokens [row]) (rest : Spells more rows) :
    Spells (tokens ++ more) (row :: rows) :=
  append first rest

/-- A token that is read as a slot and a value is a spelling of them. -/
theorem token {token value : String} {slot : Slot} (sets : assigned? token = some (slot, value)) :
    Spells [token] [(slot, some value)] := by
  simp [Spells, assignments, sets]

/-- The baseline turns two names on. -/
theorem baseline :
    Spells Token.baseline
      [(.name "QUIET", some (truth true)), (.name "BATCH", some (truth true))] :=
  cons (token (by decide)) (token (by decide))

/-- A truth value is spelled behind a name that ends in `=`. -/
theorem flag {default value : Bool} {head name : String} (inline : takesValue head = true)
    (opens : assigned? head = some (.name name, "")) :
    Spells (flagUnless default value head) [flagRow default value name] := by
  unfold flagUnless flagRow Token.flag
  rw [if_pos inline]
  split
  · exact nil_of_absent (by simp)
  · exact token (assigned?_append opens _)

/-- A truth value that is off by default is spelled by its name alone. -/
theorem bare {value : Bool} {head name : String} (inline : takesValue head = false)
    (sets : assigned? head = some (.name name, truth true)) :
    Spells (flagUnless false value head) [flagRow false value name] := by
  unfold flagUnless flagRow Token.flag
  cases value with
  | false => exact nil_of_absent (by simp)
  | true =>
    rw [inline]
    exact token sets

/-- A text is spelled behind its name as it is. -/
theorem text {value head name : String} (opens : assigned? head = some (.name name, "")) :
    Spells (textUnless "" value head) [textRow value name] := by
  unfold textUnless textRow Token.text
  split
  · exact nil_of_absent (by simp)
  · exact token (assigned?_append opens _)

/-- An integer is spelled behind its name in decimal. -/
theorem number {default value : Int} {head name : String}
    (opens : assigned? head = some (.name name, "")) :
    Spells (numberUnless default value head) [numberRow default value name] := by
  unfold numberUnless numberRow Token.number
  split
  · exact nil_of_absent (by simp)
  · exact token (assigned?_append opens _)

variable {tokens : List String} {rows : List Row}

/-- Tokens that spell a table all set something. -/
theorem assigned (spells : Spells tokens rows) {token : String} (mem : token ∈ tokens) :
    (assigned? token).isSome = true := by
  have image : assigned? token ∈ (assignments rows).map some := by
    rw [← spells]
    exact List.mem_map_of_mem mem
  obtain ⟨pair, -, eq⟩ := List.mem_map.mp image
  rw [← eq, Option.isSome_some]

/-- What a token sets is the value of its row. -/
theorem mem_rows (spells : Spells tokens rows) {token value : String} {slot : Slot}
    (mem : token ∈ tokens) (sets : assigned? token = some (slot, value)) :
    (slot, some value) ∈ rows := by
  have image : some (slot, value) ∈ (assignments rows).map some := by
    rw [← spells, ← sets]
    exact List.mem_map_of_mem mem
  obtain ⟨pair, written, eq⟩ := List.mem_map.mp image
  cases eq
  obtain ⟨row, rowMem, holds⟩ := List.mem_filterMap.mp written
  obtain ⟨content, set, eq⟩ := Option.map_eq_some_iff.mp holds
  cases eq
  rwa [← set]

/-- What tokens that spell a table set, is what its rows do. -/
theorem filterMap_eq (spells : Spells tokens rows) :
    tokens.filterMap assigned? = assignments rows := by
  have eq := congrArg (List.filterMap id) spells
  simpa [List.filterMap_map, Function.comp_def] using eq

/-- Tokens that spell a table without repetitions set nothing twice. -/
theorem nodup (spells : Spells tokens rows) (distinct : (rows.map (·.1)).Nodup) :
    ((tokens.filterMap assigned?).map (·.1)).Nodup := by
  rw [spells.filterMap_eq]
  apply List.Nodup.sublist _ distinct
  clear spells distinct
  induction rows with
  | nil => exact List.Sublist.refl _
  | cons row rows ih =>
    obtain ⟨slot, value⟩ := row
    cases value with
    | none => exact ih.cons slot
    | some value => exact ih.cons_cons slot

/-- The first token of a table whose first row has a value sets that value. -/
theorem of_cons_some {slot : Slot} {value : String}
    (spells : Spells tokens ((slot, some value) :: rows)) :
    ∃ token more, tokens = token :: more ∧ assigned? token = some (slot, value) ∧
      Spells more rows := by
  cases tokens with
  | nil => simp [Spells, assignments] at spells
  | cons token more =>
    simp only [Spells, assignments, List.map_cons, List.filterMap_cons, Option.map_some,
      List.cons.injEq] at spells
    exact ⟨token, more, rfl, spells.1, spells.2⟩

/-- What no row is about is not changed. -/
theorem read_of_not_mem (spells : Spells tokens rows) (known : Known) {slot : Slot}
    (other : slot ∉ rows.map (·.1)) : tokens.foldl Known.define known slot = known slot := by
  induction rows generalizing tokens known with
  | nil =>
    have empty : tokens = [] := by simpa [Spells, assignments] using spells
    rw [empty, List.foldl_nil]
  | cons row rows ih =>
    obtain ⟨first, value⟩ := row
    simp only [List.map_cons, List.mem_cons, not_or] at other
    cases value with
    | none => exact ih spells known other.2
    | some value =>
      obtain ⟨token, more, rfl, sets, rest⟩ := of_cons_some spells
      rw [List.foldl_cons, ih rest _ other.2]
      simp [Known.define, sets, other.1]

/-- Reading the tokens of a table without repetitions makes every value of the table known; what
its row leaves open stays as it was. -/
theorem read (spells : Spells tokens rows) (distinct : (rows.map (·.1)).Nodup) (known : Known) :
    ∀ row ∈ rows, tokens.foldl Known.define known row.1 = row.2.or (known row.1) := by
  induction rows generalizing tokens known with
  | nil => simp
  | cons first rows ih =>
    obtain ⟨slot, value⟩ := first
    rw [List.map_cons, List.nodup_cons] at distinct
    intro row mem
    cases value with
    | none =>
      have rest : Spells tokens rows := spells
      rcases List.mem_cons.mp mem with rfl | later
      · simpa using read_of_not_mem rest known distinct.1
      · exact ih rest distinct.2 known row later
    | some value =>
      obtain ⟨token, more, rfl, sets, rest⟩ := of_cons_some spells
      rw [List.foldl_cons]
      rcases List.mem_cons.mp mem with rfl | later
      · rw [read_of_not_mem rest _ distinct.1]
        simp [Known.define, sets]
      · rw [ih rest distinct.2 _ row later]
        have differs : row.1 ≠ slot := by
          intro same
          have mem : row.1 ∈ rows.map (·.1) := List.mem_map_of_mem later
          rw [same] at mem
          exact distinct.1 mem
        simp [Known.define, sets, differs]

end Spells

end EngineTokens.Token
