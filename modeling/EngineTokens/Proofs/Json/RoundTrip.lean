import EngineTokens.Json.Printer
import EngineTokens.Proofs.Json.Shape

/-!
# What is written is read back

A regular value whose numbers are integers is read back from its text as it was (`parse?_write`).
Each part is read whatever text follows it, as long as that text does not go on with a number, and
with more fuel than it is long.
-/

set_option autoImplicit false

namespace EngineTokens.Json

/-! ## Blanks -/

/-- The start of a line is nothing but blanks. -/
theorem skipBlanks_newLine_append (level : Nat) (text : List Char) :
    skipBlanks (newLine level ++ text) = skipBlanks text := by
  have blanks : ∀ c ∈ newLine level, isBlank c = true := by
    intro c mem
    rcases List.mem_cons.mp mem with rfl | mem
    · rfl
    · rw [List.eq_of_mem_replicate mem]
      rfl
  exact List.dropWhile_append_of_pos blanks

/-- Nothing is skipped in front of a character that is not blank. -/
theorem skipBlanks_cons {c : Char} (solid : isBlank c = false) (text : List Char) :
    skipBlanks (c :: text) = c :: text := by
  rw [skipBlanks, List.dropWhile_cons_of_neg (by simp [solid])]

/-! ## Strings -/

/-- A hexadecimal digit is read back. -/
theorem hexDigit?_hexDigit {d : Nat} (small : d < 16) : hexDigit? (hexDigit d) = some d := by
  have all : ∀ d < 16, hexDigit? (hexDigit d) = some d := by decide
  exact all d small

/-- The four digits with which a control character is written are its code. -/
theorem hexCode?_control {n : Nat} (control : n < 0x20) :
    hexCode? '0' '0' (hexDigit (n / 16)) (hexDigit (n % 16)) = some n := by
  have zero : hexDigit? '0' = some 0 := rfl
  have code : n / 16 * 16 + n % 16 = n := by omega
  simp [hexCode?, zero, hexDigit?_hexDigit (show n / 16 < 16 by omega),
    hexDigit?_hexDigit (show n % 16 < 16 by omega), code]

/-- A control character is read back from its code. -/
theorem stringBody?_control {c : Char} (control : c.toNat < 0x20) (rest : List Char) :
    stringBody? ('\\' :: 'u' :: '0' :: '0' :: hexDigit (c.toNat / 16) :: hexDigit (c.toNat % 16) ::
      rest) = (stringBody? rest).map fun (s, rest) => (c :: s, rest) := by
  have trailing : isTrailing c.toNat = false := by
    simp [isTrailing]
    omega
  have leading : isLeading c.toNat = false := by
    simp [isLeading]
    omega
  rw [stringBody?]
  simp only [hexCode?_control control, trailing, leading, Bool.false_eq_true, if_false,
    Char.ofNat_toNat]

/-- A character that needs no escape stands for itself. -/
theorem stringBody?_plain {c : Char} (visible : ¬ c.toNat < 0x20) (quote : c ≠ '"')
    (backslash : c ≠ '\\') (rest : List Char) :
    stringBody? (c :: rest) = (stringBody? rest).map fun (s, rest) => (c :: s, rest) := by
  have kept : ¬(c.toNat < 0x20 ∨ c = '\\') := by simp [visible, backslash]
  rw [stringBody?, if_neg kept]
  · exact quote
  · rintro _ _ _ _ _ rfl
    exact absurd rfl backslash
  · exact fun _ _ same => absurd same backslash

/-- One character is read back as it was written. -/
theorem stringBody?_escapeChar (c : Char) (rest : List Char) :
    stringBody? (escapeChar c ++ rest) =
      (stringBody? rest).map fun (s, rest) => (c :: s, rest) := by
  unfold escapeChar
  split
  all_goals try
    simp only [List.cons_append, List.nil_append]
    rw [stringBody?] <;> simp [escaped?]
  next quote backslash _ _ _ _ _ =>
    split
    next control => exact stringBody?_control control rest
    next visible =>
      refine stringBody?_plain visible ?_ ?_ rest
      · rintro rfl
        exact quote rfl
      · rintro rfl
        exact backslash rfl

/-- A string is read back from its escaped characters, up to the quote that ends it. -/
theorem stringBody?_flatMap_escapeChar (s rest : List Char) :
    stringBody? (s.flatMap escapeChar ++ '"' :: rest) = some (s, rest) := by
  induction s with
  | nil => exact stringBody?_quote rest
  | cons c s ih =>
    rw [List.flatMap_cons, List.append_assoc, stringBody?_escapeChar, ih]
    rfl

/-- A string is read back whatever follows it. -/
theorem string?_writeString (s : String) (rest : List Char) :
    string? (writeString s ++ rest) = some (s, rest) := by
  have text : writeString s ++ rest = '"' :: (s.toList.flatMap escapeChar ++ '"' :: rest) := by
    simp [writeString]
  rw [text, string?, stringBody?_flatMap_escapeChar]
  simp only [Option.map_some, String.ofList_toList]

/-! ## Integers -/

/-- What does not go on with a number. -/
def EndsNumber (rest : List Char) : Prop :=
  ∀ c ∈ rest.head?, c.isDigit = false ∧ c ≠ '.' ∧ c ≠ 'e' ∧ c ≠ 'E'

/-- A number ends with the text. -/
theorem endsNumber_nil : EndsNumber [] := by
  intro c mem
  cases mem

/-- A number ends with the line. -/
theorem endsNumber_newLine_append (level : Nat) (rest : List Char) :
    EndsNumber (newLine level ++ rest) := by
  intro c mem
  cases mem
  decide

/-- A number ends before a comma. -/
theorem endsNumber_comma (rest : List Char) : EndsNumber (',' :: rest) := by
  intro c mem
  cases mem
  decide

namespace Numeral

/-- Further digits make a number no smaller. -/
theorem le_ofDigitChars (ds : List Char) (word : Nat) : word ≤ Nat.ofDigitChars 10 ds word := by
  induction ds generalizing word with
  | nil => exact Nat.le_refl word
  | cons c ds ih =>
    rw [Nat.ofDigitChars_cons]
    have more := ih (10 * word + (c.toNat - '0'.toNat))
    omega

/-- Digits that fit are gathered to their value. -/
theorem gather_eq (ds : List Char) (word : Nat)
    (fits : Nat.ofDigitChars 10 ds word < wordLimit) :
    gather word ds = (Nat.ofDigitChars 10 ds word, ds.length) := by
  induction ds generalizing word with
  | nil => rfl
  | cons c ds ih =>
    rw [Nat.ofDigitChars_cons, Nat.mul_comm] at fits ⊢
    have next : word * 10 + (c.toNat - '0'.toNat) < wordLimit :=
      Nat.lt_of_le_of_lt (le_ofDigitChars ds _) fits
    simp only [gather, if_pos next, ih _ fits, List.length_cons]

/-- No number is written with a zero in front. -/
theorem toDigits_ne_zero_cons (n : Nat) (d : Char) (ds : List Char) :
    Nat.toDigits 10 n ≠ '0' :: d :: ds := by
  induction n using Nat.strongRecOn generalizing d ds with
  | ind n ih =>
    intro written
    by_cases small : n < 10
    · rw [Nat.toDigits_of_lt_base small] at written
      exact List.cons_ne_nil d ds (List.cons.inj written).2.symm
    · have cut := Nat.toDigits_of_base_le (by decide) (Nat.le_of_not_lt small)
      rw [written] at cut
      cases front : Nat.toDigits 10 (n / 10) with
      | nil => exact Nat.toDigits_ne_nil front
      | cons e es =>
        rw [front, List.cons_append, List.cons.injEq] at cut
        obtain ⟨rfl, -⟩ := cut
        cases es with
        | nil =>
          have zero := Nat.ofDigitChars_toDigits (b := 10) (n := n / 10) (by decide) (by decide)
          rw [front, Nat.ofDigitChars_cons, Nat.ofDigitChars_nil] at zero
          omega
        | cons e es => exact ih (n / 10) (by omega) e es front

/-- The digits of a number are cut from the head of a text. -/
theorem digits_toDigits {rest : List Char} (ends : EndsNumber rest) (n : Nat) :
    digits (Nat.toDigits 10 n ++ rest) = (Nat.toDigits 10 n, rest) := by
  have all : ∀ c ∈ Nat.toDigits 10 n, c.isDigit = true := fun c mem =>
    Nat.isDigit_of_mem_toDigits (by decide) (by decide) mem
  have stop : rest.takeWhile Char.isDigit = [] ∧ rest.dropWhile Char.isDigit = rest := by
    cases rest with
    | nil => exact ⟨rfl, rfl⟩
    | cons c rest => simp [(ends c rfl).1]
  rw [digits, List.takeWhile_append_of_pos all, List.dropWhile_append_of_pos all, stop.1, stop.2,
    List.append_nil]

/-- The digits of a number are read as its whole part. -/
theorem whole?_toDigits {rest : List Char} (ends : EndsNumber rest) (n : Nat) :
    whole? (Nat.toDigits 10 n ++ rest) = some (Nat.toDigits 10 n, rest) := by
  unfold whole?
  rw [digits_toDigits ends]
  split
  next empty => exact absurd (congrArg Prod.fst empty) Nat.toDigits_ne_nil
  next zero => exact absurd (congrArg Prod.fst zero) (toDigits_ne_zero_cons n _ _)
  next => rfl

/-- Where a number ends there is no fraction. -/
theorem fraction?_of_ends {rest : List Char} (ends : EndsNumber rest) :
    fraction? rest = some (none, rest) := by
  unfold fraction?
  split
  next => exact absurd rfl (ends '.' rfl).2.1
  next => rfl

/-- Where a number ends there is no power. -/
theorem power?_of_ends {rest : List Char} (ends : EndsNumber rest) :
    power? rest = some (none, rest) := by
  unfold power?
  split
  next c text =>
    obtain ⟨-, -, lower, upper⟩ := ends c rfl
    rw [if_neg (by simp [lower, upper])]
  next => rfl

/-- The digits of a number are a numeral without fraction and power. -/
theorem unsigned?_toDigits {rest : List Char} (ends : EndsNumber rest) (negative : Bool) (n : Nat) :
    unsigned? negative (Nat.toDigits 10 n ++ rest) =
      some (⟨negative, Nat.toDigits 10 n, none, none⟩, rest) := by
  simp [unsigned?, whole?_toDigits ends, fraction?_of_ends ends, power?_of_ends ends]

/-- An integer is cut out as its sign and its digits. -/
theorem cut?_write {rest : List Char} (ends : EndsNumber rest) (n : Int) :
    cut? (Text.Integer.write n ++ rest) =
      some (⟨decide (n < 0), Nat.toDigits 10 n.natAbs, none, none⟩, rest) := by
  by_cases negative : n < 0
  · rw [Text.Integer.write, if_pos negative, List.cons_append, cut?, unsigned?_toDigits ends]
    simp [negative]
  · rw [Text.Integer.write, if_neg negative]
    obtain ⟨d, ds, eq, digit⟩ := Text.Integer.exists_toDigits_eq_cons n.natAbs
    have read := unsigned?_toDigits ends false n.natAbs
    rw [eq] at read ⊢
    rw [List.cons_append] at read ⊢
    rw [cut?]
    · simpa [negative] using read
    · intro rest signed
      rw [(List.cons.inj signed).1] at digit
      exact absurd digit (by decide)

/-- A numeral without fraction and power stands for its integer, if that fits a word and is no zero
with a sign. -/
theorem value?_eq_integer {negative : Bool} {n : Nat} {number : Number}
    (integer : integer? negative n = some number) (small : n < wordLimit) :
    value? ⟨negative, Nat.toDigits 10 n, none, none⟩ = some number := by
  have back : Nat.ofDigitChars 10 (Nat.toDigits 10 n) 0 = n :=
    Nat.ofDigitChars_toDigits (by decide) (by decide)
  have gathered := gather_eq (Nat.toDigits 10 n) 0 (by rw [back]; exact small)
  simp only [value?, gathered, back, Nat.sub_self, if_true, integer]

end Numeral

/-- An integer that fits a word is read back whatever follows it. -/
theorem number?_write {n : Int} {rest : List Char} (ends : EndsNumber rest)
    (regular : (Number.integer n).Regular) :
    number? (Text.Integer.write n ++ rest) = some (.integer n, rest) := by
  simp only [Number.Regular, integerRange] at regular
  have integer : Numeral.integer? (decide (n < 0)) n.natAbs = some (.integer n) := by
    unfold Numeral.integer?
    by_cases negative : n < 0
    · have size : -(n.natAbs : Int) = n := by omega
      simp only [negative, decide_true, Bool.not_true, Bool.false_eq_true, if_false]
      rw [if_pos (by omega), size]
    · have size : (n.natAbs : Int) = n := by omega
      simp [negative, size]
  have small : n.natAbs < Numeral.wordLimit := by
    unfold Numeral.wordLimit
    omega
  simp [number?, Numeral.cut?_write ends, Numeral.value?_eq_integer integer small]

/-! ## Values -/

/-- A value is read back at a depth, on any level, whatever follows that does not go on with a
number, and with more fuel than its text is long. -/
def Value.ReadBack (depth : Nat) (v : Value) : Prop :=
  ∀ (level fuel : Nat) (rest : List Char), EndsNumber rest → (writeAt level v).length < fuel →
    value? fuel depth (writeAt level v ++ rest) = some (v, rest)

/-- A digit is not blank. -/
theorem isBlank_of_isDigit {c : Char} (digit : c.isDigit = true) : isBlank c = false := by
  rw [Bool.eq_false_iff]
  intro blank
  simp only [isBlank, Bool.or_eq_true, beq_iff_eq] at blank
  rcases blank with ((rfl | rfl) | rfl) | rfl <;> exact absurd digit (by decide)

/-- The text of a value starts with a character that is no blank and ends no container. -/
theorem exists_writeAt_eq_cons {v : Value} (integers : ∀ n ∈ v.numbers, n.isInteger = true)
    (level : Nat) :
    ∃ c text, writeAt level v = c :: text ∧ isBlank c = false ∧ c ≠ ']' := by
  cases v with
  | null => exact ⟨_, _, rfl, by decide⟩
  | bool b => cases b <;> exact ⟨_, _, rfl, by decide⟩
  | string s => exact ⟨_, _, rfl, by decide⟩
  | array items => cases items <;> exact ⟨_, _, rfl, by decide⟩
  | object members => cases members <;> exact ⟨_, _, rfl, by decide⟩
  | number n =>
    cases n with
    | real x => exact absurd (integers (.real x) List.mem_cons_self) Bool.false_ne_true
    | integer n =>
      rw [writeAt, Number.write, Text.Integer.write]
      split
      next => exact ⟨_, _, rfl, by decide⟩
      next =>
        obtain ⟨d, ds, eq, digit⟩ := Text.Integer.exists_toDigits_eq_cons n.natAbs
        refine ⟨d, ds, eq, isBlank_of_isDigit digit, ?_⟩
        rintro rfl
        exact absurd digit (by decide)

/-- A value is read the same at the start of a line. -/
theorem value?_newLine_append (fuel depth level : Nat) (text : List Char) :
    value? fuel depth (newLine level ++ text) = value? fuel depth text := by
  cases fuel with
  | zero => simp only [value?_zero]
  | succ fuel => rw [value?, value?, skipBlanks_newLine_append]

/-- A value is read the same after a blank. -/
theorem value?_blank (fuel depth : Nat) (text : List Char) :
    value? fuel depth (' ' :: text) = value? fuel depth text := by
  cases fuel with
  | zero => simp only [value?_zero]
  | succ fuel =>
    have blank : skipBlanks (' ' :: text) = skipBlanks text := List.dropWhile_cons_of_pos rfl
    rw [value?, value?, blank]

/-- So are the items of an array. -/
theorem items?_newLine_append (fuel depth level : Nat) (text : List Char) :
    items? fuel depth (newLine level ++ text) = items? fuel depth text := by
  cases fuel with
  | zero => simp only [items?_zero]
  | succ fuel => rw [items?, items?, value?_newLine_append]

/-- So are the members of an object. -/
theorem members?_newLine_append (fuel depth level : Nat) (text : List Char) :
    members? fuel depth (newLine level ++ text) = members? fuel depth text := by
  cases fuel with
  | zero => simp only [members?_zero]
  | succ fuel => rw [members?, members?, skipBlanks_newLine_append]

/-- Items are read back to the closing bracket, by induction on those that follow the first. -/
theorem items?_writeItems {depth : Nat} (level outer : Nat) (rest : List Char) {item : Value}
    {items : List Value} (back : ∀ v ∈ item :: items, v.ReadBack depth) (fuel : Nat)
    (enough : (writeAt level item).length + (writeItems level items).length + 1 < fuel) :
    items? fuel depth (writeAt level item ++ (writeItems level items ++
      (newLine outer ++ ']' :: rest))) = some (item :: items, rest) := by
  induction items generalizing item fuel with
  | nil =>
    obtain ⟨fuel, rfl⟩ := Nat.exists_eq_add_one_of_ne_zero (by omega : fuel ≠ 0)
    rw [writeItems, List.length_nil] at enough
    have first := back item List.mem_cons_self level fuel (newLine outer ++ ']' :: rest)
      (endsNumber_newLine_append _ _) (by omega)
    simp only [writeItems, List.nil_append, items?, first, skipBlanks_newLine_append]
    rw [skipBlanks_cons (by decide)]
    rfl
  | cons next items ih =>
    obtain ⟨fuel, rfl⟩ := Nat.exists_eq_add_one_of_ne_zero (by omega : fuel ≠ 0)
    simp only [writeItems, List.cons_append, List.length_cons, List.length_append] at enough
    have first := back item List.mem_cons_self level fuel
      (writeItems level (next :: items) ++ (newLine outer ++ ']' :: rest))
      (by rw [writeItems]; exact endsNumber_comma _) (by omega)
    have others := ih (fun v mem => back v (List.mem_cons_of_mem _ mem)) fuel (by omega)
    simp only [items?, first]
    simp only [writeItems, List.cons_append, List.append_assoc]
    rw [skipBlanks_cons (by decide)]
    simp only [items?_newLine_append, others, Option.map_some]

/-- Members are read back to the closing brace, by induction on those that follow the first. -/
theorem members?_writeMembers {depth : Nat} (level outer : Nat) (rest : List Char) {key : String}
    {value : Value} {members : List (String × Value)}
    (back : ∀ m ∈ (key, value) :: members, m.2.ReadBack depth) (fuel : Nat)
    (enough : (writeAt level value).length + (writeMembers level members).length + 1 < fuel) :
    members? fuel depth (writeString key ++ (':' :: ' ' :: (writeAt level value ++
      (writeMembers level members ++ (newLine outer ++ '\x7d' :: rest))))) =
        some ((key, value) :: members, rest) := by
  have quote : ∀ (key : String) (text : List Char),
      skipBlanks (writeString key ++ text) = writeString key ++ text := fun key text =>
    skipBlanks_cons (by decide) _
  induction members generalizing key value fuel with
  | nil =>
    obtain ⟨fuel, rfl⟩ := Nat.exists_eq_add_one_of_ne_zero (by omega : fuel ≠ 0)
    rw [writeMembers, List.length_nil] at enough
    have reads : value.ReadBack depth := back (key, value) List.mem_cons_self
    have first := reads level fuel (newLine outer ++ '\x7d' :: rest)
      (endsNumber_newLine_append _ _) (by omega)
    simp only [writeMembers, List.nil_append, members?, quote, string?_writeString]
    rw [skipBlanks_cons (by decide)]
    simp only [value?_blank, first, skipBlanks_newLine_append]
    rw [skipBlanks_cons (by decide)]
    rfl
  | cons next members ih =>
    obtain ⟨fuel, rfl⟩ := Nat.exists_eq_add_one_of_ne_zero (by omega : fuel ≠ 0)
    obtain ⟨nextKey, nextValue⟩ := next
    simp only [writeMembers, List.cons_append, List.length_cons, List.length_append] at enough
    have reads : value.ReadBack depth := back (key, value) List.mem_cons_self
    have first := reads level fuel
      (writeMembers level ((nextKey, nextValue) :: members) ++ (newLine outer ++ '\x7d' :: rest))
      (by rw [writeMembers]; exact endsNumber_comma _) (by omega)
    have others := ih
      (fun m mem => back m (List.mem_cons_of_mem _ mem)) fuel (by omega)
    simp only [members?, quote, string?_writeString]
    rw [skipBlanks_cons (by decide)]
    simp only [value?_blank, first]
    simp only [writeMembers, List.cons_append, List.append_assoc, List.nil_append]
    rw [skipBlanks_cons (by decide)]
    simp only [members?_newLine_append, others, Option.map_some]

/-- A value that is no literal and no container is a number. -/
theorem value?_of_digit {text : List Char} {c : Char} (sign : c.isDigit = true ∨ c = '-')
    (fuel depth : Nat) :
    value? (fuel + 1) depth (c :: text) =
      (number? (c :: text)).map fun (n, rest) => (.number n, rest) := by
  have solid : isBlank c = false := by
    rcases sign with digit | rfl
    · exact isBlank_of_isDigit digit
    · decide
  have apart : c ≠ 'n' ∧ c ≠ 't' ∧ c ≠ 'f' ∧ c ≠ '"' ∧ c ≠ '[' ∧ c ≠ '\x7b' := by
    rcases sign with digit | rfl
    · refine ⟨?_, ?_, ?_, ?_, ?_, ?_⟩ <;> rintro rfl <;> exact absurd digit (by decide)
    · decide
  rw [value?, skipBlanks_cons solid]
  split <;> simp_all

/-- After a bracket come the items of an array, or the bracket that closes it. -/
theorem value?_bracket (fuel depth : Nat) (text : List Char) :
    value? (fuel + 1) (depth + 1) ('[' :: text) =
      match skipBlanks text with
      | ']' :: rest => some (.array [], rest)
      | rest => (items? fuel depth rest).map fun (items, rest) => (.array items, rest) := by
  rw [value?, skipBlanks_cons (by decide)]
  rfl

/-- After a brace come the members of an object, or the brace that closes it. -/
theorem value?_brace (fuel depth : Nat) (text : List Char) :
    value? (fuel + 1) (depth + 1) ('\x7b' :: text) =
      match skipBlanks text with
      | '\x7d' :: rest => some (.object [], rest)
      | rest =>
        (members? fuel depth rest).map fun (members, rest) =>
          (.object (Object.ofList members), rest) := by
  rw [value?, skipBlanks_cons (by decide)]
  rfl

namespace Value

/-- The value without content is read back. -/
theorem readBack_null (depth : Nat) : ReadBack depth .null := by
  intro level fuel rest _ enough
  obtain ⟨fuel, rfl⟩ := Nat.exists_eq_add_one_of_ne_zero (by omega : fuel ≠ 0)
  simp [writeAt, value?, skipBlanks_cons (show isBlank 'n' = false by decide)]

/-- A truth value is read back. -/
theorem readBack_bool (depth : Nat) (b : Bool) : ReadBack depth (.bool b) := by
  intro level fuel rest _ enough
  obtain ⟨fuel, rfl⟩ := Nat.exists_eq_add_one_of_ne_zero (by omega : fuel ≠ 0)
  cases b with
  | false => simp [writeAt, value?, skipBlanks_cons (show isBlank 'f' = false by decide)]
  | true => simp [writeAt, value?, skipBlanks_cons (show isBlank 't' = false by decide)]

/-- A string is read back. -/
theorem readBack_string (depth : Nat) (s : String) : ReadBack depth (.string s) := by
  intro level fuel rest _ enough
  obtain ⟨fuel, rfl⟩ := Nat.exists_eq_add_one_of_ne_zero (by omega : fuel ≠ 0)
  have read := string?_writeString s rest
  simp only [writeAt, writeString, List.cons_append] at read ⊢
  rw [value?, skipBlanks_cons (by decide)]
  simp only [read, Option.map_some]

/-- An integer that fits a word is read back. -/
theorem readBack_integer {depth : Nat} {n : Int} (regular : (Number.integer n).Regular) :
    ReadBack depth (.number (.integer n)) := by
  intro level fuel rest ends enough
  obtain ⟨fuel, rfl⟩ := Nat.exists_eq_add_one_of_ne_zero (by omega : fuel ≠ 0)
  have read := number?_write ends regular
  have sign : ∃ c text, Text.Integer.write n = c :: text ∧ (c.isDigit = true ∨ c = '-') := by
    rw [Text.Integer.write]
    split
    next => exact ⟨_, _, rfl, .inr rfl⟩
    next =>
      obtain ⟨d, ds, eq, digit⟩ := Text.Integer.exists_toDigits_eq_cons n.natAbs
      exact ⟨d, ds, eq, .inl digit⟩
  obtain ⟨c, text, eq, sign⟩ := sign
  simp only [writeAt, Number.write, eq, List.cons_append] at read ⊢
  rw [value?_of_digit sign, read]
  rfl

/-- An array is read back one level below its items. -/
theorem readBack_array {depth : Nat} {items : List Value}
    (integers : ∀ v ∈ items, ∀ n ∈ v.numbers, n.isInteger = true)
    (back : ∀ v ∈ items, v.ReadBack depth) : ReadBack (depth + 1) (.array items) := by
  intro level fuel rest _ enough
  obtain ⟨fuel, rfl⟩ := Nat.exists_eq_add_one_of_ne_zero (by omega : fuel ≠ 0)
  cases items with
  | nil =>
    simp only [writeAt, List.cons_append, List.nil_append, value?_bracket]
    rw [skipBlanks_cons (by decide)]
    rfl
  | cons item items =>
    obtain ⟨c, text, eq, solid, apart⟩ :=
      exists_writeAt_eq_cons (integers item List.mem_cons_self) (level + 1)
    simp only [writeAt, List.cons_append, List.length_cons, List.length_append, List.length_nil]
      at enough
    have read := items?_writeItems (level + 1) level rest back fuel (by omega)
    simp only [writeAt, List.cons_append, List.append_assoc, List.nil_append]
    rw [value?_bracket, skipBlanks_newLine_append]
    rw [eq, List.cons_append] at read ⊢
    rw [skipBlanks_cons solid]
    split
    next closed => exact absurd (List.cons.inj closed).1 apart
    next => rw [read, Option.map_some]

/-- An object is read back one level below its members, whose names have to ascend. -/
theorem readBack_object {depth : Nat} {members : List (String × Value)}
    (ascending : Object.Ascending members) (back : ∀ m ∈ members, m.2.ReadBack depth) :
    ReadBack (depth + 1) (.object members) := by
  intro level fuel rest _ enough
  obtain ⟨fuel, rfl⟩ := Nat.exists_eq_add_one_of_ne_zero (by omega : fuel ≠ 0)
  cases members with
  | nil =>
    simp only [writeAt, List.cons_append, List.nil_append, value?_brace]
    rw [skipBlanks_cons (by decide)]
    rfl
  | cons m members =>
    obtain ⟨key, value⟩ := m
    simp only [writeAt, List.cons_append, List.length_cons, List.length_append, List.length_nil]
      at enough
    have read := members?_writeMembers (level + 1) level rest back fuel (by omega)
    simp only [writeAt, List.cons_append, List.append_assoc, List.nil_append]
    rw [value?_brace, skipBlanks_newLine_append]
    simp only [writeString, List.cons_append, List.append_assoc, List.nil_append] at read ⊢
    rw [skipBlanks_cons (by decide)]
    split
    next closed => exact absurd (List.cons.inj closed).1 (by decide)
    next => simp only [read, Option.map_some, Object.ofList_of_ascending ascending]

/-- A regular value whose numbers are integers is read back. The induction is on its nesting. -/
theorem Regular.readBack {depth : Nat} {v : Value} (regular : v.Regular depth)
    (integers : ∀ n ∈ v.numbers, n.isInteger = true) : v.ReadBack depth := by
  induction regular with
  | null depth => exact readBack_null depth
  | bool depth b => exact readBack_bool depth b
  | string depth s => exact readBack_string depth s
  | @number depth n regular =>
    cases n with
    | integer n => exact readBack_integer regular
    | real x => exact absurd (integers (.real x) List.mem_cons_self) Bool.false_ne_true
  | @array _ items _ ih =>
    have each : ∀ v ∈ items, ∀ n ∈ v.numbers, n.isInteger = true := fun v mem n inside =>
      integers n (mem_numbersOfItems.mpr ⟨v, mem, inside⟩)
    exact readBack_array each fun v mem => ih v mem (each v mem)
  | object ascending _ ih =>
    exact readBack_object ascending fun m mem => ih m mem fun n inside =>
      integers n (mem_numbersOfMembers.mpr ⟨m, mem, inside⟩)

end Value

/-- A regular value whose numbers are integers is what its text is read as. -/
theorem parse?_write {v : Value} (regular : v.Regular depthLimit)
    (integers : ∀ n ∈ v.numbers, n.isInteger = true) : parse? (write v) = some v := by
  have read := regular.readBack integers 0 ((writeAt 0 v).length + 1) [] endsNumber_nil
    (Nat.lt_succ_self _)
  rw [List.append_nil] at read
  rw [parse?, write, read]
  rfl

end EngineTokens.Json
