import Mathlib.Data.List.DropRight
import Mathlib.Data.Nat.Digits.Defs
import EngineTokens.Text.Blank
import EngineTokens.Text.Integer

/-!
# What numbers a text stands for

An integer stands in a text as an optional sign and one or more decimal digits, with leading zeros
or without (`Denotes`). The reader accepts these texts and no others, and reads their integers
(`read?_eq_some_iff`). With the blanks cut off first, it reads the number that stands between blanks
(`read?_trim_eq_some_iff`).
-/

set_option autoImplicit false

namespace EngineTokens.Text

/-! ## Between blanks -/

/-- The text is the word, with blanks before and after it or without. -/
def Padded (text word : List Char) : Prop :=
  ∃ before after, text = before ++ word ++ after ∧
    (∀ c ∈ before, isBlank c = true) ∧ ∀ c ∈ after, isBlank c = true

/-- A text is its trimmed form with blanks around it. -/
theorem padded_trim (text : List Char) : Padded text (trim text) := by
  refine ⟨text.takeWhile isBlank, (text.dropWhile isBlank).rtakeWhile isBlank, ?_,
    fun _ => List.mem_takeWhile_imp, fun _ => List.mem_rtakeWhile_imp⟩
  have back : trim text ++ (text.dropWhile isBlank).rtakeWhile isBlank = text.dropWhile isBlank :=
    List.rdropWhile_append_rtakeWhile ..
  rw [List.append_assoc, back, List.takeWhile_append_dropWhile]

/-- Nothing is dropped from a word without blanks. -/
theorem dropWhile_isBlank {word : List Char} (solid : ∀ c ∈ word, isBlank c = false) :
    word.dropWhile isBlank = word := by
  refine List.dropWhile_eq_self_iff.mpr fun filled blank => ?_
  rw [solid _ (List.getElem_mem filled)] at blank
  cases blank

/-- Blanks are cut off up to a word without blanks. -/
theorem Padded.trim_eq {text word : List Char} (padded : Padded text word)
    (solid : ∀ c ∈ word, isBlank c = false) : trim text = word := by
  obtain ⟨before, after, rfl, left, right⟩ := padded
  rw [trim, List.append_assoc, List.dropWhile_append_of_pos left, List.dropWhile_append,
    dropWhile_isBlank solid]
  cases word with
  | nil =>
    -- With nothing in between, the first cut already takes the blanks on both sides.
    rw [List.dropWhile_eq_nil_iff.mpr right]
    rfl
  | cons c word =>
    have behind : ∀ c ∈ after.reverse, isBlank c = true := fun c mem =>
      right c (List.mem_reverse.mp mem)
    have inside : ∀ d ∈ (c :: word).reverse, isBlank d = false := fun d mem =>
      solid d (List.mem_reverse.mp mem)
    rw [List.isEmpty_cons, if_neg Bool.false_ne_true, List.reverse_append,
      List.dropWhile_append_of_pos behind, dropWhile_isBlank inside, List.reverse_reverse]

namespace Integer

/-! ## Digits and signs -/

/-- The number that decimal digits denote. -/
def valueOf (digits : List Char) : Nat :=
  Nat.ofDigits 10 (digits.reverse.map fun c => c.toNat - '0'.toNat)

/-- A word of one or more decimal digits. -/
structure IsDigits (word : List Char) : Prop where
  filled : word ≠ []
  digits : ∀ c ∈ word, c.isDigit = true

/-- A word denotes an integer: it is an optional sign and decimal digits. -/
inductive Denotes : List Char → Int → Prop
  | unsigned {digits : List Char} (digital : IsDigits digits) : Denotes digits (valueOf digits)
  | plus {digits : List Char} (digital : IsDigits digits) :
      Denotes ('+' :: digits) (valueOf digits)
  | minus {digits : List Char} (digital : IsDigits digits) :
      Denotes ('-' :: digits) (-valueOf digits)

/-- The library reads digits as the value that is defined here. -/
theorem ofDigitChars_eq_valueOf (digits : List Char) :
    Nat.ofDigitChars 10 digits 0 = valueOf digits := by
  induction digits with
  | nil => rfl
  | cons c digits ih =>
    rw [Nat.ofDigitChars_cons, Nat.ofDigitChars_eq_ofDigitChars_zero, ih, valueOf, valueOf,
      List.map_reverse, List.map_reverse, List.map_cons, Nat.ofDigits_reverse_cons, List.length_map,
      Nat.mul_zero, Nat.zero_add, Nat.add_comm]

/-- Exactly the words of digits are read, as their values. -/
theorem readDigits?_eq_some_iff {word : List Char} {n : Nat} :
    readDigits? word = some n ↔ IsDigits word ∧ valueOf word = n := by
  have digital : (word ≠ [] ∧ word.all Char.isDigit) ↔ IsDigits word := by
    rw [List.all_eq_true]
    exact ⟨fun ⟨filled, digits⟩ => ⟨filled, digits⟩, fun ⟨filled, digits⟩ => ⟨filled, digits⟩⟩
  rw [readDigits?, ofDigitChars_eq_valueOf]
  split
  next all => simp [digital.mp all]
  next some => simp [mt digital.mpr some]

/-- Digits begin with a digit, so with no sign. -/
theorem read?_of_isDigits {word : List Char} (digital : IsDigits word) :
    read? word = some (valueOf word : Int) := by
  have reads : (readDigits? word).map (fun (n : Nat) => (n : Int)) = some (valueOf word : Int) := by
    rw [readDigits?_eq_some_iff.mpr ⟨digital, rfl⟩]
    rfl
  unfold read?
  split
  next => exact absurd (digital.digits '-' List.mem_cons_self) (by decide)
  next => exact absurd (digital.digits '+' List.mem_cons_self) (by decide)
  next => exact reads

/-- The reader accepts the words that denote an integer, and reads that integer. -/
theorem read?_eq_some_iff {word : List Char} {n : Int} :
    read? word = some n ↔ Denotes word n := by
  constructor
  · intro reads
    unfold read? at reads
    split at reads <;> obtain ⟨size, digits, rfl⟩ := Option.map_eq_some_iff.mp reads <;>
      obtain ⟨digital, rfl⟩ := readDigits?_eq_some_iff.mp digits
    · exact .minus digital
    · exact .plus digital
    · exact .unsigned digital
  · intro denotes
    cases denotes with
    | unsigned digital => exact read?_of_isDigits digital
    | plus digital | minus digital =>
      rw [read?, readDigits?_eq_some_iff.mpr ⟨digital, rfl⟩]
      rfl

/-- A digit is not blank. -/
theorem isBlank_of_isDigit {c : Char} (digit : c.isDigit = true) : isBlank c = false := by
  simp only [Char.isDigit, Bool.and_eq_true, decide_eq_true_eq, UInt32.le_iff_toNat_le] at digit
  have low : 48 ≤ c.toNat := digit.1
  have high : c.toNat ≤ 57 := digit.2
  simp only [isBlank, Bool.or_eq_false_iff, Bool.and_eq_false_iff, decide_eq_false_iff_not,
    beq_eq_false_iff_ne]
  omega

/-- A word for a number has no blanks. -/
theorem Denotes.isBlank_eq_false {word : List Char} {n : Int} (denotes : Denotes word n) :
    ∀ c ∈ word, isBlank c = false := by
  cases denotes with
  | unsigned digital => exact fun c mem => isBlank_of_isDigit (digital.digits c mem)
  | plus digital | minus digital =>
    rw [List.forall_mem_cons]
    exact ⟨by decide, fun c mem => isBlank_of_isDigit (digital.digits c mem)⟩

/-- With the blanks cut off, the reader reads the number that stands between blanks. -/
theorem read?_trim_eq_some_iff {text : List Char} {n : Int} :
    read? (trim text) = some n ↔ ∃ word, Padded text word ∧ Denotes word n := by
  rw [read?_eq_some_iff]
  constructor
  · exact fun denotes => ⟨trim text, padded_trim text, denotes⟩
  · rintro ⟨word, padded, denotes⟩
    rwa [padded.trim_eq denotes.isBlank_eq_false]

end Integer

end EngineTokens.Text
