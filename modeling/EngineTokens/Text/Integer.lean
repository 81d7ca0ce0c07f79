/-!
# Integers in decimal

An integer is written as its digits after a `-` where it is negative, and read from an optional sign
and one or more digits. `Integer.read?_write` says that reading undoes writing.
-/

set_option autoImplicit false

namespace EngineTokens.Text.Integer

/-- The digits of `n`, after a `-` where `n` is negative. -/
def write (n : Int) : List Char :=
  if n < 0 then '-' :: Nat.toDigits 10 n.natAbs else Nat.toDigits 10 n.natAbs

/-- One or more ASCII digits, read as a number. -/
def readDigits? (digits : List Char) : Option Nat :=
  if digits ≠ [] ∧ digits.all Char.isDigit then some (Nat.ofDigitChars 10 digits 0) else none

/-- Reads an optional sign followed by one or more digits, and nothing else. -/
def read? : List Char → Option Int
  | '-' :: digits => (readDigits? digits).map fun (n : Nat) => -(n : Int)
  | '+' :: digits => (readDigits? digits).map fun (n : Nat) => (n : Int)
  | digits => (readDigits? digits).map fun (n : Nat) => (n : Int)

/-- Reads an integer between `low` and `high`. -/
def readWithin? (low high : Int) (text : List Char) : Option Int :=
  (read? text).filter fun n => low ≤ n && n ≤ high

/-- The digits of a number are read as that number. -/
theorem readDigits?_toDigits (n : Nat) : readDigits? (Nat.toDigits 10 n) = some n := by
  have all : (Nat.toDigits 10 n).all Char.isDigit = true := by
    rw [List.all_eq_true]
    intro c hc
    exact Nat.isDigit_of_mem_toDigits (by decide) (by decide) hc
  simp [readDigits?, all, Nat.ofDigitChars_toDigits]

/-- The first character of a number's digits is a digit, so it is no sign. -/
theorem exists_toDigits_eq_cons (n : Nat) :
    ∃ d rest, Nat.toDigits 10 n = d :: rest ∧ d.isDigit = true := by
  cases h : Nat.toDigits 10 n with
  | nil => exact absurd h Nat.toDigits_ne_nil
  | cons d rest =>
    refine ⟨d, rest, rfl, ?_⟩
    exact Nat.isDigit_of_mem_toDigits (by decide) (by decide) (h ▸ List.mem_cons_self)

/-- Digits without a sign are read as their number. -/
theorem read?_toDigits (n : Nat) : read? (Nat.toDigits 10 n) = some (n : Int) := by
  obtain ⟨d, rest, eq, digit⟩ := exists_toDigits_eq_cons n
  have back := readDigits?_toDigits n
  rw [eq] at back ⊢
  have minus : d ≠ '-' := by rintro rfl; simp at digit
  have plus : d ≠ '+' := by rintro rfl; simp at digit
  simp [read?, minus, plus, back]

/-- Reading undoes writing. -/
theorem read?_write (n : Int) : read? (write n) = some n := by
  by_cases h : n < 0
  · have size : -(n.natAbs : Int) = n := by omega
    simp only [write, if_pos h, read?, readDigits?_toDigits, Option.map_some, size]
  · have size : (n.natAbs : Int) = n := by omega
    simp only [write, if_neg h, read?_toDigits, size]

/-- An integer is written as Lean shows it. -/
theorem ofList_write (n : Int) : String.ofList (write n) = toString n := by
  cases n with
  | ofNat m =>
    have plain : ¬ Int.ofNat m < 0 := Int.not_lt.mpr (Int.natCast_nonneg m)
    rw [write, if_neg plain]
    rfl
  | negSucc m =>
    rw [write, if_pos (by omega)]
    change String.ofList ('-' :: Nat.toDigits 10 (m + 1)) =
      "-" ++ String.ofList (Nat.toDigits 10 (m + 1))
    apply String.toList_injective
    simp

end EngineTokens.Text.Integer
