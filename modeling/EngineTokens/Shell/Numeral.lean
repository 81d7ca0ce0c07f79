import EngineTokens.Shell.Command

/-!
# Numbers in a script

A number is read from the beginning of a text: blanks, a sign and digits, where `0x` begins
hexadecimal digits and another `0` octal ones unless the base is fixed. What follows the number is
left. Numbers have sixty-four bits; one that does not fit counts as the nearest that does.
-/

set_option autoImplicit false

namespace EngineTokens.Shell

/-- The byte is a blank to the reader of numbers. -/
def isSpace (c : Char) : Bool := c == ' ' || ('\t' ≤ c && c ≤ '\x0d')

/-- The value of a digit in bases up to sixteen. -/
def digitValue? (c : Char) : Option Nat :=
  if c.isDigit then some (c.toNat - '0'.toNat)
  else if 'a' ≤ c && c ≤ 'f' then some (c.toNat - 'a'.toNat + 10)
  else if 'A' ≤ c && c ≤ 'F' then some (c.toNat - 'A'.toNat + 10)
  else none

/-- The byte is a digit in the given base. -/
def isDigitIn (base : Nat) (c : Char) : Bool :=
  match digitValue? c with
  | some n => n < base
  | none => false

/-- The number that digits in a base stand for. -/
def ofDigits (base : Nat) (digits : ByteText) : Nat :=
  digits.foldl (fun n c => n * base + (digitValue? c).getD 0) 0

/-- A number without a sign at the beginning of a text, and what follows it. Without a fixed base
the first digits decide. -/
def natural? (base : Option Nat) (text : ByteText) : Option (Nat × ByteText) :=
  let inBase (base : Nat) (text : ByteText) : Option (Nat × ByteText) :=
    match text.takeWhile (isDigitIn base) with
    | [] => none
    | digits => some (ofDigits base digits, text.drop digits.length)
  match base, text with
  | some base, text => inBase base text
  | none, '0' :: x :: rest =>
    if x = 'x' || x = 'X' then (inBase 16 rest).orElse fun _ => some (0, x :: rest)
    else inBase 8 text
  | none, text => inBase (if text.head? == some '0' then 8 else 10) text

/-- The sign at the beginning of a text, and what follows it. -/
def signOf (text : ByteText) : Bool × ByteText :=
  match text with
  | '-' :: rest => (true, rest)
  | '+' :: rest => (false, rest)
  | text => (false, text)

/-- A number at the beginning of a text, and what follows it; a text without one is left as it is. -/
def integerAt (base : Option Nat) (text : ByteText) : Option Int × ByteText :=
  let (negative, digits) := signOf (text.dropWhile isSpace)
  match natural? base digits with
  | some (n, rest) => (some (if negative then -(n : Int) else (n : Int)), rest)
  | none => (none, text)

/-- The number of values that a number can have. -/
def wordSize : Nat := 0x10000000000000000

/-- A number brought into range, as if only its last sixty-four bits had been kept. -/
def wrap (n : Int) : Int := Int.bmod n wordSize

/-- The least number. -/
def leastNumber : Int := -0x8000000000000000

/-- The greatest number. -/
def greatestNumber : Int := 0x7fffffffffffffff

/-- The nearest number in range. -/
def clamp (n : Int) : Int :=
  if n < leastNumber then leastNumber else if greatestNumber < n then greatestNumber else n

/-- The last sixty-four bits of a number, as a number without a sign. -/
def bitsOf (n : Int) : Nat := (n % (wordSize : Int)).toNat

/-- The number that a whole text stands for, if it fits; blanks may stand around it. An empty text
has no number unless the base is free. -/
def wholeNumber? (base : Option Nat) (text : ByteText) : Option Int :=
  match integerAt base text with
  | (some n, rest) =>
    if rest.all isSpace && clamp n == n then some n else none
  | (none, rest) => if base.isNone && rest.all isSpace then some 0 else none

/-- A number as digits, after a minus where it is negative. -/
def numberText (n : Int) : ByteText :=
  if n < 0 then '-' :: Nat.toDigits 10 n.natAbs else Nat.toDigits 10 n.natAbs

end EngineTokens.Shell
