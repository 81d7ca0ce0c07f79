import EngineTokens.Json.Value
import EngineTokens.Number.Shortest
import EngineTokens.Text.Integer

/-!
# JSON numbers as text

Reading goes in two steps: the text is cut into its digits and its power of ten, and these are given
a value. Digits are gathered into a word of sixty-four bits as long as they fit; the rest of the
integer digits only raise the power, and the rest of the fraction digits are dropped. The word is
rounded to a double and then multiplied or divided by the power of ten in one step, so the result is
not always the double nearest to what is written.

Integers are written by their digits, and all other numbers by the fewest digits that identify the
double: positionally from `10 ^ -5` up to below `10 ^ 16`, with at least one digit after the point,
and otherwise with an exponent that always has a sign.
-/

set_option autoImplicit false

namespace EngineTokens.Json

/-- A number as it is written. -/
structure Numeral where
  negative : Bool
  /-- The digits before the point. -/
  whole : List Char
  /-- The digits after the point, if there is a point. -/
  fraction : Option (List Char)
  /-- The power of ten, if one is written. -/
  power : Option Int
  deriving DecidableEq, Repr

namespace Numeral

/-- The digits at the head of a text, and what follows them. -/
def digits (text : List Char) : List Char × List Char :=
  (text.takeWhile Char.isDigit, text.dropWhile Char.isDigit)

/-- The digits before the point: a lone zero, or digits that do not start with one. -/
def whole? (text : List Char) : Option (List Char × List Char) :=
  match digits text with
  | ([], _) => none
  | ('0' :: _ :: _, _) => none
  | cut => some cut

/-- The point and at least one digit after it, or nothing. -/
def fraction? : List Char → Option (Option (List Char) × List Char)
  | '.' :: text =>
    match digits text with
    | ([], _) => none
    | (ds, rest) => some (some ds, rest)
  | text => some (none, text)

/-- The digits of a power of ten, with its sign in front. -/
def powerDigits? (sign : Int) (text : List Char) : Option (Option Int × List Char) :=
  match digits text with
  | ([], _) => none
  | (ds, rest) => some (some (sign * Nat.ofDigitChars 10 ds 0), rest)

/-- The letter `e` and a power of ten, or nothing. -/
def power? : List Char → Option (Option Int × List Char)
  | c :: text =>
    if c = 'e' ∨ c = 'E' then
      match text with
      | '+' :: text => powerDigits? 1 text
      | '-' :: text => powerDigits? (-1) text
      | text => powerDigits? 1 text
    else some (none, c :: text)
  | [] => some (none, [])

/-- Cuts a number without its sign from the head of a text. -/
def unsigned? (negative : Bool) (text : List Char) : Option (Numeral × List Char) := do
  let (whole, text) ← whole? text
  let (fraction, text) ← fraction? text
  let (power, text) ← power? text
  return (⟨negative, whole, fraction, power⟩, text)

/-- Cuts a number from the head of a text. -/
def cut? : List Char → Option (Numeral × List Char)
  | '-' :: text => unsigned? true text
  | text => unsigned? false text

/-- The size of the word in which digits are gathered. -/
def wordLimit : Nat := 0x10000000000000000

/-- Gathers digits into a word as long as they fit; also how many did. -/
def gather (word : Nat) : List Char → Nat × Nat
  | [] => (word, 0)
  | c :: rest =>
    let next := word * 10 + (c.toNat - '0'.toNat)
    if next < wordLimit then
      let (result, count) := gather next rest
      (result, count + 1)
    else (word, 0)

/-- The largest power of ten that is a double. -/
def maxPower : Nat := 308

/-- Divides a double by a power of ten, in one step as far as that power is a double. -/
def scaleDown : (rounds : Nat) → Number.Double → (power : Nat) → Option Number.Double
  | 0, x, _ => some (.zero x.negative)
  | rounds + 1, x, power => do
    if x.mantissa = 0 then return x
    let ten ← Number.Double.ofNat? false (Nat.pow 10 (min power maxPower))
    let y ← x.over? ten
    if power ≤ maxPower then return y else scaleDown rounds y (power - maxPower)

/-- The double `word * 10 ^ power`, rounded at each step; none if it is too large. -/
def scaled? (negative : Bool) (word : Nat) (power : Int) : Option Number.Double := do
  let x ← Number.Double.ofNat? negative word
  if power < 0 then scaleDown 4 x power.natAbs
  else if x.mantissa = 0 then return x
  else if (maxPower : Int) < power then none
  else
    let ten ← Number.Double.ofNat? false (Nat.pow 10 power.toNat)
    x.times? ten

/-- The number an integer numeral stands for, unless it is too large for a word. Zero with a sign is
no integer. -/
def integer? (negative : Bool) (word : Nat) : Option Number :=
  if !negative then some (.integer word)
  else if word ≠ 0 ∧ word ≤ 0x8000000000000000 then some (.integer (-(word : Int)))
  else none

/-- The value of a number as it is written; none if it is too large for a double. -/
def value? (n : Numeral) : Option Number :=
  let (word, taken) := gather 0 n.whole
  let excess := n.whole.length - taken
  match n.fraction, n.power with
  | none, none =>
    match (if excess = 0 then integer? n.negative word else none) with
    | some number => some number
    | none => (scaled? n.negative word excess).map .real
  | _, _ =>
    let (word, places) := gather word (n.fraction.getD [])
    (scaled? n.negative word (excess - places + n.power.getD 0)).map .real

end Numeral

/-- The least and the largest power of ten of the first digit that is written positionally. -/
def positional : Int × Int := (-5, 15)

/-- Digits with the point where the power of ten of the first digit puts it. -/
def layoutDigits (digits : List Char) (exponent : Int) : List Char :=
  if positional.1 ≤ exponent ∧ exponent ≤ positional.2 then
    if exponent < 0 then
      ['0', '.'] ++ List.replicate ((-exponent).toNat - 1) '0' ++ digits
    else
      let whole := exponent.toNat + 1
      let padded := digits ++ List.replicate (whole - digits.length) '0'
      let fraction := padded.drop whole
      padded.take whole ++ '.' :: (if fraction = [] then ['0'] else fraction)
  else
    let rest := digits.drop 1
    digits.take 1 ++ (if rest = [] then [] else '.' :: rest) ++
      'e' :: (if exponent < 0 then '-' else '+') :: Nat.toDigits 10 exponent.natAbs

/-- A double as text. -/
def writeDouble (x : Number.Double) : List Char :=
  let sign := if x.negative then ['-'] else []
  if x.mantissa = 0 then sign ++ ['0', '.', '0']
  else
    let decimal := x.shortest
    let digits := Nat.toDigits 10 decimal.digits
    sign ++ layoutDigits digits (decimal.power + (digits.length - 1 : Nat))

/-- A number as text. -/
def Number.write : Number → List Char
  | .integer n => Text.Integer.write n
  | .real x => writeDouble x

end EngineTokens.Json
