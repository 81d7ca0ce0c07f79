import EngineTokens.Number.Double

/-!
# The fewest digits that identify a double

A decimal identifies a double if it lies in the interval of numbers that round to it. For one, two
and more digits in turn the two multiples of the power of ten next to the value are tried; the first
count with a hit is taken, and of two hits the one nearer to the value, the even one of two equally
near. Seventeen digits always suffice.
-/

set_option autoImplicit false

namespace EngineTokens.Number

/-- The decimal `digits * 10 ^ power`, without a sign. -/
structure Decimal where
  digits : Nat
  power : Int
  deriving DecidableEq, Repr

namespace Double

/-- The interval that rounds to a double other than zero, in quarters of its unit
`2 ^ (exponent - 2)`: its ends, and whether they belong to it. Below a mantissa of `2 ^ 52` the next
double is only half as far away, except where it is a smallest one. -/
def interval (x : Double) : Nat × Nat × Bool :=
  let low := if x.mantissa = Nat.pow 2 52 ∧ minExponent < x.exponent then 4 * x.mantissa - 1
    else 4 * x.mantissa - 2
  (low, 4 * x.mantissa + 2, x.mantissa % 2 == 0)

/-- The power of ten of the first digit of the ratio `num / den`, for a ratio of at least one. -/
def magnitude (num den : Nat) : Nat :=
  (Nat.toDigits 10 (num / den)).length - 1

/-- How many times a ratio below one has to be multiplied by ten to reach one, as far as `bound`
allows. -/
def shortfall : (bound : Nat) → (num den : Nat) → Nat
  | 0, _, _ => 0
  | bound + 1, num, den => if den ≤ num then 0 else shortfall bound (num * 10) den + 1

/-- The power of ten of the first digit of a double other than zero. -/
def decimalExponent (x : Double) : Int :=
  let (num, den) := x.ratio
  if den ≤ num then magnitude num den else -(shortfall 400 num den : Int)

/-- The multiple of `10 ^ power` that identifies a double, if one of the two next to its value
does. -/
def candidate? (x : Double) (power : Int) : Option Nat :=
  let (low, high, closed) := x.interval
  -- everything in units of `2 ^ (exponent - 2) * 10 ^ power`, over one denominator
  let scale := Nat.pow 2 (x.exponent - 2).toNat * Nat.pow 10 (-power).toNat
  let unit := Nat.pow 2 (2 - x.exponent).toNat * Nat.pow 10 power.toNat
  let value := 4 * x.mantissa * scale
  let k := value / unit
  let inside (n : Nat) : Bool :=
    if closed then low * scale ≤ n * unit && n * unit ≤ high * scale
    else low * scale < n * unit && n * unit < high * scale
  let below := value - k * unit
  let above := (k + 1) * unit - value
  if inside k && inside (k + 1) then
    some (if below < above then k else if above < below then k + 1 else k + k % 2)
  else if inside k then some k
  else if inside (k + 1) then some (k + 1)
  else none

/-- Tries one count of digits after another, from the power of ten `power` downwards. -/
def search (x : Double) : (bound : Nat) → (power : Int) → Decimal
  | 0, power => ⟨(x.candidate? power).getD 0, power⟩
  | bound + 1, power =>
    match x.candidate? power with
    | some digits => ⟨digits, power⟩
    | none => search x bound (power - 1)

/-- Moves zeros at the end of the digits into the power, as far as `bound` allows. -/
def stripZeros : (bound : Nat) → Decimal → Decimal
  | 0, d => d
  | bound + 1, d =>
    if d.digits ≠ 0 ∧ d.digits % 10 = 0 then stripZeros bound ⟨d.digits / 10, d.power + 1⟩ else d

/-- The fewest digits that identify a double other than zero. -/
def shortest (x : Double) : Decimal :=
  stripZeros 20 (search x 16 x.decimalExponent)

end Double

end EngineTokens.Number
