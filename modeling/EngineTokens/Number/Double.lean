/-!
# Doubles in exact arithmetic

A finite number of the 64-bit binary format is a sign, a mantissa below `2 ^ 53` and a power of two.
Every operation here computes the exact result as a ratio of natural numbers and then rounds it
once, to the nearest double and to the even mantissa of two equally near ones.
-/

set_option autoImplicit false

namespace EngineTokens.Number

/-- The finite double `± mantissa * 2 ^ exponent`. -/
structure Double where
  negative : Bool
  mantissa : Nat
  exponent : Int
  deriving DecidableEq, Repr

namespace Double

/-- The power of two of the smallest doubles. -/
def minExponent : Int := -1074

/-- The power of two of the largest doubles. -/
def maxExponent : Int := 971

/-- A zero of the given sign. -/
def zero (negative : Bool) : Double :=
  ⟨negative, 0, minExponent⟩

/-- The value without its sign, as a ratio. -/
def ratio (x : Double) : Nat × Nat :=
  (x.mantissa * Nat.pow 2 x.exponent.toNat, Nat.pow 2 (-x.exponent).toNat)

/-- The ratio `num / den` in units of `2 ^ exponent`, rounded to the nearest integer and to the even
one of two equally near. -/
def roundAt (num den : Nat) (exponent : Int) : Nat :=
  let n := num * Nat.pow 2 (-exponent).toNat
  let d := den * Nat.pow 2 exponent.toNat
  let q := n / d
  let twice := 2 * (n % d)
  if twice < d then q
  else if d < twice then q + 1
  else q + q % 2

/-- The power of two at which a positive ratio has a mantissa of fifty-three bits, or the least one
if it is smaller than that allows. -/
def exponentFor (num den : Nat) : Int :=
  let guess : Int := max ((Nat.log2 num : Int) - (Nat.log2 den : Int) - 53) minExponent
  if Nat.pow 2 53 * (den * Nat.pow 2 guess.toNat) ≤ num * Nat.pow 2 (-guess).toNat then guess + 1
  else guess

/-- The double nearest to the ratio `num / den`, unless that is too large for a double. -/
def ofRatio? (negative : Bool) (num den : Nat) : Option Double :=
  if num = 0 then some (zero negative)
  else
    let exponent := exponentFor num den
    let mantissa := roundAt num den exponent
    let x : Double :=
      if mantissa = Nat.pow 2 53 then ⟨negative, Nat.pow 2 52, exponent + 1⟩
      else ⟨negative, mantissa, exponent⟩
    if maxExponent < x.exponent then none else some x

/-- The double nearest to a natural number, unless that is too large for a double. -/
def ofNat? (negative : Bool) (n : Nat) : Option Double :=
  ofRatio? negative n 1

/-- The product, rounded, with the sign of the first factor. -/
def times? (x y : Double) : Option Double :=
  let (a, b) := x.ratio
  let (c, d) := y.ratio
  ofRatio? x.negative (a * c) (b * d)

/-- The quotient by a double other than zero, rounded, with the sign of the dividend. -/
def over? (x y : Double) : Option Double :=
  let (a, b) := x.ratio
  let (c, d) := y.ratio
  ofRatio? x.negative (a * d) (b * c)

end Double

end EngineTokens.Number
