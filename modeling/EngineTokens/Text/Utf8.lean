/-!
# UTF-8 with replacement of what is ill-formed

Text is written as UTF-8, and bytes are read one at a time by a machine that knows how many more
bytes the character in hand needs and between which bounds the next one lies. A byte outside those
bounds ends the character in hand as one ill-formed piece and is then read afresh, so each maximal
ill-formed beginning of a character counts once.

`decode?` refuses bytes with an ill-formed piece; `lossy` writes U+FFFD for each.
-/

set_option autoImplicit false

namespace EngineTokens.Text.Utf8

/-- The bytes of a text. -/
def encode (text : List Char) : List UInt8 :=
  text.flatMap String.utf8EncodeChar

/-- Where the reader stands inside a character: `more` bytes are still owed, the next of them
between `low` and `high`, and `value` is what the bytes so far contribute. -/
structure Owed where
  more : Nat
  low : UInt8
  high : UInt8
  value : Nat
  deriving DecidableEq, Repr

/-- What a byte between two characters begins. -/
inductive Lead
  /-- A character of one byte. -/
  | whole (c : Char)
  /-- A character that owes more bytes. -/
  | owes (state : Owed)
  /-- No character. -/
  | none
  deriving DecidableEq, Repr

/-- The beginning that `b` makes, with the bounds that rule out long forms, surrogates and values
above U+10FFFF. -/
def lead (b : UInt8) : Lead :=
  let n := b.toNat
  if n < 0x80 then .whole (Char.ofNat n)
  else if n < 0xC2 then .none
  else if n < 0xE0 then .owes ⟨1, 0x80, 0xBF, n - 0xC0⟩
  else if n == 0xE0 then .owes ⟨2, 0xA0, 0xBF, 0⟩
  else if n == 0xED then .owes ⟨2, 0x80, 0x9F, 0xD⟩
  else if n < 0xF0 then .owes ⟨2, 0x80, 0xBF, n - 0xE0⟩
  else if n == 0xF0 then .owes ⟨3, 0x90, 0xBF, 0⟩
  else if n < 0xF4 then .owes ⟨3, 0x80, 0xBF, n - 0xF0⟩
  else if n == 0xF4 then .owes ⟨3, 0x80, 0x8F, 4⟩
  else .none

/-- One byte between two characters: the pieces it completes and where the reader stands after. -/
def start (b : UInt8) : List (Option Char) × Option Owed :=
  match lead b with
  | .whole c => ([some c], none)
  | .owes state => ([], some state)
  | .none => ([none], none)

/-- One byte, wherever the reader stands. A byte that the character in hand cannot take ends that
character as an ill-formed piece. -/
def step : Option Owed → UInt8 → List (Option Char) × Option Owed
  | none, b => start b
  | some s, b =>
    if s.low ≤ b && b ≤ s.high then
      let value := s.value * 64 + (b.toNat - 0x80)
      if s.more ≤ 1 then ([some (Char.ofNat value)], none)
      else ([], some ⟨s.more - 1, 0x80, 0xBF, value⟩)
    else
      let (pieces, state) := start b
      (none :: pieces, state)

/-- The pieces of a byte sequence from a given standing: a character each, or `none` for an
ill-formed one; `before` holds those that came before, the last one first. Bytes that end inside a
character end with an ill-formed piece. -/
def piecesFrom (before : List (Option Char)) : Option Owed → List UInt8 → List (Option Char)
  | none, [] => before.reverse
  | some _, [] => (none :: before).reverse
  | state, b :: rest =>
    let (pieces, next) := step state b
    piecesFrom (pieces.reverse ++ before) next rest

/-- The pieces of a byte sequence. -/
def pieces (bytes : List UInt8) : List (Option Char) :=
  piecesFrom [] none bytes

/-- What stands for an ill-formed piece, U+FFFD. -/
def replacement : Char := '\uFFFD'

/-- Reads bytes as text, writing the replacement character for each ill-formed piece. -/
def lossy (bytes : List UInt8) : List Char :=
  (pieces bytes).map fun piece => piece.getD replacement

/-- Collects the pieces where none is ill-formed; `text` holds the characters before, the last one
first. -/
def wholeFrom? (text : List Char) : List (Option Char) → Option (List Char)
  | [] => some text.reverse
  | none :: _ => none
  | some c :: rest => wholeFrom? (c :: text) rest

/-- Reads bytes as text where all of them are well-formed. -/
def decode? (bytes : List UInt8) : Option (List Char) :=
  wholeFrom? [] (pieces bytes)

end EngineTokens.Text.Utf8
