import EngineTokens.Shell.Numeral
import EngineTokens.Shell.Quoting

/-!
# Columns of lines

Some bytes or some fields of each line, as a list of positions such as `1,3-5` chooses them.
Positions begin at one, and a range may lack its first or its last position.
-/

set_option autoImplicit false

namespace EngineTokens.Shell

/-- Positions from one on; a range without a last one has no end. -/
structure Range where
  first : Nat
  last : Option Nat
  deriving DecidableEq, Repr

namespace Range

/-- The position belongs to the range. -/
def has (range : Range) (n : Nat) : Bool :=
  range.first ≤ n && match range.last with
    | some last => n ≤ last
    | none => true

end Range

/-- What is wrong with a list of positions. -/
inductive ListTrouble
  | zero
  | decreasing
  | noEndpoint
  | twoDashes
  | notANumber (text : ByteText)
  deriving DecidableEq, Repr

/-- How the trouble with a list of positions is told; `fields` tells that they are those of fields. -/
def ListTrouble.message (fields : Bool) : ListTrouble → ByteText
  | .zero =>
    ((if fields then "fields" else "byte/character positions") ++ " are numbered from 1").toList
  | .decreasing => "invalid decreasing range".toList
  | .noEndpoint => "invalid range with no endpoint: -".toList
  | .twoDashes =>
    (if fields then "invalid field range" else "invalid byte or character range").toList
  | .notANumber text =>
    (if fields then "invalid field value " else "invalid byte/character position ").toList ++
      quotedWord text

namespace Range

/-- Reads one part of a list, which begins at a position unless it lacks one. A dash was met where
`first` tells what stood before it. -/
def ofPart (rest : ByteText) (part : ByteText) : Except ListTrouble Range :=
  let before := part.takeWhile Char.isDigit
  let start := ofDigits 10 before
  match part.drop before.length with
  | [] => if start = 0 then .error .zero else .ok ⟨start, some start⟩
  | '-' :: after =>
    if !before.isEmpty && start = 0 then .error .zero
    else
      let first := if before.isEmpty then 1 else start
      let digits := after.takeWhile Char.isDigit
      match after.drop digits.length with
      | [] =>
        if digits.isEmpty then if before.isEmpty then .error .noEndpoint else .ok ⟨first, none⟩
        else
          let last := ofDigits 10 digits
          if last < first then .error .decreasing else .ok ⟨first, some last⟩
      | '-' :: _ => .error .twoDashes
      | other => .error (.notANumber (other ++ rest))
  | other => .error (.notANumber (other ++ rest))

/-- Reads a list of positions; commas and blanks part it. -/
def ofList : (fuel : Nat) → ByteText → Except ListTrouble (List Range)
  | 0, _ => .ok []
  | fuel + 1, text => do
    let isMark (c : Char) : Bool := c == ',' || c == ' ' || c == '\t'
    let part := text.takeWhile fun c => !isMark c
    let rest := text.drop part.length
    let range ← ofPart rest part
    match rest with
    | [] => return [range]
    | _ :: rest => return range :: (← ofList fuel rest)

end Range

/-- The pieces of a line, as many as the list of positions chooses. -/
def chosenFrom {α : Type} (ranges : List Range) (pieces : List α) : List α :=
  ((pieces.zipIdx 1).filter fun (_, n) => ranges.any (Range.has · n)).map Prod.fst

/-- The chosen fields of a line; a line without the mark stays as it is, or is dropped. -/
def fieldsOf? (mark : Char) (ranges : List Range) (onlyMarked : Bool) (line : ByteText) :
    Option ByteText :=
  if line.contains mark then
    some ([mark].intercalate (chosenFrom ranges (piecesAt mark line)))
  else if onlyMarked then none else some line

end EngineTokens.Shell
