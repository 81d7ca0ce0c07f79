import EngineTokens.Shell.Numeral

/-!
# The order of lines

Lines are compared by keys: parts of them, each read as bytes or as a number. Lines with equal keys
are compared as a whole at last, unless their order is to stay.
-/

set_option autoImplicit false

namespace EngineTokens.Shell

/-- How two keys are compared. -/
structure Comparing where
  numeric : Bool := false
  /-- Small letters count as great ones. -/
  folded : Bool := false
  /-- Only letters, digits and blanks count. -/
  dictionary : Bool := false
  /-- Blanks before the key do not belong to it. -/
  trimmed : Bool := false
  reversed : Bool := false
  deriving DecidableEq, Repr

/-- A place in a line: a number of fields are passed over, and then a number of bytes. -/
structure KeyPlace where
  fields : Nat
  bytes : Nat
  deriving DecidableEq, Repr

/-- A part of a line by which lines are compared. -/
structure Key where
  start : KeyPlace := ⟨0, 0⟩
  /-- The end; without bytes it is that of the field. -/
  stop : Option KeyPlace := none
  comparing : Comparing := {}
  deriving DecidableEq, Repr

namespace Key

/-- The byte is a blank between fields. -/
def isBlank (c : Char) : Bool := c == ' ' || c == '\t' || c == '\n'

/-- The number of bytes that some fields take, each with the blanks before it or the mark after it;
the mark after the last belongs to it if `marked` holds. -/
def fieldsSize (mark : Option Char) (marked : Bool) : (fields : Nat) → ByteText → Nat
  | 0, _ => 0
  | fields + 1, line =>
    let blanks := if mark.isSome then 0 else (line.takeWhile isBlank).length
    let isWithin (c : Char) : Bool :=
      match mark with
      | some mark => c != mark
      | none => !isBlank c
    let size := blanks + ((line.drop blanks).takeWhile isWithin).length
    let isMarked := mark.isSome && size < line.length && (fields != 0 || marked)
    let size := if isMarked then size + 1 else size
    if size = 0 && line.isEmpty then 0
    else size + fieldsSize mark marked fields (line.drop size)

/-- Where a key begins in a line. -/
def startIn (key : Key) (mark : Option Char) (line : ByteText) : Nat :=
  let size := fieldsSize mark true key.start.fields line
  let blanks :=
    if key.comparing.trimmed then ((line.drop size).takeWhile isBlank).length else 0
  min line.length (size + blanks + key.start.bytes)

/-- Where a key ends in a line. -/
def stopIn (key : Key) (mark : Option Char) (line : ByteText) : Nat :=
  match key.stop with
  | none => line.length
  | some ⟨fields, 0⟩ => fieldsSize mark false (fields + 1) line
  | some ⟨fields, bytes⟩ =>
    let size := fieldsSize mark true fields line
    let blanks :=
      if key.comparing.trimmed then ((line.drop size).takeWhile isBlank).length else 0
    min line.length (size + blanks + bytes)

/-- The key of a line. -/
def of (key : Key) (mark : Option Char) (line : ByteText) : ByteText :=
  let start := key.startIn mark line
  (line.drop start).take (key.stopIn mark line - start)

end Key

namespace Comparing

/-- The number at the beginning of a text: its digits as a whole number, and how many of them stand
behind the point. -/
def numberAt (text : ByteText) : Int × Nat :=
  let text := text.dropWhile Key.isBlank
  let (negative, digits) : Bool × ByteText :=
    match text with
    | '-' :: rest => (true, rest)
    | rest => (false, rest)
  let whole := digits.takeWhile Char.isDigit
  let fraction :=
    match digits.drop whole.length with
    | '.' :: rest => rest.takeWhile Char.isDigit
    | _ => []
  let n : Int := ofDigits 10 (whole ++ fraction)
  (if negative then -n else n, fraction.length)

/-- The order of two bytes texts. -/
def compareBytes : ByteText → ByteText → Ordering
  | [], [] => .eq
  | [], _ => .lt
  | _, [] => .gt
  | c :: rest, d :: other =>
    if c < d then .lt else if d < c then .gt else compareBytes rest other

/-- The order of two keys. -/
def compare (comparing : Comparing) (a b : ByteText) : Ordering :=
  let forward :=
    if comparing.numeric then
      let (n, places) := numberAt a
      let (m, others) := numberAt b
      Ord.compare (n * (Nat.pow 10 others : Nat)) (m * (Nat.pow 10 places : Nat))
    else
      let shown (text : ByteText) : ByteText :=
        let kept := if comparing.dictionary then
          text.filter fun c => c.isAlphanum || Key.isBlank c else text
        if comparing.folded then kept.map Char.toUpper else kept
      compareBytes (shown a) (shown b)
  if comparing.reversed then forward.swap else forward

end Comparing

/-- How lines are put in order. -/
structure Sorting where
  mark : Option Char := none
  keys : List Key := []
  /-- Lines with equal keys keep their order. -/
  stable : Bool := false
  reversed : Bool := false

namespace Sorting

/-- The order of two lines by their keys alone. -/
def compareKeys (sorting : Sorting) (a b : ByteText) : Ordering :=
  sorting.keys.foldl (fun order key =>
    match order with
    | .eq => key.comparing.compare (key.of sorting.mark a) (key.of sorting.mark b)
    | order => order) .eq

/-- The order of two lines. -/
def compare (sorting : Sorting) (a b : ByteText) : Ordering :=
  match sorting.compareKeys a b with
  | .eq =>
    if sorting.stable && !sorting.keys.isEmpty then .eq
    else
      let order := Comparing.compareBytes a b
      if sorting.reversed then order.swap else order
  | order => order

/-- Lines in order. -/
def sort (sorting : Sorting) (lines : List ByteText) : List ByteText :=
  lines.mergeSort fun a b => sorting.compare a b != .gt

end Sorting

/-- Lines next to each other that count as equal, gathered. -/
def groupsBy (isEqual : ByteText → ByteText → Bool) (lines : List ByteText) : List (List ByteText) :=
  lines.foldr (fun line groups =>
    match groups with
    | (next :: others) :: rest =>
      if isEqual line next then (line :: next :: others) :: rest
      else [line] :: (next :: others) :: rest
    | groups => [line] :: groups) []

end EngineTokens.Shell
