import EngineTokens.Shell.Program.Basic

/-!
# Programs that work out values

These programs work out an expression that stands in their arguments, count from one number to
another, and show the variables that they see.
-/

set_option autoImplicit false

namespace EngineTokens.Shell

/-! ## Expressions -/

/-- Reads an expression in words: those that are left, and the one read last. -/
abbrev Reckoning (α : Type) := StateT (List ByteText × ByteText) (Except ByteText) α

namespace Reckoning

/-- Stops at a mistake. -/
def stop {α : Type} (trouble : ByteText) : Reckoning α :=
  throw trouble

/-- Stops at a mistake in the order of the words. -/
def misplaced {α : Type} (trouble : String) (word : ByteText) : Reckoning α :=
  stop ("syntax error: ".toList ++ trouble.toList ++ quotedWord word)

/-- Passes over the next word, which has to be there. -/
def next : Reckoning ByteText := do
  match ← get with
  | ([], last) => misplaced "missing argument after " last
  | (word :: rest, _) =>
    set (rest, word)
    return word

/-- Passes over the next word if it is one of the given ones. -/
def take? (words : List String) : Reckoning (Option String) := do
  match ← get with
  | (word :: rest, _) =>
    if words.contains (String.ofList word) then
      set (rest, word)
      return some (String.ofList word)
    else return none
  | ([], _) => return none

/-- The text counts as false. -/
def isNull (value : ByteText) : Bool :=
  let digits := if value.head? == some '-' then value.drop 1 else value
  value.isEmpty || (!digits.isEmpty && digits.all (· == '0'))

/-- The number that a text is. -/
def number? (value : ByteText) : Option Int :=
  let digits := if value.head? == some '-' then value.drop 1 else value
  if digits.isEmpty || !digits.all Char.isDigit then none
  else
    let n : Int := ofDigits 10 digits
    some (if value.head? == some '-' then -n else n)

/-- The number that a text has to be. -/
def number (value : ByteText) : Reckoning Int :=
  match number? value with
  | some n => pure n
  | none => stop "non-integer argument".toList

/-- A truth as a text. -/
def truth (condition : Bool) : ByteText :=
  if condition then ['1'] else ['0']

/-- The answer of a comparison, of numbers where both texts are some. -/
def compared (sign : String) (a b : ByteText) : ByteText :=
  let (less, same) : Bool × Bool :=
    match number? a, number? b with
    | some n, some m => (n < m, n == m)
    | _, _ => (decide (a < b), a == b)
  truth (match sign with
    | "<" => less
    | "<=" => less || same
    | ">" => !(less || same)
    | ">=" => !less
    | "!=" => !same
    | _ => same)

/-- The value of an operation on numbers. -/
def calculated (sign : String) (a b : ByteText) : Reckoning ByteText := do
  let n ← number a
  let m ← number b
  match sign with
  | "+" => return numberText (n + m)
  | "-" => return numberText (n - m)
  | "*" => return numberText (n * m)
  | sign =>
    if m = 0 then stop "division by zero".toList
    else return numberText (if sign = "/" then Int.tdiv n m else Int.tmod n m)

/-- The signs of a level, from those that bind least. -/
def signsAt : Nat → List String
  | 0 => ["|"]
  | 1 => ["&"]
  | 2 => ["<", "<=", "=", "==", "!=", ">=", ">"]
  | 3 => ["+", "-"]
  | _ => ["*", "/", "%"]

/-- The part of a text from a position on, which counts from one. -/
def part (text position size : ByteText) : ByteText :=
  match number? position, number? size with
  | some start, some size =>
    if start ≤ 0 || size ≤ 0 then [] else (text.drop (start.toNat - 1)).take size.toNat
  | _, _ => []

/-- The position of the first byte of a text that is one of some others, or zero. -/
def position (text bytes : ByteText) : ByteText :=
  match text.findIdx? bytes.contains with
  | some i => Nat.toDigits 10 (i + 1)
  | none => ['0']

mutual

/-- Reads what a level holds together; `live` tells that it counts. -/
def level : (fuel : Nat) → (n : Nat) → (live : Bool) → Reckoning ByteText
  | 0, _, _ => return []
  | fuel + 1, n, live => do
    if n = 5 then operand fuel live
    else
      let first ← level fuel (n + 1) live
      more fuel n live first

/-- Goes on with the signs of a level. -/
def more : (fuel : Nat) → (n : Nat) → (live : Bool) → ByteText → Reckoning ByteText
  | 0, _, _, value => return value
  | fuel + 1, n, live, value => do
    match ← take? (signsAt n) with
    | none => return value
    | some sign =>
      let counts := match sign with
        | "|" => live && isNull value
        | "&" => live && !isNull value
        | _ => live
      let other ← level fuel (n + 1) counts
      let result ←
        match sign with
        | "|" =>
          if !isNull value then pure value else pure (if isNull other then ['0'] else other)
        | "&" => pure (if isNull value || isNull other then ['0'] else value)
        | sign =>
          if n = 2 then pure (compared sign value other)
          else if live then calculated sign value other
          else pure value
      more fuel n live result

/-- Reads an operand: a word, a part of a text, or an expression between brackets. -/
def operand : (fuel : Nat) → (live : Bool) → Reckoning ByteText
  | 0, _ => return []
  | fuel + 1, live => do
    match ← take? ["+", "length", "index", "substr", "(", ")"] with
    | some "+" => next
    | some "length" => return Nat.toDigits 10 (← operand fuel live).length
    | some "index" =>
      let text ← operand fuel live
      return position text (← operand fuel live)
    | some "substr" =>
      let text ← operand fuel live
      let start ← operand fuel live
      return part text start (← operand fuel live)
    | some "(" =>
      let value ← level fuel 0 live
      match ← get with
      | ([], last) => misplaced "expecting \x27)\x27 after " last
      | ([')'] :: rest, _) =>
        set (rest, ([')'] : ByteText))
        return value
      | (word :: _, _) => misplaced "expecting \x27)\x27 instead of " word
    | some _ => stop "syntax error: unexpected \x27)\x27".toList
    | none => next

end

end Reckoning

namespace Program

/-- Works out an expression. -/
def expr (args : List ByteText) : Program := do
  let words := if args.head? == some ['-', '-'] then args.drop 1 else args
  if words.isEmpty then refuseCall "missing operand".toList 2
  else
    match (Reckoning.level (8 * words.length + 8) 0 true).run (words, []) with
    | .error trouble => refuse trouble 2
    | .ok (_, word :: _, _) =>
      refuse ("syntax error: unexpected argument ".toList ++ quotedWord word) 2
    | .ok (value, [], _) => finish (value ++ ['\n']) (if Reckoning.isNull value then 1 else 0)

/-! ## Numbers in a row -/

/-- A number with some digits behind its point: all its digits as a whole number, how many stand
behind the point, and how many bytes it takes. -/
structure Fixed where
  digits : Int
  places : Nat
  width : Nat
  deriving DecidableEq, Repr

namespace Fixed

/-- Reads a number. -/
def ofText? (text : ByteText) : Option Fixed :=
  let (negative, unsigned) := signOf text
  let whole := unsigned.takeWhile Char.isDigit
  let fraction? : Option ByteText :=
    match unsigned.drop whole.length with
    | [] => some []
    | '.' :: rest => if rest.all Char.isDigit then some rest else none
    | _ => none
  match fraction? with
  | none => none
  | some fraction =>
    if whole.isEmpty && fraction.isEmpty then none
    else
      let n : Int := ofDigits 10 (whole ++ fraction)
      let size := if text.head? == some '+' then text.length - 1 else text.length
      let size := if whole.isEmpty then size + 1 else size
      let size := if fraction.isEmpty && unsigned.contains '.' then size - 1 else size
      some ⟨if negative then -n else n, fraction.length, size⟩

/-- The digits of a number with more places behind its point. -/
def scaled (n : Fixed) (places : Nat) : Int :=
  n.digits * (Nat.pow 10 (places - n.places) : Nat)

/-- The width of a number with another number of places. -/
def widthWith (n : Fixed) (places : Nat) : Nat :=
  let point := if n.places = 0 && places ≠ 0 then 1 else 0
  if places = 0 && n.places ≠ 0 then n.width - n.places - 1 else n.width + places - n.places + point

/-- A number as text, from all its digits. -/
def shown (places width : Nat) (digits : Int) : ByteText :=
  let sign := if digits < 0 then ['-'] else []
  let all := Nat.toDigits 10 digits.natAbs
  let all := List.replicate (places + 1 - all.length) '0' ++ all
  let text := if places = 0 then all
    else all.take (all.length - places) ++ '.' :: all.drop (all.length - places)
  sign ++ List.replicate (width - sign.length - text.length) '0' ++ text

end Fixed

/-- The numbers from one to another. -/
def sequence (first step last : Int) : List Int :=
  if (0 < step && last < first) || (step < 0 && first < last) || step = 0 then []
  else
    (List.range (Int.tdiv (last - first) step + 1).toNat).map fun (i : Nat) => first + step * (i : Int)

/-- The options at the head of the arguments of `seq`: whether all numbers have one width, what
stands between them, and the operands. -/
def seqOptions (equal : Bool) (mark : ByteText) : List ByteText →
    Except ByteText (Bool × ByteText × List ByteText)
  | ['-', '-'] :: rest => .ok (equal, mark, rest)
  | ['-', 'w'] :: rest => seqOptions true mark rest
  | ['-', 's'] :: mark :: rest => seqOptions equal mark rest
  | ('-' :: 's' :: c :: mark) :: rest => seqOptions equal (c :: mark) rest
  | ('-' :: c :: letters) :: rest =>
    if c.isDigit || c = '.' then .ok (equal, mark, ('-' :: c :: letters) :: rest)
    else if c = '-' then
      .error ("unrecognized option \x27--".toList ++ letters ++ ['\x27'])
    else .error ("invalid option -- \x27".toList ++ [c, '\x27'])
  | rest => .ok (equal, mark, rest)

/-- Shows the numbers from one to another. -/
def seq (args : List ByteText) : Program := do
  match seqOptions false ['\n'] args with
  | .error trouble => refuseCall trouble 1
  | .ok (equal, mark, operands) =>
    match operands, operands.find? fun operand => (Fixed.ofText? operand).isNone with
    | [], _ => refuseCall "missing operand".toList 1
    | _ :: _ :: _ :: extra :: _, _ => refuseCall ("extra operand ".toList ++ quotedWord extra) 1
    | _, some operand =>
      refuseCall ("invalid floating point argument: ".toList ++ quotedWord operand) 1
    | _, none =>
      let one : Fixed := ⟨1, 0, 1⟩
      let (first, step, last) :=
        match operands.filterMap Fixed.ofText? with
        | [last] => (one, one, last)
        | [first, last] => (first, one, last)
        | first :: step :: last :: _ => (first, step, last)
        | [] => (one, one, one)
      if step.digits = 0 then
        refuseCall ("invalid Zero increment value: ".toList ++ quotedWord ((operands[1]?).getD [])) 1
      else
        let most := max first.places (max step.places last.places)
        let places := max first.places step.places
        let width := if equal then max (first.widthWith places) (last.widthWith places) else 0
        let numbers := sequence (first.scaled most) (step.scaled most) (last.scaled most)
        let texts := numbers.map fun n =>
          Fixed.shown places width (Int.tdiv n (Nat.pow 10 (most - places) : Nat))
        finish (if texts.isEmpty then [] else mark.intercalate texts ++ ['\n']) 0

/-! ## Everything else -/

/-- What the stand-alone `echo` prints: escapes only where they are asked for. -/
def plainEcho (escapes : ByteText → ByteText × Bool) :
    (newline escaped : Bool) → List ByteText → ByteText
  | newline, escaped, ('-' :: c :: letters) :: rest =>
    if (c :: letters).all ['n', 'e', 'E'].contains then
      let last := (c :: letters).reverse.find? (· != 'n')
      plainEcho escapes (newline && !(c :: letters).contains 'n')
        (match last with
          | some c => c == 'e'
          | none => escaped) rest
    else shown newline escaped (('-' :: c :: letters) :: rest)
  | newline, escaped, args => shown newline escaped args
where
  /-- The arguments with blanks between them. -/
  shown (newline escaped : Bool) (args : List ByteText) : ByteText :=
    let text := [' '].intercalate args
    let (text, ended) := if escaped then escapes text else (text, false)
    if newline && !ended then text ++ ['\n'] else text

/-- Does nothing for a while. -/
def sleep (args : List ByteText) : Program := do
  let wrong := args.filter fun arg => !isDuration arg
  for arg in wrong do grumble ("invalid time interval ".toList ++ quotedWord arg)
  if wrong.isEmpty then return 0
  modify fun s => s.tell (Usage.hint s.called)
  return 1

/-- The variables that a program sees. -/
def environmentOf (s : State) : List (ByteText × ByteText) :=
  s.bindings.filterMap fun (name, v) =>
    match v with
    | ⟨some value, true, _⟩ => some (name, value)
    | _ => none

/-- Shows the variables that a program sees. -/
def printenv (call : Call) : Program := do
  let bindings := environmentOf (← get)
  let mark := if call.has '0' then '\x00' else '\n'
  match call.operands with
  | [] => finish (bindings.flatMap fun (name, value) => name ++ '=' :: value ++ [mark]) 0
  | names =>
    let values := names.filterMap fun name => bindings.lookup name
    finish (values.flatMap fun value => value ++ [mark])
      (if values.length = names.length then 0 else 1)

end Program

end EngineTokens.Shell
