import EngineTokens.Shell.Streams
import EngineTokens.Shell.Usage

/-!
# Programs at work

A program works on the state of the script that started it and yields its status. Here stands what
programs share: how they print, how they tell of errors, and how they read their operands.
-/

set_option autoImplicit false

namespace EngineTokens.Shell

/-- A program at work on a state; it yields its status. -/
abbrev Program := StateM State Nat

namespace Program

/-- Tells an error. -/
def grumble (trouble : ByteText) : StateM State Unit :=
  modify fun s => s.tell (s.called ++ ": ".toList ++ trouble ++ ['\n'])

/-- Tells that the program was called as it should not be. -/
def grumbleAtCall (trouble : ByteText) : StateM State Unit :=
  modify fun s => s.tell (Usage.told s.called trouble)

/-- Gives up with an error. -/
def refuse (trouble : ByteText) (status : Nat) : Program := do
  grumble trouble
  return status

/-- Gives up because the program was called as it should not be. -/
def refuseCall (trouble : ByteText) (status : Nat) : Program := do
  grumbleAtCall trouble
  return status

/-- Prints a text and yields a status; where nothing can be printed, the status is one. -/
def finishAs (what : String) (text : ByteText) (status : Nat) : Program := do
  let (s, written) := (← get).write 1 text
  set s
  if written then return status
  refuse (what ++ ": " ++ s.writeTrouble 1).toList 1

/-- Prints a text and yields a status. -/
def finish (text : ByteText) (status : Nat) : Program :=
  finishAs "write error" text status

/-- What is left of the input, if it can be read; no more than `limit` of its bytes are needed. -/
def inputLeft (limit : Nat) : StateM State (Except Fault ByteText) := do
  let s ← get
  match s.opening? 0, s.readable? 0 limit with
  | some (_, { source := .directory, .. }), _ => return .error .isDirectory
  | _, some text => return .ok text
  | _, none => return .error .zeroInArgument

/-- Reads what is left of the input, of which no more than `limit` bytes are needed. -/
def readInput (limit : Nat) : StateM State (Except Fault ByteText) := do
  let input ← inputLeft limit
  if let .ok text := input then modify fun s => s.passOver 0 text.length
  return input

/-- The operand stands for the input. -/
def isInput (path : ByteText) : Bool :=
  path == ['-'] || streamNamed? path == some 0

/-- Reads a file, or the input for a dash. -/
def readOperand (limit : Nat) (path : ByteText) : StateM State (Except Fault ByteText) := do
  if isInput path then readInput limit
  else
    match deviceNamed? path with
    | some .zeros | some .full => return .ok (List.replicate limit '\x00')
    | some _ => return .ok []
    | none => return ((← get).files.read (pathOf path)).map ofBytes

/-- How a refusal is told of an operand. -/
def operandReason (fault : Fault) : ByteText :=
  (if fault = .zeroInArgument then "Bad file descriptor" else reasonOf fault).toList

/-- Operands, or the input where there are none. -/
def orInput (operands : List ByteText) : List ByteText :=
  if operands.isEmpty then [['-']] else operands

/-- Reads operands one after another, or the input where there are none; a refused one is told of. -/
def readAll (operands : List ByteText) : StateM State (List ByteText × Nat) := do
  let mut texts : List ByteText := []
  let mut status := 0
  for path in orInput operands do
    match ← readOperand 0 path with
    | .ok text => texts := text :: texts
    | .error fault =>
      grumble (nameInMessage path ++ ": ".toList ++ operandReason fault)
      status := 1
  return (texts.reverse, status)

/-- Carries out something for each operand and prints what is said about all of them; the status is
the greatest. -/
def forEach (operands : List ByteText) (act : ByteText → StateM State (ByteText × Nat)) : Program := do
  let mut said : ByteText := []
  let mut status := 0
  for operand in operands do
    let (text, reached) ← act operand
    said := said ++ text
    status := max status reached
  finish said status

/-- Digits with blanks before them, up to a width. -/
def padded (width n : Nat) : ByteText :=
  let digits := Nat.toDigits 10 n
  List.replicate (width - digits.length) ' ' ++ digits

/-- The factors that letters after a number stand for. -/
def factors : List (String × Nat) :=
  let letters := ["K", "M", "G", "T", "P", "E"]
  [("", 1), ("b", 512), ("k", 1024), ("m", Nat.pow 1024 2), ("kB", 1000)] ++
    (letters.zipIdx 1).flatMap fun (letter, n) =>
      [(letter, Nat.pow 1024 n), (letter ++ "iB", Nat.pow 1024 n), (letter ++ "B", Nat.pow 1000 n)]

/-- A number without a sign, perhaps with a letter for a factor. -/
def amount? (text : ByteText) : Option Nat :=
  let digits := text.takeWhile Char.isDigit
  if digits.isEmpty then none
  else (factors.lookup (String.ofList (text.drop digits.length))).map (ofDigits 10 digits * ·)

end Program

end EngineTokens.Shell
