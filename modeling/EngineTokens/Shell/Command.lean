/-!
# Commands of a shell script

An engine may be a script for the shell. Scripts and everything they handle are bytes; a byte is
kept as the character of the same number, so a byte text is a list of characters below 256.

A word is a list of parts, each literal or still to be worked out, and a command holds the commands
below it. The text of a here-document stands apart from the command that reads it and is found by
its number.
-/

set_option autoImplicit false

namespace EngineTokens.Shell

/-- Bytes, each as the character of its number. -/
abbrev ByteText := List Char

/-- A byte text as bytes. -/
def toBytes (text : ByteText) : List UInt8 :=
  text.map fun c => UInt8.ofNat c.toNat

/-- Bytes as a byte text. -/
def ofBytes (bytes : List UInt8) : ByteText :=
  bytes.map fun b => Char.ofNat b.toNat

/-- What a parameter of a script stands for. -/
inductive Parameter
  | named (name : ByteText)
  /-- An argument by its number; number zero is the script. -/
  | argument (n : Nat)
  /-- The number of arguments. -/
  | count
  /-- The status of the last command. -/
  | status
  /-- The number of the process. -/
  | process
  /-- The number of the last process in the background. -/
  | background
  /-- The letters of the options that are on. -/
  | options
  /-- All arguments, as one text where quoted and `joined` holds. -/
  | all (joined : Bool)
  deriving DecidableEq, Repr

/-- What is done with the value of a parameter. A colon makes an empty value count as not set. -/
inductive Use
  | plain
  /-- Its length is taken. -/
  | length
  /-- A word stands in for it. -/
  | fallback (colon : Bool)
  /-- A word stands in for it and is assigned. -/
  | assign (colon : Bool)
  /-- The script ends with a message if it is not set. -/
  | require (colon : Bool)
  /-- A word stands in its place if it is set. -/
  | replace (colon : Bool)
  /-- The shortest or longest match of a pattern is cut from its beginning. -/
  | cutStart (longest : Bool)
  /-- The shortest or longest match of a pattern is cut from its end. -/
  | cutEnd (longest : Bool)
  /-- The script ends with a message, for the form is not known. -/
  | bad
  deriving DecidableEq, Repr

/-- Where a stream of a command is led. -/
inductive Direction
  /-- From a file. -/
  | read
  /-- Into a file, from its beginning; `force` overrides the protection of files that are there. -/
  | write (force : Bool)
  /-- Into a file, after its end. -/
  | append
  /-- From and into a file. -/
  | both
  /-- To where another stream leads, or to nowhere. -/
  | same
  /-- From the here-document of a number. -/
  | document (n : Nat)
  deriving DecidableEq, Repr

mutual

/-- A part of a word. -/
inductive Part
  | literal (text : ByteText) (quoted : Bool)
  | parameter (parameter : Parameter) (use : Use) (word : List Part) (quoted : Bool)
  /-- The output of commands. -/
  | substitution (commands : List Command) (quoted : Bool)
  /-- The value of an arithmetic expression. -/
  | arithmetic (expression : List Part) (quoted : Bool)

/-- A redirection of the stream of a number. -/
inductive Redirect
  | mk (stream : Nat) (direction : Direction) (target : List Part)

/-- A command. -/
inductive Command
  /-- Assignments, words and redirections, on a given line of the script. -/
  | simple (line : Nat) (assignments : List (ByteText × List Part)) (words : List (List Part))
      (redirects : List Redirect)
  /-- A command with redirections around it. -/
  | redirected (line : Nat) (redirects : List Redirect) (command : Command)
  /-- Commands of which each reads what the one before writes. -/
  | pipeline (commands : List Command)
  /-- A command whose success counts as failure, and the other way round. -/
  | negated (command : Command)
  /-- The second command only if the first succeeds, or only if it fails. -/
  | chain (ifSuccess : Bool) (first second : Command)
  /-- A command that is not waited for. -/
  | background (command : Command)
  | group (commands : List Command)
  /-- Commands whose changes to variables and directory are lost afterwards. -/
  | subshell (commands : List Command)
  /-- The body once for each field of the words. -/
  | each (line : Nat) (name : ByteText) (words : List (List Part)) (body : List Command)
  /-- The body as long as the condition succeeds, or as long as it fails. -/
  | loop (untilSuccess : Bool) (condition body : List Command)
  /-- One of two bodies, as the condition says. -/
  | choose (condition yes no : List Command)
  /-- The body of the first pattern that a word matches. -/
  | select (line : Nat) (word : List Part) (branches : List (List (List Part) × List Command))
  /-- A function is given a body. -/
  | define (line : Nat) (name : ByteText) (body : Command)

end

/-- A word, which expands to any number of fields. -/
abbrev Word := List Part

/-- The text of a word in which nothing is quoted or expanded. -/
def Word.plain? : Word → Option ByteText
  | [] => some []
  | .literal text false :: rest => (plain? rest).map (text ++ ·)
  | _ => none

/-- The byte begins a name. -/
def isNameStart (c : Char) : Bool := c.isAlpha || c == '_'

/-- The byte belongs to a name. -/
def isNameRest (c : Char) : Bool := c.isAlphanum || c == '_'

/-- The text is a name, as variables and functions have one. -/
def isName : ByteText → Bool
  | [] => false
  | c :: rest => isNameStart c && rest.all isNameRest

/-- The pieces of a text between the bytes of a kind. -/
def piecesAt (mark : Char) (text : ByteText) : List ByteText :=
  let (parts, last) := text.foldr (fun c (parts, part) =>
    if c = mark then (part :: parts, []) else (parts, c :: part)) ([], ([] : ByteText))
  last :: parts

/-- Names are kept in a number of rows; this is the row of a name. What is not shown in the order of
the names is shown row by row. -/
def rowOf (rows : Nat) (name : ByteText) : Nat :=
  name.foldl (fun n c => n + c.toNat) (16 * (name.headD '\x00').toNat) % rows

/-- Entries by name, row by row, and within a row in the order in which they stand. -/
def inRows {α : Type} (rows : Nat) (entries : List (ByteText × α)) : List (ByteText × α) :=
  entries.mergeSort fun a b => decide (rowOf rows a.1 ≤ rowOf rows b.1)

end EngineTokens.Shell
