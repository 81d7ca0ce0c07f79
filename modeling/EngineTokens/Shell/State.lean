import EngineTokens.Files.Change
import EngineTokens.Shell.Reader
import EngineTokens.Shell.Signal
import EngineTokens.Text.Utf8

/-!
# The state of a running script

What a shell process has of its own stands in `Scope`: its variables, functions, arguments and
streams. A subshell works on a copy of it. What all processes share stands in `World`: the files,
the streams that were opened, and the commands in the background.

An operation that may be given up is a `Work`: it yields a value, or nothing after an error, which
has been told by then.
-/

set_option autoImplicit false

namespace EngineTokens.Shell

/-- A variable. It may be marked without having a value. -/
structure Variable where
  value : Option ByteText
  /-- Programs that are started see it. -/
  exported : Bool := false
  readOnly : Bool := false
  deriving DecidableEq, Repr

/-- Where a stream leads. -/
inductive Source
  /-- What is written vanishes, and nothing can be read. -/
  | nowhere
  /-- As many zero bytes as are read. -/
  | zeros
  /-- As many zero bytes as are read, while there is no room for what is written. -/
  | full
  /-- A directory, which cannot be read as a file. -/
  | directory
  /-- What is written is kept, the latest first. -/
  | gathered (chunks : List ByteText)
  /-- What is still to be read. -/
  | supply (text : ByteText)
  | file (place : Place)
  deriving DecidableEq, Repr

/-- A stream that was opened. -/
structure Opening where
  source : Source
  /-- How far a file was read or written. -/
  offset : Nat := 0
  reads : Bool
  writes : Bool
  /-- Everything is written after the end of the file. -/
  appends : Bool := false
  deriving DecidableEq, Repr

/-- How a script goes on. -/
inductive Flow
  | normal
  /-- A number of loops is left. -/
  | leave (loops : Nat)
  /-- A number of loops is left but for the last, which goes on with its next round. -/
  | again (loops : Nat)
  /-- The function is left. -/
  | returned
  | ended
  | killed (signal : Nat)
  deriving DecidableEq, Repr

/-- What is put back when a function is left. -/
structure Frame where
  /-- Variables with what they were. -/
  bindings : List (ByteText × Option Variable) := []
  /-- The options that were on. -/
  options : Option (List Char) := none
  deriving DecidableEq, Repr

/-- What a shell process has of its own. -/
structure Scope where
  /-- The script, as it was called. -/
  script : ByteText
  args : List ByteText
  /-- The variables by name, in the order in which the names were first set. -/
  bindings : List (ByteText × Variable) := []
  functions : List (ByteText × Command) := []
  aliases : Aliases := {}
  /-- The letters of the options that are on. -/
  options : List Char := []
  /-- What is run at a signal; nothing to be run means that the signal is ignored. -/
  traps : List (Nat × ByteText) := []
  status : Nat := 0
  /-- The status of the last command that was run for its output. -/
  outputStatus : Nat := 0
  flow : Flow := .normal
  /-- The opened stream behind the number of each stream. -/
  streams : List (Nat × Nat)
  /-- The directory at hand, as it was reached. -/
  directory : ByteText
  process : Nat
  /-- How many subshells lie between this process and the one of the script. -/
  level : Nat := 0
  /-- The number of loops around the command at hand. -/
  loops : Nat := 0
  /-- What is put back when each function at work is left. -/
  saved : List Frame := []
  /-- The status before what is run at a signal or at the end, while that is run. -/
  trapStatus : Option Nat := none
  /-- The programs that were looked up, with their paths. -/
  lookedUp : List (ByteText × ByteText) := []
  /-- The limits that were set. -/
  limits : List (Char × ByteText) := []
  /-- The line of the command at hand. -/
  line : Nat := 1
  /-- The line that was read last. -/
  lineRead : Nat := 1
  /-- The command that is built in and at work. -/
  builtin : Option ByteText := none
  /-- The name by which the program at work was called. -/
  called : ByteText := []
  /-- The processes that started this one, the nearest first. -/
  above : List Nat := []
  /-- The number of the last process in the background. -/
  lastJob : Option Nat := none
  /-- The number of the argument that `getopts` reads next, unless it was lost. -/
  optionIndex : Option Nat := some 1
  /-- How far `getopts` has read the argument that it read last. -/
  optionOffset : Option Nat := none
  /-- The permissions that new files lack. -/
  mask : Nat := 0o22

/-- A command in the background. -/
structure Job where
  process : Nat
  /-- The shell process that is to run it, unless it has ended or was killed. -/
  pending : Option (Scope × Place × Command)
  status : Nat := 0
  /-- The signal that killed it. -/
  signal : Option Nat := none

/-- What all processes share. -/
structure World where
  files : Files
  openings : List (Nat × Opening)
  nextOpening : Nat
  /-- The texts of the here-documents by number. -/
  documents : List (Nat × Word) := []
  nextDocument : Nat := 0
  jobs : List Job := []
  nextProcess : Nat
  /-- Signals under way, with the processes they were sent to. -/
  signals : List (Nat × Nat) := []

/-- A running script. -/
structure State extends Scope, World

/-- Works on a state, and may give up. -/
abbrev Work (α : Type) := OptionT (StateM State) α

namespace State

/-- The script goes on with its next command. -/
def goesOn (s : State) : Bool := s.flow == .normal

/-- An option is on. -/
def has (s : State) (option : Char) : Bool := s.options.contains option

/-! ## Streams -/

/-- The opened stream of a number. -/
def opening? (s : State) (stream : Nat) : Option (Nat × Opening) :=
  (s.streams.lookup stream).bind fun n => (s.openings.lookup n).map fun opening => (n, opening)

/-- Changes an opened stream. -/
def setOpening (s : State) (n : Nat) (opening : Opening) : State :=
  { s with openings := (n, opening) :: s.openings.filter fun (other, _) => other != n }

/-- Opens a stream under a number of its own. -/
def openNew (s : State) (opening : Opening) : Nat × State :=
  (s.nextOpening,
    { s with openings := (s.nextOpening, opening) :: s.openings, nextOpening := s.nextOpening + 1 })

/-- Lets the stream of a number lead to an opened one, or to none. -/
def lead (s : State) (stream : Nat) (target : Option Nat) : State :=
  let others := s.streams.filter fun (other, _) => other != stream
  { s with streams := match target with
    | some n => (stream, n) :: others
    | none => others }

/-- The contents of the file at a place. -/
def contents (s : State) (place : Place) : List UInt8 :=
  match s.files.entry? place with
  | some (.file contents _) => contents
  | _ => []

/-- Writes to an opened stream. -/
def writeOpening (s : State) (n : Nat) (opening : Opening) (text : ByteText) : State :=
  match opening.source with
  | .gathered chunks => s.setOpening n { opening with source := .gathered (text :: chunks) }
  | .file place =>
    match s.files.entry? place with
    | some (.file contents executable) =>
      let offset := if opening.appends then contents.length else opening.offset
      let before := contents.take offset ++ List.replicate (offset - contents.length) 0
      let after := before ++ toBytes text ++ contents.drop (offset + text.length)
      let s := { s with files := s.files.put place (.file after executable) }
      s.setOpening n { opening with offset := offset + text.length }
    | _ => s
  | _ => s

/-- Writes to the stream of a number; the flag tells whether it could be written to. -/
def write (s : State) (stream : Nat) (text : ByteText) : State × Bool :=
  match s.opening? stream with
  | some (n, opening) =>
    if opening.writes && opening.source != .full then
      (if text.isEmpty then s else s.writeOpening n opening text, true)
    else (s, text.isEmpty)
  | none => (s, text.isEmpty)

/-- Why nothing can be written to the stream of a number. -/
def writeTrouble (s : State) (stream : Nat) : String :=
  match s.opening? stream with
  | some (_, { source := .full, .. }) => "No space left on device"
  | _ => "Bad file descriptor"

/-- Writes to the error output. -/
def tell (s : State) (text : ByteText) : State :=
  (s.write 2 text).1

/-- What can be read from the stream of a number, of which no more than `limit` bytes are wanted. -/
def readable? (s : State) (stream : Nat) (limit : Nat) : Option ByteText :=
  match s.opening? stream with
  | some (_, opening) =>
    if opening.reads then
      match opening.source with
      | .supply text => some text
      | .zeros | .full => some (List.replicate limit '\x00')
      | .file place => some (ofBytes ((s.contents place).drop opening.offset))
      | _ => some []
    else none
  | none => none

/-- Passes over bytes that were read from the stream of a number. -/
def passOver (s : State) (stream : Nat) (size : Nat) : State :=
  match s.opening? stream with
  | some (n, opening) =>
    match opening.source with
    | .supply text => s.setOpening n { opening with source := .supply (text.drop size) }
    | .file _ => s.setOpening n { opening with offset := opening.offset + size }
    | _ => s
  | none => s

/-- What was gathered in an opened stream. -/
def gatheredIn (s : State) (n : Nat) : ByteText :=
  match s.openings.lookup n with
  | some { source := .gathered chunks, .. } => chunks.reverse.flatten
  | _ => []

/-! ## Errors -/

/-- Tells an error together with the script, the line and the command that is built in. -/
def complain (s : State) (message : String) : State :=
  let name := match s.builtin with
    | some name => name ++ ": ".toList
    | none => []
  s.tell (s.script ++ ": ".toList ++ Nat.toDigits 10 s.line ++ ": ".toList ++ name ++
    ofBytes (Text.Utf8.encode message.toList) ++ ['\n'])

/-- Tells an error about a text. -/
def complainOf (s : State) (before : String) (text : ByteText) (after : String) : State :=
  let name := match s.builtin with
    | some name => name ++ ": ".toList
    | none => []
  s.tell (s.script ++ ": ".toList ++ Nat.toDigits 10 s.line ++ ": ".toList ++ name ++
    before.toList ++ text ++ after.toList ++ ['\n'])

/-! ## Variables -/

/-- The variable of a name. -/
def variableOf? (s : State) (name : ByteText) : Option Variable :=
  s.bindings.lookup name

/-- The value of a variable. -/
def value? (s : State) (name : ByteText) : Option ByteText :=
  (s.variableOf? name).bind Variable.value

/-- Puts a variable in the place of the one of its name, or after all others. -/
def putVariable (s : State) (name : ByteText) (put : Variable) : State :=
  if (s.variableOf? name).isSome then
    { s with bindings := s.bindings.map fun (other, v) => (other, if other == name then put else v) }
  else { s with bindings := s.bindings ++ [(name, put)] }

/-- Takes a variable away. -/
def dropVariable (s : State) (name : ByteText) : State :=
  { s with bindings := s.bindings.filter fun (other, _) => other != name }

/-- The script gets other arguments, and `getopts` begins with the first of them. -/
def withArgs (s : State) (args : List ByteText) : State :=
  { s with args, optionIndex := some 1, optionOffset := none }

/-- The value of a variable that the shell itself uses, or nothing. -/
def valueOf (s : State) (name : String) : ByteText :=
  (s.value? name.toList).getD []

end State

namespace Work

/-- Gives up after telling an error; the status is then two. -/
def fail {α : Type} (message : String) : Work α := do
  modify fun s => { s.complain message with status := 2 }
  failure

/-- Gives up after telling an error about a text. -/
def failOn {α : Type} (before : String) (text : ByteText) (after : String) : Work α := do
  modify fun s => { s.complainOf before text after with status := 2 }
  failure

/-- Does some work. If it is given up, so is the script. -/
def orEnding {α : Type} (work : Work α) : Work α := OptionT.mk do
  let result ← work.run
  if result.isNone then modify fun s => { s with flow := .ended }
  return result

/-- Sets a variable, which stays marked as it was; one that is read-only cannot be set. -/
def putValue (name value : ByteText) (exported : Bool) : Work Unit := do
  let s ← get
  let old := (s.variableOf? name).getD { value := none }
  if old.readOnly then failOn "" name ": is read only"
  set (s.putVariable name
    { old with value := some value, exported := old.exported || exported || s.has 'a' })

/-- A variable gets another value or none, and the shell heeds it: `OPTIND` tells where options are
read next, and with `PATH` the programs are looked up anew. -/
def heedValue (name value : ByteText) : Work Unit := do
  match String.ofList name with
  | "OPTIND" =>
    match wholeNumber? (some 10) value with
    | some n =>
      if n < 0 || 0x7fffffff < n then failOn "Illegal number: " value ""
      modify fun s => { s with optionIndex := some (max 1 n.toNat), optionOffset := none }
    | none => failOn "Illegal number: " value ""
  | "PATH" => modify fun s => { s with lookedUp := [] }
  | _ => pure ()

/-- Sets a variable and heeds its value. -/
def assign (name value : ByteText) (exported : Bool) : Work Unit := do
  let s ← get
  if ((s.variableOf? name).map Variable.readOnly).getD false then failOn "" name ": is read only"
  heedValue name value
  putValue name value exported

/-- Takes a variable away; one that is read-only stays. -/
def unassign (name : ByteText) : Work Unit := do
  let s ← get
  match s.variableOf? name with
  | some { readOnly := true, .. } => failOn "" name ": is read only"
  | some _ =>
    heedValue name []
    modify fun s => s.dropVariable name
  | none => pure ()

end Work

/-- A byte text as a path. -/
def pathOf (text : ByteText) : RawPath :=
  toBytes text

/-- A path as a byte text. -/
def ofPath (path : RawPath) : ByteText :=
  ofBytes path

end EngineTokens.Shell
