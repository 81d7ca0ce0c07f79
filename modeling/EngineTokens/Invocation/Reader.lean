import EngineTokens.Invocation.Grammar

/-!
# Reading a command line

Words are read from left to right, level by level. A word after `--` is never an argument's name. A
named argument takes its value from the same word or from the next one; a letter takes the rest of
its word, without an equals sign in front. The value of an argument is judged when the next argument
begins, and a word that is no argument at all is reported first.
-/

set_option autoImplicit false

namespace EngineTokens.Invocation

/-- An argument that has been named but not yet judged; its value may be still to come. -/
structure Pending where
  argument : Argument
  /-- The argument as it is shown in messages. -/
  shown : String
  value : Option String := none

/-- The reading of one level. -/
structure Reading where
  level : Level
  choices : Choices := {}
  /-- The names of the arguments given so far. -/
  given : List String := []
  pending : Option Pending := none
  /-- A `--` has been read. -/
  trailing : Bool := false
  /-- How many arguments known by position have been read. -/
  placed : Nat := 0

namespace Reading

/-- Judges an argument: its value has to be there, it must not repeat an earlier one unless it may,
and the value has to be accepted. -/
def judge (r : Reading) (argument : Argument) (shown : String) (value : Option String) :
    Except Mistake Reading :=
  let repeated := r.given.contains argument.name && !argument.repeats
  let given := r.given ++ [argument.name]
  match argument.effect with
  | .help => .error (.helpWanted r.level)
  | .version => .error .versionWanted
  | .turn set =>
    if repeated then .error (.conflict shown shown)
    else .ok { r with given, choices := set r.choices }
  | .take read =>
    match value with
    | none => .error (.value shown "" .missing)
    | some value =>
      if repeated then .error (.conflict shown shown)
      else
        match read value with
        | .ok set => .ok { r with given, choices := set r.choices }
        | .error flaw => .error (.value shown value flaw)

/-- Judges the argument that is pending, if there is one. -/
def settle (r : Reading) : Except Mistake Reading :=
  match r.pending with
  | none => .ok r
  | some p => judge { r with pending := none } p.argument p.shown p.value

/-- Judges an argument that is complete, after the one that is pending. -/
def give (r : Reading) (argument : Argument) (value : Option String) : Except Mistake Reading := do
  (← r.settle).judge argument argument.shown value

/-- Begins an argument whose value is still to come. -/
def begin (r : Reading) (argument : Argument) : Except Mistake Reading := do
  return { ← r.settle with pending := some { argument, shown := argument.shown } }

/-- The argument that waits for its value. -/
def waiting? (r : Reading) : Option Argument :=
  match r.pending with
  | some { argument, value := none, .. } => some argument
  | _ => none

/-- Gives the argument that waits its value. -/
def fill (r : Reading) (value : String) : Reading :=
  { r with pending := r.pending.map fun p => { p with value := some value } }

/-- A name after two hyphens, perhaps with a value attached. -/
def named (r : Reading) (text : List Char) : Except Mistake Reading :=
  let name := String.ofList (text.takeWhile (· != '='))
  let attached : Option String :=
    match text.dropWhile (· != '=') with
    | '=' :: value => some (String.ofList value)
    | _ => none
  match r.level.arguments.find? fun argument => argument.name == name with
  | none => .error (.unknownArgument ("--" ++ name))
  | some argument =>
    match attached with
    | none => if argument.takesValue then r.begin argument else r.give argument none
    | some value =>
      if argument.takesValue then r.give argument (some value)
      else .error (.unexpectedValue argument.shown value)

/-- Letters after one hyphen: switches, and then perhaps a letter that takes a value. -/
def lettered (r : Reading) : List Char → Except Mistake Reading
  | [] => .ok r
  | c :: rest =>
    match r.level.arguments.find? fun argument => argument.letter == some c with
    | none => .error (.unknownArgument (String.ofList ['-', c]))
    | some argument =>
      if argument.takesValue then
        match rest with
        | [] => r.begin argument
        | '=' :: value => r.give argument (some (String.ofList value))
        | value => r.give argument (some (String.ofList value))
      else
        match r.give argument none with
        | .ok r => r.lettered rest
        | .error mistake => .error mistake

/-- The word names a command of the level. -/
def namesCommand (r : Reading) (word : String) : Bool :=
  !r.level.commands.isEmpty && (word == "help" || (r.level.commands.lookup word).isSome)

/-- A word that is known by its position. -/
def place (r : Reading) (word : String) : Except Mistake Reading :=
  match r.level.positional[r.placed]? with
  | some argument => do
    return { ← r.settle with
      pending := some { argument, shown := "<" ++ argument.name ++ ">", value := some word }
      placed := r.placed + 1 }
  | none =>
    if r.level.commands.isEmpty || (r.trailing && r.namesCommand word) then
      .error (.unknownArgument word)
    else .error (.unknownCommand word)

/-- Any word that does not name a command. -/
def take (r : Reading) (word : String) : Except Mistake Reading :=
  if r.trailing then r.place word
  else
    let waiting := r.waiting?
    if waiting.any (·.hyphens) then .ok (r.fill word)
    else
      match word.toList with
      | ['-', '-'] => .ok { r with trailing := true }
      | '-' :: '-' :: text => r.named text
      | '-' :: c :: text => r.lettered (c :: text)
      | _ => if waiting.isSome then .ok (r.fill word) else r.place word

/-- Judges a level that has come to its end without naming a command below it. -/
def finish (r : Reading) : Except Mistake (Level × Choices) := do
  let r ← r.settle
  if !r.level.commands.isEmpty then
    throw (if r.given.isEmpty then .nothingGiven r.level else .commandMissing)
  match r.level.exclusions.find? fun (a, b) => r.given.contains a && r.given.contains b with
  | some (a, b) => throw (.conflict ("--" ++ a) ("--" ++ b))
  | none => pure ()
  let missing := r.level.positional.filter fun argument => !r.given.contains argument.name
  if !missing.isEmpty then
    throw (.argumentsMissing (missing.map fun argument => "<" ++ argument.name ++ ">"))
  return (r.level, r.choices)

end Reading

/-- What a request for help comes to, where the words after it name a command step by step. -/
def explain (level : Level) : List String → Mistake
  | [] => .helpWanted level
  | word :: rest =>
    match level.commands.lookup word with
    | some child => explain child rest
    | none =>
      if word = "help" ∧ level.commands ≠ [] then
        match rest with
        | [] => .helpWanted level
        | word :: _ => .unknownCommand word
      else .unknownCommand word

/-- Reads the words that are left at a level. The settings file named at the deepest level counts. -/
def readLevel (r : Reading) : List String → Except Mistake (Level × Choices)
  | [] => r.finish
  | word :: rest =>
    if !r.trailing && r.waiting?.isNone && r.namesCommand word then
      match r.level.commands.lookup word with
      | none => .error (explain r.level rest)
      | some child => do
        let (level, choices) ← readLevel { level := child } rest
        let r ← r.settle
        return (level, { choices with settings := choices.settings <|> r.choices.settings })
    else
      match r.take word with
      | .ok r => readLevel r rest
      | .error mistake => .error mistake

/-- Reads the words of a command line. -/
def read (words : List String) : Except Mistake Invocation := do
  let (level, choices) ← readLevel { level := .program } words
  match level.command? choices with
  | some command => return { settings := choices.settings, command }
  | none => throw .commandMissing

end EngineTokens.Invocation
