import EngineTokens.Shell.Arithmetic
import EngineTokens.Shell.Fields

/-!
# Expanding words

Parameters are replaced by their values, commands by their output and expressions by their numbers.
How commands are run for their output is handed in.
-/

set_option autoImplicit false

namespace EngineTokens.Shell

/-- Runs commands for their output. -/
abbrev Capture := List Command → StateM State ByteText

/-- The bytes at which fields are cut. -/
def State.separators (s : State) : ByteText :=
  match s.variableOf? "IFS".toList with
  | some ⟨some ifs, _, _⟩ => ifs
  | _ => [' ', '\t', '\n']

/-- The letters of all options, in the order in which they are shown. -/
def optionLetters : List Char :=
  ['u', 'b', 'a', 'C', 'E', 'V', 'v', 'x', 's', 'n', 'm', 'i', 'I', 'f', 'e']

/-- The value of a parameter that stands for one text, if it is set. -/
def State.parameter? (s : State) : Parameter → Option ByteText
  | .named name => s.value? name
  | .argument 0 => some s.script
  | .argument (n + 1) => s.args[n]?
  | .count => some (Nat.toDigits 10 s.args.length)
  | .status => some (Nat.toDigits 10 s.status)
  | .process => some (Nat.toDigits 10 s.process)
  | .background => s.lastJob.map (Nat.toDigits 10)
  | .options => some (optionLetters.filter s.has)
  | .all joined =>
    some ((if joined then s.separators.take 1 else [' ']).intercalate s.args)

/-- The name of a parameter, as errors show it. -/
def Parameter.name : Parameter → ByteText
  | .named name => name
  | .argument n => Nat.toDigits 10 n
  | .count => ['#']
  | .status => ['?']
  | .process => ['$']
  | .background => ['!']
  | .options => ['-']
  | .all true => ['*']
  | .all false => ['@']

/-- The home directories of the users that every machine has. -/
def homes : List (String × String) :=
  [("root", "/root"), ("daemon", "/usr/sbin"), ("bin", "/bin"), ("sys", "/dev"), ("sync", "/bin"),
    ("games", "/usr/games"), ("man", "/var/cache/man"), ("lp", "/var/spool/lpd"), ("mail", "/var/mail"),
    ("news", "/var/spool/news"), ("uucp", "/var/spool/uucp"), ("proxy", "/bin"),
    ("www-data", "/var/www"), ("backup", "/var/backups"), ("list", "/var/list"), ("irc", "/run/ircd"),
    ("nobody", "/nonexistent")]

/-- The home directory that a tilde at the beginning of a text stands for, and what follows it;
`ended` tells that nothing follows the text. -/
def State.home? (s : State) (ended : Bool) (text : ByteText) : Option (ByteText × ByteText) :=
  match text with
  | '~' :: rest =>
    let user := rest.takeWhile (· != '/')
    let after := rest.drop user.length
    if after.isEmpty && !ended then none
    else if user.isEmpty then (s.value? "HOME".toList).map fun home => (home, after)
    else (homes.lookup (String.ofList user)).map fun home => (home.toList, after)
  | _ => none

/-- What is not quoted in a word, where a tilde may stand at the beginning. -/
def State.tildePieces (s : State) (ended : Bool) (text : ByteText) : List Piece :=
  match s.home? ended text with
  | some (home, after) => [.text home (!home.isEmpty), .text after false]
  | none => [.text text false]

/-- What is not quoted in a value, where tildes may stand after colons, too; `first` tells that the
value begins here. -/
def State.tildesPieces (s : State) (first ended : Bool) (text : ByteText) : List Piece :=
  let parts := piecesAt ':' text
  parts.zipIdx.flatMap fun (part, i) =>
    let before : List Piece := if i = 0 then [] else [.text [':'] false]
    if i = 0 && !first then before ++ [.text part false]
    else before ++ s.tildePieces (i + 1 < parts.length || ended) part

/-- What a word is expanded for. -/
inductive Aim
  /-- A single text. -/
  | text
  /-- The value of a variable, in which tildes may stand after colons. -/
  | value
  /-- Any number of fields. -/
  | fields
  deriving DecidableEq, Repr

/-- What stands between arguments that are expanded together, if anything does. -/
def State.joint (s : State) (aim : Aim) (asOne quoted : Bool) : ByteText :=
  let ifs := match s.variableOf? "IFS".toList with
    | some ⟨some ifs, _, _⟩ => some (ifs.take 1)
    | _ => none
  if aim = .fields && quoted && !asOne then ['\x00']
  else if aim = .fields && !quoted then if ifs.isSome then ['\x00'] else [' ']
  else ifs.getD [' ']

/-- The value of a parameter, if it is set. -/
def State.valueFor (s : State) (aim : Aim) (quoted : Bool) (parameter : Parameter) : Option ByteText :=
  match parameter with
  | .all asOne => some ((s.joint aim asOne quoted).intercalate s.args)
  | parameter => s.parameter? parameter

/-- The pieces of a value that was worked out from a parameter. -/
def State.valuePieces (s : State) (aim : Aim) (quoted : Bool) (parameter : Parameter)
    (value : ByteText) : List Piece :=
  if !quoted then [.cut value]
  else if parameter == .all false && aim == .fields && !s.args.isEmpty then [.apart value]
  else if value.isEmpty then []
  else [.text value true]

/-- The pieces of a word that stands in for a parameter; what is not quoted in it is cut. -/
def standIn (pieces : List Piece) : List Piece :=
  pieces.map fun piece =>
    match piece with
    | .text bytes false => .cut bytes
    | piece => piece

/-- The value of an expression given as text; the variables that it assigns are set. -/
def solve (text : ByteText) : Work ByteText := do
  let s ← get
  let naming : Naming :=
    { text := fun name => (s.value? name).getD []
      isReadOnly := fun name => ((s.variableOf? name).map Variable.readOnly).getD false }
  let (result, assigned) := Arithmetic.solve naming text
  for (name, value) in assigned.reverse do
    Work.assign name (numberText value) false
  match result with
  | .ok n => return numberText n
  | .error (.expecting what) =>
    Work.failOn ("arithmetic expression: expecting " ++ what ++ ": \"") text "\""
  | .error .divisionByZero =>
    Work.failOn "arithmetic expression: division by zero: \"" text "\""
  | .error (.notANumber value) => Work.failOn "Illegal number: " value ""
  | .error (.readOnly name) => Work.failOn "" name ": is read only"

mutual

/-- Expands a part of a word. -/
def expandPart (capture : Capture) (aim : Aim) : Part → Work (List Piece)
  | .literal text quoted => pure [.text text quoted]
  | .substitution commands quoted => do
    let out ← (capture commands : StateM State ByteText)
    return [if quoted then .text out (!out.isEmpty) else .cut out]
  | .arithmetic expression quoted => do
    let n ← solve (Piece.joined (← expandFrom capture .text false expression))
    return [if quoted then .text n true else .cut n]
  | .parameter parameter use word quoted => do
    let s ← get
    let value := s.valueFor aim quoted parameter
    let isSet (colon : Bool) : Bool :=
      match value with
      | some text => !(colon && text.isEmpty)
      | none => false
    let shown (value : Option ByteText) : List Piece :=
      match value with
      | some value => s.valuePieces aim quoted parameter value
      | none => []
    let isUnset : Bool := value.isNone && s.has 'u'
    match use with
    | .plain =>
      if isUnset then Work.failOn "" parameter.name ": parameter not set"
      return shown value
    | .length =>
      if isUnset then Work.failOn "" parameter.name ": parameter not set"
      let measured := (s.valueFor .text quoted parameter).getD []
      return shown (some (Nat.toDigits 10 measured.length))
    | .fallback colon =>
      if isSet colon then return shown value
      else return standIn (← expandFrom capture aim true word)
    | .replace colon =>
      let isReplaced :=
        match s.valueFor .text quoted parameter with
        | some text => !(colon && text.isEmpty)
        | none => false
      if isReplaced then return standIn (← expandFrom capture aim true word)
      else return []
    | .assign colon =>
      if isSet colon then return shown value
      else
        match parameter with
        | .named name =>
          let value := Piece.joined (← expandFrom capture .text true word)
          Work.assign name value false
          return shown (some value)
        | _ => Work.failOn "" parameter.name ": bad variable name"
    | .require colon =>
      if isSet colon then return shown value
      else
        let message := Piece.joined (← expandFrom capture .text true word)
        if message.isEmpty then
          Work.failOn "" parameter.name
            (": parameter not set" ++ if colon then " or null" else "")
        else Work.failOn "" (parameter.name ++ ": ".toList ++ message) ""
    | .cutStart longest =>
      if isUnset then Work.failOn "" parameter.name ": parameter not set"
      let pattern := Piece.pattern (← expandFrom capture .text true word)
      return shown (value.map (cutAtStart longest pattern))
    | .cutEnd longest =>
      if isUnset then Work.failOn "" parameter.name ": parameter not set"
      let pattern := Piece.pattern (← expandFrom capture .text true word)
      return shown (value.map (cutAtEnd longest pattern))
    | .bad => Work.fail "Bad substitution"

/-- Expands parts of a word; `first` tells that a tilde may stand at their beginning. -/
def expandFrom (capture : Capture) (aim : Aim) (first : Bool) : List Part → Work (List Piece)
  | [] => pure []
  | .literal text false :: rest => do
    let s ← get
    let pieces :=
      if aim = .value then s.tildesPieces first rest.isEmpty text
      else if first then s.tildePieces rest.isEmpty text
      else [.text text false]
    return pieces ++ (← expandFrom capture aim false rest)
  | part :: rest => do
    let pieces ← expandPart capture aim part
    return pieces ++ (← expandFrom capture aim false rest)

end

/-- Expands a word to one text. -/
def expandText (capture : Capture) (word : Word) : Work ByteText := do
  return Piece.joined (← expandFrom capture .text true word)

/-- Expands the value of an assignment. -/
def expandValue (capture : Capture) (word : Word) : Work ByteText := do
  return Piece.joined (← expandFrom capture .value true word)

/-- Expands a here-document. -/
def expandDocument (capture : Capture) (word : Word) : Work ByteText := do
  return Piece.joined (← expandFrom capture .text false word)

/-- Expands a word to a pattern. -/
def expandPattern (capture : Capture) (word : Word) : Work (List Glyph) := do
  return Piece.pattern (← expandFrom capture .text true word)

/-- Expands a word to fields. -/
def expandFields (capture : Capture) (word : Word) : Work (List ByteText) := do
  let pieces ← expandFrom capture .fields true word
  let s ← get
  let fields := Fields.ofPieces s.separators pieces
  if s.has 'f' then return fields.map fun field => field.map Glyph.byte
  else return fields.flatMap (matched s.files)

end EngineTokens.Shell
