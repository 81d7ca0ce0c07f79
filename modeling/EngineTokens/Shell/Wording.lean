import EngineTokens.Shell.Cursor

/-!
# Reading the words of a script

A word is read part by part: bytes that stand for themselves, quoted or not, and what is worked out
when the word is expanded. What a byte means depends on the surroundings in which it stands.

Commands inside a word are read by functions that are handed in.
-/

set_option autoImplicit false

namespace EngineTokens.Shell

/-- How the commands inside a word are read. -/
structure Inner where
  /-- Commands up to a closing bracket, which is passed over. -/
  bracketed : Reading (List Command)
  /-- Commands up to the end of the text. -/
  whole : Reading (List Command)

/-- The surroundings of a byte. -/
inductive Surroundings
  /-- A word that ends at a blank. -/
  | bare
  /-- Between double quotes. -/
  | quotes
  /-- A here-document. -/
  | document
  /-- Between braces, up to the closing one; `within` tells that the braces stand between quotes,
  and `open` that quotes were opened inside them. -/
  | braces (within : Bool) (opened : Bool)
  /-- An arithmetic expression with a number of brackets open in it. -/
  | arithmetic (depth : Nat)
  deriving DecidableEq, Repr

namespace Surroundings

/-- Single quotes have no meaning and a backslash little. -/
def areQuoted : Surroundings → Bool
  | .bare => false
  | .braces within _ => within
  | _ => true

/-- The bytes that mean something outside quotes. -/
def wordEnds : List Char :=
  [' ', '\t', '\n', ';', '&', '|', '<', '>', '(', ')']

/-- The byte stands for itself. -/
def isPlain (surroundings : Surroundings) (c : Char) : Bool :=
  if ['\\', '$', '\x60'].contains c then false
  else
    match surroundings with
    | .bare => !wordEnds.contains c && c != '"' && c != '\x27'
    | .quotes => c != '"'
    | .document => true
    | .braces within _ => c != '\x7d' && c != '"' && (within || c != '\x27')
    | .arithmetic _ => c != '(' && c != ')'

/-- A backslash takes the meaning of the byte; in an expression of a here-document not that of a
quote. -/
def escapes (surroundings : Surroundings) (inDocument : Bool) (c : Char) : Bool :=
  if surroundings.areQuoted then
    ['\\', '$', '\x60'].contains c ||
      match surroundings with
      | .quotes => c == '"'
      | .braces _ _ => c == '"' || c == '\x7d'
      | .arithmetic _ => c == '"' && !inDocument
      | _ => false
  else true

/-- What is missing where the text ends, if anything is. -/
def missing? (surroundings : Surroundings) (inDocument : Bool) : Option String :=
  let brace := "Missing '\x7d'"
  let quote := if inDocument then brace else "Unterminated quoted string"
  match surroundings with
  | .bare | .document => none
  | .quotes | .braces true _ => some quote
  | .braces false _ => some brace
  | .arithmetic _ => some "Missing '))'"

end Surroundings

/-- Adds bytes to parts, the latest first. -/
def addLiteral (text : ByteText) (quoted : Bool) (parts : List Part) : List Part :=
  match parts with
  | .literal before was :: rest =>
    if was = quoted then .literal (before ++ text) quoted :: rest
    else .literal text quoted :: parts
  | parts => .literal text quoted :: parts

/-- Adds what stands between double quotes, which is marked by the quotes on both sides unless it is
just all arguments; the parts before it stand with the latest first. -/
def addQuoted (inside parts : List Part) : List Part :=
  match inside with
  | [.parameter (.all false) .plain [] true] => inside ++ parts
  | inside => addLiteral [] true (inside.reverse ++ addLiteral [] true parts)

/-- The byte names a parameter that belongs to the shell. -/
def isSpecial (c : Char) : Bool :=
  ['!', '#', '$', '*', '-', '?', '@'].contains c || c.isDigit

/-- The parameter of a name. -/
def parameterOf (name : ByteText) : Parameter :=
  match name with
  | ['#'] => .count
  | ['?'] => .status
  | ['$'] => .process
  | ['!'] => .background
  | ['-'] => .options
  | ['@'] => .all false
  | ['*'] => .all true
  | name =>
    if name.all Char.isDigit then .argument (Nat.ofDigitChars 10 name 0) else .named name

namespace Reading

/-- Reads what is done with a parameter, after its name between braces. -/
def useOf : Reading Use := do
  let colon ← take? ':'
  match ← peek? with
  | some '-' => pass ['-']; return .fallback colon
  | some '=' => pass ['=']; return .assign colon
  | some '?' => pass ['?']; return .require colon
  | some '+' => pass ['+']; return .replace colon
  | some '\x7d' =>
    -- after a colon the brace opens the word that follows
    if colon then pass ['\x7d']
    return .plain
  | some c =>
    drop
    if colon || (c != '#' && c != '%') then return .bad
    let longest ← take? c
    return if c = '#' then .cutStart longest else .cutEnd longest
  | none => return .bad

/-- Reads the name of a parameter of which the length is wanted, after the sign that asks for it. -/
def measured (fuel : Nat) (c : Char) : Reading (Parameter × Use) := do
  let name ← takeName (if c.isDigit then Char.isDigit else isNameRest) fuel
  return (parameterOf name, if (← peek?) == some '\x7d' then .length else .bad)

/-- Reads the parameter between braces and what is done with it, up to the word that may follow.
What names no parameter is dropped. -/
def bracedHead (fuel : Nat) : Reading (Parameter × Use) := do
  match ← peek? with
  | none | some '\x7d' => return (.count, .bad)
  | some '#' =>
    pass ['#']
    match ← peek? with
    | none => return (.count, .bad)
    | some c =>
      if isNameRest c then measured fuel c
      else
        let cursor ← get
        drop
        if c != '\x7d' && (← peek?) == some '\x7d' then
          return if isSpecial c then (parameterOf [c], .length) else (.count, .bad)
        else
          set cursor
          return (.count, ← useOf)
  | some c =>
    if isNameStart c then
      let name ← takeName isNameRest fuel
      return (parameterOf name, ← useOf)
    else if c.isDigit then
      let name ← takeName Char.isDigit fuel
      return (parameterOf name, ← useOf)
    else
      drop
      if isSpecial c then return (parameterOf [c], ← useOf) else return (.count, .bad)

/-- Reads the text of a command between backquotes, after the first; `quoted` tells that double
quotes surround it. -/
def backquoted (quoted : Bool) : (fuel : Nat) → ByteText → Reading ByteText
  | 0, _ => stop "EOF in backquote substitution"
  | fuel + 1, gathered => do
    match ← rest with
    | [] => stop "EOF in backquote substitution"
    | '\x60' :: _ =>
      pass ['\x60']
      return gathered.reverse
    | '\\' :: '\n' :: _ =>
      pass ['\\', '\n']
      backquoted quoted fuel gathered
    | '\\' :: c :: _ =>
      pass ['\\', c]
      if ['\\', '\x60', '$'].contains c || (quoted && c == '"') then
        backquoted quoted fuel (c :: gathered)
      else backquoted quoted fuel (c :: '\\' :: gathered)
    | c :: _ =>
      pass [c]
      backquoted quoted fuel (c :: gathered)

/-- Reads the commands in a text of their own. -/
def apart (inner : Inner) (text : ByteText) : Reading (List Command) := do
  let cursor ← get
  let beginning : Cursor :=
    { rest := text
      documents := cursor.documents
      next := cursor.next
      aliases := cursor.aliases
      unfoldings := unfoldedAround cursor }
  match inner.whole.run beginning with
  | .error trouble => throw trouble
  | .ok (commands, after) =>
    set { cursor with documents := after.documents, next := after.next }
    return commands

/-- Reads bytes between single quotes, after the first. -/
def singlyQuoted : (fuel : Nat) → ByteText → Reading ByteText
  | 0, gathered => return gathered
  | fuel + 1, gathered => do
    let inDocument := (← get).within.isSome
    let bytes ← takeWhile fun c => c != '\x27' && !(inDocument && c == '\n')
    let gathered := gathered ++ bytes
    match ← rest with
    | [] => stop ((Surroundings.quotes.missing? inDocument).getD "")
    | '\n' :: _ =>
      pass ['\n']
      if ← takeEnding then stop ((Surroundings.quotes.missing? inDocument).getD "")
      singlyQuoted fuel (gathered ++ ['\n'])
    | c :: _ =>
      pass [c]
      return gathered

/-- Reads commands up to a closing bracket. Here-documents that they announce are read among them;
one that is still awaited at the bracket is empty. -/
def bracketed (inner : Inner) : Reading (List Command) := do
  let cursor ← get
  set { cursor with within := none, awaited := [] }
  let commands ← inner.bracketed
  modify fun after => { after with
    within := cursor.within
    awaited := cursor.awaited
    documents := (after.awaited.map fun document => (document.number, [])) ++ after.documents }
  return commands

/-- Reads a break of lines with the backslash before it, which continues no line. -/
def brokenLine (surroundings : Surroundings) (gathered : List Part) : Reading (List Part) := do
  drop
  drop
  let text := if surroundings.escapes true '\n' then ['\n'] else ['\\', '\n']
  return addLiteral text true gathered

mutual

/-- Reads parts up to the end that the surroundings set, which is passed over unless it ends a bare
word; `parts` holds those read before, the latest first. -/
def parts (inner : Inner) : (fuel : Nat) → Surroundings → List Part → Reading (List Part)
  | 0, _, gathered => return gathered.reverse
  | fuel + 1, surroundings, gathered => do
    let quoted := surroundings.areQuoted
    let inDocument := (← get).within.isSome
    match ← rest with
    | [] =>
      match surroundings.missing? inDocument with
      | some message => stop message
      | none => return gathered.reverse
    | '\\' :: after =>
      match after with
      | [] =>
        pass ['\\']
        parts inner fuel surroundings (addLiteral ['\\'] true gathered)
      | '\n' :: _ =>
        pass ['\\', '\n']
        parts inner fuel surroundings gathered
      | c :: _ =>
        pass ['\\', c]
        let text := if surroundings.escapes inDocument c then [c] else ['\\', c]
        parts inner fuel surroundings (addLiteral text true gathered)
    | '$' :: _ =>
      pass ['$']
      parts inner fuel surroundings ((← dollar inner fuel quoted) :: gathered)
    | '\x60' :: after =>
      pass ['\x60']
      let commands ← apart inner (← backquoted quoted (after.length + 1) [])
      parts inner fuel surroundings (.substitution commands quoted :: gathered)
    | c :: _ =>
      if inDocument && c == '\n' then
        pass [c]
        let gathered := addLiteral [c] quoted gathered
        match ← beginLine with
        | none =>
          match surroundings.missing? true with
          | some message => stop message
          | none => return gathered.reverse
        | some broken =>
          let gathered ← if broken then brokenLine surroundings gathered else pure gathered
          parts inner fuel surroundings gathered
      else if surroundings.isPlain c then
        let bytes ← takeWhile fun c => surroundings.isPlain c && !(inDocument && c == '\n')
        parts inner fuel surroundings (addLiteral bytes quoted gathered)
      else
        match surroundings, c with
        | .quotes, _ =>
          pass [c]
          return gathered.reverse
        | .braces within opened, '"' =>
          pass [c]
          if within then parts inner fuel (.braces within !opened) gathered
          else
            let inside ← parts inner fuel .quotes []
            parts inner fuel surroundings (addQuoted inside gathered)
        | .braces within opened, '\x7d' =>
          pass [c]
          if opened then parts inner fuel surroundings (addLiteral [c] within gathered)
          else return gathered.reverse
        | .arithmetic depth, '(' =>
          pass [c]
          parts inner fuel (.arithmetic (depth + 1)) (addLiteral [c] true gathered)
        | .arithmetic (depth + 1), _ =>
          pass [c]
          parts inner fuel (.arithmetic depth) (addLiteral [c] true gathered)
        | .arithmetic 0, _ =>
          pass [c]
          if ← take? ')' then return gathered.reverse
          else parts inner fuel surroundings (addLiteral [c] true gathered)
        | _, '"' =>
          pass [c]
          let inside ← parts inner fuel .quotes []
          parts inner fuel surroundings (addQuoted inside gathered)
        | _, '\x27' =>
          pass [c]
          let bytes ← singlyQuoted fuel []
          parts inner fuel surroundings (addLiteral bytes true gathered)
        | _, _ => return gathered.reverse

/-- Reads what follows a dollar sign; a sign without a parameter stands for itself. -/
def dollar (inner : Inner) : (fuel : Nat) → (quoted : Bool) → Reading Part
  | 0, quoted => return .literal ['$'] quoted
  | fuel + 1, quoted => do
    match ← peek? with
    | some '(' =>
      pass ['(']
      if ← take? '(' then
        return .arithmetic (← parts inner fuel (.arithmetic 0) []) quoted
      else return .substitution (← bracketed inner) quoted
    | some '\x7b' =>
      pass ['\x7b']
      let (parameter, use) ← bracedHead fuel
      let within :=
        match use with
        | .cutStart _ | .cutEnd _ => false
        | _ => quoted
      return .parameter parameter use (← parts inner fuel (.braces within false) []) quoted
    | some c =>
      if isNameStart c then
        return .parameter (.named (← takeName isNameRest fuel)) .plain [] quoted
      else if isSpecial c then
        pass [c]
        return .parameter (parameterOf [c]) .plain [] quoted
      else return .literal ['$'] quoted
    | none => return .literal ['$'] quoted

end

/-- Reads a word that begins here. -/
def word (inner : Inner) : Reading Word := do
  parts inner (← room) .bare []

/-- Reads a here-document, up to its end. -/
def document (inner : Inner) (ending : DocumentEnd) : Reading Word := do
  modify fun cursor => { cursor with within := some ending }
  let word ←
    match ← beginLine with
    | none => pure []
    | some broken =>
      let gathered ← if broken then brokenLine .document [] else pure []
      parts inner (← room) .document gathered
  modify fun cursor => { cursor with within := none }
  return word

/-- Reads the line that ends a here-document as it is announced, and tells whether anything in it
was quoted; `quote` is the quote that is open. What was read stands in a list, the latest byte
first. -/
def delimiter : (fuel : Nat) → (quote : Option Char) → (quoted : Bool) → ByteText →
    Reading (ByteText × Bool)
  | 0, _, quoted, gathered => return (gathered.reverse, quoted)
  | fuel + 1, quote, quoted, gathered => do
    match ← rest, quote with
    | [], some _ => stop "Unterminated quoted string"
    | [], none => return (gathered.reverse, quoted)
    | c :: _, some '\x27' =>
      pass [c]
      if c = '\x27' then delimiter fuel none true gathered
      else delimiter fuel quote quoted (c :: gathered)
    | '\\' :: '\n' :: _, quote =>
      pass ['\\', '\n']
      delimiter fuel quote quoted gathered
    | '\\' :: c :: _, quote =>
      pass ['\\', c]
      let isTaken := quote.isNone || Surroundings.quotes.escapes false c
      delimiter fuel quote true (if isTaken then c :: gathered else c :: '\\' :: gathered)
    | c :: _, some q =>
      pass [c]
      if c = q then delimiter fuel none true gathered else delimiter fuel quote quoted (c :: gathered)
    | c :: _, none =>
      if c = '"' || c = '\x27' then
        pass [c]
        delimiter fuel (some c) true gathered
      else if Surroundings.wordEnds.contains c then return (gathered.reverse, quoted)
      else
        pass [c]
        delimiter fuel none quoted (c :: gathered)

end Reading

end EngineTokens.Shell
