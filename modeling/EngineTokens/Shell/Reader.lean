import EngineTokens.Shell.Wording

/-!
# Reading the commands of a script

Commands are read line by line: a line reaches as far as the commands that begin on it. Reading
stops at the first lexeme that cannot stand where it does.
-/

set_option autoImplicit false

namespace EngineTokens.Shell

/-- How far a list of commands reaches. -/
inductive Extent
  /-- To the end of the line. -/
  | line
  /-- To the lexeme that ends it, with one command at least. -/
  | body
  /-- To the lexeme that ends it; it may be empty. -/
  | branch
  /-- One command. -/
  | single
  deriving DecidableEq, Repr

/-- What a word may be where it stands. -/
inductive Position
  /-- A word and no more. -/
  | inside
  /-- A keyword. -/
  | joint
  /-- The name of a command, which may be an alias. -/
  | name
  /-- A keyword or the name of a command. -/
  | start
  deriving DecidableEq, Repr

namespace Position

/-- Keywords are told from other words. -/
def hasKeywords (position : Position) : Bool :=
  position = .joint || position = .start

/-- Aliases are unfolded. -/
def hasAliases (position : Position) : Bool :=
  position = .name || position = .start

end Position

/-- How the commands inside a command are read. -/
abbrev Below := Extent → Reading (List Command)

/-- The commands that every shell has built in and that no function may replace. -/
def specialCommands : List String :=
  [".", ":", "break", "continue", "eval", "exec", "exit", "export", "local", "readonly", "return",
    "set", "shift", "times", "trap", "unset"]

/-- The line and the text after blanks, continuations of lines and a comment. -/
def skipBlanks (comment : Bool) (line : Nat) : ByteText → Nat × ByteText
  | [] => (line, [])
  | '\\' :: '\n' :: rest =>
    if comment then (line, '\n' :: rest) else skipBlanks false (line + 1) rest
  | c :: rest =>
    if comment then if c = '\n' then (line, c :: rest) else skipBlanks true line rest
    else if c = ' ' || c = '\t' then skipBlanks false line rest
    else if c = '#' then skipBlanks true line rest
    else (line, c :: rest)

/-- The text of a here-document, the number of its lines with the one that ends it, and what follows
it. -/
def documentText (strip : Bool) (delimiter : ByteText) :
    (fuel : Nat) → ByteText → ByteText × Nat × ByteText
  | 0, text => ([], 0, text)
  | fuel + 1, text =>
    match text with
    | [] => ([], 0, [])
    | text =>
      let line := text.takeWhile (· != '\n')
      let after := text.dropWhile (· != '\n')
      let line := if strip then line.dropWhile (· == '\t') else line
      if line = delimiter then ([], 1, after.drop 1)
      else
        let (others, lines, rest) := documentText strip delimiter fuel (after.drop 1)
        (line ++ after.take 1 ++ others, lines + 1, rest)

/-- The name and the value of a word that sets a variable. -/
def assignment? (word : Word) : Option (ByteText × Word) :=
  match word with
  | .literal text false :: rest =>
    let name := text.takeWhile isNameRest
    match text.drop name.length with
    | '=' :: value =>
      if isName name then
        some (name, if value.isEmpty then rest else .literal value false :: rest)
      else none
    | _ => none
  | _ => none

namespace Reading

/-- Takes the lexeme that was put back. -/
def takeAhead : Reading Lexeme := do
  let cursor ← get
  set { cursor with ahead := none }
  return cursor.ahead.getD .finish

/-- How the commands inside words are read. -/
def inner (below : Below) : Inner where
  bracketed := do
    let commands ← below .branch
    match ← takeAhead with
    | .closing => return commands
    | other => unexpected other (some "\")\"")
  whole := below .branch

/-- Reads a here-document whose text is taken as it is. -/
def verbatim (document : Awaited) : Reading Word := do
  let text ← rest
  let (text, lines, after) :=
    documentText document.strip document.delimiter (text.length + 1) text
  modify fun cursor => { cursor with rest := after, line := cursor.line + lines }
  return [.literal text true]

/-- Reads the text of the here-documents that were announced. -/
def awaitedDocuments (inner : Inner) : Reading Unit := do
  let awaited := (← get).awaited
  modify fun cursor => { cursor with awaited := [] }
  for document in awaited do
    let word ←
      if document.verbatim then verbatim document
      else Reading.document inner { delimiter := some document.delimiter, strip := document.strip }
    modify fun cursor => { cursor with documents := (document.number, word) :: cursor.documents }

/-- Reads the sign of a redirection of a stream. -/
def redirectSign (stream : Option Nat) : Reading Lexeme := do
  if ← take? '<' then
    let stream := stream.getD 0
    if ← take? '<' then return .announcement stream (← take? '-')
    else if ← take? '&' then return .redirect stream .same
    else if ← take? '>' then return .redirect stream .both
    else return .redirect stream .read
  else
    pass ['>']
    let stream := stream.getD 1
    if ← take? '>' then return .redirect stream .append
    else if ← take? '|' then return .redirect stream (.write true)
    else if ← take? '&' then return .redirect stream .same
    else return .redirect stream (.write false)

/-- Passes over blanks, continuations of lines and a comment; the flag tells that the text of an
alias ended there with a blank. -/
def passBlanks : Reading Bool := do
  let cursor ← get
  let (line, rest) := skipBlanks false cursor.line cursor.rest
  set { cursor with line, rest }
  return !cursor.unfoldings.isEmpty &&
    let before := cursor.rest.length
    let after := rest.length
    cursor.unfoldings.any fun unfolding =>
      unfolding.carriesOn && unfolding.left < before && after ≤ unfolding.left

/-- Reads the next lexeme, which is not a word, or nothing if it is a word. -/
def sign? : Reading (Option Lexeme) := do
  match ← rest with
  | [] => return some .finish
  | '\n' :: _ =>
    pass ['\n']
    return some .newline
  | '&' :: _ =>
    pass ['&']
    return some (if ← take? '&' then .andThen else .ampersand)
  | '|' :: _ =>
    pass ['|']
    return some (if ← take? '|' then .orElse else .bar)
  | ';' :: _ =>
    pass [';']
    return some (if ← take? ';' then .branchEnd else .semicolon)
  | '(' :: _ =>
    pass ['(']
    return some .opening
  | ')' :: _ =>
    pass [')']
    return some .closing
  | c :: after =>
    if c = '<' || c = '>' then return some (← redirectSign none)
    else if c.isDigit && ['<', '>'].contains ((continued 0 after).2.headD ' ') then
      pass [c]
      passContinuations
      return some (← redirectSign (some (c.toNat - '0'.toNat)))
    else return none

/-- Reads the next lexeme; aliases are unfolded where they may stand. -/
def unfolded (inner : Inner) (keywords aliases : Bool) : (fuel : Nat) → Reading Lexeme
  | 0 => stop "out of memory"
  | fuel + 1 => do
    let aliases := (← passBlanks) || aliases
    match ← sign? with
    | some sign => return sign
    | none =>
      let word ← word inner
      modify fun cursor => { cursor with lastWord := word }
      let lexeme := if keywords then Lexeme.ofWord word else .word word
      if !aliases || lexeme.keyword?.isSome then return lexeme
      match word.plain? with
      | none => return .word word
      | some name =>
        match ← aliased? name with
        | none => return .word word
        | some text =>
          unfold name text
          unfolded inner keywords aliases fuel

/-- Reads the next lexeme, unless one was put back. -/
def lexeme (below : Below) (position : Position) : Reading Lexeme := do
  if (← get).ahead.isSome then
    match ← takeAhead with
    | .word word => return if position.hasKeywords then .ofWord word else .word word
    | other => return other
  else unfolded (inner below) position.hasKeywords position.hasAliases unfoldingLimit

/-- Reads the next lexeme that is not the end of a line. -/
def solidAt (below : Below) (position : Position) : (fuel : Nat) → Reading Lexeme
  | 0 => lexeme below position
  | fuel + 1 => do
    match ← lexeme below position with
    | .newline =>
      awaitedDocuments (inner below)
      solidAt below position fuel
    | other => return other

/-- Reads the next lexeme that is not the end of a line. -/
def solid (below : Below) (position : Position) : Reading Lexeme := do
  solidAt below position (← room)

/-- Stops unless a lexeme is the given keyword. -/
def expect (keyword : String) (lexeme : Lexeme) : Reading Unit :=
  if lexeme.isKeyword keyword then pure ()
  else unexpected lexeme (some ("\"" ++ keyword ++ "\""))

/-- Reads the rest of a redirection, if a lexeme begins one. -/
def redirect? (below : Below) (sign : Lexeme) : Reading (Option Redirect) := do
  match sign with
  | .redirect stream direction =>
    match ← lexeme below .inside with
    | .word target => return some (.mk stream direction target)
    | other => unexpected other none
  | .announcement stream strip =>
    let _ ← passBlanks
    let size := (← rest).length
    let (delimiter, verbatim) ← delimiter (size + 1) none false []
    if (← rest).length = size then unexpected (← lexeme below .inside) none
    let number := (← get).next
    modify fun cursor => { cursor with
      next := number + 1
      awaited := cursor.awaited ++ [{ number, delimiter, verbatim, strip }] }
    return some (.mk stream (.document number) [])
  | _ => return none

/-- Reads redirections as long as there are any. -/
def redirects (below : Below) : (fuel : Nat) → List Redirect → Reading (List Redirect)
  | 0, gathered => return gathered.reverse
  | fuel + 1, gathered => do
    let sign ← lexeme below (if gathered.isEmpty then .start else .inside)
    match ← redirect? below sign with
    | some redirect => redirects below fuel (redirect :: gathered)
    | none =>
      putBack sign
      return gathered.reverse

/-- Reads the body of a function after its name. -/
def function (below : Below) (line : Nat) (name : Word) : Reading Command := do
  match ← lexeme below .inside with
  | .closing => pure ()
  | .word _ => stop "word unexpected (expecting \")\")"
  | other => unexpected other (some "\")\"")
  let name := name.plain?.getD []
  if !isName name || specialCommands.contains (String.ofList name) then stop "Bad function name"
  match ← below .single with
  | body :: _ => return .define line name body
  | [] => stop "out of memory"

/-- Reads a simple command that begins on a given line; what was read of it stands in lists, the
latest first. -/
def simple (below : Below) (line : Nat) : (fuel : Nat) → List (ByteText × Word) → List Word →
    List Redirect → Reading Command
  | 0, assignments, words, redirects =>
    return .simple line assignments.reverse words.reverse redirects.reverse
  | fuel + 1, assignments, words, redirects => do
    let next ← lexeme below (if words.isEmpty then .name else .inside)
    match next, words with
    | .word word, [] =>
      match assignment? word with
      | some assignment => simple below line fuel (assignment :: assignments) words redirects
      | none => simple below line fuel assignments [word] redirects
    | .word word, words => simple below line fuel assignments (word :: words) redirects
    | other, words =>
      match ← redirect? below other, other, words with
      | some redirect, _, _ => simple below line fuel assignments words (redirect :: redirects)
      | none, .opening, [name] =>
        if assignments.isEmpty && redirects.isEmpty then function below line name
        else
          putBack other
          return .simple line assignments.reverse words.reverse redirects.reverse
      | none, other, _ =>
        putBack other
        return .simple line assignments.reverse words.reverse redirects.reverse

/-- Reads a conditional command after its `if` or `elif`, up to its `fi`, which stays. -/
def conditional (below : Below) : (fuel : Nat) → Reading Command
  | 0 => stop "out of memory"
  | fuel + 1 => do
    let condition ← below .body
    expect "then" (← lexeme below .inside)
    let yes ← below .body
    let next ← lexeme below .inside
    if next.isKeyword "elif" then
      return .choose condition yes [← conditional below fuel]
    else if next.isKeyword "else" then return .choose condition yes (← below .body)
    else
      putBack next
      return .choose condition yes []

/-- Reads the words of a `for` command, up to the end of the line. -/
def items (below : Below) : (fuel : Nat) → List Word → Reading (List Word)
  | 0, words => return words.reverse
  | fuel + 1, words => do
    match ← lexeme below .inside with
    | .word word => items below fuel (word :: words)
    | .newline | .semicolon => return words.reverse
    | other => unexpected other none

/-- The arguments of the script as one word. -/
def allArguments : Word := [.parameter (.all false) .plain [] true]

/-- Reads a `for` command after its keyword, up to its `done`, which stays. -/
def iteration (below : Below) (line : Nat) : Reading Command := do
  let name ← match ← lexeme below .inside with
    | .word word => pure (word.plain?.getD [])
    | _ => pure []
  if !isName name then stop "Bad for loop variable"
  let next ← solid below .start
  let words ←
    if next.isKeyword "in" then items below (← room) []
    else
      match next with
      | .semicolon => pure [allArguments]
      | other =>
        putBack other
        pure [allArguments]
  expect "do" (← solid below .start)
  return .each line name words (← below .body)

/-- The word of a lexeme; in place of a lexeme that is no word stands the word that was read last. -/
def wordOf (lexeme : Lexeme) : Reading Word := do
  match lexeme with
  | .word word | .keyword _ word => return word
  | _ => return (← get).lastWord

/-- Reads the patterns of a branch, the first of which begins with a lexeme. -/
def patterns (below : Below) : (fuel : Nat) → List Word → Lexeme → Reading (List Word)
  | 0, gathered, _ => return gathered.reverse
  | fuel + 1, gathered, first => do
    let gathered := (← wordOf first) :: gathered
    match ← lexeme below .inside with
    | .bar => patterns below fuel gathered (← lexeme below .inside)
    | .closing => return gathered.reverse
    | .word _ => stop "word unexpected (expecting \")\")"
    | other => unexpected other (some "\")\"")

/-- Reads the branches of a `case` command and the `esac` after them. -/
def branches (below : Below) : (fuel : Nat) → List (List Word × List Command) →
    Reading (List (List Word × List Command))
  | 0, gathered => return gathered.reverse
  | fuel + 1, gathered => do
    let first ← solid below .joint
    if first.isKeyword "esac" then return gathered.reverse
    let first ← match first with
      | .opening => lexeme below .inside
      | other => pure other
    let patterns ← patterns below (← room) [] first
    let gathered := (patterns, ← below .branch) :: gathered
    let next ← solid below .joint
    if next.isKeyword "esac" then return gathered.reverse
    match next with
    | .branchEnd => branches below fuel gathered
    | other => unexpected other (some "\";;\"")

/-- Reads a `case` command after its keyword. -/
def selection (below : Below) (line : Nat) : Reading Command := do
  match ← lexeme below .inside with
  | .word word =>
    expect "in" (← solid below .joint)
    return .select line word (← branches below (← room) [])
  | other => unexpected other (some "word")

/-- Reads a command that begins with a keyword. -/
def compound (below : Below) (line : Nat) (keyword : String) (first : Lexeme) :
    Reading Command := do
  let close (keyword : String) (command : Command) : Reading Command := do
    expect keyword (← lexeme below .inside)
    return command
  match keyword with
  | "if" => close "fi" (← conditional below (← room))
  | "while" | "until" =>
    let condition ← below .body
    expect "do" (← lexeme below .inside)
    close "done" (.loop (keyword == "until") condition (← below .body))
  | "for" => close "done" (← iteration below line)
  | "case" => selection below line
  | "\x7b" => close "\x7d" (.group (← below .body))
  | _ => unexpected first none

/-- Reads a command with the redirections around it; `lines` tells that it may begin on a later
line. -/
def command (below : Below) (lines : Bool) : Reading Command := do
  let line := (← get).line
  let first ← if lines then solid below .start else lexeme below .start
  let around (command : Command) : Reading Command := do
    match ← redirects below (← room) [] with
    | [] => return command
    | redirects => return .redirected line redirects command
  match first.keyword?, first with
  | some keyword, first => around (← compound below line keyword first)
  | none, .opening =>
    let commands ← below .body
    match ← lexeme below .inside with
    | .closing => around (.subshell commands)
    | other => unexpected other (some "\")\"")
  | none, .word _ | none, .redirect _ _ | none, .announcement _ _ =>
    putBack first
    simple below (← get).line (← room) [] [] []
  | none, other => unexpected other none

/-- Reads the commands of a pipeline after the first, which stand in a list, the latest first. -/
def pipedTo (below : Below) : (fuel : Nat) → List Command → Reading Command
  | 0, commands => return .pipeline commands.reverse
  | fuel + 1, commands => do
    match ← lexeme below .inside with
    | .bar => pipedTo below fuel ((← command below true) :: commands)
    | other =>
      putBack other
      match commands with
      | [single] => return single
      | commands => return .pipeline commands.reverse

/-- Reads a pipeline. -/
def pipeline (below : Below) : Reading Command := do
  let first ← lexeme below .start
  let fuel ← room
  if first.isKeyword "!" then return .negated (← pipedTo below fuel [← command below false])
  else
    putBack first
    pipedTo below fuel [← command below false]

/-- Reads the pipelines that are chained to a command. -/
def chainedTo (below : Below) : (fuel : Nat) → Command → Reading Command
  | 0, first => return first
  | fuel + 1, first => do
    match ← lexeme below .inside with
    | .andThen =>
      putBack (← solid below .start)
      chainedTo below fuel (.chain true first (← pipeline below))
    | .orElse =>
      putBack (← solid below .start)
      chainedTo below fuel (.chain false first (← pipeline below))
    | other =>
      putBack other
      return first

/-- Reads pipelines with those chained to them. -/
def chained (below : Below) : Reading Command := do
  chainedTo below (← room) (← pipeline below)

/-- Reads the commands of a list, where those read before stand in a list, the latest first. -/
def listFrom (below : Below) (extent : Extent) : (fuel : Nat) → List Command →
    Reading (List Command)
  | 0, gathered => return gathered.reverse
  | fuel + 1, gathered => do
    let next ← if extent = .line then lexeme below .start else solid below .start
    match next with
    | .newline =>
      awaitedDocuments (inner below)
      return gathered.reverse
    | .finish =>
      awaitedDocuments (inner below)
      putBack next
      return gathered.reverse
    | next =>
      putBack next
      let mayEnd := extent = .branch || (extent ≠ .line && !gathered.isEmpty)
      if next.endsList && mayEnd then return gathered.reverse
      let command ← chained below
      match ← lexeme below .inside with
      | .ampersand => listFrom below extent fuel (.background command :: gathered)
      | .semicolon => listFrom below extent fuel (command :: gathered)
      | .newline =>
        putBack .newline
        listFrom below extent fuel (command :: gathered)
      | .finish =>
        awaitedDocuments (inner below)
        putBack .finish
        return (command :: gathered).reverse
      | other =>
        if extent = .line then unexpected other none
        else
          putBack other
          return (command :: gathered).reverse

/-- How commands are read inside one another, down to a given depth. -/
def below : (depth : Nat) → Below
  | 0, _ => stop "out of memory"
  | depth + 1, extent => do
    if extent = .single then return [← command (below depth) true]
    else listFrom (below depth) extent (← room) []

/-- Reads all that is left as a here-document. -/
def wholeDocument : Reading Word := do
  document (inner (below (← room))) { delimiter := none }

/-- Reads the commands that begin on the next line, if there is a line. -/
def line? : Reading (Option (List Command)) := do
  let below := below (← room)
  match ← lexeme below .start with
  | .finish => return none
  | .newline => return some []
  | first =>
    putBack first
    return some (← below .line)

end Reading

end EngineTokens.Shell
