import EngineTokens.Shell.Alias

/-!
# Reading a script from its beginning to its end

A script is read byte by byte. The cursor holds what is left, the line, the lexeme that was read and
put back, and the here-documents: those announced on the line in hand, whose text follows that line,
and those whose text has been read. It also holds the aliases, and tells which of them are unfolded:
their text stands in front of what was left of the script, and while it is read their name stands
for nothing else than itself.

Reading stops at the first mistake, which is told together with the line that was reached.
-/

set_option autoImplicit false

namespace EngineTokens.Shell

/-- A piece of a script. -/
inductive Lexeme
  | word (word : Word)
  /-- A word with a meaning of its own, read where it has that meaning. -/
  | keyword (name : String) (word : Word)
  /-- A redirection of a stream; its target is the word that follows. -/
  | redirect (stream : Nat) (direction : Direction)
  /-- A redirection from a here-document; `strip` drops tabs from the beginnings of its lines. -/
  | announcement (stream : Nat) (strip : Bool)
  | newline
  | semicolon
  | ampersand
  | andThen
  | orElse
  | bar
  | opening
  | closing
  /-- The end of a branch. -/
  | branchEnd
  /-- The end of the script. -/
  | finish

namespace Lexeme

/-- The words with a meaning of their own at the beginning of a command. -/
def keywords : List String :=
  ["!", "case", "do", "done", "elif", "else", "esac", "fi", "for", "if", "in", "then", "until",
    "while", "\x7b", "\x7d"]

/-- The lexeme of a word where keywords are told from other words. -/
def ofWord (word : Word) : Lexeme :=
  match (word.plain?.map String.ofList).filter keywords.contains with
  | some name => .keyword name word
  | none => .word word

/-- The keyword that a lexeme is. -/
def keyword? : Lexeme → Option String
  | .keyword name _ => some name
  | _ => none

/-- The lexeme is a given keyword. -/
def isKeyword (keyword : String) (lexeme : Lexeme) : Bool :=
  lexeme.keyword? == some keyword

/-- The lexeme ends the commands before it. -/
def endsList : Lexeme → Bool
  | .closing | .branchEnd | .finish => true
  | lexeme =>
    match lexeme.keyword? with
    | some name => ["do", "done", "elif", "else", "esac", "fi", "then", "\x7d"].contains name
    | none => false

/-- How a mistake names a lexeme. -/
def shown (lexeme : Lexeme) : String :=
  match lexeme with
  | .word _ => "word"
  | .keyword name _ => "\"" ++ name ++ "\""
  | .redirect _ _ | .announcement _ _ => "redirection"
  | .newline => "newline"
  | .semicolon => "\";\""
  | .ampersand => "\"&\""
  | .andThen => "\"&&\""
  | .orElse => "\"||\""
  | .bar => "\"|\""
  | .opening => "\"(\""
  | .closing => "\")\""
  | .branchEnd => "\";;\""
  | .finish => "end of file"

end Lexeme

/-- A here-document whose text has still to be read. -/
structure Awaited where
  number : Nat
  /-- The line that ends it. -/
  delimiter : ByteText
  /-- Its text is taken as it is. -/
  verbatim : Bool
  /-- Tabs are dropped from the beginnings of its lines. -/
  strip : Bool

/-- An alias in whose place its text is being read. -/
structure Unfolding where
  name : ByteText
  /-- How many bytes follow its text. -/
  left : Nat
  /-- A blank ends its text; the word that comes next may then be an alias, too. -/
  carriesOn : Bool

/-- A here-document whose text is being read. -/
structure DocumentEnd where
  /-- The line that ends it, unless it ends with the text. -/
  delimiter : Option ByteText
  /-- Tabs are dropped from the beginnings of its lines. -/
  strip : Bool := false

/-- Where reading stands. -/
structure Cursor where
  rest : ByteText
  line : Nat := 1
  ahead : Option Lexeme := none
  /-- The word that was read last. -/
  lastWord : Word := []
  /-- How the here-document ends that is being read, if one is. -/
  within : Option DocumentEnd := none
  awaited : List Awaited := []
  documents : List (Nat × Word) := []
  /-- The number of the next here-document. -/
  next : Nat := 0
  aliases : Aliases := {}
  unfoldings : List Unfolding := []

/-- Why a script cannot be read any further. -/
structure Trouble where
  line : Nat
  message : String

/-- Reads something of a script. -/
abbrev Reading (α : Type) := StateT Cursor (Except Trouble) α

namespace Reading

/-- Stops at a mistake. -/
def stop {α : Type} (message : String) : Reading α := do
  throw { line := (← get).line, message }

/-- What is left of the script. -/
def rest : Reading ByteText := do
  return (← get).rest

/-- The most aliases that are unfolded for one lexeme. -/
def unfoldingLimit : Nat := 100000

/-- A number of steps in which what is left can be read. -/
def room : Reading Nat := do
  let cursor ← get
  let unfolded := if cursor.aliases.entries.isEmpty then 0 else unfoldingLimit
  return cursor.rest.length + unfolded + 2

/-- Passes over some bytes, which are the first of those left. -/
def pass (bytes : ByteText) : Reading Unit :=
  modify fun cursor => { cursor with
    rest := cursor.rest.drop bytes.length
    line := cursor.line + bytes.count '\n' }

/-- The line and the rest after the continuation of lines: each backslash at the end of a line. -/
def continued (line : Nat) : ByteText → Nat × ByteText
  | '\\' :: '\n' :: rest => continued (line + 1) rest
  | rest => (line, rest)

/-- Passes over the continuation of lines. -/
def passContinuations : Reading Unit :=
  modify fun cursor =>
    let (line, rest) := continued cursor.line cursor.rest
    { cursor with line, rest }

/-- The next byte, which stays; lines are continued before it. -/
def peek? : Reading (Option Char) := do
  passContinuations
  return (← get).rest.head?

/-- Passes over the next byte if it is the given one. -/
def take? (c : Char) : Reading Bool := do
  if (← peek?) == some c then
    pass [c]
    return true
  else return false

/-- Drops the next byte, which does not count as the end of a line. -/
def drop : Reading Unit :=
  modify fun cursor => { cursor with rest := cursor.rest.drop 1 }

/-- Passes over the bytes that fulfil a condition. -/
def takeWhile (condition : Char → Bool) : Reading ByteText := do
  let bytes := (← rest).takeWhile condition
  pass bytes
  return bytes

/-- Passes over the bytes of a name that fulfil a condition; lines may be continued within it. -/
def takeName (condition : Char → Bool) : (fuel : Nat) → Reading ByteText
  | 0 => return []
  | fuel + 1 => do
    passContinuations
    match ← takeWhile condition with
    | [] => return []
    | bytes => return bytes ++ (← takeName condition fuel)

/-- Passes over the line that ends the here-document being read, if it stands here; else over the
tabs that are dropped. -/
def takeEnding : Reading Bool := do
  let cursor ← get
  match cursor.within with
  | none | some { delimiter := none, .. } => return false
  | some { delimiter := some delimiter, strip } =>
    let text := if strip then cursor.rest.dropWhile (· == '\t') else cursor.rest
    let isEnding := delimiter.isPrefixOf text &&
      (text.drop delimiter.length).head?.all (· == '\n')
    if isEnding then
      pass (cursor.rest.take (cursor.rest.length - text.length + delimiter.length))
      if !(← rest).isEmpty then pass ['\n']
      return true
    else
      set { cursor with rest := text }
      return false

/-- Begins a line of the here-document being read, at which lines may be continued. It tells whether
a break of lines comes next that continues none, as after tabs that are dropped, and nothing if the
document ends here. -/
def beginLine : Reading (Option Bool) := do
  passContinuations
  let isTab : Char → Bool := (· == '\t')
  let indented := (← rest).head?.any isTab
  if ← takeEnding then return none
  match ← rest with
  | '\\' :: '\n' :: _ => return some indented
  | _ => return some false

/-- Puts a lexeme back. -/
def putBack (lexeme : Lexeme) : Reading Unit :=
  modify fun cursor => { cursor with ahead := some lexeme }

/-- The aliases that are unfolded around a text that stands apart; they are so up to its end. -/
def unfoldedAround (cursor : Cursor) : List Unfolding :=
  if cursor.unfoldings.isEmpty then []
  else
    let left := cursor.rest.length
    (cursor.unfoldings.filter fun unfolding => unfolding.left ≤ left).map fun unfolding =>
      { unfolding with left := 0, carriesOn := false }

/-- The text of an alias, unless the alias is unfolded already. -/
def aliased? (name : ByteText) : Reading (Option ByteText) := do
  let cursor ← get
  match cursor.aliases.get? name with
  | none => return none
  | some text =>
    let left := cursor.rest.length
    let isUnfolded := cursor.unfoldings.any fun unfolding =>
      unfolding.name == name && unfolding.left ≤ left
    return if isUnfolded then none else some text

/-- Puts the text of an alias in front of what is left. -/
def unfold (name text : ByteText) : Reading Unit :=
  modify fun cursor =>
    let left := cursor.rest.length
    let carriesOn := text.getLast? == some ' ' || text.getLast? == some '\t'
    { cursor with
      rest := text ++ cursor.rest
      unfoldings := { name, left, carriesOn } ::
        cursor.unfoldings.filter fun unfolding => unfolding.left ≤ left }

/-- Stops at a lexeme that does not belong where it stands. -/
def unexpected {α : Type} (lexeme : Lexeme) (wanted : Option String) : Reading α :=
  stop (lexeme.shown ++ " unexpected" ++ match wanted with
    | some wanted => " (expecting " ++ wanted ++ ")"
    | none => "")

end Reading

end EngineTokens.Shell
