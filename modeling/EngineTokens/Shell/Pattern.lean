import EngineTokens.Shell.Command

/-!
# Patterns

A pattern stands for the texts that it matches as a whole: `?` for any byte, `*` for any bytes, and
a set in brackets for one of its members. Quoting takes this meaning from a byte, so a pattern is
read from bytes that are marked as quoted or not. A bracket that is never closed stands for itself.
-/

set_option autoImplicit false

namespace EngineTokens.Shell

/-- A byte, and whether it was quoted. -/
structure Glyph where
  byte : Char
  quoted : Bool := false
  deriving DecidableEq, Repr

/-- A member of a set. -/
inductive Member
  | range (first last : Char)
  | named (name : ByteText)
  deriving DecidableEq, Repr

/-- A piece of a pattern. -/
inductive Wild
  | byte (c : Char)
  | any
  | run
  | set (negated : Bool) (members : List Member)
  deriving DecidableEq, Repr

namespace Member

/-- A byte that is printed and is no blank, letter or digit. -/
def isPunctuation (c : Char) : Bool :=
  '!' ≤ c && c ≤ '~' && !c.isAlphanum

/-- The bytes of a named class. -/
def inClass (name : ByteText) (c : Char) : Bool :=
  match String.ofList name with
  | "alnum" => c.isAlphanum
  | "alpha" => c.isAlpha
  | "blank" => c == ' ' || c == '\t'
  | "cntrl" => c < ' ' || c == '\x7f'
  | "digit" => c.isDigit
  | "graph" => '!' ≤ c && c ≤ '~'
  | "lower" => c.isLower
  | "print" => ' ' ≤ c && c ≤ '~'
  | "punct" => isPunctuation c
  | "space" => c == ' ' || ('\t' ≤ c && c ≤ '\x0d')
  | "upper" => c.isUpper
  | "xdigit" => c.isDigit || ('a' ≤ c && c ≤ 'f') || ('A' ≤ c && c ≤ 'F')
  | _ => false

/-- The member holds for a byte. -/
def holds (c : Char) : Member → Bool
  | .range first last => first ≤ c && c ≤ last
  | .named name => inClass name c

end Member

/-- The names of the classes of bytes. -/
def classNames : List String :=
  ["alnum", "alpha", "blank", "cntrl", "digit", "graph", "lower", "print", "punct", "space", "upper",
    "xdigit"]

/-- Reads the name of a class after `[:`. A name that is not known names no class. -/
def className? (glyphs : List Glyph) : Option (ByteText × List Glyph) :=
  classNames.findSome? fun name =>
    let ended := (name ++ ":]").toList
    if (glyphs.take ended.length) == ended.map (⟨·, false⟩) then
      some (name.toList, glyphs.drop ended.length)
    else none

/-- Reads the members of a set, up to the bracket that closes it; `first` tells that no member has
been read, so that a bracket is one. -/
def setMembers : (fuel : Nat) → (first : Bool) → List Glyph → Option (List Member × List Glyph)
  | 0, _, _ => none
  | fuel + 1, first, glyphs =>
    match glyphs with
    | [] => none
    | ⟨']', false⟩ :: rest =>
      if first then member fuel ']' rest else some ([], rest)
    | ⟨'[', false⟩ :: ⟨':', false⟩ :: rest =>
      match className? rest with
      | some (name, rest) =>
        (setMembers fuel false rest).map fun (members, rest) => (.named name :: members, rest)
      | none => member fuel '[' (⟨':', false⟩ :: rest)
    | ⟨'\\', false⟩ :: ⟨c, _⟩ :: rest => member fuel c rest
    | ⟨c, _⟩ :: rest => member fuel c rest
where
  /-- Reads the rest of a member that begins with a byte. -/
  member (fuel : Nat) (c : Char) (rest : List Glyph) : Option (List Member × List Glyph) :=
    match rest with
    | ⟨'-', false⟩ :: ⟨last, quoted⟩ :: rest' =>
      if last = ']' && !quoted then
        (setMembers fuel false rest).map fun (members, rest) => (.range c c :: members, rest)
      else
        (setMembers fuel false rest').map fun (members, rest) => (.range c last :: members, rest)
    | rest => (setMembers fuel false rest).map fun (members, rest) => (.range c c :: members, rest)

/-- Reads a set after its opening bracket. -/
def set? (glyphs : List Glyph) : Option (Wild × List Glyph) :=
  match glyphs with
  | ⟨'!', false⟩ :: rest =>
    (setMembers (rest.length + 1) true rest).map fun (members, rest) => (.set true members, rest)
  | glyphs =>
    (setMembers (glyphs.length + 1) true glyphs).map fun (members, rest) =>
      (.set false members, rest)

/-- Reads the pieces of a pattern. -/
def wildsFrom : (fuel : Nat) → List Glyph → List Wild
  | 0, _ => []
  | fuel + 1, glyphs =>
    match glyphs with
    | [] => []
    | ⟨c, true⟩ :: rest => .byte c :: wildsFrom fuel rest
    | ⟨'?', false⟩ :: rest => .any :: wildsFrom fuel rest
    | ⟨'*', false⟩ :: rest => .run :: wildsFrom fuel rest
    | ⟨'\\', false⟩ :: ⟨c, _⟩ :: rest => .byte c :: wildsFrom fuel rest
    | ⟨'[', false⟩ :: rest =>
      match set? rest with
      | some (wild, rest) => wild :: wildsFrom fuel rest
      | none => .byte '[' :: wildsFrom fuel rest
    | ⟨c, false⟩ :: rest => .byte c :: wildsFrom fuel rest

/-- The pieces of a pattern. -/
def wilds (glyphs : List Glyph) : List Wild :=
  wildsFrom (glyphs.length + 1) glyphs

/-- The piece matches a byte. -/
def Wild.accepts (c : Char) : Wild → Bool
  | .byte d => c == d
  | .any => true
  | .run => false
  | .set negated members => members.any (Member.holds c) != negated

/-- A condition holds for a text or for what is left of it after some bytes. -/
def anySuffix (condition : ByteText → Bool) : ByteText → Bool
  | [] => condition []
  | c :: rest => condition (c :: rest) || anySuffix condition rest

/-- The pieces match a whole text. -/
def wildsMatch : List Wild → ByteText → Bool
  | [], text => text.isEmpty
  | .run :: wilds, text => anySuffix (wildsMatch wilds) text
  | _ :: _, [] => false
  | wild :: wilds, c :: rest => wild.accepts c && wildsMatch wilds rest

/-- The pattern matches a whole text. -/
def patternMatches (pattern : List Glyph) (text : ByteText) : Bool :=
  wildsMatch (wilds pattern) text

/-- A bracket closes what stands before it, if at least one member comes first. -/
def hasClosing : List Glyph → Bool
  | [] => false
  | ⟨'\\', false⟩ :: [] => false
  | ⟨'\\', false⟩ :: _ :: rest => closes rest
  | _ :: rest => closes rest
where
  /-- The rest begins with the closing bracket, or it stands further on. -/
  closes : List Glyph → Bool
    | [] => false
    | ⟨']', false⟩ :: _ => true
    | ⟨'\\', false⟩ :: [] => false
    | ⟨'\\', false⟩ :: _ :: rest => closes rest
    | _ :: rest => closes rest

/-- The name may match others than the one that it spells: it has a wild card that is not quoted, or
a set that is closed. -/
def isWild : List Glyph → Bool
  | [] => false
  | ⟨'*', false⟩ :: _ | ⟨'?', false⟩ :: _ => true
  | ⟨'[', false⟩ :: rest =>
    (match rest with
      | ⟨'!', false⟩ :: rest => hasClosing rest
      | rest => hasClosing rest) || isWild rest
  | ⟨'\\', false⟩ :: _ :: rest => isWild rest
  | _ :: rest => isWild rest

/-- The text up to its first zero byte. -/
def uptoZero (text : ByteText) : ByteText := text.takeWhile (· != '\x00')

/-- What is left of a text after the shortest or longest match at its beginning is cut off. Of
several arguments with zero bytes between them, only the first is matched. -/
def cutAtStart (longest : Bool) (pattern : List Glyph) (text : ByteText) : ByteText :=
  let wilds := wilds pattern
  let sizes :=
    if longest then (List.range (text.length + 1)).reverse
    else List.range ((uptoZero text).length + 1)
  match sizes.find? fun n => wildsMatch wilds (uptoZero (text.take n)) with
  | some n => text.drop n
  | none => text

/-- What is left of a text after the shortest or longest match at its end is cut off. Of several
arguments with zero bytes between them, what follows a match is cut off with it. -/
def cutAtEnd (longest : Bool) (pattern : List Glyph) (text : ByteText) : ByteText :=
  let wilds := wilds pattern
  let sizes :=
    if longest then List.range ((uptoZero text).length + 1)
    else (List.range (text.length + 1)).reverse
  match sizes.find? fun n => wildsMatch wilds (uptoZero (text.drop n)) with
  | some n => text.take n
  | none => text

end EngineTokens.Shell
