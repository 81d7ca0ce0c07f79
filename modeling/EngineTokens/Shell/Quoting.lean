import EngineTokens.Shell.Numeral

/-!
# Quoted names

How the messages of programs show the names of files and other words. A name is shown so that a
shell would read it back: as it is where nothing in it means anything to a shell, else between
quotes, with bytes that cannot be printed as escapes.
-/

set_option autoImplicit false

namespace EngineTokens.Shell

namespace Quoting

/-- The byte can be printed. -/
def isPrintable (c : Char) : Bool :=
  32 ≤ c.toNat && c.toNat < 127

/-- The escape for a byte that cannot be printed. -/
def escape (c : Char) : ByteText :=
  match c with
  | '\x07' => ['\\', 'a']
  | '\x08' => ['\\', 'b']
  | '\t' => ['\\', 't']
  | '\n' => ['\\', 'n']
  | '\x0b' => ['\\', 'v']
  | '\x0c' => ['\\', 'f']
  | '\r' => ['\\', 'r']
  | c =>
    let digits := Nat.toDigits 8 c.toNat
    '\\' :: (List.replicate (3 - digits.length) '0' ++ digits)

/-- The bytes that mean something to a shell wherever they stand. -/
def special : List Char :=
  ['!', '"', '$', '&', '(', ')', '*', ';', '<', '=', '>', '?', '[', '^', '\x60', '|', '\\']

/-- The byte means something only at the beginning of a word, or as a word of its own, and stands
there. -/
def isPlaced (name : ByteText) (i : Nat) (c : Char) : Bool :=
  match c with
  | '#' | '~' => i = 0
  | '\x7b' | '\x7d' => name.length = 1
  | _ => false

/-- The byte asks for quotes around the name. -/
def asksForQuotes (name : ByteText) (i : Nat) (c : Char) : Bool :=
  !isPrintable c || c == ' ' || c == '\x27' || special.contains c || isPlaced name i c

/-- The byte means the same between double quotes as between single ones. -/
def isAlikeInQuotes (name : ByteText) (i : Nat) (c : Char) : Bool :=
  isPrintable c && !special.contains c &&
    (!(['#', '~', '\x7b', '\x7d'].contains c) || isPlaced name i c)

/-- A name between single quotes, after the first; `escaping` tells that escapes came just before. -/
def singleQuoted (escaping : Bool) : ByteText → ByteText
  | [] => ['\x27']
  | c :: rest =>
    if !isPrintable c then
      (if escaping then [] else ['\x27', '$', '\x27']) ++ escape c ++ singleQuoted true rest
    else if c = '\x27' then ['\x27', '\\', '\x27', '\x27'] ++ singleQuoted false rest
    else (if escaping then ['\x27', '\x27'] else []) ++ c :: singleQuoted false rest

end Quoting

/-- A name between quotes. -/
def quotedName (name : ByteText) : ByteText :=
  let isAlike (place : Char × Nat) : Bool := Quoting.isAlikeInQuotes name place.2 place.1
  if name.contains '\x27' && name.zipIdx.all isAlike then '"' :: name ++ ['"']
  else '\x27' :: Quoting.singleQuoted false name

/-- A name before a colon, between quotes where it needs them. -/
def nameInMessage (name : ByteText) : ByteText :=
  let asks (place : Char × Nat) : Bool :=
    place.1 == ':' || Quoting.asksForQuotes name place.2 place.1
  if name.isEmpty || name.zipIdx.any asks then quotedName name else name

/-- A word between quotes, with escapes where it cannot be printed. -/
def quotedWord (word : ByteText) : ByteText :=
  let shown (c : Char) : ByteText :=
    if c = '\x27' || c = '\\' then ['\\', c] else if Quoting.isPrintable c then [c] else Quoting.escape c
  '\x27' :: word.flatMap shown ++ ['\x27']

end EngineTokens.Shell
