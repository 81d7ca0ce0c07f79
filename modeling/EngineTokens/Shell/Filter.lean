import EngineTokens.Shell.Numeral
import EngineTokens.Shell.Quoting

/-!
# Filters

The lines of a text, its first or last lines or bytes, and how much of everything there is.
-/

set_option autoImplicit false

namespace EngineTokens.Shell

/-- The lines of a text, each with its line end; the last may lack one. The line in hand is held
with its last byte first. -/
def linesFrom (line : ByteText) : ByteText → List ByteText → List ByteText
  | [], lines => (if line.isEmpty then lines else line.reverse :: lines).reverse
  | c :: rest, lines =>
    if c = '\n' then linesFrom [] rest ((c :: line).reverse :: lines)
    else linesFrom (c :: line) rest lines

/-- The lines of a text, each with its line end; the last may lack one. -/
def linesIn (text : ByteText) : List ByteText :=
  linesFrom [] text []

/-- A line without its line end. -/
def withoutEnd (line : ByteText) : ByteText :=
  if line.getLast? == some '\n' then line.dropLast else line

/-- Lines with a line end after each. -/
def ofLines (lines : List ByteText) : ByteText :=
  lines.flatMap fun line => line ++ ['\n']

/-- The lines of a text without their ends. -/
def bareLines (text : ByteText) : List ByteText :=
  (linesIn text).map withoutEnd

/-! ## Parts of a text -/

/-- The first lines of a text, or all but the last ones for a negative number. -/
def firstLines (n : Int) (text : ByteText) : ByteText :=
  let lines := linesIn text
  (lines.take (if n < 0 then lines.length - n.natAbs else n.toNat)).flatten

/-- The first bytes of a text, or all but the last ones for a negative number. -/
def firstBytes (n : Int) (text : ByteText) : ByteText :=
  text.take (if n < 0 then text.length - n.natAbs else n.toNat)

/-- The last lines of a text, or those from a given one on. -/
def lastLines (fromStart : Bool) (n : Nat) (text : ByteText) : ByteText :=
  let lines := linesIn text
  (lines.drop (if fromStart then n - 1 else lines.length - n)).flatten

/-- The last bytes of a text, or those from a given one on. -/
def lastBytes (fromStart : Bool) (n : Nat) (text : ByteText) : ByteText :=
  text.drop (if fromStart then n - 1 else text.length - n)

/-- The number of words between blanks; `inWord` tells that the byte before belongs to one. -/
def wordCount (inWord : Bool) (n : Nat) : ByteText → Nat
  | [] => n
  | c :: rest =>
    if isSpace c then wordCount false n rest
    else wordCount true (if inWord then n else n + 1) rest

/-- The width of the widest line of a text, of which `column` bytes of a line stand before it. -/
def widest (most column : Nat) : ByteText → Nat
  | [] => max most column
  | '\n' :: rest | '\r' :: rest | '\x0c' :: rest => widest (max most column) 0 rest
  | '\t' :: rest => widest most (column + 8 - column % 8) rest
  | c :: rest => widest most (if Quoting.isPrintable c then column + 1 else column) rest

end EngineTokens.Shell
