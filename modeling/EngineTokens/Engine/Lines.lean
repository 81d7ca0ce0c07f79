import EngineTokens.Text.Utf8

/-!
# Lines of a byte stream

The engine's output is read line by line as bytes, because file names are echoed in an encoding that
need not be UTF-8. A line loses its line feed, then one carriage return before it, and is then read
as text with replacement of what is ill-formed. Bytes after the last line feed are a line of their
own if there are any.

A stream arrives in chunks. `Buffer.feed` takes one chunk and gives the lines that it completes.
-/

set_option autoImplicit false

namespace EngineTokens.Engine

/-- The line feed. -/
def lineFeed : UInt8 := 10

/-- The carriage return. -/
def carriageReturn : UInt8 := 13

/-- Cuts a stream after each line feed, which stays; `line` holds the bytes of the line in hand, the
last one first, and `lines` the lines before it, the last one first. -/
def cutLinesFrom (line : List UInt8) (lines : List (List UInt8)) :
    List UInt8 → List (List UInt8)
  | [] => (if line = [] then lines else line.reverse :: lines).reverse
  | b :: rest =>
    if b = lineFeed then cutLinesFrom [] ((b :: line).reverse :: lines) rest
    else cutLinesFrom (b :: line) lines rest

/-- Cuts a stream after each line feed, which stays. -/
def cutLines (stream : List UInt8) : List (List UInt8) :=
  cutLinesFrom [] [] stream

/-- The bytes without the given one at their end. -/
def dropEnd (b : UInt8) (bytes : List UInt8) : List UInt8 :=
  if bytes.getLast? = some b then bytes.dropLast else bytes

/-- One line as text. -/
def decodeLine (raw : List UInt8) : String :=
  String.ofList (Text.Utf8.lossy (dropEnd carriageReturn (dropEnd lineFeed raw)))

/-- The lines of a stream. -/
def linesOf (stream : List UInt8) : List String :=
  (cutLines stream).map decodeLine

/-- The bytes of a line whose end has not arrived. -/
structure Buffer where
  held : List UInt8 := []
  deriving DecidableEq, Repr, Inhabited

namespace Buffer

/-- Takes bytes one by one; `lines` holds the lines completed so far. -/
def take (buffer : Buffer) (lines : List String) : List UInt8 → Buffer × List String
  | [] => (buffer, lines)
  | b :: rest =>
    if b = lineFeed then take {} (lines ++ [decodeLine (buffer.held ++ [b])]) rest
    else take ⟨buffer.held ++ [b]⟩ lines rest

/-- Takes one chunk and gives the lines that it completes. -/
def feed (buffer : Buffer) (chunk : List UInt8) : Buffer × List String :=
  buffer.take [] chunk

/-- The line that the end of the stream completes, if one is in hand. -/
def finish (buffer : Buffer) : List String :=
  if buffer.held = [] then [] else [decodeLine buffer.held]

/-- The lines of a stream that arrives in chunks. -/
def stream (buffer : Buffer) : List (List UInt8) → List String
  | [] => buffer.finish
  | chunk :: rest =>
    let (next, lines) := buffer.feed chunk
    lines ++ stream next rest

end Buffer

end EngineTokens.Engine
