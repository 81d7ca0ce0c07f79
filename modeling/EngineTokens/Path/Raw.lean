import EngineTokens.Text.Utf8

/-!
# Paths as the system has them

A path is a sequence of bytes, and so is each name in it; no text need stand behind them. A text is
the path of its UTF-8 bytes. Where a path is shown, or kept as a text, U+FFFD stands for each piece
that is not UTF-8, so that the path cannot always be got back.
-/

set_option autoImplicit false

namespace EngineTokens

/-- A path as the system has it. -/
abbrev RawPath := List UInt8

/-- A file name as the system has it. -/
abbrev RawName := List UInt8

namespace Path

/-- The path that a text is. -/
@[coe] def ofText (text : String) : RawPath :=
  Text.Utf8.encode text.toList

instance : Coe String RawPath := ⟨ofText⟩

/-- A path as a text. -/
def shown (path : RawPath) : String :=
  String.ofList (Text.Utf8.lossy path)

end Path

end EngineTokens
