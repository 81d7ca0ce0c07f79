import EngineTokens.Text.Printable

/-!
# Quoted text

How a rejected value is shown inside a message: between double quotes, on one line, with every
character that has no shape of its own written as an escape.
-/

set_option autoImplicit false

namespace EngineTokens.Text.Quoted

/-- The escape of a character by its code point, `\u` and the code in braces, in lower-case
hexadecimal without leading zeros. -/
def codeEscape (c : Char) : List Char :=
  ['\\', 'u', '\x7b'] ++ Nat.toDigits 16 c.toNat ++ ['\x7d']

/-- One character as it stands between the quotes. -/
def escape (c : Char) : List Char :=
  match c with
  | '\x00' => ['\\', '0']
  | '\t' => ['\\', 't']
  | '\r' => ['\\', 'r']
  | '\n' => ['\\', 'n']
  | '"' => ['\\', '"']
  | '\\' => ['\\', '\\']
  | c => if isShown c then [c] else codeEscape c

/-- The text between double quotes. -/
def quote (text : String) : String :=
  String.ofList ('"' :: text.toList.flatMap escape ++ ['"'])

end EngineTokens.Text.Quoted
