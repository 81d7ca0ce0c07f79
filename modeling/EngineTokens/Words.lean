import EngineTokens.Text.Blank

/-!
# Words of a free text

Extra arguments are typed as one text. It is cut at blanks that stand outside double quotes; the
quotes themselves are dropped and may open and close in the middle of a word. A backslash is an
ordinary character. A quote that is never closed reaches to the end.
-/

set_option autoImplicit false

namespace EngineTokens.Words

/-- Cuts a text, where `quoted` tells whether a quote is open, and `word` is the word in hand, its
last character first. -/
def cut (quoted : Bool) (word : Option (List Char)) : List Char → List (List Char)
  | [] => (word.map List.reverse).toList
  | c :: rest =>
    if c = '"' then cut (!quoted) (some (word.getD [])) rest
    else if Text.isBlank c && !quoted then
      match word with
      | some word => word.reverse :: cut quoted none rest
      | none => cut quoted none rest
    else cut quoted (some (c :: word.getD [])) rest

/-- The words of a text. -/
def split (text : String) : List String :=
  (cut false none text.toList).map String.ofList

end EngineTokens.Words
