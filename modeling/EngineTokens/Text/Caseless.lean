/-!
# Words compared without regard to ASCII case

Device names and debug switches are matched this way. Characters outside ASCII have to be equal.
-/

set_option autoImplicit false

namespace EngineTokens.Text

/-- Writes the letters `A` to `Z` in lower case and leaves every other character alone. -/
def fold (word : String) : List Char :=
  word.toList.map Char.toLower

/-- Two words are the same up to the case of their ASCII letters. -/
def sameWord (a b : String) : Bool :=
  fold a == fold b

/-- The words are the same exactly if they are the same in lower case. -/
theorem sameWord_iff {a b : String} : sameWord a b = true ↔ fold a = fold b := by
  simp [sameWord]

/-- A word is the same as itself. -/
theorem sameWord_refl (a : String) : sameWord a a = true := by
  simp [sameWord]

end EngineTokens.Text
