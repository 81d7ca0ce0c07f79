import EngineTokens.Path.Lexical
import EngineTokens.Proofs.Text.Lossy

/-!
# Texts as paths

A text is got back from the path that it is (`shown_ofText`), and a slash stands in the path where
it stands in the text: at the beginning (`isAbsolute_iff`), at the end (`endsWithSlash_ofText`), and
anywhere (`slash_mem_ofText_iff`). What a path that is no text is shown as starts with a slash
exactly if the path does.
-/

set_option autoImplicit false

namespace EngineTokens.Path

open Text.Utf8

variable {text : String} {path : RawPath}

/-! ## Bytes and characters -/

/-- A text that is put together is the path that is put together. -/
@[simp] theorem ofText_append (front back : String) :
    ofText (front ++ back) = ofText front ++ ofText back := by
  rw [ofText, String.toList_append, encode_append]
  rfl

/-- A text is got back from the path that it is. -/
@[simp] theorem shown_ofText (text : String) : shown (ofText text) = text := by
  rw [shown, ofText, lossy_encode, String.ofList_toList]

/-- Two texts that are the same path are the same. -/
theorem ofText_injective : Function.Injective ofText :=
  Function.LeftInverse.injective shown_ofText

/-- Only the empty text is the empty path. -/
@[simp] theorem ofText_eq_nil_iff : ofText text = [] ↔ text = "" := by
  constructor
  · intro nothing
    exact ofText_injective nothing
  · rintro rfl
    rfl

/-- A slash is written for a slash and for nothing else. -/
theorem slash_mem_encode_iff {chars : List Char} : slash ∈ encode chars ↔ '/' ∈ chars := by
  have read : Char.ofNat slash.toNat ∈ lossy (encode chars) ↔ slash ∈ encode chars :=
    mem_lossy_iff (by decide) (by decide)
  rw [← read, lossy_encode]
  rfl

/-- A slash stands in the path that a text is exactly if it stands in the text. -/
theorem slash_mem_ofText_iff : slash ∈ ofText text ↔ '/' ∈ text.toList :=
  slash_mem_encode_iff

/-- A path that starts with a slash is shown with a slash at the start. -/
theorem shown_cons_slash (rest : RawPath) : shown (slash :: rest) = "/" ++ shown rest := by
  have cut : lossy ([] ++ slash :: rest) = lossy [] ++ '/' :: lossy rest :=
    lossy_append_ascii (by decide) [] rest
  apply String.toList_injective
  simpa [shown, lossy_eq_nil_iff.mpr] using cut

/-! ## The slash at the beginning and at the end -/

/-- A path is absolute if it starts with a slash. -/
theorem isAbsolute_iff_cons : isAbsolute path = true ↔ ∃ rest, path = slash :: rest := by
  rw [isAbsolute, beq_iff_eq, List.head?_eq_some_iff]

/-- A text is an absolute path if it starts with a slash. -/
theorem isAbsolute_iff : isAbsolute text = true ↔ ∃ rest, text.toList = '/' :: rest := by
  rw [isAbsolute_iff_cons]
  constructor
  · rintro ⟨rest, whole⟩
    have same := shown_ofText text
    rw [whole, shown_cons_slash] at same
    exact ⟨(shown rest).toList, by simp [← same]⟩
  · rintro ⟨rest, whole⟩
    exact ⟨encode rest, by rw [ofText, whole]; rfl⟩

/-- An absolute path is not empty. -/
theorem ne_nil_of_isAbsolute (absolute : isAbsolute path = true) : path ≠ [] := by
  rintro rfl
  cases absolute

/-- A text that is an absolute path is not empty. -/
theorem ne_empty_of_isAbsolute (absolute : isAbsolute text = true) : text ≠ "" := by
  rintro rfl
  cases absolute

/-- A text is a path that ends with a slash if its last character is one. -/
theorem endsWithSlash_ofText (text : String) :
    endsWithSlash text = (text.toList.getLast? == some '/') := by
  have last : (lossy (encode text.toList)).getLast? = some '/' ↔
      (encode text.toList).getLast? = some slash :=
    getLast?_lossy_iff (b := slash) (by decide) (by decide)
  rw [lossy_encode] at last
  rw [Bool.eq_iff_iff, endsWithSlash, beq_iff_eq, beq_iff_eq, ofText, last]

end EngineTokens.Path
