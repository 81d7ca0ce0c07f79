import EngineTokens.Error
import EngineTokens.Text.Caseless

/-!
# Output devices

The catalog of devices offered for selection, in the order in which they are presented. A saved
selection is a position in it.
-/

set_option autoImplicit false

namespace EngineTokens.Device

/-- The on-screen preview device. -/
def display : String := "display"

/-- The devices offered, in order of presentation. -/
def catalog : List String :=
  [display, "pdfwrite", "ps2write", "eps2write", "png16m", "pnggray", "jpeg", "tiff24nc",
    "txtwrite", "bbox", "nullpage"]

/-- The device at a position of the catalog, where there is one. -/
def at? (index : Int) : Option String :=
  if 0 ≤ index then catalog[index.toNat]? else none

/-- The device at a position of the catalog; any other position is refused. -/
def byIndex (index : Int) : Except Error String :=
  match at? index with
  | some name => .ok name
  | none => .error (.unsupported .device ("no device at index " ++ toString index))

/-- The device is the preview device, up to ASCII case. -/
def isDisplay (name : String) : Bool :=
  Text.sameWord name display

/-- The position of a device in the catalog, up to ASCII case. -/
def position? (name : String) : Option Nat :=
  catalog.findIdx? fun known => Text.sameWord known name

/-- A position is one of the catalog exactly if it is not negative and not behind the last device. -/
theorem at?_isSome {index : Int} :
    (at? index).isSome = true ↔ 0 ≤ index ∧ index < (catalog.length : Int) := by
  unfold at?
  split
  · rename_i nonneg
    simp only [List.getElem?_eq_some_iff, Option.isSome_iff_exists]
    constructor
    · rintro ⟨_, bound, _⟩
      omega
    · intro bounds
      exact ⟨_, by omega, rfl⟩
  · simp
    omega

end EngineTokens.Device
