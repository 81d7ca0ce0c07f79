import EngineTokens.Display.Layout

/-!
# Where a layout looks

The pixels of a row follow one another without a gap, each with the same number of bits
(`Layout.bitsPerPixel`). A row takes the bytes that these bits touch, the window of a pixel lies in
its row, and the color of a pixel is that of its window (`Layout.paint_congr`), provided that the
offsets of a layout stay in the window, as they do in every layout of a format
(`Layout.proper_of_of?`).
-/

set_option autoImplicit false

namespace EngineTokens.Display

/-- A channel of five or six bits scales to a byte. -/
theorem widened_lt {value bits : Nat} (five : bits = 5 ∨ bits = 6) (fits : value < Nat.pow 2 bits) :
    value * Nat.pow 2 (8 - bits) + value / Nat.pow 2 (2 * bits - 8) < 256 := by
  rcases five with rfl | rfl <;> simp at fits ⊢ <;> omega

namespace Layout

/-- The bits of one pixel. -/
def bitsPerPixel : Layout → Nat
  | .rgb bytes _ _ _ _ => 8 * bytes
  | .gray | .palette64 => 8
  | .cmyk => 32
  | .mono => 1
  | .packed _ _ => 16
  | .palette16 => 4

/-- Full color has its channels among the bytes of a pixel, and packed color five or six bits of
green. -/
def Proper : Layout → Prop
  | .rgb bytes red green blue alpha =>
    red < bytes ∧ green < bytes ∧ blue < bytes ∧ ∀ i, alpha = some i → i < bytes
  | .packed green _ => green = 5 ∨ green = 6
  | _ => True

/-- Full color with a fourth channel or without is proper in both byte orders. -/
theorem proper_of_rgb? {alpha : BitVec 32} {little : Bool} {layout : Layout}
    (found : rgb? alpha little = some layout) : layout.Proper := by
  unfold rgb? at found
  repeat' split at found
  all_goals cases found
  all_goals cases little <;> simp [Proper]

/-- A layout that a format has is proper. -/
theorem proper_of_of? {format : Format} {layout : Layout} (found : of? format = some layout) :
    layout.Proper := by
  unfold of? at found
  split at found
  next => exact proper_of_rgb? found
  next =>
    repeat' split at found
    all_goals cases found
    all_goals simp [Proper]

/-- A row takes its bits, rounded up to bytes. -/
theorem rowBytes_eq (layout : Layout) (width : Nat) :
    layout.rowBytes width = (width * layout.bitsPerPixel + 7) / 8 := by
  cases layout with
  | rgb bytes =>
    have eight : width * (8 * bytes) = 8 * (width * bytes) := Nat.mul_left_comm width 8 bytes
    simp only [rowBytes, bitsPerPixel, eight]
    omega
  | gray | cmyk | mono | packed | palette64 | palette16 =>
    simp only [rowBytes, bitsPerPixel]
    omega

/-- The window of a pixel lies in its row. -/
theorem window_le_rowBytes (layout : Layout) {width x : Nat} (inside : x < width) :
    (layout.window x).1 + (layout.window x).2 ≤ layout.rowBytes width := by
  cases layout with
  | rgb bytes =>
    have fits : (x + 1) * bytes ≤ width * bytes := Nat.mul_le_mul_right bytes inside
    rwa [Nat.succ_mul] at fits
  | gray | cmyk | mono | packed | palette64 | palette16 =>
    simp only [window, rowBytes]
    omega

/-- The color of a pixel depends on the bytes of its window alone. -/
theorem paint_congr {layout : Layout} (proper : layout.Proper) (x : Nat) {px qx : Nat → UInt8}
    (same : ∀ i, i < (layout.window x).2 → px i = qx i) :
    layout.paint x px = layout.paint x qx := by
  cases layout with
  | rgb bytes red green blue alpha =>
    obtain ⟨red, green, blue, alpha⟩ := proper
    simp only [window] at same
    simp only [paint, same _ red, same _ green, same _ blue]
    split
    next i => rw [same i (alpha i rfl)]
    next => rfl
  | gray | mono | palette64 | palette16 => simp only [paint, same 0 Nat.one_pos]
  | packed green little =>
    simp only [paint, same 0 Nat.two_pos, same 1 Nat.one_lt_two]
  | cmyk =>
    simp only [window] at same
    simp only [paint, same 0, same 1, same 2, same 3, Nat.reduceLT]

end Layout

end EngineTokens.Display
