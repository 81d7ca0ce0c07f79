import EngineTokens.Display.Format

/-!
# Pixel layouts

How the pixels of a row lie in its bytes, for the formats that can be converted. A pixel is painted
from the bytes of its own window and from nothing else: `Layout.window` gives the window and
`Layout.paint` the color.
-/

set_option autoImplicit false

namespace EngineTokens.Display

/-- A color with its opacity. -/
structure Rgba where
  red : UInt8
  green : UInt8
  blue : UInt8
  alpha : UInt8
  deriving DecidableEq, Repr, Inhabited

/-- A row layout. -/
inductive Layout
  /-- Eight bits per channel: the bytes of a pixel, the offset of each channel among them, and that
  of the opacity where the format carries one. -/
  | rgb (bytes red green blue : Nat) (alpha : Option Nat)
  /-- Eight bits of gray. -/
  | gray
  /-- Eight bits each of cyan, magenta, yellow and black. -/
  | cmyk
  /-- One bit per pixel, highest bit first; a bit that is set is black. -/
  | mono
  /-- Two bytes per pixel with five bits of red, `green` bits of green and five of blue. -/
  | packed (green : Nat) (little : Bool)
  /-- One byte per pixel: sixty-four colors of two bits per channel, then thirty-two grays. -/
  | palette64
  /-- Two pixels per byte, high half first, each an index of `vga`. -/
  | palette16
  deriving DecidableEq, Repr

/-- The sixteen colors of native four-bit output. -/
def vga : List (UInt8 × UInt8 × UInt8) :=
  [(0x00, 0x00, 0x00), (0x00, 0x00, 0x80), (0x00, 0x80, 0x00), (0x00, 0x80, 0x80),
    (0x80, 0x00, 0x00), (0x80, 0x00, 0x80), (0x80, 0x80, 0x00), (0xC0, 0xC0, 0xC0),
    (0x80, 0x80, 0x80), (0x00, 0x00, 0xFF), (0x00, 0xFF, 0x00), (0x00, 0xFF, 0xFF),
    (0xFF, 0x00, 0x00), (0xFF, 0x00, 0xFF), (0xFF, 0xFF, 0x00), (0xFF, 0xFF, 0xFF)]

/-- Scales a channel of `bits` bits to eight by repeating its highest bits below it. -/
def widen (value bits : Nat) : UInt8 :=
  UInt8.ofNat (value * Nat.pow 2 (8 - bits) + value / Nat.pow 2 (2 * bits - 8))

/-- A gray of full opacity. -/
def Rgba.ofGray (level : UInt8) : Rgba :=
  ⟨level, level, level, 255⟩

namespace Layout

/-- The layout of full color with a fourth channel as the alpha field says. Positions are those of
big-endian order; little-endian order reverses the whole pixel. -/
def rgb? (alpha : BitVec 32) (little : Bool) : Option Layout :=
  let make (bytes red green blue : Nat) (opacity : Option Nat) : Layout :=
    let flip (i : Nat) : Nat := if little then bytes - 1 - i else i
    .rgb bytes (flip red) (flip green) (flip blue) (opacity.map flip)
  if alpha = alphaNone then some (make 3 0 1 2 none)
  else if alpha = alphaFirst then some (make 4 1 2 3 (some 0))
  else if alpha = unusedFirst then some (make 4 1 2 3 none)
  else if alpha = alphaLast then some (make 4 0 1 2 (some 3))
  else if alpha = unusedLast then some (make 4 0 1 2 none)
  else none

/-- The layout of a format, for the formats that can be converted. -/
def of? (format : Format) : Option Layout :=
  let little := format.endian == littleEndian
  if format.color = colorsRgb ∧ format.bitsPerComponent? = some 8 then rgb? format.alpha little
  else if format.color = colorsGray ∧ format.bitsPerComponent? = some 8 then some .gray
  else if format.color = colorsCmyk ∧ format.bitsPerComponent? = some 8 then some .cmyk
  else if format.color = colorsNative then
    match format.bitsPerComponent? with
    | some 1 => some .mono
    | some 4 => some .palette16
    | some 8 => some .palette64
    | some 16 => some (.packed (if format.native555 = native565 then 6 else 5) little)
    | _ => none
  else none

/-- The bytes that a row of `width` pixels takes. -/
def rowBytes (layout : Layout) (width : Nat) : Nat :=
  match layout with
  | .rgb bytes _ _ _ _ => width * bytes
  | .gray | .palette64 => width
  | .cmyk => width * 4
  | .mono => (width + 7) / 8
  | .packed _ _ => width * 2
  | .palette16 => (width + 1) / 2

/-- Where in its row the bytes of pixel `x` start, and how many there are. -/
def window (layout : Layout) (x : Nat) : Nat × Nat :=
  match layout with
  | .rgb bytes _ _ _ _ => (x * bytes, bytes)
  | .gray | .palette64 => (x, 1)
  | .cmyk => (x * 4, 4)
  | .mono => (x / 8, 1)
  | .packed _ _ => (x * 2, 2)
  | .palette16 => (x / 2, 1)

/-- The color of pixel `x`, where `px i` is the byte at offset `i` of its window. -/
def paint (layout : Layout) (x : Nat) (px : Nat → UInt8) : Rgba :=
  match layout with
  | .rgb _ red green blue alpha =>
    ⟨px red, px green, px blue, match alpha with
      | some i => px i
      | none => 255⟩
  | .gray => .ofGray (px 0)
  | .cmyk =>
    let channel (ink : UInt8) : UInt8 := UInt8.ofNat (255 - min (ink.toNat + (px 3).toNat) 255)
    ⟨channel (px 0), channel (px 1), channel (px 2), 255⟩
  | .mono => .ofGray (if (px 0).toNat / Nat.pow 2 (7 - x % 8) % 2 = 1 then 0 else 255)
  | .packed green little =>
    let word := if little then (px 1).toNat * 256 + (px 0).toNat
      else (px 0).toNat * 256 + (px 1).toNat
    ⟨widen (word / Nat.pow 2 (5 + green) % 32) 5, widen (word / 32 % Nat.pow 2 green) green,
      widen (word % 32) 5, 255⟩
  | .palette64 =>
    let index := (px 0).toNat
    if index / 64 % 2 = 1 then .ofGray (UInt8.ofNat (index % 32 * 255 / 31))
    else
      let level (shift : Nat) : UInt8 := UInt8.ofNat (index / Nat.pow 2 shift % 4 * 85)
      ⟨level 4, level 2, level 0, 255⟩
  | .palette16 =>
    let index := if x % 2 = 0 then (px 0).toNat / 16 else (px 0).toNat % 16
    let (red, green, blue) := vga.getD index (0, 0, 0)
    ⟨red, green, blue, 255⟩

end Layout

end EngineTokens.Display
