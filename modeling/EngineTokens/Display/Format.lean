/-!
# The packed display format

The engine's preview device is told the layout of its pages by one 32-bit word made of seven fields.
Only the word is kept; a field is read by masking and stays in its bit position. The word zero means
that no format was chosen.
-/

set_option autoImplicit false

namespace EngineTokens.Display

/-- A display format, by its word. -/
structure Format where
  bits : BitVec 32
  deriving DecidableEq, Repr, Inhabited

/-- The properties of the screen on which pages are previewed. -/
structure Host where
  /-- Bits per pixel of the screen mode. -/
  colorDepth : Nat := 32
  /-- Pixel density in dots per inch. -/
  dpi : Nat := 96
  deriving DecidableEq, Repr, Inhabited

/-! ## Values of the fields -/

-- the color model
def colorsNative : BitVec 32 := 0x00000001#32
def colorsGray : BitVec 32 := 0x00000002#32
def colorsRgb : BitVec 32 := 0x00000004#32
def colorsCmyk : BitVec 32 := 0x00000008#32

-- the channel beside the colors
def alphaNone : BitVec 32 := 0x00000000#32
def alphaFirst : BitVec 32 := 0x00000010#32
def alphaLast : BitVec 32 := 0x00000020#32
def unusedFirst : BitVec 32 := 0x00000040#32
def unusedLast : BitVec 32 := 0x00000080#32

-- the bits per component
def depth1 : BitVec 32 := 0x00000100#32
def depth2 : BitVec 32 := 0x00000200#32
def depth4 : BitVec 32 := 0x00000400#32
def depth8 : BitVec 32 := 0x00000800#32
def depth12 : BitVec 32 := 0x00001000#32
def depth16 : BitVec 32 := 0x00002000#32

-- the order of the bytes and of the rows, and the layout of native words
def littleEndian : BitVec 32 := 0x00010000#32
def bottomFirst : BitVec 32 := 0x00020000#32
def native555 : BitVec 32 := 0x00000000#32
def native565 : BitVec 32 := 0x00040000#32

-- the alignment of the rows in bytes
def rowAlign4 : BitVec 32 := 0x00300000#32
def rowAlign8 : BitVec 32 := 0x00400000#32
def rowAlign16 : BitVec 32 := 0x00500000#32
def rowAlign32 : BitVec 32 := 0x00600000#32
def rowAlign64 : BitVec 32 := 0x00700000#32

/-! ## Masks of the fields -/

/-- The color model; its bit for separations stands apart from the others. -/
def colorMask : BitVec 32 := 0x0008000F#32
def alphaMask : BitVec 32 := 0x000000F0#32
def depthMask : BitVec 32 := 0x0000FF00#32
def endianMask : BitVec 32 := 0x00010000#32
def firstRowMask : BitVec 32 := 0x00020000#32
def native555Mask : BitVec 32 := 0x00040000#32
def rowAlignMask : BitVec 32 := 0x00700000#32

/-- The seven fields of a format, each still in its bit position. -/
structure Fields where
  alpha : BitVec 32
  color : BitVec 32
  depth : BitVec 32
  endian : BitVec 32
  firstRow : BitVec 32
  native555 : BitVec 32
  rowAlign : BitVec 32
  deriving DecidableEq, Repr

namespace Format

/-- No format was chosen. -/
def isUnset (format : Format) : Bool :=
  format.bits == 0#32

-- each field, still in its bit position
def alpha (format : Format) : BitVec 32 := format.bits &&& alphaMask
def color (format : Format) : BitVec 32 := format.bits &&& colorMask
def depth (format : Format) : BitVec 32 := format.bits &&& depthMask
def endian (format : Format) : BitVec 32 := format.bits &&& endianMask
def firstRow (format : Format) : BitVec 32 := format.bits &&& firstRowMask
def native555 (format : Format) : BitVec 32 := format.bits &&& native555Mask
def rowAlign (format : Format) : BitVec 32 := format.bits &&& rowAlignMask

/-- The fields of a format. -/
def fields (format : Format) : Fields :=
  ⟨format.alpha, format.color, format.depth, format.endian, format.firstRow, format.native555,
    format.rowAlign⟩

/-- The format for a screen of `depth` bits per pixel. The bounds are tried from the top, so a depth
that is listed by itself takes its own format and any other above eight takes the full color one. -/
def ofColorDepth (depth : Nat) : Format :=
  if depth = 32 then ⟨colorsRgb ||| depth8 ||| littleEndian⟩
  else if depth = 16 then ⟨colorsNative ||| depth16 ||| Display.native555⟩
  else if 8 < depth then ⟨colorsRgb ||| depth8⟩
  else if depth = 8 then ⟨colorsNative ||| depth8⟩
  else if 4 ≤ depth then ⟨colorsNative ||| depth4⟩
  else ⟨colorsNative ||| depth1⟩

/-- The bits per component, where the depth field holds exactly one depth. -/
def bitsPerComponent? (format : Format) : Option Nat :=
  [(depth1, 1), (depth2, 2), (depth4, 4), (depth8, 8), (depth12, 12), (depth16, 16)].lookup
    format.depth

/-- The row alignment in bytes, where it is not left to the engine. -/
def rowAlignment? (format : Format) : Option Nat :=
  [(rowAlign4, 4), (rowAlign8, 8), (rowAlign16, 16), (rowAlign32, 32), (rowAlign64, 64)].lookup
    format.rowAlign

/-- The word in decimal. -/
def text (format : Format) : String :=
  toString format.bits.toNat

end Format

end EngineTokens.Display
