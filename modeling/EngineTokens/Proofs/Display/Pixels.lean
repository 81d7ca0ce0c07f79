import EngineTokens.Proofs.Display.Acceptance
import EngineTokens.Proofs.Display.Images
import EngineTokens.Proofs.Display.Layouts

/-!
# A pixel depends on its own bits

The pixels of a row take their bits one after the other from the start of the row, each byte with
its highest bit first (`RawPage.pixelBits`). Two pages that have the same bits for a pixel show the
same color where it stands, whatever else is in their buffers and however far their rows lie apart
(`RawPage.decode_pixelBits`). The order of the rows decides only where a pixel stands.
-/

set_option autoImplicit false

namespace EngineTokens.Display

/-- A part of a number is known by its bits. -/
theorem div_mod_eq_of_testBit {n m shift count : Nat}
    (same : ∀ i, i < count → n.testBit (shift + i) = m.testBit (shift + i)) :
    n / 2 ^ shift % 2 ^ count = m / 2 ^ shift % 2 ^ count := by
  apply Nat.eq_of_testBit_eq
  intro i
  rw [Nat.testBit_mod_two_pow, Nat.testBit_mod_two_pow, Nat.testBit_div_two_pow,
    Nat.testBit_div_two_pow]
  by_cases small : i < count
  · rw [Nat.add_comm i shift, same i small]
  · simp [small]

namespace RawPage

/-- A bit of the buffer, counted from the highest bit of its first byte. -/
def bit (page : RawPage) (k : Nat) : Bool :=
  (page.byte (k / 8)).toNat.testBit (7 - k % 8)

/-- The bits of pixel `x` of a row of the buffer. -/
def pixelBits (page : RawPage) (layout : Layout) (row x : Nat) : List Bool :=
  (List.range layout.bitsPerPixel).map fun i =>
    page.bit (8 * (row * page.raster) + x * layout.bitsPerPixel + i)

variable {p q : RawPage} {layout : Layout}

/-- A part of a byte is known by the bits that stand for it in the buffer. -/
theorem byte_div_mod_eq {k l shift count : Nat} (room : shift + count ≤ 8)
    (same : ∀ i, i < count → p.bit (8 * k + (8 - shift - count) + i) =
      q.bit (8 * l + (8 - shift - count) + i)) :
    (p.byte k).toNat / 2 ^ shift % 2 ^ count = (q.byte l).toNat / 2 ^ shift % 2 ^ count := by
  apply div_mod_eq_of_testBit
  intro i small
  -- the bits of a byte are counted from its highest
  have eq := same (count - 1 - i) (by omega)
  have index (k : Nat) : (8 * k + (8 - shift - count) + (count - 1 - i)) / 8 = k := by omega
  have place (k : Nat) :
      7 - (8 * k + (8 - shift - count) + (count - 1 - i)) % 8 = shift + i := by omega
  rwa [bit, bit, index, index, place, place] at eq

/-- Bytes with the same bits are the same. -/
theorem byte_eq {k l : Nat} (same : ∀ i, i < 8 → p.bit (8 * k + i) = q.bit (8 * l + i)) :
    p.byte k = q.byte l := by
  have whole (n : UInt8) : n.toNat / 2 ^ 0 % 2 ^ 8 = n.toNat := by
    rw [Nat.pow_zero, Nat.div_one, Nat.mod_eq_of_lt n.toNat_lt]
  have eq : (p.byte k).toNat / 2 ^ 0 % 2 ^ 8 = (q.byte l).toNat / 2 ^ 0 % 2 ^ 8 :=
    byte_div_mod_eq (by omega) same
  rw [whole, whole] at eq
  exact UInt8.toNat_inj.mp eq

/-- Pixels with the same bits agree bit by bit. -/
theorem bit_of_pixelBits {row x : Nat} (same : p.pixelBits layout row x = q.pixelBits layout row x)
    {i : Nat} (small : i < layout.bitsPerPixel) :
    p.bit (8 * (row * p.raster) + x * layout.bitsPerPixel + i) =
      q.bit (8 * (row * q.raster) + x * layout.bitsPerPixel + i) :=
  List.map_inj_left.mp same i (List.mem_range.mpr small)

/-- The bytes of a pixel of whole bytes are its bits. -/
theorem byte_of_pixelBits {row x bytes : Nat}
    (same : p.pixelBits layout row x = q.pixelBits layout row x)
    (whole : layout.bitsPerPixel = 8 * bytes) {i : Nat} (small : i < bytes) :
    p.byte (row * p.raster + x * bytes + i) = q.byte (row * q.raster + x * bytes + i) := by
  apply byte_eq
  intro j low
  have within : 8 * i + j < layout.bitsPerPixel := by omega
  have eq := bit_of_pixelBits same within
  rw [whole] at eq
  have index (start : Nat) : 8 * (start + x * bytes + i) + j =
      8 * start + x * (8 * bytes) + (8 * i + j) := by
    have bits : x * (8 * bytes) = 8 * (x * bytes) := Nat.mul_left_comm x 8 bytes
    omega
  rwa [index, index]

/-- The part of a byte that is a pixel is its bits. -/
theorem part_of_pixelBits {row x bits : Nat}
    (same : p.pixelBits layout row x = q.pixelBits layout row x)
    (part : layout.bitsPerPixel = bits) (room : x * bits % 8 + bits ≤ 8) :
    (p.byte (row * p.raster + x * bits / 8)).toNat / 2 ^ (8 - bits - x * bits % 8) % 2 ^ bits =
      (q.byte (row * q.raster + x * bits / 8)).toNat / 2 ^ (8 - bits - x * bits % 8) % 2 ^ bits := by
  apply byte_div_mod_eq (by omega)
  intro i small
  have index (start : Nat) : 8 * (start + x * bits / 8) +
      (8 - (8 - bits - x * bits % 8) - bits) + i = 8 * start + x * bits + i := by omega
  rw [index, index, ← part]
  exact bit_of_pixelBits same (part ▸ small)

/-- A pixel is painted from its own bits. -/
theorem paint_of_pixelBits (proper : layout.Proper) {row x : Nat}
    (same : p.pixelBits layout row x = q.pixelBits layout row x) :
    (layout.paint x fun i => p.byte (row * p.raster + (layout.window x).1 + i)) =
      layout.paint x fun i => q.byte (row * q.raster + (layout.window x).1 + i) := by
  cases layout with
  | rgb | packed | cmyk =>
    exact Layout.paint_congr proper x fun i small => byte_of_pixelBits same rfl small
  | gray | palette64 =>
    refine Layout.paint_congr proper x fun i small => ?_
    have eq : p.byte (row * p.raster + x * 1 + i) = q.byte (row * q.raster + x * 1 + i) :=
      byte_of_pixelBits same rfl small
    rwa [Nat.mul_one] at eq
  | mono =>
    have one : Layout.mono.bitsPerPixel = 1 := rfl
    have eq := part_of_pixelBits same one (by omega)
    have place : 8 - 1 - x * 1 % 8 = 7 - x % 8 := by omega
    rw [place, Nat.mul_one] at eq
    exact congrArg (fun bit => Rgba.ofGray (if bit = 1 then 0 else 255)) eq
  | palette16 =>
    have four : Layout.palette16.bitsPerPixel = 4 := rfl
    have eq := part_of_pixelBits same four (by omega)
    have byte : x * 4 / 8 = x / 2 := by omega
    rw [byte] at eq
    -- the part is the high or the low half of the byte
    have half (n : UInt8) : n.toNat / 2 ^ (8 - 4 - x * 4 % 8) % 2 ^ 4 =
        if x % 2 = 0 then n.toNat / 16 else n.toNat % 16 := by
      have small := n.toNat_lt
      split
      next even =>
        rw [show 8 - 4 - x * 4 % 8 = 4 by omega]
        omega
      next odd =>
        rw [show 8 - 4 - x * 4 % 8 = 0 by omega]
        omega
    rw [half, half] at eq
    exact congrArg (fun index => (⟨(vga.getD index (0, 0, 0)).1, (vga.getD index (0, 0, 0)).2.1,
      (vga.getD index (0, 0, 0)).2.2, 255⟩ : Rgba)) eq

end RawPage

/-! ## The order of the rows -/

/-- A layout depends on the color model, the depth, the fourth channel, the byte order and the
division of native colors. -/
theorem Layout.of?_congr {format other : Format} (color : format.color = other.color)
    (depth : format.depth = other.depth) (alpha : format.alpha = other.alpha)
    (endian : format.endian = other.endian) (native : format.native555 = other.native555) :
    Layout.of? format = Layout.of? other := by
  have component : format.bitsPerComponent? = other.bitsPerComponent? := by
    rw [Format.bitsPerComponent?, depth]
    rfl
  unfold Layout.of?
  rw [color, component, alpha, endian, native]

/-- The format with its lowest row first. -/
def Format.bottomUp (format : Format) : Format :=
  ⟨format.bits ||| bottomFirst⟩

/-- The mark for the lowest row lies outside all fields but its own. -/
theorem bottomUp_and {mask : BitVec 32} (apart : bottomFirst &&& mask = 0#32) (format : Format) :
    format.bottomUp.bits &&& mask = format.bits &&& mask := by
  rw [Format.bottomUp, BitVec.and_or_distrib_right, apart, BitVec.or_zero]

/-- The order of the rows has no part in the layout. -/
theorem Layout.of?_bottomUp (format : Format) : of? format.bottomUp = of? format :=
  of?_congr (bottomUp_and (by decide) format) (bottomUp_and (by decide) format)
    (bottomUp_and (by decide) format) (bottomUp_and (by decide) format)
    (bottomUp_and (by decide) format)

/-- A format that is turned over starts with the bottom row. -/
theorem Format.firstRow_bottomUp (format : Format) : format.bottomUp.firstRow = bottomFirst := by
  rw [firstRow, bottomUp, show firstRowMask = bottomFirst from rfl, BitVec.and_or_distrib_right,
    BitVec.and_self]
  apply BitVec.eq_of_getLsbD_eq
  intro i small
  rw [BitVec.getLsbD_or, BitVec.getLsbD_and]
  cases bottomFirst.getLsbD i <;> simp

namespace RawPage

variable {p q : RawPage} {layout : Layout} {image other : Image}

/-- The same buffer with its lowest row first. -/
def bottomUp (page : RawPage) : RawPage :=
  { page with format := page.format.bottomUp }

/-- Pages of one format and height have the same color where they have the same bits. -/
theorem color_of_pixelBits (proper : layout.Proper) (format : q.format = p.format)
    (height : q.height = p.height) {x y : Nat}
    (same : p.pixelBits layout (p.sourceRow y) x = q.pixelBits layout (p.sourceRow y) x) :
    p.color layout x y = q.color layout x y := by
  have source : q.sourceRow y = p.sourceRow y := by rw [sourceRow, sourceRow, format, height]
  rw [RawPage.color, RawPage.color, source]
  exact paint_of_pixelBits proper same

/-- A line of a page whose topmost row comes first has the colors of the opposite line of the same
buffer with its lowest row first. -/
theorem color_bottomUp (topFirst : p.format.firstRow ≠ bottomFirst) {x y : Nat}
    (lower : y < p.height) : p.bottomUp.color layout x (p.height - 1 - y) = p.color layout x y := by
  have upright : p.sourceRow y = y := if_neg topFirst
  have turned : p.bottomUp.sourceRow (p.height - 1 - y) = y := by
    have first : p.bottomUp.format.firstRow = bottomFirst := p.format.firstRow_bottomUp
    rw [sourceRow, if_pos first]
    change p.height - 1 - (p.height - 1 - y) = y
    omega
  rw [RawPage.color, RawPage.color, turned, upright]
  rfl

/-- A page that is converted is also converted with its lowest row first. -/
theorem decode_bottomUp (found : Layout.of? p.format = some layout)
    (converted : p.decode = .ok image) :
    p.bottomUp.decode = .ok (.tabulate p.width p.height (p.bottomUp.color layout)) := by
  have checked : p.bottomUp.check layout = .ok () := (eq_tabulate_of_decode found converted).1
  rw [decode_of_of?_eq_some ((Layout.of?_bottomUp p.format).trans found), checked]
  rfl

/-- Two pages of one format and size that are both converted show the same color where they have the
same bits for a pixel, and the same image if they do for all pixels. The buffer of a page whose
topmost row comes first, taken with its lowest row first, shows the same image upside down. -/
theorem decode_pixelBits (found : Layout.of? p.format = some layout) (format : q.format = p.format)
    (width : q.width = p.width) (height : q.height = p.height) (converted : p.decode = .ok image)
    (alsoConverted : q.decode = .ok other) :
    (∀ row x, row < p.height → x < p.width →
      p.pixelBits layout row x = q.pixelBits layout row x →
      ∃ color,
        image.at? x (if p.format.firstRow = bottomFirst then p.height - 1 - row else row) =
          some color ∧
        other.at? x (if p.format.firstRow = bottomFirst then p.height - 1 - row else row) =
          some color) ∧
    ((∀ row x, row < p.height → x < p.width →
      p.pixelBits layout row x = q.pixelBits layout row x) → image = other) ∧
    (p.format.firstRow ≠ bottomFirst →
      ∃ flipped, p.bottomUp.decode = .ok flipped ∧ flipped.width = image.width ∧
        flipped.height = image.height ∧
        ∀ x y, x < image.width → y < image.height →
          flipped.at? x (image.height - 1 - y) = image.at? x y) := by
  have turned := decode_bottomUp found converted
  obtain ⟨-, rfl⟩ := eq_tabulate_of_decode found converted
  obtain ⟨-, rfl⟩ := eq_tabulate_of_decode (format ▸ found) alsoConverted
  have proper := Layout.proper_of_of? found
  refine ⟨?_, ?_, ?_⟩
  · intro row x lower inside same
    have line := sourceRow_lt lower
    have shown := color_of_pixelBits proper format height (y := p.sourceRow row)
      (by rwa [sourceRow_sourceRow lower])
    rw [← sourceRow]
    refine ⟨p.color layout x (p.sourceRow row), Image.at?_tabulate _ ⟨inside, line⟩, ?_⟩
    rw [Image.at?_tabulate _ ⟨width ▸ inside, height ▸ line⟩, shown]
  · intro same
    apply Image.eq_of_at? width.symm height.symm
    intro x y (inside : x < p.width) (lower : y < p.height)
    rw [Image.at?_tabulate _ ⟨inside, lower⟩,
      Image.at?_tabulate _ ⟨width ▸ inside, height ▸ lower⟩,
      color_of_pixelBits proper format height (same _ x (sourceRow_lt lower) inside)]
  · intro topFirst
    refine ⟨_, turned, rfl, rfl, ?_⟩
    intro x y (inside : x < p.width) (lower : y < p.height)
    have line : p.height - 1 - y < p.height := by omega
    rw [Image.at?_tabulate _ ⟨inside, lower⟩, ← color_bottomUp topFirst lower]
    exact Image.at?_tabulate _ ⟨inside, line⟩

/-- Two rows of three pixels of one bit each. -/
def plainBits : RawPage where
  format := ⟨colorsNative ||| depth1⟩
  width := 3
  height := 2
  raster := 1
  data := #[0b10100000, 0b01000000]

/-- The same pixels with other bits behind them and a byte between the rows. -/
def paddedBits : RawPage :=
  { plainBits with raster := 2, data := #[0b10111111, 0xFF, 0b01011111] }

/-- Both pages show the same image, and the first one with its lowest row first shows it upside
down. -/
theorem decode_pixelBits_paddedBits :
    ∃ image flipped, plainBits.decode = .ok image ∧ paddedBits.decode = .ok image ∧
      plainBits.bottomUp.decode = .ok flipped ∧
      ∀ x y, x < image.width → y < image.height →
        flipped.at? x (image.height - 1 - y) = image.at? x y := by
  have found : Layout.of? plainBits.format = some .mono := by decide
  have converted := decode_of_fits found (by decide) ⟨by decide, by decide, by decide⟩
  have padded : paddedBits.decode = .ok (.tabulate 3 2 (paddedBits.color .mono)) :=
    decode_of_fits found (by decide) ⟨by decide, by decide, by decide⟩
  obtain ⟨-, same, flips⟩ := decode_pixelBits (q := paddedBits) found rfl rfl rfl converted padded
  have bits : ∀ row < 2, ∀ x < 3,
      plainBits.pixelBits .mono row x = paddedBits.pixelBits .mono row x := by decide
  obtain ⟨flipped, turned, -, -, shown⟩ := flips (by decide)
  refine ⟨_, flipped, converted, ?_, turned, shown⟩
  rw [same fun row x lower inside => bits row lower x inside, padded]

end RawPage

end EngineTokens.Display
