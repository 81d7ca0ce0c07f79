import EngineTokens.Proofs.Display.Acceptance
import EngineTokens.Proofs.Display.Images
import EngineTokens.Proofs.Display.Layouts

/-!
# Packed colors are read back

An image is packed in full color by laying out the channels of each pixel as the format says, in
either byte order, with a byte for the opacity or without meaning where there is one, and its lines
from either end, with anything between them (`Image.pack`). Converting the buffer gives back the
image as far as the format carries it (`Image.decode_pack`): a layout finds each channel where it
has been put (`exists_rgb?`), and a row stands where the rows before it end (`Image.getElem?_pack`).

Packed native color goes the other way. The highest bits of a scaled channel are the channel
(`widen_div`), so the colors of a page give back its words (`RawPage.decode_native`). Both are put
together in `decode_packed`.
-/

set_option autoImplicit false

namespace EngineTokens.Display

/-! ## Pieces laid one after the other -/

/-- Pieces of one size add up. -/
theorem length_flatMap_range {α : Type} {f : Nat → List α} {size count : Nat}
    (length : ∀ k, k < count → (f k).length = size) :
    ((List.range count).flatMap f).length = count * size := by
  induction count with
  | zero => simp
  | succ n ih =>
    rw [List.range_succ, List.flatMap_append, List.length_append,
      ih fun k small => length k (Nat.lt_succ_of_lt small), List.flatMap_singleton,
      length n (Nat.lt_succ_self n), Nat.succ_mul]

/-- Of pieces of one length, the last of which may have any, each is found where those before it
end. -/
theorem getElem?_flatMap_range {α : Type} {f : Nat → List α} {size count k i : Nat}
    (length : ∀ k, k + 1 < count → (f k).length = size) (inside : k < count)
    (small : i < (f k).length) : ((List.range count).flatMap f)[k * size + i]? = (f k)[i]? := by
  induction count with
  | zero => cases inside
  | succ n ih =>
    have before : ((List.range n).flatMap f).length = n * size :=
      length_flatMap_range fun k low => length k (Nat.succ_lt_succ low)
    rw [List.range_succ, List.flatMap_append, List.flatMap_singleton]
    rcases Nat.lt_succ_iff_lt_or_eq.mp inside with earlier | rfl
    · have short : i < size := length k (Nat.succ_lt_succ earlier) ▸ small
      have within : k * size + i < n * size :=
        calc k * size + i < (k + 1) * size := by rw [Nat.succ_mul]; omega
          _ ≤ n * size := Nat.mul_le_mul_right size earlier
      rw [List.getElem?_append_left (by rwa [before]),
        ih (fun k low => length k (Nat.lt_succ_of_lt low)) earlier]
    · rw [List.getElem?_append_right (by omega), before, Nat.add_sub_cancel_left]

/-! ## Full color -/

/-- The bytes of a pixel in full color with a given alpha field. -/
def pixelSize (alpha : BitVec 32) : Nat :=
  if alpha = alphaNone then 3 else 4

/-- The channels of a color, with the opacity or a byte without meaning before or behind them. -/
def channels (alpha : BitVec 32) (color : Rgba) (unused : UInt8) : List UInt8 :=
  if alpha = alphaFirst then [color.alpha, color.red, color.green, color.blue]
  else if alpha = alphaLast then [color.red, color.green, color.blue, color.alpha]
  else if alpha = unusedFirst then [unused, color.red, color.green, color.blue]
  else if alpha = unusedLast then [color.red, color.green, color.blue, unused]
  else [color.red, color.green, color.blue]

/-- A color as far as an alpha field carries it: without a byte for the opacity it is opaque. -/
def carried (alpha : BitVec 32) (color : Rgba) : Rgba :=
  if alpha = alphaFirst ∨ alpha = alphaLast then color else { color with alpha := 255 }

/-- The alpha fields of full color. -/
def alphas : List (BitVec 32) :=
  [alphaNone, alphaFirst, alphaLast, unusedFirst, unusedLast]

/-- The bytes of a pixel in full color, which run backwards in little-endian order. -/
def Format.pixelBytes (format : Format) (color : Rgba) (unused : UInt8) : List UInt8 :=
  if format.endian == littleEndian then (channels format.alpha color unused).reverse
  else channels format.alpha color unused

/-- A pixel is packed into as many bytes as it has channels. -/
theorem length_channels {alpha : BitVec 32} (known : alpha ∈ alphas) (color : Rgba)
    (unused : UInt8) : (channels alpha color unused).length = pixelSize alpha := by
  simp only [alphas, List.mem_cons, List.not_mem_nil, or_false] at known
  rcases known with rfl | rfl | rfl | rfl | rfl <;> rfl

/-- So it is in a format. -/
theorem Format.length_pixelBytes {format : Format} (known : format.alpha ∈ alphas) (color : Rgba)
    (unused : UInt8) : (format.pixelBytes color unused).length = pixelSize format.alpha := by
  unfold pixelBytes
  split
  · rw [List.length_reverse, length_channels known]
  · exact length_channels known color unused

/-- The layout of full color finds its channels where they are put. -/
theorem exists_rgb? {alpha : BitVec 32} (known : alpha ∈ alphas) (little : Bool) :
    ∃ layout, Layout.rgb? alpha little = some layout ∧
      (∀ width, layout.rowBytes width = width * pixelSize alpha) ∧
      (∀ x, layout.window x = (x * pixelSize alpha, pixelSize alpha)) ∧
      ∀ (color : Rgba) (unused : UInt8) (x : Nat) (px : Nat → UInt8),
        (List.range (pixelSize alpha)).map px =
          (if little then (channels alpha color unused).reverse else channels alpha color unused) →
        layout.paint x px = carried alpha color := by
  simp only [alphas, List.mem_cons, List.not_mem_nil, or_false] at known
  cases little
  all_goals
    rcases known with rfl | rfl | rfl | rfl | rfl
    all_goals
      refine ⟨_, rfl, fun _ => rfl, fun _ => rfl, ?_⟩
      intro color unused x px read
      simp [pixelSize, channels, alphaNone, alphaFirst, alphaLast, unusedFirst, unusedLast,
        List.range_succ] at read
      simp [Layout.paint, carried, read, alphaNone, alphaFirst, alphaLast, unusedFirst, unusedLast]

/-- Full color of eight bits a channel, with or without a fourth. -/
structure Format.FullColor (format : Format) : Prop where
  color : format.color = colorsRgb
  depth : format.bitsPerComponent? = some 8
  alpha : format.alpha ∈ alphas

/-- What a packer puts where no color is looked for. -/
structure Filler where
  /-- The byte without meaning in a pixel of a row. -/
  unused : Nat → Nat → UInt8
  /-- What stands behind a row. -/
  padding : Nat → List UInt8

namespace Image

/-- The image with every color changed. -/
def map (change : Rgba → Rgba) (image : Image) : Image :=
  { image with pixels := image.pixels.map change }

/-- The bytes of a line, pixel by pixel. -/
def packLine (image : Image) (format : Format) (unused : Nat → UInt8) (line : Nat) : List UInt8 :=
  (List.range image.width).flatMap fun x =>
    format.pixelBytes ((image.at? x line).getD default) (unused x)

/-- The buffer of an image in full color: its lines from the top or from the bottom, as the format
says, each with its padding. -/
def pack (image : Image) (format : Format) (raster : Nat) (filler : Filler) : RawPage where
  format := format
  width := image.width
  height := image.height
  raster := raster
  data := ((List.range image.height).flatMap fun row =>
    image.packLine format (filler.unused row)
      (if format.firstRow = bottomFirst then image.height - 1 - row else row) ++
    filler.padding row).toArray

end Image

/-- All rows but the last are padded to the raster, and the last as one likes. -/
structure Filler.Pads (filler : Filler) (image : Image) (format : Format) (raster : Nat) : Prop where
  row : image.width * pixelSize format.alpha ≤ raster
  padding : ∀ row, row + 1 < image.height →
    (filler.padding row).length = raster - image.width * pixelSize format.alpha

variable {image : Image} {format : Format} {raster : Nat} {filler : Filler}

/-- A line is packed into its pixels, without padding. -/
theorem Image.length_packLine (known : format.alpha ∈ alphas) (unused : Nat → UInt8) (line : Nat) :
    (image.packLine format unused line).length = image.width * pixelSize format.alpha :=
  length_flatMap_range fun _ _ => format.length_pixelBytes known _ _

/-- A row of a packed image with its padding, where it is not the last, takes the raster. -/
theorem Filler.Pads.length (pads : filler.Pads image format raster) (known : format.alpha ∈ alphas)
    (unused : Nat → UInt8) (line : Nat) {row : Nat} (more : row + 1 < image.height) :
    (image.packLine format unused line ++ filler.padding row).length = raster := by
  have fits := pads.row
  rw [List.length_append, Image.length_packLine known, pads.padding row more]
  omega

/-- The bytes of a packed pixel stand where its row and its column say. -/
theorem Image.getElem?_pack (pads : filler.Pads image format raster) (known : format.alpha ∈ alphas)
    {row x i : Nat} (lower : row < image.height) (inside : x < image.width)
    (small : i < pixelSize format.alpha) :
    (image.pack format raster filler).data[row * raster + x * pixelSize format.alpha + i]? =
      (format.pixelBytes
        ((image.at? x ((image.pack format raster filler).sourceRow row)).getD default)
        (filler.unused row x))[i]? := by
  have within : x * pixelSize format.alpha + i < image.width * pixelSize format.alpha :=
    calc x * pixelSize format.alpha + i
      _ < (x + 1) * pixelSize format.alpha := by rw [Nat.succ_mul]; omega
      _ ≤ image.width * pixelSize format.alpha := Nat.mul_le_mul_right _ inside
  rw [pack, List.getElem?_toArray, Nat.add_assoc,
    getElem?_flatMap_range (fun row more => pads.length known _ _ more) lower,
    List.getElem?_append_left, packLine,
    getElem?_flatMap_range (fun x _ => format.length_pixelBytes known _ _) inside]
  · rfl
  · rwa [format.length_pixelBytes known]
  · rwa [length_packLine known]
  · rw [List.length_append, length_packLine known]
    omega

/-- The buffer of a packed image holds its rows. -/
theorem Image.fits_pack (pads : filler.Pads image format raster) (known : format.alpha ∈ alphas)
    (word : (image.pack format raster filler).data.size < 2 ^ 64) :
    (image.pack format raster filler).Fits (image.width * pixelSize format.alpha) := by
  have size : 0 < image.height → raster * (image.height - 1) +
      image.width * pixelSize format.alpha ≤ (image.pack format raster filler).data.size := by
    intro some
    obtain ⟨last, height⟩ : ∃ last, image.height = last + 1 := ⟨image.height - 1, by omega⟩
    rw [pack, List.size_toArray, height, List.range_succ, List.flatMap_append, List.length_append,
      List.flatMap_singleton, List.length_append, length_packLine known, length_flatMap_range
        (fun row before => pads.length known _ _ (by omega)), Nat.add_sub_cancel, Nat.mul_comm]
    omega
  refine ⟨pads.row, ?_, ?_⟩
  · intro some
    have held := size some
    change raster * (image.height - 1) + _ ≤ _
    omega
  · intro some
    exact size some

/-- Changing all colors changes the color of each pixel. -/
theorem Image.at?_map (change : Rgba → Rgba) (x y : Nat) :
    (image.map change).at? x y = (image.at? x y).map change := by
  unfold at? map
  split
  · exact Vector.getElem?_map
  · rfl

/-- A packed image in full color is converted back, as far as its format carries its colors. -/
theorem Image.decode_pack (full : format.FullColor) (pads : filler.Pads image format raster)
    (sized : raster < 2 ^ 64) (word : (image.pack format raster filler).data.size < 2 ^ 64) :
    (image.pack format raster filler).decode = .ok (image.map (carried format.alpha)) := by
  have known := full.alpha
  obtain ⟨layout, rgb, rowBytes, window, paint⟩ := exists_rgb? known (format.endian == littleEndian)
  have found : Layout.of? (image.pack format raster filler).format = some layout := by
    rw [← rgb]
    exact if_pos ⟨full.color, full.depth⟩
  have fits := fits_pack pads known word
  rw [← rowBytes] at fits
  rw [RawPage.decode_of_fits found sized fits]
  congr 1
  refine eq_of_at? ?width ?height ?_
  case width | height => rfl
  intro x y (inside : x < image.width) (lower : y < image.height)
  have line : (image.pack format raster filler).sourceRow y < image.height :=
    RawPage.sourceRow_lt lower
  obtain ⟨color, shown⟩ := exists_at? ⟨inside, lower⟩
  have back : (image.pack format raster filler).sourceRow
      ((image.pack format raster filler).sourceRow y) = y := RawPage.sourceRow_sourceRow lower
  rw [at?_map, shown, Option.map_some]
  change (tabulate image.width image.height _).at? x y = _
  rw [at?_tabulate _ ⟨inside, lower⟩, RawPage.color, window]
  congr 1
  apply paint color (filler.unused ((image.pack format raster filler).sourceRow y) x)
  apply List.ext_getElem?
  intro i
  change _ = (format.pixelBytes color _)[i]?
  have length := format.length_pixelBytes known color
    (filler.unused ((image.pack format raster filler).sourceRow y) x)
  by_cases small : i < pixelSize format.alpha
  · have place := getElem?_pack pads known line inside small
    rw [back, shown, Option.getD_some, List.getElem?_eq_getElem (length ▸ small)] at place
    rw [List.getElem?_map, List.getElem?_range small, Option.map_some,
      List.getElem?_eq_getElem (length ▸ small), RawPage.byte, Array.getD_eq_getD_getElem?]
    exact congrArg (fun found : Option UInt8 => some (found.getD 0)) place
  · rw [List.getElem?_eq_none (by rw [List.length_map, List.length_range]; omega),
      List.getElem?_eq_none (by omega)]

/-! ## Packed native color -/

/-- The bits of green in packed native color. -/
def Format.greenBits (format : Format) : Nat :=
  if format.native555 = native565 then 6 else 5

/-- The word of two bytes in the byte order of a format. -/
def Format.word (format : Format) (first second : UInt8) : Nat :=
  if format.endian == littleEndian then second.toNat * 256 + first.toNat
  else first.toNat * 256 + second.toNat

/-- The highest bits of the channels of a color, packed into a word and laid out in the byte order
of a format. -/
def Format.packWord (format : Format) (color : Rgba) : List UInt8 :=
  let word := color.red.toNat / 2 ^ 3 * 2 ^ (5 + format.greenBits) +
    color.green.toNat / 2 ^ (8 - format.greenBits) * 2 ^ 5 + color.blue.toNat / 2 ^ 3
  let bytes := [UInt8.ofNat (word / 256), UInt8.ofNat (word % 256)]
  if format.endian == littleEndian then bytes.reverse else bytes

/-- A channel of five or six bits is in the highest bits of the byte it is scaled to. -/
theorem widen_div {value bits : Nat} (five : bits = 5 ∨ bits = 6) (fits : value < 2 ^ bits) :
    (widen value bits).toNat / 2 ^ (8 - bits) = value := by
  rw [widen, UInt8.toNat_ofNat_of_lt' (widened_lt five fits)]
  rcases five with rfl | rfl <;> simp at fits ⊢ <;> omega

/-- Green has five bits or six. -/
theorem Format.greenBits_eq (format : Format) : format.greenBits = 5 ∨ format.greenBits = 6 := by
  unfold greenBits
  split <;> simp

/-- A word is what its fields make up, less what lies above them. -/
theorem fields_eq_mod {green : Nat} (five : green = 5 ∨ green = 6) (word : Nat) :
    word / 2 ^ (5 + green) % 2 ^ 5 * 2 ^ (5 + green) + word / 2 ^ 5 % 2 ^ green * 2 ^ 5 +
      word % 2 ^ 5 = word % 2 ^ (10 + green) := by
  rcases five with rfl | rfl <;> simp <;> omega

/-- The word of the color of two bytes is that of the bytes, less what lies above its fields. -/
theorem Format.exists_packWord (format : Format) (x : Nat) (px : Nat → UInt8) :
    ∃ first second,
      format.packWord ((Layout.packed format.greenBits (format.endian == littleEndian)).paint x px) =
        [first, second] ∧
      format.word first second = format.word (px 0) (px 1) % 2 ^ (10 + format.greenBits) := by
  have five := format.greenBits_eq
  have paint : (Layout.packed format.greenBits (format.endian == littleEndian)).paint x px =
      ⟨widen (format.word (px 0) (px 1) / 2 ^ (5 + format.greenBits) % 2 ^ 5) 5,
        widen (format.word (px 0) (px 1) / 2 ^ 5 % 2 ^ format.greenBits) format.greenBits,
        widen (format.word (px 0) (px 1) % 2 ^ 5) 5, 255⟩ := rfl
  rw [paint]
  generalize format.word (px 0) (px 1) = word
  have red : (widen (word / 2 ^ (5 + format.greenBits) % 2 ^ 5) 5).toNat / 2 ^ 3 =
      word / 2 ^ (5 + format.greenBits) % 2 ^ 5 :=
    widen_div (.inl rfl) (Nat.mod_lt _ (Nat.two_pow_pos 5))
  have green := widen_div five (Nat.mod_lt (word / 2 ^ 5) (Nat.two_pow_pos format.greenBits))
  have blue : (widen (word % 2 ^ 5) 5).toNat / 2 ^ 3 = word % 2 ^ 5 :=
    widen_div (.inl rfl) (Nat.mod_lt _ (Nat.two_pow_pos 5))
  have small : word % 2 ^ (10 + format.greenBits) < 256 * 256 := by
    rcases five with five | five <;> rw [five] <;> omega
  rw [packWord, red, green, blue, fields_eq_mod five]
  generalize word % 2 ^ (10 + format.greenBits) = packed at small
  have high : (UInt8.ofNat (packed / 256)).toNat = packed / 256 :=
    UInt8.toNat_ofNat_of_lt' (by change _ < 256; omega)
  have low : (UInt8.ofNat (packed % 256)).toNat = packed % 256 :=
    UInt8.toNat_ofNat_of_lt' (Nat.mod_lt packed (by decide))
  unfold Format.word
  split
  · refine ⟨_, _, rfl, ?_⟩
    rw [high, low]
    exact Nat.div_add_mod' packed 256
  · refine ⟨_, _, rfl, ?_⟩
    rw [high, low]
    exact Nat.div_add_mod' packed 256

/-- The layout of packed native color. -/
theorem Layout.of?_native {format : Format} (color : format.color = colorsNative)
    (depth : format.bitsPerComponent? = some 16) :
    of? format = some (.packed format.greenBits (format.endian == littleEndian)) := by
  unfold of?
  simp only [color, depth]
  rfl

/-- A page of packed native color gives back its words. -/
theorem RawPage.decode_native {page : RawPage} (color : page.format.color = colorsNative)
    (depth : page.format.bitsPerComponent? = some 16) (sized : page.raster < 2 ^ 64)
    (fits : page.Fits (page.width * 2)) :
    ∃ decoded, page.decode = .ok decoded ∧ ∀ row x, row < page.height → x < page.width →
      ∃ color first second, decoded.at? x (page.sourceRow row) = some color ∧
        page.format.packWord color = [first, second] ∧
        page.format.word first second =
          page.format.word (page.byte (row * page.raster + x * 2))
            (page.byte (row * page.raster + x * 2 + 1)) % 2 ^ (10 + page.format.greenBits) := by
  refine ⟨_, decode_of_fits (Layout.of?_native color depth) sized fits, ?_⟩
  intro row x lower inside
  obtain ⟨first, second, packs, same⟩ := page.format.exists_packWord x fun i =>
    page.byte (row * page.raster + x * 2 + i)
  refine ⟨_, first, second, Image.at?_tabulate _ ⟨inside, sourceRow_lt lower⟩, ?_, same⟩
  rw [RawPage.color, sourceRow_sourceRow lower]
  exact packs

/-- An image that is packed in full color, in any of its twenty orders and with anything between its
rows and in its bytes without meaning, is converted back, opaque where the format has no byte for
the opacity. A page of packed native color is converted to an image whose colors, packed again, give
back its words, all of them where green has six bits and the low fifteen bits where it has five. -/
theorem decode_packed :
    (∀ (image : Image) (format : Format) (raster : Nat) (filler : Filler), format.FullColor →
      filler.Pads image format raster → raster < 2 ^ 64 →
      (image.pack format raster filler).data.size < 2 ^ 64 →
      (image.pack format raster filler).decode = .ok (image.map (carried format.alpha))) ∧
    ∀ page : RawPage, page.format.color = colorsNative →
      page.format.bitsPerComponent? = some 16 → page.raster < 2 ^ 64 → page.Fits (page.width * 2) →
      ∃ decoded, page.decode = .ok decoded ∧
        ∀ row x, row < page.height → x < page.width →
          ∃ color first second,
            decoded.at? x
              (if page.format.firstRow = bottomFirst then page.height - 1 - row else row) =
                some color ∧
            page.format.packWord color = [first, second] ∧
            page.format.word first second =
              page.format.word (page.byte (row * page.raster + x * 2))
                (page.byte (row * page.raster + x * 2 + 1)) %
                  2 ^ (if page.format.native555 = native565 then 16 else 15) := by
  constructor
  · intro image format raster filler full pads sized word
    exact Image.decode_pack full pads sized word
  · intro page color depth sized fits
    have bits : 10 + page.format.greenBits =
        if page.format.native555 = native565 then 16 else 15 := by
      unfold Format.greenBits
      split <;> rfl
    rw [← bits]
    exact RawPage.decode_native color depth sized fits

/-- Four colors of different opacity. -/
def checkered : Image where
  width := 2
  height := 2
  pixels := ⟨#[⟨255, 0, 0, 128⟩, ⟨0, 255, 0, 0⟩, ⟨0, 0, 255, 255⟩, ⟨1, 2, 3, 4⟩], rfl⟩

/-- Full color with its opacity, backwards and from the bottom. -/
def backwards : Format :=
  ⟨colorsRgb ||| depth8 ||| alphaLast ||| littleEndian ||| bottomFirst⟩

/-- Padding of three bytes, and more behind the last row. -/
def scattered : Filler where
  unused row x := UInt8.ofNat (row + x)
  padding row := if row = 0 then [7, 8, 9] else [1, 2, 3, 4, 5]

/-- Two words with six bits of green, of which the row has a byte to spare. -/
def twoWords : RawPage where
  format := ⟨colorsNative ||| depth16 ||| native565 ||| littleEndian⟩
  width := 2
  height := 1
  raster := 5
  data := #[0xe0, 0x07, 0x10, 0x84]

/-- The image is converted back with its opacity, and so is the second word. -/
theorem decode_packed_checkered :
    backwards.FullColor ∧ scattered.Pads checkered backwards 11 ∧
    (checkered.pack backwards 11 scattered).decode = .ok checkered ∧
    twoWords.Fits 4 ∧
    ∃ decoded color first second, twoWords.decode = .ok decoded ∧ decoded.at? 1 0 = some color ∧
      twoWords.format.packWord color = [first, second] ∧
      twoWords.format.word first second = 0x8410 := by
  have full : backwards.FullColor := ⟨by decide, by decide, by decide⟩
  have pads : scattered.Pads checkered backwards 11 := by
    refine ⟨by decide, fun row more => ?_⟩
    have first : row = 0 := by
      change row + 1 < 2 at more
      omega
    rw [first]
    decide
  have fits : twoWords.Fits 4 := ⟨by decide, by decide, by decide⟩
  refine ⟨full, pads, ?_, fits, ?_⟩
  · have converted := decode_packed.1 checkered backwards 11 scattered full pads (by decide)
      (by decide)
    have whole : carried backwards.alpha = id := funext fun _ => rfl
    rw [whole] at converted
    simpa only [Image.map, Vector.map_id] using converted
  · obtain ⟨decoded, converted, words⟩ :=
      decode_packed.2 twoWords (by decide) (by decide) (by decide) fits
    obtain ⟨color, first, second, shown, packs, same⟩ := words 0 1 (by decide) (by decide)
    exact ⟨decoded, color, first, second, converted, shown, packs, same⟩

end EngineTokens.Display
