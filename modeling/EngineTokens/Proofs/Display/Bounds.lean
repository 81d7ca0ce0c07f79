import EngineTokens.Proofs.Display.Acceptance
import EngineTokens.Proofs.Display.Images
import EngineTokens.Proofs.Display.Layouts

/-!
# Pages are painted within their bounds

A page that is refused is refused for a reason that its format and its sizes give away, and a page
that is accepted can be painted byte by byte with every access checked. Rows are cut out of the
buffer (`Fits.row_le`), pixels are read inside their row (`Layout.pixel?_eq_some`) and put inside
the image (`Shows.paintPixel?`), and no number on the way leaves its word. So painting comes to its
end, and what it shows is the image that the page is converted to (`RawPage.decode_verdicts`).

The painter carries a picture of the rows and pixels done so far from step to step
(`RawPage.Shows`).
-/

set_option autoImplicit false

namespace EngineTokens.Display

/-! ## What does not fail -/

/-- A number that fits a word is one. -/
theorem word?_eq_some {bits n : Nat} (fits : n < 2 ^ bits) : word? bits n = some n :=
  if_pos fits

/-- A difference that is not negative is taken. -/
theorem minus?_eq_some {n m : Nat} (small : m ≤ n) : minus? n m = some (n - m) :=
  if_pos small

/-- A slice inside the bytes is taken. -/
theorem slice?_eq_some {bytes : Array UInt8} {first last : Nat} (order : first ≤ last)
    (inside : last ≤ bytes.size) : slice? bytes first last = some (bytes.extract first last) :=
  if_pos ⟨order, inside⟩

/-- A byte of a slice is a byte of the whole. -/
theorem getElem?_extract {bytes : Array UInt8} {first last i : Nat} (inside : last ≤ bytes.size)
    (small : first + i < last) : (bytes.extract first last)[i]? = bytes[first + i]? := by
  rw [Array.getElem?_extract, if_pos (by omega)]

/-- A value of five or six bits is widened. -/
theorem widen?_eq_some {value bits : Nat} (five : bits = 5 ∨ bits = 6) (fits : value < 2 ^ bits) :
    widen? value bits = some (widen value bits) := by
  have level : value * Nat.pow 2 (8 - bits) + value / Nat.pow 2 (2 * bits - 8) < 2 ^ 8 :=
    widened_lt five fits
  have up : bits ≤ 8 := by omega
  have down : 8 ≤ 2 * bits := by omega
  simp only [widen?, widen, minus?_eq_some up, minus?_eq_some down, word?_eq_some level,
    Option.bind_eq_bind, Option.bind_some, Option.pure_def]

namespace Layout

/-- A pixel whose window lies in the row is painted from the bytes of its window. No other byte is
read, and no number leaves its word. -/
theorem pixel?_eq_some {layout : Layout} (proper : layout.Proper) {row : Array UInt8} {x : Nat}
    {px : Nat → UInt8} (within : (layout.window x).1 + (layout.window x).2 ≤ row.size)
    (fits : row.size < 2 ^ 64)
    (read : ∀ i, i < (layout.window x).2 → row[(layout.window x).1 + i]? = some (px i)) :
    layout.pixel? row x = some (layout.paint x px) := by
  have first : word? 64 (layout.window x).1 = some (layout.window x).1 :=
    word?_eq_some (by omega)
  have last : word? 64 ((layout.window x).1 + (layout.window x).2) =
      some ((layout.window x).1 + (layout.window x).2) := word?_eq_some (by omega)
  have slice : slice? row (layout.window x).1 ((layout.window x).1 + (layout.window x).2) =
      some (row.extract (layout.window x).1 ((layout.window x).1 + (layout.window x).2)) :=
    slice?_eq_some (Nat.le_add_right _ _) within
  have part (i : Nat) (small : i < (layout.window x).2) :
      (row.extract (layout.window x).1 ((layout.window x).1 + (layout.window x).2))[i]? =
        some (px i) := by
    rw [getElem?_extract within (by omega), read i small]
  cases layout with
  | rgb bytes red green blue alpha =>
    obtain ⟨red, green, blue, alpha⟩ := proper
    simp only [window, ← Nat.succ_mul] at first last slice part
    simp only [pixel?, paint, first, last, slice, part _ red, part _ green, part _ blue,
      Option.bind_eq_bind, Option.bind_some, Option.pure_def]
    split
    next i => simp only [part i (alpha i rfl), Option.bind_some]
    next => rfl
  | gray =>
    have byte : row[x]? = some (px 0) := read 0 Nat.one_pos
    simp only [pixel?, paint, byte, Option.bind_eq_bind, Option.bind_some, Option.pure_def]
  | cmyk =>
    simp only [window] at first last slice part
    have sum (ink black : UInt8) : word? 16 (ink.toNat + black.toNat) =
        some (ink.toNat + black.toNat) := by
      have small := ink.toNat_lt
      have smallBlack := black.toNat_lt
      exact word?_eq_some (by omega)
    have level (n : Nat) : minus? 255 (min n 255) = some (255 - min n 255) :=
      minus?_eq_some (Nat.min_le_right n 255)
    simp only [pixel?, paint, first, last, slice, part 0, part 1, part 2, part 3, sum, level,
      Nat.reduceLT, Option.bind_eq_bind, Option.bind_some, Option.pure_def]
  | mono =>
    have byte : row[x / 8]? = some (px 0) := read 0 Nat.one_pos
    have shift : minus? 7 (x % 8) = some (7 - x % 8) := minus?_eq_some (by omega)
    simp only [pixel?, paint, byte, shift, Option.bind_eq_bind, Option.bind_some, Option.pure_def]
  | packed green little =>
    have head : row[x * 2]? = some (px 0) := read 0 Nat.two_pos
    have tail : row[x * 2 + 1]? = some (px 1) := read 1 Nat.one_lt_two
    simp only [window] at within first
    have second : word? 64 (x * 2 + 1) = some (x * 2 + 1) := word?_eq_some (by omega)
    have five (n : Nat) : widen? (n % 32) 5 = some (widen (n % 32) 5) :=
      widen?_eq_some (.inl rfl) (Nat.mod_lt n (by decide))
    have greens (n : Nat) :
        widen? (n % Nat.pow 2 green) green = some (widen (n % Nat.pow 2 green) green) :=
      widen?_eq_some proper (Nat.mod_lt n (Nat.two_pow_pos green))
    simp only [pixel?, paint, first, second, head, tail, five, greens, Option.bind_eq_bind,
      Option.bind_some, Option.pure_def]
  | palette64 =>
    have byte : row[x]? = some (px 0) := read 0 Nat.one_pos
    have scaled (n : Nat) : word? 16 (n % 32 * 255) = some (n % 32 * 255) :=
      word?_eq_some (by omega)
    have level (n : Nat) : word? 8 (n % 4 * 85) = some (n % 4 * 85) := word?_eq_some (by omega)
    simp only [pixel?, paint, byte, scaled, level, Option.bind_eq_bind, Option.bind_some,
      Option.pure_def]
    split <;> rfl
  | palette16 =>
    have byte : row[x / 2]? = some (px 0) := read 0 Nat.one_pos
    have index : (if x % 2 = 0 then (px 0).toNat / 16 else (px 0).toNat % 16) < vga.length := by
      have small := (px 0).toNat_lt
      rw [show vga.length = 16 from rfl]
      split <;> omega
    simp only [pixel?, paint, byte, List.getD_eq_getElem?_getD, List.getElem?_eq_getElem index,
      Option.bind_eq_bind, Option.bind_some, Option.pure_def, Option.getD_some]

end Layout

/-! ## Loops -/

/-- A loop over the numbers below `n` comes to its end, with what holds at its start and is carried
on by each of its steps. -/
theorem exists_foldlM_range {α : Type} {step : α → Nat → Option α} {motive : Nat → α → Prop}
    {n : Nat} {start : α} (begins : motive 0 start)
    (goesOn : ∀ k a, k < n → motive k a → ∃ b, step a k = some b ∧ motive (k + 1) b) :
    ∃ b, (List.range n).foldlM step start = some b ∧ motive n b := by
  induction n with
  | zero => exact ⟨start, rfl, begins⟩
  | succ n ih =>
    obtain ⟨a, runs, held⟩ := ih fun k a small => goesOn k a (Nat.lt_succ_of_lt small)
    obtain ⟨b, steps, holdsNext⟩ := goesOn n a (Nat.lt_succ_self n) held
    refine ⟨b, ?_, holdsNext⟩
    rw [List.range_succ, List.foldlM_append, runs]
    simp [steps]

namespace RawPage

variable {page : RawPage} {layout : Layout}

/-! ## Rows and lines -/

/-- A row inside the picture has its row of the page. -/
theorem line?_eq_some {row : Nat} (inside : row < page.height) :
    page.line? row = some (page.sourceRow row) := by
  unfold line? sourceRow
  split
  next =>
    have one : 1 ≤ page.height := by omega
    have rest : row ≤ page.height - 1 := by omega
    simp only [minus?_eq_some one, Option.bind_eq_bind, Option.bind_some, minus?_eq_some rest]
  next => rfl

/-- A row ends before the buffer does, and within the words. -/
theorem Fits.row_le {rowBytes row : Nat} (fits : page.Fits rowBytes) (inside : row < page.height) :
    row * page.raster + rowBytes ≤ page.data.size ∧ row * page.raster + rowBytes < 2 ^ 64 := by
  have some : 0 < page.height := Nat.zero_lt_of_lt inside
  have above : row * page.raster ≤ page.raster * (page.height - 1) := by
    rw [Nat.mul_comm page.raster]
    exact Nat.mul_le_mul_right page.raster (by omega)
  have word := fits.word some
  have buffer := fits.buffer some
  omega

/-- The bytes of a row. -/
def rowOf (page : RawPage) (layout : Layout) (row : Nat) : Array UInt8 :=
  page.data.extract (row * page.raster) (row * page.raster + layout.rowBytes page.width)

/-- Cutting a row out of the buffer succeeds. -/
theorem Fits.slice?_eq_some (fits : page.Fits (layout.rowBytes page.width)) {row : Nat}
    (inside : row < page.height) :
    word? 64 (row * page.raster) = some (row * page.raster) ∧
    word? 64 (row * page.raster + layout.rowBytes page.width) =
      some (row * page.raster + layout.rowBytes page.width) ∧
    slice? page.data (row * page.raster) (row * page.raster + layout.rowBytes page.width) =
      some (page.rowOf layout row) := by
  obtain ⟨buffer, word⟩ := fits.row_le inside
  exact ⟨word?_eq_some (by omega), word?_eq_some word,
    Display.slice?_eq_some (Nat.le_add_right _ _) buffer⟩

/-- A pixel read from its row has its color in the image. -/
theorem Fits.pixel?_eq_some (fits : page.Fits (layout.rowBytes page.width))
    (proper : layout.Proper) {row x : Nat} (lower : row < page.height) (inside : x < page.width) :
    layout.pixel? (page.rowOf layout row) x =
      some (page.color layout x (page.sourceRow row)) := by
  obtain ⟨buffer, word⟩ := fits.row_le lower
  have within := layout.window_le_rowBytes inside
  have size : (page.rowOf layout row).size = layout.rowBytes page.width := by
    rw [rowOf, Array.size_extract]
    omega
  rw [RawPage.color, sourceRow_sourceRow lower]
  refine Layout.pixel?_eq_some proper (by omega) (by omega) ?_
  intro i small
  rw [rowOf, getElem?_extract buffer (by omega), byte, Nat.add_assoc, Array.getD_eq_getD_getElem?,
    Array.getElem?_eq_getElem (by omega), Option.getD_some]

/-! ## Painting -/

/-- The rows of the buffer before `row` show in an image, and of that row the pixels before `x`. -/
structure Shows (page : RawPage) (layout : Layout) (row x : Nat) (image : Image) : Prop where
  width : image.width = page.width
  height : image.height = page.height
  shown : ∀ x' y', x' < page.width → y' < page.height →
    page.sourceRow y' < row ∨ page.sourceRow y' = row ∧ x' < x →
    image.at? x' y' = some (page.color layout x' y')

/-- One more pixel of a row can be put on its line, and shows. -/
theorem Shows.put? {row x : Nat} {image : Image} (shows : page.Shows layout row x image)
    (lower : row < page.height) (inside : x < page.width) :
    ∃ changed,
      image.put? x (page.sourceRow row) (page.color layout x (page.sourceRow row)) = some changed ∧
      page.Shows layout row (x + 1) changed := by
  have place : x < image.width ∧ page.sourceRow row < image.height :=
    ⟨shows.width ▸ inside, shows.height ▸ sourceRow_lt lower⟩
  obtain ⟨changed, puts, width, height, at?⟩ :=
    Image.exists_put? place (page.color layout x (page.sourceRow row))
  refine ⟨changed, puts, width.trans shows.width, height.trans shows.height, ?_⟩
  intro x' y' column line shown
  rw [at? x' y' (shows.width ▸ column) (shows.height ▸ line)]
  split
  next same => rw [same.1, same.2]
  next other =>
    apply shows.shown x' y' column line
    rcases shown with before | ⟨same, before⟩
    · exact .inl before
    · -- the pixel put last is the only one that is new
      have new : x' ≠ x := by
        intro last
        exact other ⟨last, by rw [← same, sourceRow_sourceRow line]⟩
      exact .inr ⟨same, by omega⟩

/-- Painting one more pixel of a row succeeds and keeps what shows. -/
theorem Shows.paintPixel? (proper : layout.Proper) (sized : page.Sized)
    (fits : page.Fits (layout.rowBytes page.width)) {row x : Nat} (lower : row < page.height)
    (inside : x < page.width) {image : Image} (shows : page.Shows layout row x image) :
    ∃ changed, RawPage.paintPixel? layout (page.rowOf layout row) (page.sourceRow row) image x =
        some changed ∧
      page.Shows layout row (x + 1) changed := by
  obtain ⟨changed, puts, shown⟩ := shows.put? lower inside
  refine ⟨changed, ?_, shown⟩
  have column : word? 32 x = some x := word?_eq_some (Nat.lt_trans inside sized.width)
  have line : word? 32 (page.sourceRow row) = some (page.sourceRow row) :=
    word?_eq_some (Nat.lt_trans (sourceRow_lt lower) sized.height)
  simp only [RawPage.paintPixel?, fits.pixel?_eq_some proper lower inside, column, line, puts,
    Option.bind_eq_bind, Option.bind_some]

/-- Painting one more row succeeds and keeps what shows. -/
theorem Shows.paintRow? (proper : layout.Proper) (sized : page.Sized)
    (fits : page.Fits (layout.rowBytes page.width)) {row : Nat} (lower : row < page.height)
    {image : Image} (shows : page.Shows layout row 0 image) :
    ∃ changed, page.paintRow? layout image row = some changed ∧
      page.Shows layout (row + 1) 0 changed := by
  obtain ⟨first, last, slice⟩ := fits.slice?_eq_some lower
  obtain ⟨changed, paints, shown⟩ := exists_foldlM_range (n := page.width)
    (motive := page.Shows layout row) shows
    fun x image inside shows => shows.paintPixel? proper sized fits lower inside
  refine ⟨changed, ?_, shown.width, shown.height, ?_⟩
  · simp only [RawPage.paintRow?, first, last, slice, line?_eq_some lower, Option.bind_eq_bind,
      Option.bind_some, paints]
  · intro x y column line before
    apply shown.shown x y column line
    omega

/-- A page whose buffer holds its rows is painted within its bounds, and the image is that of its
colors. -/
theorem paint?_eq_some (proper : layout.Proper) (sized : page.Sized)
    (fits : page.Fits (layout.rowBytes page.width)) :
    page.paint? layout = some (.tabulate page.width page.height (page.color layout)) := by
  have blank : page.Shows layout 0 0 (.blank page.width page.height) :=
    ⟨rfl, rfl, fun _ _ _ _ before => by omega⟩
  obtain ⟨image, paints, shown⟩ := exists_foldlM_range (n := page.height)
    (motive := fun row => page.Shows layout row 0) blank
    fun row image lower shows => shows.paintRow? proper sized fits lower
  rw [paint?, paints]
  congr 1
  apply Image.eq_of_at? shown.width shown.height
  intro x y column row
  rw [shown.width] at column
  rw [shown.height] at row
  rw [shown.shown x y column row (.inl (sourceRow_lt row)), Image.at?_tabulate _ ⟨column, row⟩]

/-- A page is refused for its format exactly if that has no layout, whatever its sizes. Any other
page is refused as unusable exactly if its buffer does not hold its rows, with the bytes of a row
counted from the bits of its pixels. All others are converted to an image of their size, and
painting that image neither leaves its bounds nor its words. -/
theorem decode_verdicts {page : RawPage} (sized : page.Sized) :
    ((∃ detail, page.decode = .error (.unsupported .displayFormat detail)) ↔
      Layout.of? page.format = none) ∧
    ∀ layout, Layout.of? page.format = some layout →
      ((∃ detail, page.decode = .error (.engine detail)) ↔
        page.Misfits ((page.width * layout.bitsPerPixel + 7) / 8)) ∧
      (¬ page.Misfits ((page.width * layout.bitsPerPixel + 7) / 8) →
        ∃ image, page.decode = .ok image ∧ image.width = page.width ∧
          image.height = page.height ∧ page.paint? layout = some image) := by
  refine ⟨decode_unsupported_iff, ?_⟩
  intro layout found
  rw [← layout.rowBytes_eq]
  refine ⟨decode_engine_iff found sized.raster, ?_⟩
  intro accepted
  have fits : page.Fits (layout.rowBytes page.width) := by
    rwa [misfits_iff_not_fits, Classical.not_not] at accepted
  exact ⟨_, decode_of_fits found sized.raster fits, rfl, rfl,
    paint?_eq_some (Layout.proper_of_of? found) sized fits⟩

/-- Two rows of two packed colors from the bottom, with a byte between the rows and none to spare. -/
def tightPage : RawPage where
  format := ⟨colorsNative ||| depth16 ||| native565 ||| littleEndian ||| bottomFirst⟩
  width := 2
  height := 2
  raster := 5
  data := #[0x1F, 0x00, 0xE0, 0x07, 0xAA, 0x00, 0xF8, 0xFF, 0xFF]

/-- Such a page is converted, but not with one byte less, and not in separations. -/
theorem decode_verdicts_tightPage :
    (∃ image, tightPage.decode = .ok image ∧ image.width = 2 ∧ image.height = 2 ∧
      tightPage.paint? (.packed 6 true) = some image) ∧
    (∃ detail, { tightPage with data := tightPage.data.pop }.decode = .error (.engine detail)) ∧
    ∃ detail, { tightPage with format := ⟨0x80000⟩ }.decode =
      .error (.unsupported .displayFormat detail) := by
  have sized (page : RawPage) (width : page.width = 2) (height : page.height = 2)
      (raster : page.raster = 5) : page.Sized := by
    constructor <;> omega
  have found : Layout.of? tightPage.format = some (.packed 6 true) := by decide
  refine ⟨?_, ?_, ?_⟩
  · exact ((decode_verdicts (sized tightPage rfl rfl rfl)).2 _ found).2 (by decide)
  · exact ((decode_verdicts (sized { tightPage with data := tightPage.data.pop } rfl rfl rfl)).2
      _ found).1.mpr (by decide)
  · exact (decode_verdicts (sized { tightPage with format := ⟨0x80000⟩ } rfl rfl rfl)).1.mpr
      (by decide)

end RawPage

end EngineTokens.Display
