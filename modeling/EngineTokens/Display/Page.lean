import EngineTokens.Display.Layout
import EngineTokens.Error

/-!
# Preview pages

A page comes from the engine as one buffer of rows in the layout of its display format, with a given
number of bytes from the start of one row to the start of the next. It is converted to an image of
red, green, blue and opacity, with the top row first.
-/

set_option autoImplicit false

namespace EngineTokens.Display

/-- A page as the engine hands it over. -/
structure RawPage where
  format : Format
  width : Nat
  height : Nat
  /-- Bytes from the start of one row to the start of the next. -/
  raster : Nat
  data : Array UInt8
  deriving DecidableEq, Repr

/-- An image, row by row from the top and from left to right in each row. -/
structure Image where
  width : Nat
  height : Nat
  pixels : Vector Rgba (width * height)
  deriving Repr

namespace Image

/-- The image with color `color x y` at column `x` of row `y`. -/
def tabulate (width height : Nat) (color : Nat → Nat → Rgba) : Image where
  width := width
  height := height
  pixels := Vector.ofFn fun i => color (i % width) (i / width)

/-- The color at column `x` of row `y`, inside the image. -/
def at? (image : Image) (x y : Nat) : Option Rgba :=
  if x < image.width ∧ y < image.height then image.pixels[y * image.width + x]? else none

end Image

namespace RawPage

/-- Sizes are computed in words of sixty-four bits. -/
def sizeLimit : Nat := 0x10000000000000000

/-- The byte at an index of the buffer. -/
def byte (page : RawPage) (i : Nat) : UInt8 :=
  page.data.getD i 0

/-- The bytes a page needs: full rasters for all rows but the last, and that one's own bytes. -/
def needed (page : RawPage) (rowBytes : Nat) : Nat :=
  if page.height = 0 then 0 else page.raster * (page.height - 1) + rowBytes

/-- The row of the buffer that shows at row `y` of the image. -/
def sourceRow (page : RawPage) (y : Nat) : Nat :=
  if page.format.firstRow = bottomFirst then page.height - 1 - y else y

/-- A row of the picture is a row of the page. -/
theorem sourceRow_lt {page : RawPage} {y : Nat} (inside : y < page.height) :
    page.sourceRow y < page.height := by
  unfold sourceRow
  split <;> omega

/-- A row shows on the line whose row would show there. -/
theorem sourceRow_sourceRow {page : RawPage} {y : Nat} (inside : y < page.height) :
    page.sourceRow (page.sourceRow y) = y := by
  unfold sourceRow
  split <;> omega

/-- The color at column `x` of row `y` of the image. -/
def color (page : RawPage) (layout : Layout) (x y : Nat) : Rgba :=
  let start := page.sourceRow y * page.raster + (layout.window x).1
  layout.paint x fun i => page.byte (start + i)

/-- A format without a layout cannot be converted. -/
def layout (page : RawPage) : Except Error Layout :=
  match Layout.of? page.format with
  | some layout => .ok layout
  | none =>
    .error (.unsupported .displayFormat
      ("display format " ++ page.format.text ++ " cannot be converted"))

/-- Checks that the buffer holds the page, in this order: a row has to fit its raster, the sizes
have to fit their words, and the buffer has to hold what the page needs. -/
def check (page : RawPage) (layout : Layout) : Except Error Unit :=
  let rowBytes := layout.rowBytes page.width
  let tooLarge : Error := .engine ("a " ++ toString page.width ++ "x" ++ toString page.height ++
    " display page is too large")
  if sizeLimit ≤ rowBytes then .error tooLarge
  else if page.raster < rowBytes then
    .error (.engine ("raster " ++ toString page.raster ++ " shorter than a " ++
      toString page.width ++ "-pixel row (" ++ toString rowBytes ++ " bytes)"))
  else if sizeLimit ≤ page.needed rowBytes then .error tooLarge
  else if page.data.size < page.needed rowBytes then
    .error (.engine ("display buffer holds " ++ toString page.data.size ++
      " bytes, page needs " ++ toString (page.needed rowBytes)))
  else .ok ()

/-- Converts a page to an image. -/
def decode (page : RawPage) : Except Error Image := do
  let layout ← page.layout
  page.check layout
  return .tabulate page.width page.height (page.color layout)

end RawPage

/-- Converts a page and stores it after those stored so far; a page that cannot be converted leaves
them as they are. The answer is the page's position. -/
def store (pages : List Image) (page : RawPage) : List Image × Except Error Nat :=
  match page.decode with
  | .ok image => (pages ++ [image], .ok pages.length)
  | .error e => (pages, .error e)

end EngineTokens.Display
