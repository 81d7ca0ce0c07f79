import Mathlib.Data.List.Forall2
import EngineTokens.Proofs.Display.Pixels

/-!
# A format and its seven fields

The masks of the fields have no bit in common, and together they have the bits below the
twenty-third. So the fields of a format divide its word among them, and fields that keep to their
masks are read back from the word that they make together (`fields_packed`). The bits above the
fields are read by nobody: formats with the same fields have the same depth and the same row
alignment, and pages that differ in nothing else show the same image
(`RawPage.decode_of_fields_eq`). `fields_partition` says all this.
-/

set_option autoImplicit false

namespace EngineTokens.Display

/-! ## Words under masks -/

/-- The words have no bit in common. -/
def Apart (first second : BitVec 32) : Prop :=
  first &&& second = 0#32

/-- The word has no bit outside the mask. -/
def Within (word mask : BitVec 32) : Prop :=
  word &&& mask = word

instance (first second : BitVec 32) : Decidable (Apart first second) :=
  inferInstanceAs (Decidable (_ = _))

instance (word mask : BitVec 32) : Decidable (Within word mask) :=
  inferInstanceAs (Decidable (_ = _))

/-- The bits that some words have together. -/
def union (words : List (BitVec 32)) : BitVec 32 :=
  words.foldr (· ||| ·) 0#32

/-- A union is its first word with the others. -/
theorem union_cons (word : BitVec 32) (words : List (BitVec 32)) :
    union (word :: words) = word ||| union words := rfl

/-- A part of a mask is apart from whatever the mask is apart from. -/
theorem Apart.of_within {word mask other : BitVec 32} (apart : Apart mask other)
    (within : Within word mask) : Apart word other :=
  calc word &&& other = word &&& mask &&& other := by rw [within]
    _ = word &&& (mask &&& other) := BitVec.and_assoc ..
    _ = 0#32 := by rw [apart, BitVec.and_zero]

/-- What is cut out with a mask lies within it. -/
theorem within_and (word mask : BitVec 32) : Within (word &&& mask) mask := by
  rw [Within, BitVec.and_assoc, BitVec.and_self]

/-- What is read of a word under masks that are apart is apart. -/
theorem apart_and {first second : BitVec 32} (apart : Apart first second) (word : BitVec 32) :
    Apart (word &&& first) (word &&& second) := by
  have left := apart.of_within (within_and word first)
  rw [Apart, BitVec.and_comm word second, ← BitVec.and_assoc, left, BitVec.zero_and]

/-- What is read of a word under some masks is together what is read under all of them at once. -/
theorem union_map_and (word : BitVec 32) (masks : List (BitVec 32)) :
    union (masks.map (word &&& ·)) = word &&& union masks := by
  induction masks with
  | nil => exact BitVec.and_zero.symm
  | cons mask masks ih => rw [List.map_cons, union_cons, union_cons, ih, BitVec.and_or_distrib_left]

section

variable {words masks : List (BitVec 32)}

/-- A union of parts is apart from whatever their masks are apart from. -/
theorem apart_union (within : List.Forall₂ Within words masks) {other : BitVec 32}
    (apart : ∀ mask ∈ masks, Apart mask other) : Apart (union words) other := by
  induction within with
  | nil => exact BitVec.zero_and
  | cons first _ ih =>
    rw [List.forall_mem_cons] at apart
    rw [union_cons, Apart, BitVec.and_or_distrib_right, apart.1.of_within first, ih apart.2,
      BitVec.zero_or]

/-- Words that keep to masks which are apart are read back from what they make together. -/
theorem map_union_and (within : List.Forall₂ Within words masks) (apart : masks.Pairwise Apart) :
    masks.map (union words &&& ·) = words := by
  induction within with
  | nil => rfl
  | @cons word mask words masks first rest ih =>
    obtain ⟨behind, apart⟩ := List.pairwise_cons.mp apart
    -- The first mask sees the first word alone, and the later masks see the later words alone.
    have own : union (word :: words) &&& mask = word := by
      have others : Apart (union words) mask :=
        apart_union rest fun other mem => (BitVec.and_comm other mask).trans (behind other mem)
      rw [union_cons, BitVec.and_or_distrib_right, first, others, BitVec.or_zero]
    have later : ∀ other ∈ masks, union (word :: words) &&& other = union words &&& other := by
      intro other mem
      rw [union_cons, BitVec.and_or_distrib_right, (behind other mem).of_within first,
        BitVec.zero_or]
    rw [List.map_cons, own, List.map_congr_left later, ih apart]

end

/-! ## The seven fields -/

namespace Fields

/-- The fields one by one. -/
def words (fields : Fields) : List (BitVec 32) :=
  [fields.alpha, fields.color, fields.depth, fields.endian, fields.firstRow, fields.native555,
    fields.rowAlign]

/-- The masks of the fields, each in the place of its field. -/
def masks : Fields :=
  ⟨alphaMask, colorMask, depthMask, endianMask, firstRowMask, native555Mask, rowAlignMask⟩

/-- Each field keeps to its mask. -/
def Confined (fields : Fields) : Prop :=
  List.Forall₂ Within fields.words masks.words

/-- The format that the fields make together. -/
def packed (fields : Fields) : Format :=
  ⟨union fields.words⟩

/-- Fields are told apart by their words. -/
theorem words_inj {first second : Fields} (same : first.words = second.words) :
    first = second := by
  cases first
  cases second
  simpa [words] using same

/-- No two masks share a bit. -/
theorem masks_apart : masks.words.Pairwise Apart := by decide

/-- The masks together are the lowest twenty-three bits, without a gap. -/
theorem union_masks : union masks.words = 0x007FFFFF#32 := by decide

end Fields

/-- Each field of a format is cut out with its mask. -/
theorem Format.words_fields (format : Format) :
    format.fields.words = Fields.masks.words.map (format.bits &&& ·) := rfl

/-- Fields that keep to their masks are the fields of the format that they make together. -/
theorem fields_packed {fields : Fields} (confined : fields.Confined) :
    fields.packed.fields = fields :=
  Fields.words_inj (map_union_and confined Fields.masks_apart)

/-! ## What hangs on the fields -/

/-- With another format of the same fields, a page is converted as well, and to the same image. -/
theorem RawPage.decode_of_fields_eq (page : RawPage) {format : Format}
    (same : format.fields = page.format.fields) :
    ({ page with format } : RawPage).decode.toOption = page.decode.toOption := by
  have layout : Layout.of? format = Layout.of? page.format :=
    Layout.of?_congr (congrArg Fields.color same) (congrArg Fields.depth same)
      (congrArg Fields.alpha same) (congrArg Fields.endian same) (congrArg Fields.native555 same)
  have rows : format.firstRow = page.format.firstRow := congrArg Fields.firstRow same
  cases found : Layout.of? page.format with
  | none =>
    have missing : ({ page with format } : RawPage).decode = _ :=
      decode_of_of?_eq_none (layout.trans found)
    rw [missing, decode_of_of?_eq_none found]
    rfl
  | some shown =>
    have converts : ({ page with format } : RawPage).decode = _ :=
      decode_of_of?_eq_some (layout.trans found)
    have colors : ({ page with format } : RawPage).color shown = page.color shown := by
      funext x y
      simp only [color, sourceRow, rows]
      rfl
    rw [converts, decode_of_of?_eq_some found, colors]
    rfl

/-- The seven fields of a format have no bit in common and make together its word without the bits
from the twenty-third on. Seven words that keep to the masks of the fields are the fields of the
format that they make together. Formats with the same fields have the same depth and the same row
alignment, and a page is converted in both or in neither, and to the same image. -/
theorem fields_partition :
    (∀ format : Format, format.fields.words.Pairwise (fun a b => a &&& b = 0#32) ∧
      union format.fields.words = format.bits &&& 0x007FFFFF#32) ∧
    (∀ fields : Fields, fields.Confined → fields.packed.fields = fields) ∧
    ∀ first second : Format, first.fields = second.fields →
      first.bitsPerComponent? = second.bitsPerComponent? ∧
      first.rowAlignment? = second.rowAlignment? ∧
      ∀ page : RawPage, ({ page with format := first } : RawPage).decode.toOption =
        ({ page with format := second } : RawPage).decode.toOption := by
  refine ⟨fun format => ⟨?_, ?_⟩, fun _ => fields_packed, fun first second same => ⟨?_, ?_, ?_⟩⟩
  · rw [format.words_fields, List.pairwise_map]
    exact Fields.masks_apart.imp fun apart => apart_and apart format.bits
  · rw [format.words_fields, union_map_and, Fields.union_masks]
  · have depth : first.depth = second.depth := congrArg Fields.depth same
    rw [Format.bitsPerComponent?, depth]
    rfl
  · have alignment : first.rowAlign = second.rowAlign := congrArg Fields.rowAlign same
    rw [Format.rowAlignment?, alignment]
    rfl
  · intro page
    exact RawPage.decode_of_fields_eq { page with format := second } same

/-- One value of each field, the color model with its bit for separations. -/
def mixedFields : Fields where
  alpha := unusedLast
  color := colorsRgb ||| 0x00080000#32
  depth := depth8
  endian := littleEndian
  firstRow := bottomFirst
  native555 := Display.native565
  rowAlign := rowAlign16

/-- A page of one pixel of full color. -/
def onePixel : RawPage where
  format := ⟨colorsRgb ||| depth8⟩
  width := 1
  height := 1
  raster := 3
  data := #[10, 20, 30]

/-- The fields are read back from one word, and a bit above the fields makes no difference to a
page. -/
theorem fields_partition_mixed :
    mixedFields.Confined ∧ mixedFields.packed.fields = mixedFields ∧
    Format.fields ⟨0x80000804#32⟩ = onePixel.format.fields ∧
    ∃ image, onePixel.decode = .ok image ∧
      ({ onePixel with format := ⟨0x80000804#32⟩ } : RawPage).decode.toOption = some image := by
  have confined : mixedFields.Confined := by
    simp only [Fields.Confined, Fields.words, Fields.masks, List.forall₂_cons]
    decide
  have same : Format.fields ⟨0x80000804#32⟩ = onePixel.format.fields := by decide
  have found : Layout.of? onePixel.format = some (.rgb 3 0 1 2 none) := by decide
  have shown := RawPage.decode_of_fits found (by decide) ⟨by decide, by decide, by decide⟩
  obtain ⟨-, -, alike⟩ := fields_partition.2.2 _ _ same
  refine ⟨confined, fields_partition.2.1 mixedFields confined, same, _, shown, ?_⟩
  rw [alike onePixel]
  exact congrArg Except.toOption shown

end EngineTokens.Display
