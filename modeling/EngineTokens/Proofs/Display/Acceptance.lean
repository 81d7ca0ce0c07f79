import Mathlib.Algebra.Group.Nat.Defs
import EngineTokens.Display.Page

/-!
# Which pages are converted

A page is converted if its format has a layout and its buffer holds its rows (`RawPage.Fits`), and
refused otherwise: for its format before anything else, and for its sizes as unusable
(`RawPage.decode_unsupported_iff`, `RawPage.decode_engine_iff`).
-/

set_option autoImplicit false

namespace EngineTokens.Display.RawPage

/-- The sizes of a page are in the words that hold them. -/
structure Sized (page : RawPage) : Prop where
  width : page.width < 2 ^ 32
  height : page.height < 2 ^ 32
  raster : page.raster < 2 ^ 64

/-- The buffer of a page holds its rows of `rowBytes` bytes each. -/
structure Fits (page : RawPage) (rowBytes : Nat) : Prop where
  row : rowBytes ≤ page.raster
  word : 0 < page.height → page.raster * (page.height - 1) + rowBytes ≤ 2 ^ 64 - 1
  buffer : 0 < page.height → page.raster * (page.height - 1) + rowBytes ≤ page.data.size

variable {page : RawPage} {layout : Layout} {image : Image}

/-- The row of a page is longer than its raster, or its rows reach beyond the words or beyond its
buffer. -/
def Misfits (page : RawPage) (rowBytes : Nat) : Prop :=
  page.raster < rowBytes ∨
    0 < page.height ∧
      (2 ^ 64 - 1 < page.raster * (page.height - 1) + rowBytes ∨
        page.data.size < page.raster * (page.height - 1) + rowBytes)

instance (rowBytes : Nat) : Decidable (page.Misfits rowBytes) :=
  inferInstanceAs (Decidable (_ ∨ _))

/-- A page misfits exactly if it does not fit. -/
theorem misfits_iff_not_fits {rowBytes : Nat} : page.Misfits rowBytes ↔ ¬ page.Fits rowBytes := by
  constructor
  · rintro misfits ⟨row, word, buffer⟩
    unfold Misfits at misfits
    omega
  · intro misfits
    apply Classical.byContradiction
    intro fits
    unfold Misfits at fits
    exact misfits ⟨by omega, by omega, by omega⟩

/-- A page is accepted exactly if its buffer holds its rows. -/
theorem check_eq_ok_iff (raster : page.raster < 2 ^ 64) :
    page.check layout = .ok () ↔ page.Fits (layout.rowBytes page.width) := by
  have needed : page.needed (layout.rowBytes page.width) =
      if page.height = 0 then 0
      else page.raster * (page.height - 1) + layout.rowBytes page.width := rfl
  have limit : sizeLimit = 2 ^ 64 := rfl
  constructor
  · intro accepted
    unfold check at accepted
    dsimp only at accepted
    repeat' split at accepted
    all_goals cases accepted
    split at needed
    next => exact ⟨by omega, by omega, by omega⟩
    next => exact ⟨by omega, by omega, by omega⟩
  · rintro ⟨row, word, buffer⟩
    unfold check
    dsimp only
    split at needed
    · rw [if_neg (by omega), if_neg (by omega), if_neg (by omega), if_neg (by omega)]
    · rw [if_neg (by omega), if_neg (by omega), if_neg (by omega), if_neg (by omega)]

/-- Whatever a page is refused for, the engine is at fault. -/
theorem exists_of_check_eq_error {e : Error} (refused : page.check layout = .error e) :
    ∃ detail, e = .engine detail := by
  unfold check at refused
  dsimp only at refused
  repeat' split at refused
  all_goals cases refused
  all_goals exact ⟨_, rfl⟩

/-- A page without a layout is refused with its format. -/
theorem decode_of_of?_eq_none (missing : Layout.of? page.format = none) :
    page.decode = .error (.unsupported .displayFormat
      ("display format " ++ page.format.text ++ " cannot be converted")) := by
  simp only [decode, RawPage.layout, missing]
  rfl

/-- A page with a layout is checked, and then painted pixel by pixel. -/
theorem decode_of_of?_eq_some (found : Layout.of? page.format = some layout) :
    page.decode =
      (page.check layout).map fun _ => .tabulate page.width page.height (page.color layout) := by
  simp only [decode, RawPage.layout, found, bind, Except.bind]
  cases page.check layout <;> rfl

/-- A page is refused for its format exactly if that has no layout. -/
theorem decode_unsupported_iff :
    (∃ detail, page.decode = .error (.unsupported .displayFormat detail)) ↔
      Layout.of? page.format = none := by
  constructor
  · rintro ⟨detail, refused⟩
    cases found : Layout.of? page.format with
    | none => rfl
    | some layout =>
      rw [decode_of_of?_eq_some found] at refused
      cases checked : page.check layout with
      | ok _ =>
        rw [checked] at refused
        cases refused
      | error e =>
        obtain ⟨_, rfl⟩ := exists_of_check_eq_error checked
        rw [checked] at refused
        cases refused
  · intro missing
    exact ⟨_, decode_of_of?_eq_none missing⟩

/-- A page whose format has a layout is refused as unusable exactly if its buffer does not hold its
rows. -/
theorem decode_engine_iff (found : Layout.of? page.format = some layout)
    (raster : page.raster < 2 ^ 64) :
    (∃ detail, page.decode = .error (.engine detail)) ↔
      page.Misfits (layout.rowBytes page.width) := by
  rw [misfits_iff_not_fits, ← check_eq_ok_iff raster, decode_of_of?_eq_some found]
  cases checked : page.check layout with
  | ok _ => simp [Except.map]
  | error e =>
    obtain ⟨detail, rfl⟩ := exists_of_check_eq_error checked
    simp [Except.map]

/-- A page whose format has a layout and whose buffer holds its rows is converted. -/
theorem decode_of_fits (found : Layout.of? page.format = some layout)
    (raster : page.raster < 2 ^ 64) (fits : page.Fits (layout.rowBytes page.width)) :
    page.decode = .ok (.tabulate page.width page.height (page.color layout)) := by
  rw [decode_of_of?_eq_some found, (check_eq_ok_iff raster).mpr fits]
  rfl

/-- What is converted is the image of the page's colors. -/
theorem eq_tabulate_of_decode (found : Layout.of? page.format = some layout)
    (converted : page.decode = .ok image) :
    page.check layout = .ok () ∧ image = .tabulate page.width page.height (page.color layout) := by
  rw [decode_of_of?_eq_some found] at converted
  cases checked : page.check layout with
  | error e =>
    rw [checked] at converted
    cases converted
  | ok _ =>
    rw [checked] at converted
    cases converted
    exact ⟨rfl, rfl⟩

end EngineTokens.Display.RawPage
