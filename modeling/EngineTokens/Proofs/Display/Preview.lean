import EngineTokens.Proofs.Display.Acceptance
import EngineTokens.Proofs.Display.Images
import EngineTokens.Proofs.Display.Layouts
import EngineTokens.Proofs.Params.Display
import EngineTokens.Proofs.Params.Rows

/-!
# What is asked of the preview device can be shown

A preview that leaves its format to the host writes the format for the color depth of its screen.
Whatever that depth is, the format as it is read back from the token has a layout, so that every
page whose buffer holds its rows is converted, and the layout has no opacity, so that nothing of the
page shows through (`Model.exists_image_of_followsHost`).
-/

set_option autoImplicit false

namespace EngineTokens.Display

/-- Colors of the layout are opaque. -/
def Layout.IsOpaque : Layout → Prop
  | .rgb _ _ _ _ alpha => alpha = none
  | _ => True

/-- An opaque layout paints opaque pixels only. -/
theorem Layout.alpha_of_isOpaque {layout : Layout} (opacity : layout.IsOpaque) (x : Nat)
    (px : Nat → UInt8) : (layout.paint x px).alpha = 255 := by
  cases layout with
  | rgb bytes red green blue alpha =>
    cases opacity
    rfl
  | palette64 =>
    simp only [paint]
    split <;> rfl
  | gray | cmyk | mono | packed | palette16 => rfl

/-- The format for a color depth can be converted, and is opaque. -/
theorem exists_layout_ofColorDepth (depth : Nat) :
    ∃ layout, Layout.of? (.ofColorDepth depth) = some layout ∧ layout.IsOpaque := by
  unfold Format.ofColorDepth
  repeat' split
  all_goals exact ⟨_, rfl, by simp [Layout.IsOpaque]⟩

end EngineTokens.Display

namespace EngineTokens.Params.Model

/-- The tokens of a model that follows the host name the format for the host's color depth once. -/
theorem filter_displayFormat {files : Files} {model : Model} {host : Display.Host}
    {tokens : List String} (follows : model.basis.followsHost = true)
    (written : model.toArgs files host = .ok tokens) :
    tokens.filter (Token.startsWith "-dDisplayFormat=") =
      [Token.number "-dDisplayFormat="
        (Display.Format.ofColorDepth host.colorDepth).bits.toNat] := by
  have effective : (model.basis.effectiveDisplay host).format = .ofColorDepth host.colorDepth := by
    rw [Base.effectiveDisplay_of_followsHost follows]
  have chosen : (model.basis.effectiveDisplay host).format.isUnset = false := by
    rw [effective]
    exact ofColorDepth_isUnset host.colorDepth
  have mem : Token.number "-dDisplayFormat="
      (Display.Format.ofColorDepth host.colorDepth).bits.toNat ∈ tokens := by
    obtain ⟨sources, upper, -, -, rfl⟩ := Model.toArgs_eq_ok_iff.mp written
    rw [← effective]
    exact List.mem_append_left _ (Base.number_mem_tokensWith chosen sources)
  have opens : Token.assigned? "-dDisplayFormat=" = some (.name "DisplayFormat", "") := by decide
  exact filter_startsWith written opens mem

/-- A preview that leaves its format to the host writes it in one token, and the format that its
number stands for can be shown: every page in it whose buffer holds its rows is converted to an
image of the page's size without any transparency. -/
theorem exists_image_of_followsHost {files : Files} {model : Model} {host : Display.Host}
    {tokens : List String} (device : Device.isDisplay model.basis.device = true)
    (unset : model.basis.displayFormat.isUnset = true)
    (written : model.toArgs files host = .ok tokens) :
    ∃ (text : String) (value : Nat) (layout : Display.Layout),
      tokens.filter (Token.startsWith "-dDisplayFormat=") = ["-dDisplayFormat=" ++ text] ∧
      Text.Integer.read? text.toList = some (value : Int) ∧ value < 2 ^ 32 ∧
      Display.Layout.of? ⟨BitVec.ofNat 32 value⟩ = some layout ∧
      ∀ page : Display.RawPage, page.format = ⟨BitVec.ofNat 32 value⟩ → page.Sized →
        layout.rowBytes page.width ≤ page.raster → page.data.size < 2 ^ 64 →
        (0 < page.height →
          page.raster * (page.height - 1) + layout.rowBytes page.width ≤ page.data.size) →
        ∃ image, page.decode = .ok image ∧ image.width = page.width ∧
          image.height = page.height ∧
          ∀ x y, x < page.width → y < page.height →
            ∃ color, image.at? x y = some color ∧ color.alpha = 255 := by
  have follows : model.basis.followsHost = true := by simp [Base.followsHost, device, unset]
  have once := filter_displayFormat follows written
  obtain ⟨layout, found, opacity⟩ := Display.exists_layout_ofColorDepth host.colorDepth
  generalize Display.Format.ofColorDepth host.colorDepth = format at once found
  have back : (⟨BitVec.ofNat 32 format.bits.toNat⟩ : Display.Format) = format := by
    rw [BitVec.ofNat_toNat, BitVec.setWidth_eq]
  refine ⟨String.ofList (Text.Integer.write format.bits.toNat), format.bits.toNat, layout, once,
    ?_, format.bits.isLt, back.symm ▸ found, ?_⟩
  · rw [String.toList_ofList, Text.Integer.read?_write]
  · intro page named sized row words buffer
    have fits : page.Fits (layout.rowBytes page.width) :=
      ⟨row, fun some => by have := buffer some; omega, buffer⟩
    have shown : Display.Layout.of? page.format = some layout := by rw [named, back, found]
    refine ⟨_, Display.RawPage.decode_of_fits shown sized.raster fits, rfl, rfl, ?_⟩
    intro x y column line
    exact ⟨_, Display.Image.at?_tabulate _ ⟨column, line⟩,
      Display.Layout.alpha_of_isOpaque opacity x _⟩

/-- A preview with its device in mixed case. -/
def mixedPreview : Model := .debug { base := { device := "Display" } }

/-- A host with a color depth that is not listed by itself. -/
def oddHost : Display.Host := { colorDepth := 5, dpi := 96 }

/-- A page of two rows of three pixels with half a byte to spare in each, in a native format of four
bits. -/
def halfBytes : Display.RawPage where
  format := ⟨1025⟩
  width := 3
  height := 2
  raster := 2
  data := #[0x1F, 0xA7, 0x06, 0xD5]

/-- Such a preview names a native format of four bits, and the page is shown. -/
theorem exists_image_of_followsHost_mixedPreview :
    mixedPreview.toArgs ⟨[], []⟩ oddHost =
      .ok ["-sDEVICE=Display", "-dDisplayFormat=1025", "-dDisplayResolution=96"] ∧
    ∃ image, halfBytes.decode = .ok image ∧ image.width = 3 ∧ image.height = 2 ∧
      ∀ x y, x < 3 → y < 2 → ∃ color, image.at? x y = some color ∧ color.alpha = 255 := by
  have written : mixedPreview.toArgs ⟨[], []⟩ oddHost =
      .ok ["-sDEVICE=Display", "-dDisplayFormat=1025", "-dDisplayResolution=96"] := by
    decide +kernel
  refine ⟨written, ?_⟩
  obtain ⟨text, value, layout, once, read, -, found, shows⟩ :=
    exists_image_of_followsHost (by decide) (by decide) written
  have same : "-dDisplayFormat=" ++ text = "-dDisplayFormat=" ++ "1025" :=
    (List.cons.inj once).1.symm
  have text : text.toList = "1025".toList := by
    have chars := congrArg String.toList same
    rwa [String.toList_append, String.toList_append, List.append_right_inj] at chars
  have value : value = 1025 := by
    have number : Text.Integer.read? "1025".toList = some 1025 := by decide
    rw [text, number] at read
    exact Int.ofNat_inj.mp (Option.some.inj read).symm
  subst value
  have four : some .palette16 = some layout := found
  cases four
  exact shows halfBytes rfl ⟨by decide, by decide, by decide⟩ (by decide) (by decide)
    (fun _ => by decide)

end EngineTokens.Params.Model
