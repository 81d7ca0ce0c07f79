import Mathlib.Algebra.Group.Nat.Defs
import Mathlib.Control.Monad.Basic
import EngineTokens.Proofs.Params.Assembly

/-!
# What the host shows through

The host's screen reaches a token list in one way only: with the preview device and no format
chosen, it settles the display format, and the resolution if that is not set either. Such a run is
the run of the same model with these two values set by hand, on any host whatever
(`Base.tokensWith_withDisplay`), and every other run is the same on all hosts
(`Base.tokensWith_of_not_followsHost`).

Both hold of all four tiers, failures included.
-/

set_option autoImplicit false

namespace EngineTokens.Params

/-- The format for a color depth is never the one that means that no format was chosen. -/
theorem ofColorDepth_isUnset (depth : Nat) :
    (Display.Format.ofColorDepth depth).isUnset = false := by
  unfold Display.Format.ofColorDepth
  repeat' split
  all_goals decide

/-- A format that is chosen is not the number zero. -/
theorem bits_ne_zero_of_isUnset {format : Display.Format} (chosen : format.isUnset = false) :
    format.bits.toNat ≠ 0 := by
  intro zero
  have unset : format.bits = 0#32 := BitVec.eq_of_toNat_eq zero
  simp [Display.Format.isUnset, unset] at chosen

namespace Base

/-- The base tier with a display that is set by hand. -/
def withDisplay (p : Base) (shown : EffectiveDisplay) : Base :=
  { p with displayFormat := shown.format, displayResolution := shown.resolution }

/-- What follows the host takes the format for its color depth, and a resolution that is not set
takes its density, as far as that can be written. -/
theorem effectiveDisplay_of_followsHost {p : Base} (follows : p.followsHost = true)
    (host : Display.Host) :
    p.effectiveDisplay host =
      { format := .ofColorDepth host.colorDepth
        resolution :=
          if p.displayResolution ≠ 0 then p.displayResolution
          else (min host.dpi (2 ^ 31 - 1) : Nat) } := by
  rw [effectiveDisplay, if_pos follows, ite_not]
  rfl

/-- A display that is set by hand is in effect on every host. -/
theorem effectiveDisplay_withDisplay {shown : EffectiveDisplay}
    (chosen : shown.format.isUnset = false) (p : Base) (host : Display.Host) :
    (p.withDisplay shown).effectiveDisplay host = shown := by
  have own : (p.withDisplay shown).followsHost = false := by
    simp [followsHost, withDisplay, chosen]
  rw [effectiveDisplay, own]
  rfl

/-- What does not follow the host is written alike on all hosts. -/
theorem tokensWith_of_not_followsHost {p : Base} (own : p.followsHost = false)
    (host other : Display.Host) (sources : Sources) :
    p.tokensWith host sources = p.tokensWith other sources := by
  have same : p.effectiveDisplay host = p.effectiveDisplay other := by
    simp [effectiveDisplay, own]
  unfold tokensWith
  rw [same]

/-- What follows the host is written like the same with the host's values set by hand. -/
theorem tokensWith_withDisplay {p : Base} (follows : p.followsHost = true)
    (host other : Display.Host) (sources : Sources) :
    (p.withDisplay (p.effectiveDisplay host)).tokensWith other sources =
      p.tokensWith host sources := by
  have chosen : (p.effectiveDisplay host).format.isUnset = false := by
    rw [effectiveDisplay_of_followsHost follows]
    exact ofColorDepth_isUnset host.colorDepth
  unfold tokensWith
  rw [effectiveDisplay_withDisplay chosen]
  rfl

/-- A format in effect is written. -/
theorem number_mem_tokensWith {p : Base} {host : Display.Host}
    (chosen : (p.effectiveDisplay host).format.isUnset = false) (sources : Sources) :
    Token.number "-dDisplayFormat=" (p.effectiveDisplay host).format.bits.toNat ∈
      p.tokensWith host sources := by
  have set : ((p.effectiveDisplay host).format.bits.toNat : Int) ≠ 0 :=
    Int.natCast_ne_zero.mpr (bits_ne_zero_of_isUnset chosen)
  have written : Token.number "-dDisplayFormat=" (p.effectiveDisplay host).format.bits.toNat ∈
      Token.numberUnless 0 (p.effectiveDisplay host).format.bits.toNat "-dDisplayFormat=" := by
    rw [Token.numberUnless, if_neg set]
    exact List.mem_singleton_self _
  unfold tokensWith
  simp only [List.mem_append, written, or_true, true_or]

end Base

namespace Model

/-- Sets the display format and then the display resolution of a model. -/
def setDisplay (files : Files) (model : Model) (shown : EffectiveDisplay) :
    Except Error Model := do
  let (format, model) := model.applyBase files (.displayFormat shown.format)
  let _ ← format
  let (resolution, model) := model.applyBase files (.displayResolution shown.resolution)
  let _ ← resolution
  return model

/-- Setting the display succeeds and changes nothing but the base tier. -/
theorem exists_setDisplay (files : Files) (model : Model) (shown : EffectiveDisplay) :
    ∃ set, model.setDisplay files shown = .ok set ∧
      set.basis = model.basis.withDisplay shown ∧
      set.upperTokens = model.upperTokens ∧
      set.effectiveSources files = model.effectiveSources files := by
  cases model <;> exact ⟨_, rfl, rfl, rfl, rfl⟩

/-- Without the preview device or with a format chosen, all hosts give the same tokens or the same
failure. With the preview device and no format chosen, the host's color depth settles the format,
and its density the resolution if that is not set: the outcome is that of setting both by hand, on
whatever host, and the format is always written and never zero. -/
theorem toArgs_host (files : Files) (model : Model) (host other : Display.Host) :
    (Device.isDisplay model.basis.device = false ∨ model.basis.displayFormat.isUnset = false →
      model.toArgs files host = model.toArgs files other) ∧
    (Device.isDisplay model.basis.device = true → model.basis.displayFormat.isUnset = true →
      ∃ set, model.setDisplay files
          { format := .ofColorDepth host.colorDepth
            resolution :=
              if model.basis.displayResolution ≠ 0 then model.basis.displayResolution
              else (min host.dpi (2 ^ 31 - 1) : Nat) } = .ok set ∧
        model.toArgs files host = set.toArgs files other ∧
        ∀ tokens, model.toArgs files host = .ok tokens →
          ∃ value : Nat, value ≠ 0 ∧ Token.number "-dDisplayFormat=" value ∈ tokens) := by
  constructor
  · intro own
    have own : model.basis.followsHost = false := by
      rcases own with device | format
      · simp [Base.followsHost, device]
      · simp [Base.followsHost, format]
    simp only [toArgs_eq, Base.tokensWith_of_not_followsHost own host other]
  · intro device format
    have follows : model.basis.followsHost = true := by simp [Base.followsHost, device, format]
    rw [← Base.effectiveDisplay_of_followsHost follows]
    obtain ⟨set, isSet, basis, upper, sources⟩ :=
      exists_setDisplay files model (model.basis.effectiveDisplay host)
    refine ⟨set, isSet, ?_, ?_⟩
    · simp only [toArgs_eq, basis, upper, sources,
        Base.tokensWith_withDisplay follows host other]
    · intro tokens written
      obtain ⟨sources, upper, -, -, rfl⟩ := toArgs_eq_ok_iff.mp written
      have chosen : (model.basis.effectiveDisplay host).format.isUnset = false := by
        rw [Base.effectiveDisplay_of_followsHost follows]
        exact ofColorDepth_isUnset host.colorDepth
      exact ⟨_, bits_ne_zero_of_isUnset chosen,
        List.mem_append_left _ (Base.number_mem_tokensWith chosen sources)⟩

/-- A preview that leaves everything to the host, of a document with a title. -/
def titledPreview : Model := .pdf { base := { device := "DISPLAY" }, title := "t" }

/-- A host with a density that is too large to be written. -/
def denseHost : Display.Host := { colorDepth := 16, dpi := 4294967295 }

/-- A preview takes format and density from such a host as if they were set on any other, and a file
is written as on any other. -/
theorem toArgs_host_titledPreview :
    (∃ set, titledPreview.setDisplay ⟨[], []⟩
        { format := .ofColorDepth 16, resolution := 2147483647 } = .ok set ∧
      titledPreview.toArgs ⟨[], []⟩ denseHost = set.toArgs ⟨[], []⟩ {} ∧
      titledPreview.toArgs ⟨[], []⟩ denseHost =
        .ok ["-sDEVICE=DISPLAY", "-dDisplayFormat=8193", "-dDisplayResolution=2147483647",
          "-sTitle=t"]) ∧
    (Model.base { device := "pdfwrite" }).toArgs ⟨[], []⟩ denseHost =
      (Model.base { device := "pdfwrite" }).toArgs ⟨[], []⟩ {} := by
  constructor
  · obtain ⟨set, isSet, same, -⟩ :=
      (toArgs_host ⟨[], []⟩ titledPreview denseHost {}).2 (by decide) (by decide)
    exact ⟨set, isSet, same, by decide +kernel⟩
  · exact (toArgs_host ⟨[], []⟩ (Model.base { device := "pdfwrite" }) denseHost {}).1
      (.inl (by decide))

end Model

end EngineTokens.Params
