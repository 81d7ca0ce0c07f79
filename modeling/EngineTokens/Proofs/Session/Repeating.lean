import EngineTokens.Proofs.Options.Built
import EngineTokens.Proofs.Session.CommandLine

/-!
# Repeating a remembered run

A run that is carried out remembers its document, its device and the directory of its profile, so
that the next one starts from them. A plan reads four of the settings. The directory of the engine
and the extra arguments are not among those remembered. The device is remembered by its position in
the catalog and found again at it.

The directory of profiles is where the two can part. A relative name that leads nowhere from here is
looked up in the saved directory, and what is remembered is the directory part of the name, not the
place where the profile was found. `RunCommand.plan_remember` says that the plan is the same
wherever the profile is, and that only such a name can lead elsewhere;
`RunCommand.exists_plan_remember_ne` is a run that cannot be repeated.
-/

set_option autoImplicit false

namespace EngineTokens

/-! ## The device -/

namespace Device

/-- A device with a position stands there in the catalog, in whatever case it was named. -/
theorem exists_of_position? {name : String} {index : Nat} (found : position? name = some index) :
    ∃ known ∈ catalog, at? index = some known ∧ Text.sameWord known name = true := by
  obtain ⟨bound, same, -⟩ := List.findIdx?_eq_some_iff_getElem.mp found
  refine ⟨catalog[index], List.getElem_mem bound, ?_, same⟩
  rw [at?, if_pos (Int.natCast_nonneg index), Int.toNat_natCast]
  exact List.getElem?_eq_getElem bound

/-- A device of the catalog has a position, in whatever case it is named. -/
theorem exists_position? {name known : String} (listed : known ∈ catalog)
    (same : Text.sameWord known name = true) : ∃ index, position? name = some index := by
  apply Option.isSome_iff_exists.mp
  rw [position?, List.findIdx?_isSome]
  exact List.any_eq_true.mpr ⟨known, listed, same⟩

/-- What stands at a position of the catalog is listed in it. -/
theorem mem_catalog_of_at? {index : Int} {name : String} (found : at? index = some name) :
    name ∈ catalog := by
  unfold at? at found
  split at found
  next => exact List.mem_of_getElem? found
  next => cases found

/-- The catalog lists no device twice, not even in another case. -/
theorem eq_of_sameWord : ∀ known ∈ catalog, ∀ name ∈ catalog,
    Text.sameWord known name = true → known = name := by
  decide +kernel

/-- A device of the catalog is found again at its position. -/
theorem exists_position?_of_at? {index : Int} {name : String} (found : at? index = some name) :
    ∃ position : Nat, position? name = some position ∧ at? position = some name := by
  have listed := mem_catalog_of_at? found
  obtain ⟨position, placed⟩ := exists_position? listed (Text.sameWord_refl name)
  obtain ⟨known, knownListed, there, same⟩ := exists_of_position? placed
  obtain rfl := eq_of_sameWord known knownListed name listed same
  exact ⟨position, placed, there⟩

end Device

variable {files : Files} {saved : Preferences}

/-! ## The next run -/

/-- The same options without those that name a device. -/
def BaseOptions.withoutDevice (o : BaseOptions) : BaseOptions :=
  { o with device := none, deviceIndex := none }

namespace RunCommand

variable {c : RunCommand} {plan : Plan}

/-- The profile that a run finds. -/
def profile (files : Files) (saved : Preferences) (c : RunCommand) : Except Error String :=
  profileOf files saved c.options.conformance.iccProfile

/-- The device that is remembered is chosen again. -/
theorem chosenDevice_remember (planned : c.plan files saved = .ok plan) :
    c.options.base.chosenDevice (c.remember plan.device saved) =
      c.options.base.chosenDevice saved := by
  obtain ⟨model, output, args, built, named, -, -, rfl⟩ := plan_eq_ok_iff.mp planned
  obtain ⟨chosen, selects, device⟩ :=
    BaseOptions.device_of_build (ModelOptions.basis_of_build built)
  dsimp only
  unfold BaseOptions.chosenDevice at selects ⊢
  split
  next => rfl
  next => rfl
  next absent unplaced =>
    rw [absent, unplaced] at selects
    obtain rfl : Device.at? saved.deviceIndex = chosen := Except.ok.inj selects
    cases listed : Device.at? saved.deviceIndex with
    | none =>
      rw [listed] at device
      exact absurd device named
    | some name =>
      rw [listed, Option.getD_some] at device
      obtain ⟨position, placed, there⟩ := Device.exists_position?_of_at? listed
      rw [device, remember, placed]
      dsimp only
      rw [there]

/-- Where the profile is found elsewhere, its name is relative, leads nowhere from here, and has a
directory part, which is now the directory of profiles. -/
theorem of_profile_remember_ne {device : String}
    (moved : c.profile files (c.remember device saved) ≠ c.profile files saved) :
    ∃ path directory, c.options.conformance.iccProfile = some path ∧
      c.profileDirectory? = some directory ∧ Path.isAbsolute path = false ∧
      files.doesExist path = false ∧
      (files.doesExist (Path.join saved.iccDir path) = true ∨
        files.doesExist (Path.join (Path.canonicalize (Path.shown directory)) path) = true) := by
  unfold profile at moved
  cases given : c.options.conformance.iccProfile with
  | none =>
    rw [given] at moved
    exact absurd rfl moved
  | some path =>
    rw [given] at moved
    have apart : locateProfile files path (c.remember device saved).iccDir ≠
        locateProfile files path saved.iccDir := by
      intro same
      apply moved
      rw [profileOf, profileOf, same]
    cases part : c.profileDirectory? with
    | none =>
      have kept : (c.remember device saved).iccDir = saved.iccDir := by rw [remember, part]
      rw [kept] at apart
      exact absurd rfl apart
    | some directory =>
      have now : (c.remember device saved).iccDir = Path.canonicalize (Path.shown directory) := by
        rw [remember, part]
      rw [now] at apart
      by_cases before : locateProfile files path saved.iccDir = path
      · rw [before] at apart
        obtain ⟨relative, absent, there⟩ := of_locateProfile_ne apart
        exact ⟨path, directory, rfl, rfl, relative, absent, .inr there⟩
      · obtain ⟨relative, absent, there⟩ := of_locateProfile_ne before
        exact ⟨path, directory, rfl, rfl, relative, absent, .inl there⟩

/-- A planned run that is remembered and finds the same profile again has the same plan. It finds
another profile, or none, only if the name of the profile has a directory part and leads nowhere
from here; where it finds none, this is what its plan fails with. Without a device of its own it
goes to the device it had, if the catalog has that one. -/
theorem plan_remember (planned : c.plan files saved = .ok plan) :
    (c.profile files (c.remember plan.device saved) = c.profile files saved →
      c.plan files (c.remember plan.device saved) = .ok plan) ∧
    (c.profile files (c.remember plan.device saved) ≠ c.profile files saved →
      ∃ path directory, c.options.conformance.iccProfile = some path ∧
        c.profileDirectory? = some directory ∧ Path.isAbsolute path = false ∧
        files.doesExist path = false ∧
        (files.doesExist (Path.join saved.iccDir path) = true ∨
          files.doesExist (Path.join (Path.canonicalize (Path.shown directory)) path) = true)) ∧
    (∀ e, c.profile files (c.remember plan.device saved) = .error e →
      c.plan files (c.remember plan.device saved) = .error e) ∧
    ∀ known ∈ Device.catalog, Text.sameWord known plan.device = true →
      ∃ name, c.options.base.withoutDevice.chosenDevice (c.remember plan.device saved) =
          .ok (some name) ∧ Text.sameWord name plan.device = true := by
  have device := chosenDevice_remember planned
  obtain ⟨model, output, args, built, named, target, written, made⟩ := plan_eq_ok_iff.mp planned
  have again := ModelOptions.build_eq_map built device
  have before := ModelOptions.build_eq_map built rfl
  refine ⟨?_, of_profile_remember_ne, ?_, ?_⟩
  · intro same
    rw [profile, profile] at same
    rw [same, ← before, built] at again
    exact plan_eq_ok_iff.mpr ⟨model, output, args, again, named, target, written, made⟩
  · intro e refused
    rw [profile] at refused
    rw [refused] at again
    unfold RunCommand.plan
    rw [again]
    rfl
  · intro known listed same
    obtain ⟨position, placed⟩ := Device.exists_position? listed same
    obtain ⟨name, -, there, same⟩ := Device.exists_of_position? placed
    refine ⟨name, ?_, same⟩
    rw [BaseOptions.chosenDevice, BaseOptions.withoutDevice, remember, placed]
    dsimp only
    rw [there]

/-- A PDF/X run whose profile has a directory part. -/
def profiledRun : RunCommand where
  input := "in.ps"
  options :=
    { base := { device := some "PDFWRITE", output := some "o.pdf" }
      conformance := { pdfX := true, iccProfile := some (Path.ofText "sub/p.icc") } }

/-- Files with this profile below a given directory. -/
def profileBelow (name : String) : Files where
  entries :=
    [(["w"], .directory), (["icc"], .directory), ([Path.ofText name, "sub"], .directory),
      ([Path.ofText name, "sub", "p.icc"], .file [] false)]
  here := ["w"]

/-- The plan of that run, where the profile is found below a given directory. -/
def profiledPlan (name : String) : Plan where
  device := "PDFWRITE"
  request :=
    { args := ["-sDEVICE=PDFWRITE", "-I/" ++ name ++ "/sub", "-sOutputFile=o.pdf", "-dPDFX",
        "-sICCProfile=/" ++ name ++ "/sub/p.icc"]
      input := "in.ps"
      output := .file "o.pdf" }
  executable := "gs"

/-- Where the profile is found from here, the run is repeated, though it is the directory part of
the name that is remembered. -/
theorem plan_remember_profiledRun :
    profiledRun.plan (profileBelow "w") { iccDir := "/icc" } = .ok (profiledPlan "w") ∧
    (profiledRun.remember "PDFWRITE" { iccDir := "/icc" }).iccDir = "sub" ∧
    profiledRun.plan (profileBelow "w") (profiledRun.remember "PDFWRITE" { iccDir := "/icc" }) =
      .ok (profiledPlan "w") ∧
    ∃ name, profiledRun.options.base.withoutDevice.chosenDevice
        (profiledRun.remember "PDFWRITE" { iccDir := "/icc" }) = .ok (some name) ∧
      Text.sameWord name "PDFWRITE" = true := by
  have planned : profiledRun.plan (profileBelow "w") { iccDir := "/icc" } =
      .ok (profiledPlan "w") := by decide +kernel
  obtain ⟨same, -, -, device⟩ := plan_remember planned
  obtain ⟨name, chosen, alike⟩ := device "pdfwrite" (by decide) (by decide +kernel)
  refine ⟨planned, by decide +kernel, same (by decide +kernel), name, chosen, alike⟩

/-- Where it is found in the saved directory only, the run cannot be repeated: the directory part of
its name takes the place of the saved directory. -/
theorem exists_plan_remember_ne :
    ∃ plan, profiledRun.plan (profileBelow "icc") { iccDir := "/icc" } = .ok plan ∧
      profiledRun.plan (profileBelow "icc")
        (profiledRun.remember plan.device { iccDir := "/icc" }) =
          .error (.fileNotFound "/w/sub/p.icc") :=
  ⟨profiledPlan "icc", by decide +kernel, by decide +kernel⟩

end RunCommand
end EngineTokens
