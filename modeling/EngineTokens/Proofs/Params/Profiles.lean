import EngineTokens.Proofs.Files.Containing
import EngineTokens.Proofs.Params.Appending
import EngineTokens.Proofs.Params.Searching

/-!
# The profile of a run

Under a standard, the directory of the profile is registered when a model is written, while the
model stays as it is. This comes to the same as registering it by a call (`toArgs_eq_of_callAll`),
because a directory that is registered twice is there once. Without a standard the profile is not
looked at.

A profile is accepted if its path leads to anything. It then leads there when the model is written,
and its directory is one (`usable_of_iccProfile`), unless a name on the path has a backslash or is
no text: the one is kept as a slash and the other with U+FFFD in it, and the path that is kept may
lead nowhere. Nor does anything ask for a file, and a directory or a device is accepted as well.
-/

set_option autoImplicit false

namespace EngineTokens.Params

open EngineTokens.Path (IsName IsStraight)

variable {files : Files}

/-! ## Registering the directory -/

namespace Model

variable {model : Model} {directory : String}

/-- A change of the base tier is made in the base tier of a model of any tier. -/
theorem applyBase_eq (files : Files) (model : Model) (edit : Base.Edit) :
    model.applyBase files edit = (model.basis.apply files edit).map id model.withBasis := by
  cases model <;> rfl

/-- A model of any tier registers a directory in its base tier. -/
theorem applyBase_addSource (files : Files) (model : Model) (path : String) :
    model.applyBase files (.addSource path) =
      ((model.basis.sources.add files path).1.map some,
        model.withBasis { model.basis with sources := (model.basis.sources.add files path).2 }) := by
  rw [applyBase_eq, Base.apply_addSource]
  rfl

/-- The base tier of a model on another one is that one. -/
theorem basis_withBasis (model : Model) (base : Base) : (model.withBasis base).basis = base := by
  cases model <;> rfl

/-- Under a standard, a model adds the directory of its profile. -/
theorem ownDirectory?_of_isActive {p : Conformance} (active : p.isActive = true)
    (above : Path.directoryOf? p.iccProfile = some directory) :
    (Model.conformance p).ownDirectory? = some directory := by
  rw [ownDirectory?, if_pos active, above]

/-- The directory that a model adds does not depend on its base tier. -/
theorem ownDirectory?_withBasis (model : Model) (base : Base) :
    (model.withBasis base).ownDirectory? = model.ownDirectory? := by
  cases model <;> rfl

/-- The include directories that a model holds show in its list only as far as they are written. -/
theorem toArgs_withBasis {sources : Sources}
    (same : (model.withBasis { model.basis with sources }).effectiveSources files =
      model.effectiveSources files) (host : Display.Host) :
    (model.withBasis { model.basis with sources }).toArgs files host = model.toArgs files host := by
  rw [toArgs_eq, toArgs_eq, same, upperTokens_withBasis, basis_withBasis]
  simp only [Base.tokensWith_sources]

/-- What a model registers when it is written, it may as well have registered by a call. -/
theorem toArgs_addSource (own : model.ownDirectory? = some directory) (host : Display.Host) :
    match model.applyBase files (.addSource directory) with
    | (.error e, _) => model.toArgs files host = .error e
    | (.ok _, registered) => model.toArgs files host = registered.toArgs files host := by
  have effective := effectiveSources_eq files model
  simp only [own] at effective
  rw [applyBase_addSource]
  cases added : model.basis.sources.add files directory with
  | mk answer sources =>
    rw [added] at effective
    cases answer with
    | error e => exact toArgs_eq_error_iff.mpr (.inl effective)
    | ok new =>
      refine (toArgs_withBasis ?_ host).symm
      -- the directory is there now, and registering it once more does nothing
      obtain ⟨-, again⟩ := Sources.add_again added
      rw [effective, effectiveSources_eq, ownDirectory?_withBasis, own, basis_withBasis]
      simp only [again]
      rfl

/-- The directory that a model adds is among those in effect. -/
theorem mem_of_ownDirectory? {sources : Sources} (own : model.ownDirectory? = some directory)
    (effective : model.effectiveSources files = .ok sources) :
    Path.canonicalize directory ∈ sources.entries := by
  obtain ⟨new, added⟩ := exists_add_of_effectiveSources own effective
  exact (Sources.add_again added).1

/-- Without a standard, a model says nothing of its profile. -/
theorem toArgs_of_not_isActive {p : Conformance} (idle : p.isActive = false) (profile : String)
    (host : Display.Host) : (Model.conformance { p with iccProfile := profile }).toArgs files host =
      (Model.conformance p).toArgs files host := by
  have same : ({ p with iccProfile := profile } : Conformance).isActive = false := idle
  simp only [toArgs_eq, effectiveSources, Conformance.effectiveSources, upperTokens,
    Conformance.standardTokens, idle, same, basis, Bool.false_eq_true, if_false]

/-- For every model that calls have made, whatever has become of the files since: under a standard,
its list is that of the model with the directory of its profile registered, and if this cannot be
registered, the list fails for the same reason. Without a standard, its list is that of the model
without the profile. -/
theorem toArgs_eq_of_callAll (calls : List (Files × Call)) {p : Conformance}
    (made : (blank .conformance).callAll calls = .conformance p) (files : Files)
    (host : Display.Host) :
    (p.pdf.pdfA = true ∨ p.pdf.pdfX = true → p.iccProfile ≠ "" →
      ∃ directory, Path.directoryOf? p.iccProfile = some directory ∧
        match (Model.conformance p).applyBase files (.addSource directory) with
        | (.error e, _) => (Model.conformance p).toArgs files host = .error e
        | (.ok _, registered) =>
          (Model.conformance p).toArgs files host = registered.toArgs files host) ∧
    (p.pdf.pdfA = false ∧ p.pdf.pdfX = false →
      ∃ cleared, p.apply files (.iccProfile "") = (.ok none, cleared) ∧
        (Model.conformance p).toArgs files host = (Model.conformance cleared).toArgs files host) := by
  constructor
  · intro standard given
    obtain ⟨-, sound⟩ := sound_callAll (sound_blank .conformance) calls
    rw [made] at sound
    obtain ⟨directory, above⟩ := p.exists_directory_of_sound sound given
    have own := ownDirectory?_of_isActive (Conformance.isActive_iff.mpr standard) above
    exact ⟨directory, above, toArgs_addSource own host⟩
  · rintro ⟨pdfA, pdfX⟩
    have idle : p.isActive = false := by
      rw [Bool.eq_false_iff, Ne, Conformance.isActive_iff, pdfA, pdfX]
      simp
    exact ⟨{ p with iccProfile := "" }, rfl, (toArgs_of_not_isActive idle "" host).symm⟩

/-- Calls that register a directory and ask for PDF/A with a profile in another one. -/
def profiledCalls : List (Files × Call) :=
  [.base (.addSource "/inc"), .conformance (.iccProfile "/icc/p.icc"), .pdf (.pdfA true)].map
    fun c => (profileFiles, c)

/-- The model after these calls, if the given directories are registered. -/
def profiled (sources : Sources) : Conformance where
  pdf := { base := { sources }, pdfA := true }
  iccProfile := "/icc/p.icc"

/-- The directory of the profile is written behind the registered one, and it is reported where it
has gone. -/
theorem toArgs_eq_of_callAll_profiled :
    (blank .conformance).callAll profiledCalls = .conformance (profiled ⟨["/inc"]⟩) ∧
      (Model.conformance (profiled ⟨["/inc"]⟩)).toArgs profileFiles {} =
        (Model.conformance (profiled ⟨["/inc", "/icc"]⟩)).toArgs profileFiles {} ∧
      (Model.conformance (profiled ⟨["/inc"]⟩)).toArgs ⟨[], []⟩ {} =
        .error (.directoryNotFound "/icc") := by
  have made : (blank .conformance).callAll profiledCalls = .conformance (profiled ⟨["/inc"]⟩) := by
    decide +kernel
  have above : Path.directoryOf? (profiled ⟨["/inc"]⟩).iccProfile = some "/icc" := by decide
  have found : (Model.conformance (profiled ⟨["/inc"]⟩)).applyBase profileFiles
      (.addSource "/icc") =
        (.ok (some true), .conformance (profiled ⟨["/inc", "/icc"]⟩)) := by
    decide +kernel
  have fails : (Model.conformance (profiled ⟨["/inc"]⟩)).applyBase ⟨[], []⟩ (.addSource "/icc") =
      (.error (.directoryNotFound "/icc"), .conformance (profiled ⟨["/inc"]⟩)) := by
    decide +kernel
  obtain ⟨_, first, there⟩ :=
    (toArgs_eq_of_callAll profiledCalls made profileFiles {}).1 (.inl rfl) (by decide)
  obtain ⟨_, second, gone⟩ :=
    (toArgs_eq_of_callAll profiledCalls made ⟨[], []⟩ {}).1 (.inl rfl) (by decide)
  cases Option.some.inj (first.symm.trans above)
  cases Option.some.inj (second.symm.trans above)
  rw [found] at there
  rw [fails] at gone
  exact ⟨made, there, gone⟩

end Model

/-! ## What is accepted as a profile -/

namespace Conformance

variable {p q : Conformance} {path : RawPath} {told : Option Bool}

/-- A profile that is accepted is kept under the path to which it was resolved. -/
theorem resolveExisting_of_apply (named : path ≠ [])
    (accepted : p.apply files (.iccProfile path) = (.ok told, q)) :
    files.resolveExisting path false = .ok q.iccProfile := by
  rw [apply_iccProfile] at accepted
  rw [resolveExisting_eq named]
  cases refusal : profileRefusal? files path with
  | some e =>
    rw [refusal] at accepted
    cases accepted
  | none =>
    rw [refusal] at accepted
    cases accepted
    rfl

/-- The token list of a run tells its profile and searches the directory of it. -/
structure Tells (files : Files) (p : Conformance) (tokens : List String) : Prop where
  profile : tokens.filter (Token.startsWith "-sICCProfile=") = ["-sICCProfile=" ++ p.iccProfile]
  search : ∃ sources directory, p.effectiveSources files = .ok sources ∧
    tokens.filter (Token.startsWith "-I") = ["-I" ++ sources.joined] ∧
    Path.directoryOf? p.iccProfile = some directory ∧ directory ∈ sources.entries

/-- Under a standard, the profile has its token. -/
theorem mem_standardTokens (active : p.isActive = true) (given : p.iccProfile ≠ "") :
    "-sICCProfile=" ++ p.iccProfile ∈ p.standardTokens := by
  unfold standardTokens
  rw [if_pos active, Token.textUnless, if_neg given]
  exact List.mem_append_left _ (List.mem_append_right _ (List.mem_singleton.mpr rfl))

/-- The tokens of the conformance tier come last. -/
theorem exists_of_upperTokens {upper : List String}
    (written : (Model.conformance p).upperTokens = .ok upper) :
    ∃ front, upper = front ++ p.standardTokens := by
  rw [Model.upperTokens] at written
  cases strategy : p.pdf.strategyTokens with
  | error e =>
    rw [strategy] at written
    cases written
  | ok tokens =>
    rw [strategy] at written
    exact ⟨tokens ++ p.pdf.optionTokens, (Except.ok.inj written).symm⟩

/-- Under a standard, what is written tells a profile that is kept in its one spelling. -/
theorem tells_of_toArgs (absolute : Path.isAbsolute p.iccProfile = true)
    (canonical : Path.canonicalize p.iccProfile = p.iccProfile) (active : p.isActive = true)
    {host : Display.Host} {tokens : List String}
    (written : (Model.conformance p).toArgs files host = .ok tokens) : Tells files p tokens := by
  obtain ⟨sources, upper, effective, above, whole⟩ := Model.toArgs_eq_ok_iff.mp written
  constructor
  · have given := Path.ne_empty_of_isAbsolute absolute
    obtain ⟨front, rfl⟩ := exists_of_upperTokens above
    have opens : Token.assigned? "-sICCProfile=" = some (.name "ICCProfile", "") := by decide
    refine Model.filter_startsWith written opens ?_
    rw [whole]
    exact List.mem_append_right _ (List.mem_append_right _ (mem_standardTokens active given))
  · obtain ⟨directory, cut⟩ := Path.exists_directoryOf? absolute
    obtain ⟨same, -⟩ := Path.canonicalize_directoryOf? canonical cut
    have mem := Model.mem_of_ownDirectory? (Model.ownDirectory?_of_isActive active cut) effective
    rw [same] at mem
    have filled : sources.isEmpty = false := by
      rw [Sources.isEmpty, List.isEmpty_eq_false_iff]
      exact List.ne_nil_of_mem mem
    exact ⟨sources, directory, effective, Model.filter_search written effective filled, cut, mem⟩

/-- Where the profile leads to something, no directory is missing. -/
theorem toArgs_ne_directoryNotFound (absolute : Path.isAbsolute p.iccProfile = true)
    (canonical : Path.canonicalize p.iccProfile = p.iccProfile) (active : p.isActive = true)
    (found : files.doesExist p.iccProfile = true) (host : Display.Host) (missing : String) :
    (Model.conformance p).toArgs files host ≠ .error (.directoryNotFound missing) := by
  intro fails
  rcases Model.toArgs_eq_error_iff.mp fails with refused | ⟨-, refused⟩
  · obtain ⟨directory, cut⟩ := Path.exists_directoryOf? absolute
    obtain ⟨same, named⟩ := Path.canonicalize_directoryOf? canonical cut
    have present := Files.isDirectory_directoryOf? absolute canonical cut found
    have own := Model.ownDirectory?_of_isActive active cut
    have added := Model.add_of_effectiveSources_eq_error own refused
    obtain ⟨empty | gone, -⟩ := Sources.fst_add_eq_error_iff.mp added
    · exact named (same.symm.trans empty)
    · rw [same, present] at gone
      cases gone
  · obtain ⟨detail, other⟩ := Model.exists_of_upperTokens_eq_error refused
    cases other

/-- Under a standard, with the files as they were when the profile was accepted: the absolute path
leads to an entry of whatever kind. If all names on it are texts without a backslash, the path that
is kept leads to this entry. Where it leads to something, no directory is missing when the model is
written. What is written always tells the profile. -/
theorem usable_of_iccProfile (here : ∀ name ∈ files.here, IsName name) (named : path ≠ [])
    (accepted : p.apply files (.iccProfile path) = (.ok told, q))
    (active : q.pdf.pdfA = true ∨ q.pdf.pdfX = true) :
    (∃ names place entry, files.absoluteNames path = .ok names ∧
      files.stat (Path.ofNames names) = .ok (place, entry) ∧
      ((∀ name ∈ names, IsStraight name) → files.stat q.iccProfile = .ok (place, entry))) ∧
    (files.doesExist q.iccProfile = true → ∀ host missing,
      (Model.conformance q).toArgs files host ≠ .error (.directoryNotFound missing)) ∧
    ∀ host tokens, (Model.conformance q).toArgs files host = .ok tokens → Tells files q tokens := by
  have active := isActive_iff.mpr active
  obtain ⟨names, looked, found, -, kept⟩ :=
    Files.resolveExisting_eq_ok_iff.mp (resolveExisting_of_apply named accepted)
  have absolute : Path.isAbsolute q.iccProfile = true := kept ▸ Files.isAbsolute_spelled names
  have canonical : Path.canonicalize q.iccProfile = q.iccProfile := by
    rw [kept, Files.spelled, Path.canonicalize_canonicalize]
  obtain ⟨place, entry, stands⟩ := Files.doesExist_iff.mp found
  refine ⟨⟨names, place, entry, looked, stands, fun straight => ?_⟩,
    toArgs_ne_directoryNotFound absolute canonical active,
    fun host tokens written => tells_of_toArgs absolute canonical active written⟩
  have plain : ∀ name ∈ names, IsName name :=
    fun name mem => (Files.isName_of_mem_absoluteNames here looked mem).1
  rw [kept, Files.spelled, Path.ofText_canonicalize_ofNames plain straight]
  exact stands

open Model (profileFiles profiled)

/-- The tokens for PDF/A with that profile and no other directory. -/
def profiledTokens : List String :=
  ["-I/icc", "-dPDFA=3", "-dPDFACompatibilityPolicy=2", "-sICCProfile=/icc/p.icc"]

/-- The profile may be named by a way round. -/
theorem usable_of_iccProfile_profiled :
    Conformance.apply profileFiles { pdf := { pdfA := true } }
        (.iccProfile "/inc/..//icc/p.icc") = (.ok none, profiled {}) ∧
      (∃ place contents executable,
        profileFiles.stat "/icc/p.icc" = .ok (place, .file contents executable)) ∧
      (Model.conformance (profiled {})).toArgs profileFiles {} = .ok profiledTokens ∧
      Tells profileFiles (profiled {}) profiledTokens := by
  have here : ∀ name ∈ profileFiles.here, IsName name := nofun
  have accepted : Conformance.apply profileFiles { pdf := { pdfA := true } }
      (.iccProfile "/inc/..//icc/p.icc") = (.ok none, profiled {}) := by decide +kernel
  have written : (Model.conformance (profiled {})).toArgs profileFiles {} = .ok profiledTokens := by
    decide +kernel
  have absolute : profileFiles.absoluteNames "/inc/..//icc/p.icc" =
      .ok [Path.ofText "icc", Path.ofText "p.icc"] :=
    Files.absoluteNames_of_isAbsolute (by decide)
  have straight : ∀ name ∈ [Path.ofText "icc", Path.ofText "p.icc"], IsStraight name := by
    simp [IsStraight, Path.ofText_injective.eq_iff]
  obtain ⟨⟨names, place, entry, looked, stands, leads⟩, -, tells⟩ :=
    usable_of_iccProfile here (by decide) accepted (.inl rfl)
  obtain rfl := Except.ok.inj (absolute.symm.trans looked)
  have file : profileFiles.stat (Path.ofNames [Path.ofText "icc", Path.ofText "p.icc"]) =
      .ok (["icc", "p.icc"], .file [] false) := by decide +kernel
  rw [file] at stands
  cases stands
  exact ⟨accepted, ⟨_, _, _, leads straight⟩, written, tells _ _ written⟩

/-- A directory, a device, and files with a backslash and with a byte that is no text in their
name. -/
def unusableFiles : Files where
  entries := [(["icc"], .directory), (["null"], .special), (["sub\\p.icc"], .file [] false),
    ([[0xFF]], .file [] false)]
  here := []

/-- All of them are accepted as a profile. The directory and the device are no files, the last path
that is kept leads nowhere, and with the one before it nothing can be written, because it asks for a
directory that is not there. -/
theorem exists_unusable_iccProfile :
    ∃ p : Conformance, ∃ directory device file lost,
      (Model.blank .conformance).callAll [(unusableFiles, .pdf (.pdfA true))] = .conformance p ∧
      p.apply unusableFiles (.iccProfile "/icc") = (.ok none, directory) ∧
      unusableFiles.isDirectory directory.iccProfile = true ∧
      p.apply unusableFiles (.iccProfile "/null") = (.ok none, device) ∧
      unusableFiles.stat device.iccProfile = .ok (["null"], .special) ∧
      p.apply unusableFiles (.iccProfile "/sub\\p.icc") = (.ok none, file) ∧
      unusableFiles.doesExist file.iccProfile = false ∧
      (Model.conformance file).toArgs unusableFiles {} = .error (.directoryNotFound "/sub") ∧
      p.apply unusableFiles (.iccProfile [0x2F, 0xFF]) = (.ok none, lost) ∧
      unusableFiles.doesExist lost.iccProfile = false := by
  refine ⟨{ pdf := { pdfA := true } },
    { pdf := { pdfA := true }, iccProfile := "/icc" },
    { pdf := { pdfA := true }, iccProfile := "/null" },
    { pdf := { pdfA := true }, iccProfile := "/sub/p.icc" },
    { pdf := { pdfA := true }, iccProfile := "/\uFFFD" }, rfl, ?_, ?_, ?_, ?_, ?_, ?_, ?_, ?_, ?_⟩
  all_goals decide +kernel

end Conformance

end EngineTokens.Params
