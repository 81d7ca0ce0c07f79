import EngineTokens.Files.Exact
import EngineTokens.Proofs.Path.Names

/-!
# The path of an existing file

The path that is returned is absolute and has its one spelling. It is the path that was looked up
exactly if every name in that path is a text without a backslash (`Path.IsStraight`); then it leads
to the same entry and is returned for itself. A backslash in a name is written as a slash after the
lookup, and bytes that are no text are written as U+FFFD, so in other cases the path that is
returned may lead nowhere.
-/

set_option autoImplicit false

namespace EngineTokens.Files

open EngineTokens.Path (IsName IsStraight)

variable {files : Files} {path : RawPath} {names : List RawName} {result : String}
  {ignoreCase : Bool}

/-- A path is returned if it has an absolute form, exists, and is spelled exactly where that
counts. -/
theorem resolveExisting_eq_ok_iff :
    files.resolveExisting path ignoreCase = .ok result ↔
      ∃ names, files.absoluteNames path = .ok names ∧ files.doesExist (Path.ofNames names) = true ∧
        (ignoreCase = true ∨ files.matchesExactly [] names = true) ∧ result = spelled names := by
  unfold resolveExisting
  cases files.absoluteNames path with
  | error fault => simp
  | ok names =>
    dsimp only
    cases found : files.doesExist (Path.ofNames names) with
    | false => simp [found]
    | true =>
      cases ignoreCase <;> cases exact_ : files.matchesExactly [] names <;> simp [found, exact_]
      all_goals exact eq_comm

/-! ## Absolute paths -/

/-- A path that starts at the root has the names that remain of its components, whatever files there
are. -/
theorem absoluteNames_of_isAbsolute (absolute : Path.isAbsolute path = true) :
    files.absoluteNames path = .ok (Path.resolve (Path.components path)) := by
  rw [absoluteNames, Files.absolute, if_neg (Path.ne_nil_of_isAbsolute absolute), if_pos absolute]
  rfl

/-- A relative path has the names that remain when its components follow those of the directory at
hand. -/
theorem absoluteNames_of_isAbsolute_eq_false (named : path ≠ [])
    (relative : Path.isAbsolute path = false) (stands : files.entry? files.here = some .directory) :
    files.absoluteNames path = .ok (Path.resolve (files.here ++ Path.components path)) := by
  rw [absoluteNames, Files.absolute, if_neg named, if_neg (by simp [relative]), if_pos stands]
  rfl

/-- A path has no absolute form if it is empty, or relative where the directory at hand is gone. -/
theorem absoluteNames_eq_error_iff {fault : Fault} :
    files.absoluteNames path = .error fault ↔
      path = [] ∧ fault = .emptyPath ∨
        path ≠ [] ∧ Path.isAbsolute path = false ∧ files.entry? files.here ≠ some .directory ∧
          fault = .missing := by
  by_cases named : path = []
  · have refused : files.absoluteNames path = .error .emptyPath := by
      rw [absoluteNames, Files.absolute, if_pos named]
      rfl
    rw [refused, Except.error.injEq]
    simp only [named, ne_eq, not_true, false_and, true_and, or_false]
    exact eq_comm
  by_cases absolute : Path.isAbsolute path = true
  · simp [absoluteNames_of_isAbsolute absolute, absolute, named]
  rw [Bool.not_eq_true] at absolute
  by_cases stands : files.entry? files.here = some .directory
  · simp [absoluteNames_of_isAbsolute_eq_false named absolute stands, stands, named]
  · have refused : files.absoluteNames path = .error .missing := by
      rw [absoluteNames, Files.absolute, if_neg named, if_neg (by simp [absolute]), if_neg stands]
      rfl
    rw [refused, Except.error.injEq]
    simp only [named, absolute, stands, ne_eq, not_false_eq_true, false_and, true_and, false_or]
    exact eq_comm

/-- The names of a path from the root are what remains of some names and the path's components. -/
theorem exists_resolve_of_absoluteNames (absolute : files.absoluteNames path = .ok names) :
    ∃ start, names = Path.resolve (start ++ Path.components path) ∧
      ∀ name ∈ start, name ∈ files.here := by
  unfold absoluteNames Files.absolute at absolute
  split at absolute
  next => cases absolute
  next =>
  split at absolute
  next =>
    cases absolute
    exact ⟨[], rfl, nofun⟩
  next =>
  split at absolute
  next =>
    cases absolute
    exact ⟨files.here, rfl, fun _ mem => mem⟩
  next => cases absolute

/-- If the working directory is a path of names, so is every path that is looked up. -/
theorem isName_of_mem_absoluteNames (here : ∀ name ∈ files.here, IsName name)
    (absolute : files.absoluteNames path = .ok names) {name : RawName} (mem : name ∈ names) :
    IsName name ∧ name ≠ Path.dot ∧ name ≠ Path.dotDot := by
  obtain ⟨start, rfl, among⟩ := exists_resolve_of_absoluteNames absolute
  obtain ⟨mem, plain⟩ := Path.mem_resolve mem
  refine ⟨?_, plain⟩
  obtain first | component := List.mem_append.mp mem
  · exact here name (among name first)
  · exact Path.isName_of_mem_components component

/-- A path of names without `.` and `..` is looked up by these names. -/
theorem absoluteNames_ofNames
    (plain : ∀ name ∈ names, IsName name ∧ name ≠ Path.dot ∧ name ≠ Path.dotDot) :
    files.absoluteNames (Path.ofNames names) = .ok names := by
  rw [absoluteNames_of_isAbsolute (Path.isAbsolute_ofNames names),
    Path.components_ofNames fun name mem => (plain name mem).1,
    Path.resolve_of_settled fun name mem => (plain name mem).2]

/-- What is kept for the names of an absolute path is an absolute path. -/
theorem isAbsolute_spelled (names : List RawName) : Path.isAbsolute (spelled names) = true := by
  obtain ⟨rest, whole⟩ := Path.isAbsolute_iff_cons.mp (Path.isAbsolute_ofNames names)
  apply Path.isAbsolute_canonicalize
  rw [whole, Path.shown_cons_slash, Path.isAbsolute_iff]
  exact ⟨(Path.shown rest).toList, by simp⟩

/-! ## The path that is returned -/

/-- A path that is returned is absolute and in its one spelling. It is the path that was looked up
exactly if all names in that one are texts without a backslash. Then it has no `.` or `..` in it,
leads to an entry and is returned for itself. -/
theorem resolveExisting_sound (here : ∀ name ∈ files.here, IsName name)
    (resolves : files.resolveExisting path ignoreCase = .ok result) :
    Path.isAbsolute result = true ∧ Path.canonicalize result = result ∧
      ∃ names, files.absoluteNames path = .ok names ∧
        (Path.ofText result = Path.ofNames names ↔ ∀ name ∈ names, IsStraight name) ∧
        ((∀ name ∈ names, IsStraight name) →
          (∀ name ∈ Path.components result, name ≠ Path.dot ∧ name ≠ Path.dotDot) ∧
          files.doesExist result = true ∧ files.resolveExisting result ignoreCase = .ok result) := by
  obtain ⟨names, absolute, found, matched, rfl⟩ := resolveExisting_eq_ok_iff.mp resolves
  have plain : ∀ name ∈ names, IsName name ∧ name ≠ Path.dot ∧ name ≠ Path.dotDot :=
    fun name mem => isName_of_mem_absoluteNames here absolute mem
  have same := Path.ofText_canonicalize_ofNames_iff fun name mem => (plain name mem).1
  refine ⟨isAbsolute_spelled names, Path.canonicalize_canonicalize _, names, absolute, same,
    fun straight => ?_⟩
  have kept : Path.ofText (spelled names) = Path.ofNames names := same.mpr straight
  rw [kept]
  refine ⟨?_, found, ?_⟩
  · intro name mem
    rw [Path.components_ofNames fun name mem => (plain name mem).1] at mem
    exact (plain name mem).2
  · exact resolveExisting_eq_ok_iff.mpr ⟨names, absoluteNames_ofNames plain, found, matched, rfl⟩

/-- A profile in one of two directories, and files in the root with a backslash or a byte that is no
text in their name. -/
def profiles : Files where
  entries := [(["icc"], .directory), (["in"], .directory), (["icc", "b.icc"], .file [] false),
    (["a\\b"], .file [] false), (["x\\..\\y"], .file [] false), ([[0xFF]], .file [] false)]
  here := ["in"]

/-- A way round through the other directory. -/
theorem resolveExisting_sound_profiles :
    Path.isAbsolute "/icc/b.icc" = true ∧ profiles.doesExist "/icc/b.icc" = true ∧
      profiles.resolveExisting "/icc/b.icc" false = .ok "/icc/b.icc" := by
  have here : ∀ name ∈ profiles.here, IsName name := by
    intro name mem
    obtain rfl : name = Path.ofText "in" := List.mem_singleton.mp mem
    exact ⟨by decide, by decide⟩
  have absolute : profiles.absoluteNames ".././icc//b.icc" =
      .ok [Path.ofText "icc", Path.ofText "b.icc"] :=
    absoluteNames_of_isAbsolute_eq_false (by decide) (by decide) (by decide)
  have resolves : profiles.resolveExisting ".././icc//b.icc" false = .ok "/icc/b.icc" :=
    resolveExisting_eq_ok_iff.mpr ⟨_, absolute, by decide +kernel⟩
  obtain ⟨rooted, -, names, looked, -, usable⟩ := resolveExisting_sound here resolves
  obtain rfl := Except.ok.inj (absolute.symm.trans looked)
  have straight : ∀ name ∈ [Path.ofText "icc", Path.ofText "b.icc"], IsStraight name := by
    simp [IsStraight, Path.ofText_injective.eq_iff]
  exact ⟨rooted, (usable straight).2⟩

/-- Files are found, but the paths that are returned for them lead nowhere. -/
theorem resolveExisting_backslash :
    profiles.resolveExisting "/a\\b" false = .ok "/a/b" ∧ profiles.doesExist "/a/b" = false ∧
      profiles.resolveExisting "/a/b" false = .error (.fileNotFound "/a/b") ∧
      profiles.resolveExisting "/x\\..\\y" true = .ok "/x/../y" ∧
      Path.dotDot ∈ Path.components "/x/../y" ∧
      profiles.resolveExisting [0x2F, 0xFF] false = .ok "/\uFFFD" ∧
      profiles.doesExist "/\uFFFD" = false := by
  have looked : ∀ name : RawName, Path.resolve (Path.components (Path.slash :: name)) = [name] →
      profiles.absoluteNames (Path.slash :: name) = .ok [name] := by
    intro name whole
    rw [absoluteNames_of_isAbsolute rfl, whole]
  refine ⟨resolveExisting_eq_ok_iff.mpr ⟨_, looked "a\\b" (by decide), ?_⟩, ?_, rfl,
    resolveExisting_eq_ok_iff.mpr ⟨_, looked "x\\..\\y" (by decide), ?_⟩, ?_,
    resolveExisting_eq_ok_iff.mpr ⟨_, looked [0xFF] (by decide), ?_⟩, ?_⟩
  all_goals decide +kernel

end EngineTokens.Files
