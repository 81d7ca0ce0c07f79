import Mathlib.Data.List.Induction
import Mathlib.Data.List.Nodup
import EngineTokens.Params.Sources
import EngineTokens.Proofs.Path.Spellings

/-!
# The set of include directories over time

Whether a path is accepted as an include directory depends on the files alone, not on the
directories that are there already (`Sources.accepted?`). After any calls, whatever becomes of the
files between them, the set is made of the canonical forms that were accepted, each at the place of
its first acceptance (`Sources.entries_registerAll`). `Sources.registers` states what follows for
the set and for the answer to one more call: how a path is spelled decides nothing, and a path that
was accepted once never changes the set again.
-/

set_option autoImplicit false

namespace EngineTokens.Params

/-! ## One call -/

namespace Sources

variable {files : Files} {sources : Sources} {path : String}

/-- The canonical form of a path, if it is accepted. -/
def accepted? (files : Files) (path : String) : Option String :=
  let canonical := Path.canonicalize path
  if canonical = "" ∨ files.isDirectory canonical = false then none else some canonical

/-- A path is accepted if its canonical form is a directory and not empty. -/
theorem accepted?_eq_some_iff {canonical : String} :
    accepted? files path = some canonical ↔
      canonical = Path.canonicalize path ∧ canonical ≠ "" ∧ files.isDirectory canonical = true := by
  unfold accepted?
  dsimp only
  split
  next refused =>
    refine iff_of_false nofun ?_
    rintro ⟨rfl, named, present⟩
    rcases refused with empty | missing
    · exact named empty
    · rw [present] at missing
      cases missing
  next accepts =>
    rw [not_or, Bool.not_eq_false] at accepts
    rw [Option.some.injEq]
    constructor
    · rintro rfl
      exact ⟨rfl, accepts⟩
    · exact fun same => same.1.symm

/-- A path is refused if its canonical form is empty or no directory. -/
theorem accepted?_eq_none_iff :
    accepted? files path = none ↔
      Path.canonicalize path = "" ∨ files.isDirectory (Path.canonicalize path) = false := by
  unfold accepted?
  dsimp only
  split
  next refused => exact iff_of_true rfl refused
  next accepts => exact iff_of_false nofun accepts

/-- A path is contained if its canonical form is an entry. -/
theorem contains_eq_true_iff :
    sources.contains path = true ↔ Path.canonicalize path ∈ sources.entries := by
  simp [contains]

/-- All that a call does. A path that is refused leaves the directories as they are. -/
theorem add_eq (files : Files) (sources : Sources) (path : String) :
    sources.add files path =
      match accepted? files path with
      | none => (.error (.directoryNotFound path), sources)
      | some canonical =>
        if canonical ∈ sources.entries then (.ok false, sources)
        else (.ok true, ⟨sources.entries ++ [canonical]⟩) := by
  unfold add accept accepted?
  dsimp only
  split
  next => rfl
  next =>
    have known : sources.contains (Path.canonicalize path) = true ↔
        Path.canonicalize path ∈ sources.entries := by
      rw [contains_eq_true_iff, Path.canonicalize_canonicalize]
    simp only [← known]
    change Steps.take (if sources.contains (Path.canonicalize path) = true then _ else _) sources = _
    split <;> rfl

/-- A path is refused with itself, exactly if it is not accepted. -/
theorem fst_add_eq_error_iff {e : Error} :
    (sources.add files path).1 = .error e ↔
      (Path.canonicalize path = "" ∨ files.isDirectory (Path.canonicalize path) = false) ∧
        e = .directoryNotFound path := by
  rw [add_eq, ← accepted?_eq_none_iff]
  cases accepted? files path with
  | none => simp [eq_comm]
  | some canonical =>
    dsimp only
    split <;> simp

/-- A refusal leaves the directories as they are. -/
theorem snd_add_of_error {e : Error} (refused : (sources.add files path).1 = .error e) :
    (sources.add files path).2 = sources := by
  rw [add_eq] at refused ⊢
  cases accepted : accepted? files path with
  | none => rfl
  | some canonical =>
    rw [accepted] at refused
    dsimp only at refused
    split at refused <;> cases refused

/-- A path that is accepted is there, and asked again at once it is not new. -/
theorem add_again {after : Sources} {new : Bool}
    (added : sources.add files path = (.ok new, after)) :
    Path.canonicalize path ∈ after.entries ∧ after.add files path = (.ok false, after) := by
  rw [add_eq] at added ⊢
  cases accepted : accepted? files path with
  | none =>
    rw [accepted] at added
    cases added
  | some canonical =>
    obtain ⟨rfl, -⟩ := accepted?_eq_some_iff.mp accepted
    have known : Path.canonicalize path ∈ after.entries := by
      simp only [accepted] at added
      split at added
      next mem =>
        cases added
        exact mem
      next =>
        cases added
        simp
    exact ⟨known, by simp only [if_pos known]⟩

/-- Two answers are alike: both are refusals or both the same answer, and they leave the same
directories. -/
def Alike (first second : Except Error Bool × Sources) : Prop :=
  first.1.toOption = second.1.toOption ∧ first.2 = second.2

/-- Two spellings of a path are answered alike, but for the path in a refusal. -/
theorem alike_add {other : String} (same : Path.canonicalize other = Path.canonicalize path)
    (files : Files) (sources : Sources) :
    Alike (sources.add files other) (sources.add files path) := by
  have alike : accepted? files other = accepted? files path := by
    unfold accepted?
    rw [same]
  rw [add_eq, add_eq, alike]
  cases accepted? files path with
  | none => exact ⟨rfl, rfl⟩
  | some canonical => exact ⟨rfl, rfl⟩

/-- The directories after one call, accepted or not. -/
def register (files : Files) (sources : Sources) (path : String) : Sources :=
  (sources.add files path).2

/-- One call adds the canonical form of a path that is accepted and new, and nothing else. -/
theorem entries_register (files : Files) (sources : Sources) (path : String) :
    (sources.register files path).entries =
      match accepted? files path with
      | none => sources.entries
      | some canonical =>
        if canonical ∈ sources.entries then sources.entries
        else sources.entries ++ [canonical] := by
  unfold register
  rw [add_eq]
  cases accepted? files path with
  | none => rfl
  | some canonical =>
    dsimp only
    split
    next => rfl
    next => rfl

/-- A path that is not accepted adds nothing. -/
theorem register_of_accepted?_eq_none (refused : accepted? files path = none) :
    sources.register files path = sources := by
  rw [register, add_eq, refused]

/-- A directory that is there already is not added again. -/
theorem register_of_mem {canonical : String} (accepted : accepted? files path = some canonical)
    (known : canonical ∈ sources.entries) : sources.register files path = sources := by
  rw [register, add_eq, accepted]
  dsimp only
  rw [if_pos known]

end Sources

/-! ## Any calls -/

/-- The canonical forms of the paths that some calls register, in the order of the calls. -/
def acceptedForms (calls : List (Files × String)) : List String :=
  calls.filterMap fun (files, path) => Sources.accepted? files path

/-- The accepted forms are those of the paths that were accepted. -/
theorem mem_acceptedForms {calls : List (Files × String)} {canonical : String} :
    canonical ∈ acceptedForms calls ↔
      ∃ files path, (files, path) ∈ calls ∧ Sources.accepted? files path = some canonical := by
  simp [acceptedForms]

/-- A further call adds its form if it is accepted. -/
theorem acceptedForms_concat (calls : List (Files × String)) (files : Files) (path : String) :
    acceptedForms (calls ++ [(files, path)]) =
      acceptedForms calls ++ (Sources.accepted? files path).toList := by
  unfold acceptedForms
  rw [List.filterMap_append]
  cases accepted : Sources.accepted? files path <;> simp [accepted]

/-- A further form comes last if it is new. -/
theorem eraseDups_concat (forms : List String) (form : String) :
    (forms ++ [form]).eraseDups =
      if form ∈ forms then forms.eraseDups else forms.eraseDups ++ [form] := by
  rw [List.eraseDups_append]
  by_cases known : form ∈ forms
  · simp [List.removeAll, known]
  · simp [List.removeAll, known, List.eraseDups_cons]

/-- Nothing is left twice. -/
theorem nodup_eraseDups (forms : List String) : forms.eraseDups.Nodup := by
  induction forms using List.reverseRecOn with
  | nil => exact List.nodup_nil
  | append_singleton forms form ih =>
    rw [eraseDups_concat]
    split
    next => exact ih
    next new =>
      rw [← List.concat_eq_append]
      exact ih.concat fun mem => new (List.mem_eraseDups.mp mem)

namespace Sources

variable {calls : List (Files × String)}

/-- The set after some calls, each with the files as they are then. -/
def registerAll (sources : Sources) (calls : List (Files × String)) : Sources :=
  calls.foldl (fun sources (files, path) => sources.register files path) sources

/-- The calls are made one after another. -/
theorem registerAll_concat (sources : Sources) (calls : List (Files × String)) (files : Files)
    (path : String) :
    sources.registerAll (calls ++ [(files, path)]) =
      (sources.registerAll calls).register files path := by
  simp [registerAll]

/-- By induction on the last call. -/
theorem entries_registerAll (calls : List (Files × String)) :
    (registerAll {} calls).entries = (acceptedForms calls).eraseDups := by
  induction calls using List.reverseRecOn with
  | nil => rfl
  | append_singleton calls call ih =>
    obtain ⟨files, path⟩ := call
    rw [registerAll_concat, entries_register, ih, acceptedForms_concat]
    cases accepted? files path with
    | none => simp
    | some canonical => simp [eraseDups_concat]

/-- The entries are the forms that were accepted. -/
theorem mem_entries_registerAll {canonical : String} :
    canonical ∈ (registerAll {} calls).entries ↔
      ∃ files path, (files, path) ∈ calls ∧ accepted? files path = some canonical := by
  rw [entries_registerAll, List.mem_eraseDups, mem_acceptedForms]

/-- What the directories are that some calls have registered. -/
structure Registers (calls : List (Files × String)) (sources : Sources) : Prop where
  /-- They are the canonical forms of the accepted paths, in the order of first acceptance. -/
  entries : sources.entries = (acceptedForms calls).eraseDups
  nodup : sources.entries.Nodup
  /-- Each is in its one spelling. -/
  canonical : ∀ entry ∈ sources.entries, entry ≠ "" ∧ Path.canonicalize entry = entry
  /-- A path is recognized whatever its spelling. -/
  contains : ∀ path, sources.contains path = true ↔ Path.canonicalize path ∈ sources.entries

/-- How the directories that some calls have registered answer to one more. -/
structure Responds (calls : List (Files × String)) (sources : Sources) (files : Files)
    (path : String) : Prop where
  /-- A path is refused, with itself, exactly if nothing is left of it in its one spelling or that
  is no directory. -/
  refused : ∀ e, (sources.add files path).1 = .error e ↔
    (Path.canonicalize path = "" ∨ files.isDirectory (Path.canonicalize path) = false) ∧
      e = .directoryNotFound path
  /-- A refusal changes nothing. -/
  kept : ∀ e, (sources.add files path).1 = .error e →
    (sources.add files path).2 = sources ∧ registerAll {} (calls ++ [(files, path)]) = sources
  /-- The answer is that the path is new exactly if no path with its canonical form was accepted
  before. -/
  added : ∀ after new, sources.add files path = (.ok new, after) →
    registerAll {} (calls ++ [(files, path)]) = after ∧
      (new = true ↔ ∀ before other, (before, other) ∈ calls →
        accepted? before other ≠ some (Path.canonicalize path))
  /-- Another spelling of the path is answered alike. -/
  spelled : ∀ other, Path.canonicalize other = Path.canonicalize path →
    Alike (sources.add files other) (sources.add files path)
  /-- So it is if separators are doubled, or backslashes stand for slashes. -/
  separated : ∀ front run back, Path.IsRun run → path = front ++ "/" ++ back →
    Alike (sources.add files (front ++ run ++ back)) (sources.add files path)
  /-- So it is with separators at the end, where these do not make a root. -/
  trailing : ∀ run, Path.IsRun run → path ≠ "" → Path.isDriveRoot (path.toList ++ ['/']) = false →
    Alike (sources.add files (path ++ run)) (sources.add files path)
  /-- A path that was accepted before changes nothing. -/
  again : ∀ before, (before, path) ∈ calls → accepted? before path ≠ none →
    registerAll {} (calls ++ [(files, path)]) = sources

/-- However the calls before went, the next one is answered by the rules. -/
theorem responds (calls : List (Files × String)) (files : Files) (path : String) :
    Responds calls (registerAll {} calls) files path where
  refused e := fst_add_eq_error_iff
  kept e refusal := by
    rw [registerAll_concat, register, and_self]
    exact snd_add_of_error refusal
  added after new accepts := by
    refine ⟨by rw [registerAll_concat, register, accepts], ?_⟩
    rw [add_eq] at accepts
    cases accepted : accepted? files path with
    | none =>
      rw [accepted] at accepts
      cases accepts
    | some canonical =>
      obtain ⟨rfl, -⟩ := accepted?_eq_some_iff.mp accepted
      have known := @mem_entries_registerAll calls (Path.canonicalize path)
      simp only [accepted] at accepts
      split at accepts
      next mem =>
        cases accepts
        obtain ⟨before, other, earlier, same⟩ := known.mp mem
        exact iff_of_false nofun fun none => none before other earlier same
      next fresh =>
        cases accepts
        refine iff_of_true rfl fun before other earlier same => ?_
        exact fresh (known.mpr ⟨before, other, earlier, same⟩)
  spelled other same := alike_add same files _
  separated front run back isRun whole := by
    subst whole
    exact alike_add (Path.canonicalize_run isRun front back) files _
  trailing run isRun filled rootless :=
    alike_add (Path.canonicalize_trailing isRun filled rootless) files _
  again before earlier accepted := by
    rw [registerAll_concat]
    obtain ⟨canonical, formerly⟩ := Option.ne_none_iff_exists'.mp accepted
    cases now : accepted? files path with
    | none => exact register_of_accepted?_eq_none now
    | some form =>
      obtain ⟨rfl, -⟩ := accepted?_eq_some_iff.mp now
      obtain ⟨rfl, -⟩ := accepted?_eq_some_iff.mp formerly
      exact register_of_mem now (mem_entries_registerAll.mpr ⟨before, path, earlier, formerly⟩)

/-- Whatever is registered, in whatever state the files are at each call, the set holds the accepted
directories and answers to the next call accordingly. -/
theorem registers (calls : List (Files × String)) :
    Registers calls (registerAll {} calls) ∧
      ∀ files path, Responds calls (registerAll {} calls) files path := by
  refine ⟨⟨entries_registerAll calls, ?_, ?_, fun path => contains_eq_true_iff⟩, responds calls⟩
  · rw [entries_registerAll]
    exact nodup_eraseDups _
  · intro entry mem
    obtain ⟨files, path, -, accepted⟩ := mem_entries_registerAll.mp mem
    obtain ⟨rfl, named, -⟩ := accepted?_eq_some_iff.mp accepted
    exact ⟨named, Path.canonicalize_canonicalize path⟩

/-- A directory that vanishes and comes back keeps its place. -/
example :
    let there : Files := ⟨[(["a"], .directory), (["b"], .directory)], []⟩
    let gone : Files := ⟨[(["b"], .directory)], []⟩
    (registerAll {} [(there, "/a/"), (there, "\\b"), (gone, "/a"), (there, "//a")]).entries =
      ["/a", "/b"] := by
  decide +kernel

end Sources

end EngineTokens.Params
