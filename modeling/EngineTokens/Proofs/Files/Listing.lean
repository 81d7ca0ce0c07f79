import EngineTokens.Proofs.Files.Containing

/-!
# Every name of an existing path is listed

A lookup that passes a name has found an entry of that name, and the entry stands in the listing of
the directory reached before it (`listed_of_doesExist`). This holds through links as well, because
the names before it are looked up the same way, and link counts and lengths only become less. So
where names are told apart by case, looking at the listings refuses no path that exists
(`resolveExisting_listed`).

The names of a path from the root do not depend on the files: they are what is left on a stack once
all components are through (`Path.Settles`).
-/

set_option autoImplicit false

namespace EngineTokens

/-! ## Components on a stack -/

namespace Path

/-- The components of a path go on a stack one after another, of which the last name is the top. -/
inductive Settles : List RawName → List RawName → List RawName → Prop
  | done (names : List RawName) : Settles names [] names
  /-- `.` is skipped. -/
  | here {names rest settled : List RawName} (further : Settles names rest settled) :
    Settles names (dot :: rest) settled
  /-- `..` takes the top away, of which the root has none. -/
  | above {names rest settled : List RawName} (further : Settles names.dropLast rest settled) :
    Settles names (dotDot :: rest) settled
  | name {names rest settled : List RawName} {name : RawName} (here : name ≠ dot)
    (above : name ≠ dotDot) (further : Settles (names ++ [name]) rest settled) : Settles names (name :: rest) settled

/-- Components that go on the stack leave what the fold leaves. -/
theorem settles_foldl_push (components names : List RawName) :
    Settles names.reverse components (components.foldl push names).reverse := by
  induction components generalizing names with
  | nil => exact .done _
  | cons component rest ih =>
    have further := ih (push names component)
    rw [List.foldl_cons]
    by_cases here : component = dot
    · rw [push, if_pos here] at further ⊢
      rw [here]
      exact .here further
    by_cases above : component = dotDot
    · rw [push, if_neg here, if_pos above] at further ⊢
      rw [← List.dropLast_reverse] at further
      rw [above]
      exact .above further
    · rw [push, if_neg here, if_neg above] at further ⊢
      rw [List.reverse_cons] at further
      exact .name here above further

/-- What is left on the stack is what the fold leaves. -/
theorem Settles.eq {names components settled : List RawName}
    (settles : Settles names components settled) :
    (components.foldl push names.reverse).reverse = settled := by
  induction settles with
  | done names => exact List.reverse_reverse names
  | here _ ih => exact ih
  | above _ ih =>
    rw [← List.tail_reverse] at ih
    exact ih
  | name here above _ ih =>
    rw [List.reverse_concat] at ih
    rw [List.foldl_cons, push, if_neg here, if_neg above]
    exact ih

/-- What is left on the empty stack are the names that are worked out. -/
theorem settles_iff {components names : List RawName} :
    Settles [] components names ↔ resolve components = names := by
  constructor
  · exact Settles.eq
  · rintro rfl
    exact settles_foldl_push components []

end Path

namespace Files

open EngineTokens.Path (IsName)

variable {files : Files} {path : RawPath} {names : List RawName}

/-! ## Entries and listings -/

/-- The name of an entry stands in the listing of the directory around it. -/
theorem mem_namesIn {place : Place} {name : RawName} {entry : Entry}
    (stands : files.entry? (place ++ [name]) = some entry) : name ∈ files.namesIn place := by
  have below : place ++ [name] ≠ [] := by simp
  rw [ entry?, if_neg below, List.lookup_eq_some_iff] at stands
  obtain ⟨before, after, whole, -⟩ := stands
  rw [namesIn, List.mem_filterMap]
  refine ⟨(place ++ [name], entry), ?_, by simp⟩
  rw [whole]
  simp

/-- A name that a lookup passes is that of an entry. -/
theorem exists_entry?_of_walk {links : Nat} {place there : Place} {name : RawName}
    {rest : List RawName} {entry : Entry} (plain : name ≠ Path.dot ∧ name ≠ Path.dotDot)
    (looked : files.walk true links place (name :: rest) = .ok (.entry there entry)) :
    ∃ stands, files.entry? (place ++ [name]) = some stands := by
  have stands : ∀ enter, files.advance true enter place (name :: rest) = .ok (.entry there entry) →
      ∃ stands, files.entry? (place ++ [name]) = some stands := by
    intro enter passed
    cases advance_cons_iff.mp passed with
    | stays dot => exact absurd dot plain.1
    | up dots => exact absurd dots plain.2
    | free _ _ _ comes => cases comes
    | down _ stands | ends _ stands | enters _ stands => exact ⟨_, stands⟩
  cases links with
  | zero => exact stands _ looked
  | succ links => exact stands _ looked

/-- The steps of the path of some names are these names. -/
theorem steps_ofNames {names : List RawName} (named : names ≠ [])
    (plain : ∀ name ∈ names, IsName name) : steps (Path.ofNames names) = names := by
  rw [steps, Path.components_ofNames plain, Path.endsWithSlash_ofNames named plain]
  exact List.append_nil names

/-- The directory to which names lead from the root is listed under the path of these names. -/
theorem list_ofNames {names : List RawName} {place : Place} (plain : ∀ name ∈ names, IsName name)
    (accepted : refusal? (Path.ofNames names) = none)
    (looked : files.walk true linkLimit [] names = .ok (.entry place .directory)) :
    files.list (Path.ofNames names) = .ok (files.namesIn place) := by
  have start : files.origin (Path.ofNames names) = [] := if_pos (Path.isAbsolute_ofNames names)
  have stands : files.stat (Path.ofNames names) = .ok (place, .directory) := by
    refine stat_eq_ok_iff.mpr ⟨accepted, ?_⟩
    by_cases named : names = []
    · subst named
      exact looked
    · rw [start, steps_ofNames named plain, looked]
  rw [list, stands]

/-- What is accepted as a path is accepted as far as it goes. -/
theorem refusal?_ofNames_append {front back : List RawName}
    (accepted : refusal? (Path.ofNames (front ++ back)) = none) :
    refusal? (Path.ofNames front) = none := by
  by_cases named : front = []
  · subst named
    decide
  · have filled := Path.ne_nil_of_isAbsolute (Path.isAbsolute_ofNames front)
    have whole : front ++ back ≠ [] := by simp [named]
    rw [Path.ofNames_of_ne_nil whole, List.flatMap_append, ← Path.ofNames_of_ne_nil named]
      at accepted
    exact refusal?_of_append filled accepted

/-- If names lead to something, each of them is listed in the directory before it. -/
theorem listed_of_doesExist {above below : List RawName} {name : RawName}
    (plain : ∀ other ∈ above ++ name :: below,
      IsName other ∧ other ≠ Path.dot ∧ other ≠ Path.dotDot)
    (found : files.doesExist (Path.ofNames (above ++ name :: below)) = true) :
    ∃ listed, files.list (Path.ofNames above) = .ok listed ∧ name ∈ listed := by
  have names : ∀ other ∈ above ++ name :: below, IsName other :=
    fun other mem => (plain other mem).1
  have more : name :: below ≠ [] := List.cons_ne_nil name below
  obtain ⟨there, entry, stands⟩ := doesExist_iff.mp found
  obtain ⟨accepted, looked⟩ := stat_eq_ok_iff.mp stands
  rw [origin, if_pos (Path.isAbsolute_ofNames _), steps_ofNames (by simp) names] at looked
  -- the lookup has come to a directory, from which it takes the name
  obtain ⟨place, reached, left, further⟩ := walk_of_append more looked
  obtain ⟨other, passed⟩ := exists_entry?_of_walk (plain name (by simp)).2 further
  refine ⟨files.namesIn place, ?_, mem_namesIn passed⟩
  exact list_ofNames (fun other mem => names other (List.mem_append_left _ mem))
    (refusal?_ofNames_append accepted) reached

/-- All names of a path are looked for in the listings of the directories before them. -/
theorem matchesExactly_iff {above names : List RawName} :
    files.matchesExactly above names = true ↔
      ∀ front name back, names = front ++ name :: back →
        ∃ listed, files.list (Path.ofNames (above ++ front)) = .ok listed ∧ name ∈ listed := by
  induction names generalizing above with
  | nil => simp [matchesExactly]
  | cons first rest ih =>
    constructor
    · intro exactly front name back whole
      rw [matchesExactly] at exactly
      split at exactly
      next listed lists =>
        rw [Bool.and_eq_true, List.contains_iff_mem] at exactly
        cases front with
        | nil =>
          obtain ⟨rfl, -⟩ := List.cons.inj whole
          rw [List.append_nil]
          exact ⟨listed, lists, exactly.1⟩
        | cons _ front =>
          obtain ⟨rfl, further⟩ := List.cons.inj whole
          have later := ih.mp exactly.2 front name back further
          rwa [List.append_assoc] at later
      next => cases exactly
    · intro each
      obtain ⟨listed, lists, mem⟩ := each [] first rest rfl
      rw [List.append_nil] at lists
      rw [matchesExactly, lists]
      simp only [Bool.and_eq_true, List.contains_iff_mem]
      refine ⟨mem, ih.mpr fun front name back whole => ?_⟩
      rw [List.append_assoc]
      exact each (first :: front) name back (by rw [whole, List.cons_append])

/-! ## Existing paths -/

/-- A path that exists is not refused for the spelling of its names. -/
theorem matchesExactly_of_doesExist (here : ∀ name ∈ files.here, IsName name)
    (absolute : files.absoluteNames path = .ok names)
    (found : files.doesExist (Path.ofNames names) = true) :
    files.matchesExactly [] names = true := by
  have plain : ∀ name ∈ names, IsName name ∧ name ≠ Path.dot ∧ name ≠ Path.dotDot :=
    fun name mem => isName_of_mem_absoluteNames here absolute mem
  rw [matchesExactly_iff]
  intro front name back whole
  subst whole
  exact listed_of_doesExist plain found

/-- Whether the case of letters counts makes no difference: in both cases the answer is the path if
it exists, and that it was not found otherwise. All names of a path that exists are listed. A path
has names unless it is empty, or is relative where the directory at hand is gone; those of a path
from the root are the ones that are left on the stack, whatever files there are. -/
theorem resolveExisting_listed (here : ∀ name ∈ files.here, IsName name) (path : RawPath) :
    files.resolveExisting path false = files.resolveExisting path true ∧
    (∀ names, files.absoluteNames path = .ok names →
      (∀ ignoreCase, files.resolveExisting path ignoreCase =
        if files.doesExist (Path.ofNames names) then
          .ok (Path.canonicalize (Path.shown (Path.ofNames names)))
        else .error (.fileNotFound (Path.ofNames names))) ∧
      (files.doesExist (Path.ofNames names) = true →
        files.matchesExactly [] names = true ∧
        ∀ above name below, names = above ++ name :: below →
          ∃ listed, files.list (Path.ofNames above) = .ok listed ∧ name ∈ listed)) ∧
    (∀ fault, files.absoluteNames path = .error fault →
      ∀ ignoreCase, files.resolveExisting path ignoreCase = .error fault.toError) ∧
    (path ≠ [] → Path.isAbsolute path = true ∨ files.entry? files.here = some .directory →
      ∃ names, files.absoluteNames path = .ok names) ∧
    (Path.isAbsolute path = true → ∀ (other : Files) (names : List RawName),
      other.absoluteNames path = .ok names ↔ Path.Settles [] (Path.components path) names) := by
  have decided : ∀ names, files.absoluteNames path = .ok names →
      ∀ ignoreCase, files.resolveExisting path ignoreCase =
        if files.doesExist (Path.ofNames names) then
          .ok (Path.canonicalize (Path.shown (Path.ofNames names)))
        else .error (.fileNotFound (Path.ofNames names)) := by
    intro names absolute ignoreCase
    rw [resolveExisting, absolute]
    dsimp only
    cases found : files.doesExist (Path.ofNames names) with
    | false => rfl
    | true =>
      simp only [matchesExactly_of_doesExist here absolute found, Bool.not_true, Bool.and_false,
        Bool.false_eq_true, if_false, if_true, spelled]
  have refused : ∀ fault, files.absoluteNames path = .error fault →
      ∀ ignoreCase, files.resolveExisting path ignoreCase = .error fault.toError := by
    intro fault absent ignoreCase
    rw [resolveExisting, absent]
  refine ⟨?_, fun names absolute => ⟨decided names absolute, fun found => ?_⟩, refused, ?_, ?_⟩
  · cases absolute : files.absoluteNames path with
    | error fault => rw [refused fault absolute, refused fault absolute]
    | ok names => rw [decided names absolute, decided names absolute]
  · have exactly := matchesExactly_of_doesExist here absolute found
    have listed := matchesExactly_iff.mp exactly
    simp only [List.nil_append] at listed
    exact ⟨exactly, listed⟩
  · intro named stands
    cases absolute : files.absoluteNames path with
    | ok names => exact ⟨names, rfl⟩
    | error fault =>
      obtain ⟨empty, -⟩ | ⟨-, relative, gone, -⟩ := absoluteNames_eq_error_iff.mp absolute
      · exact absurd empty named
      · rw [relative] at stands
        exact absurd (stands.resolve_left nofun) gone
  · intro absolute other names
    rw [Path.settles_iff, absoluteNames_of_isAbsolute absolute, Except.ok.injEq]

/-- A directory, a link to it, and a file in it. -/
def linked : Files where
  entries := [(["Fonts"], .directory), (["link"], .link "Fonts"),
    (["Fonts", "A.icc"], .file [] false)]
  here := ["Fonts"]

/-- Through the link, the name is looked for in the directory that the link leads to. -/
theorem resolveExisting_listed_linked :
    (∀ name ∈ linked.here, IsName name) ∧
      linked.resolveExisting "../link/./A.icc" false =
        linked.resolveExisting "../link/./A.icc" true ∧
      linked.resolveExisting "../link/./A.icc" true = .ok "/link/A.icc" ∧
      linked.matchesExactly [] [Path.ofText "link", Path.ofText "A.icc"] = true ∧
      linked.resolveExisting "a.icc" true = .error (.fileNotFound "/Fonts/a.icc") := by
  have here : ∀ name ∈ linked.here, IsName name := by
    intro name mem
    obtain rfl : name = Path.ofText "Fonts" := List.mem_singleton.mp mem
    exact ⟨by decide, by decide⟩
  have absolute : linked.absoluteNames "../link/./A.icc" =
      .ok [Path.ofText "link", Path.ofText "A.icc"] :=
    absoluteNames_of_isAbsolute_eq_false (by decide) (by decide) (by decide)
  have other : linked.absoluteNames "a.icc" = .ok [Path.ofText "Fonts", Path.ofText "a.icc"] :=
    absoluteNames_of_isAbsolute_eq_false (by decide) (by decide) (by decide)
  have exists_ :
      linked.doesExist (Path.ofNames [Path.ofText "link", Path.ofText "A.icc"]) = true := by
    decide +kernel
  have absent :
      linked.doesExist (Path.ofNames [Path.ofText "Fonts", Path.ofText "a.icc"]) = false := by
    decide +kernel
  obtain ⟨same, looked, -⟩ := resolveExisting_listed here "../link/./A.icc"
  obtain ⟨-, missed, -⟩ := resolveExisting_listed here "a.icc"
  refine ⟨here, same, ?_, ((looked _ absolute).2 exists_).1, ?_⟩
  · rw [(looked _ absolute).1 true, if_pos exists_]
    exact congrArg Except.ok (by decide +kernel)
  · rw [(missed _ other).1 true, if_neg (by simp [absent])]
    exact congrArg (fun path => Except.error (Error.fileNotFound path)) (by decide +kernel)

end Files

end EngineTokens
