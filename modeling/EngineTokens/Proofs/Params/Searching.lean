import EngineTokens.Proofs.Params.Calls
import EngineTokens.Proofs.Params.Readback
import EngineTokens.Proofs.Params.Registering

/-!
# The search path of a run

The include directories of a model are those that its calls have registered since they were last
cleared (`Model.sources_callAll`), and under a standard the directory of the profile is registered
as well when the model is written. One token tells them all, with a semicolon between two of them.

The engine cuts that token at every semicolon. It gets back the pieces of each directory in turn
(`Sources.ofJoined_joined`), hence the directories themselves exactly if none of their names has a
semicolon. Nothing keeps a directory with one from being registered.
-/

set_option autoImplicit false

namespace EngineTokens.Params

/-! ## Joining and cutting -/

namespace Sources

/-- The pieces of a text between its semicolons. -/
def ofJoined (text : String) : List String :=
  (text.toList.splitOn ';').map String.ofList

/-- The first of several directories is cut by itself. -/
theorem ofJoined_cons (first : String) {others : List String} (more : others ≠ []) :
    ofJoined (separator.intercalate (first :: others)) =
      ofJoined first ++ ofJoined (separator.intercalate others) := by
  have chars : (separator.intercalate (first :: others)).toList =
      first.toList ++ ';' :: (separator.intercalate others).toList := by
    simp [separator, String.intercalate_cons_of_ne_nil more]
  rw [ofJoined, chars, List.splitOn_append_cons_self, List.map_append]
  rfl

/-- The directories are cut at their own semicolons and nowhere else. -/
theorem ofJoined_joined {sources : Sources} (filled : sources.entries ≠ []) :
    ofJoined sources.joined = sources.entries.flatMap ofJoined := by
  obtain ⟨entries⟩ := sources
  unfold joined
  dsimp only at filled ⊢
  induction entries with
  | nil => exact absurd rfl filled
  | cons first others ih =>
    by_cases last : others = []
    · simp [last]
    · rw [ofJoined_cons first last, ih last, List.flatMap_cons]

/-- A text without a semicolon is not cut. -/
theorem ofJoined_of_not_mem {text : String} (plain : ';' ∉ text.toList) :
    ofJoined text = [text] := by
  rw [ofJoined, List.splitOn_eq_singleton plain]
  simp

/-- No piece has the character at which it was cut. -/
theorem not_mem_of_mem_splitOn {c : Char} {chars piece : List Char}
    (cut : piece ∈ chars.splitOn c) : c ∉ piece := by
  induction chars generalizing piece with
  | nil => simp_all
  | cons first chars ih =>
    rw [List.splitOn_cons_eq_if_modifyHead] at cut
    split at cut
    next =>
      obtain rfl | later := List.mem_cons.mp cut
      · exact List.not_mem_nil
      · exact ih later
    next apart =>
      obtain ⟨head, tail, pieces⟩ := List.exists_cons_of_ne_nil (List.splitOn_ne_nil c chars)
      rw [pieces] at cut ih
      obtain rfl | later := List.mem_cons.mp cut
      · rw [List.mem_cons, not_or]
        exact ⟨fun same => apart (by simp [same]), ih List.mem_cons_self⟩
      · exact ih (List.mem_cons_of_mem head later)

/-- No piece between semicolons has one. -/
theorem semicolon_not_mem_ofJoined (text : String) :
    ∀ piece ∈ ofJoined text, ';' ∉ piece.toList := by
  intro piece mem
  obtain ⟨chars, cut, rfl⟩ := List.mem_map.mp mem
  rw [String.toList_ofList]
  exact not_mem_of_mem_splitOn cut

/-- The directories are got back exactly if none of them has a semicolon. -/
theorem ofJoined_joined_eq_iff {sources : Sources} (filled : sources.entries ≠ []) :
    ofJoined sources.joined = sources.entries ↔ ∀ entry ∈ sources.entries, ';' ∉ entry.toList := by
  constructor
  · intro same entry mem
    rw [← same] at mem
    exact semicolon_not_mem_ofJoined _ entry mem
  · intro plain
    have whole : ∀ entry ∈ sources.entries, ofJoined entry = [entry] :=
      fun entry mem => ofJoined_of_not_mem (plain entry mem)
    rw [ofJoined_joined filled, List.flatMap_congr whole]
    simp

end Sources

/-! ## The directories that calls register -/

/-- The tier that a call is about. -/
def Call.tier : Call → Kind
  | .base _ => .base
  | .debug _ => .debug
  | .pdf _ => .pdf
  | .conformance _ => .conformance
  | .clear tier => tier

/-- The include directory that a change of the base tier registers. -/
def Base.Edit.directory? : Base.Edit → Option String
  | .addSource path => some path
  | _ => none

/-- The include directory that a call registers. -/
def Call.directory? : Call → Option String
  | .base edit | .debug (.base edit) | .pdf (.base edit) | .conformance (.pdf (.base edit)) =>
    edit.directory?
  | _ => none

/-- The call clears a tier. -/
def Call.clears : Call → Bool
  | .clear _ => true
  | _ => false

/-- The registration that a call makes, if any, with the files as they are then. -/
def Call.registration (files : Files) (c : Call) : List (Files × String) :=
  (c.directory?.map fun path => (files, path)).toList

/-- The registrations that count after one more call on a model of a tier. Clearing ends those
before it, and a call that the tier does not offer changes nothing. -/
def Kind.registered (kind : Kind) (before : List (Files × String)) (files : Files) (c : Call) :
    List (Files × String) :=
  if kind.covers c.tier then if c.clears then [] else before ++ c.registration files else before

/-- The registrations that count after some calls on a new model of a tier. -/
def Kind.registrations (kind : Kind) (calls : List (Files × Call)) : List (Files × String) :=
  calls.foldl (fun before (files, c) => kind.registered before files c) []

/-- The include directories after a change of the base tier that is not refused. -/
theorem Base.Edit.on_sources {files : Files} {p : Base} {edit : Base.Edit}
    {before : Params.Field → Option Content} (accepted : edit.refusal? files = none)
    (shown : before (.base .sources) = some (.directories p.sources.entries)) :
    (edit.effect p).on before (.base .sources) =
      some (.directories (p.sources.registerAll (Call.registration files (.base edit))).entries) := by
  cases edit with
  | addSource path =>
    have taken : Sources.accepted? files path = some (Path.canonicalize path) := by
      simp only [refusal?] at accepted
      split at accepted
      next => cases accepted
      next good => exact if_neg good
    have entries := Sources.entries_register files p.sources path
    simp only [taken, ← Sources.contains_eq_true_iff] at entries
    exact congrArg (fun entries => some (Content.directories entries)) entries.symm
  | _ => exact shown

/-- The include directories after a call that neither is refused nor clears a tier. -/
theorem Call.fields_sources {files : Files} {model : Model} {c : Call}
    (accepted : c.refusal? files = none) (keeps : c.clears = false) :
    c.fields files model (.base .sources) =
      some (.directories (model.basis.sources.registerAll (c.registration files)).entries) := by
  have shown : model.field? (.base .sources) = some (.directories model.basis.sources.entries) := rfl
  cases c with
  | base edit => exact Base.Edit.on_sources accepted shown
  | debug edit =>
    cases edit with
    | base edit => exact Base.Edit.on_sources accepted shown
    | _ => exact shown
  | pdf edit =>
    cases edit with
    | base edit => exact Base.Edit.on_sources accepted shown
    | pdfA on | pdfX on => cases on <;> exact shown
    | _ => exact shown
  | conformance edit =>
    cases edit with
    | pdf edit =>
      cases edit with
      | base edit => exact Base.Edit.on_sources accepted shown
      | pdfA on | pdfX on => cases on <;> exact shown
      | _ => exact shown
    | _ => exact shown
  | clear tier => cases keeps

/-- A change of the base tier that is refused registers nothing. -/
theorem Base.Edit.registerAll_of_refusal? {files : Files} {edit : Base.Edit} {e : Error}
    (refused : edit.refusal? files = some e) (sources : Sources) :
    sources.registerAll (Call.registration files (.base edit)) = sources := by
  cases edit with
  | addSource path =>
    simp only [refusal?] at refused
    split at refused
    next bad => exact Sources.register_of_accepted?_eq_none (Sources.accepted?_eq_none_iff.mpr bad)
    next => cases refused
  | _ => rfl

/-- A call that is refused registers nothing. -/
theorem Call.registerAll_of_refusal? {files : Files} {c : Call} {e : Error}
    (refused : c.refusal? files = some e) (sources : Sources) :
    sources.registerAll (c.registration files) = sources := by
  cases c with
  | base edit => exact Base.Edit.registerAll_of_refusal? refused sources
  | debug edit =>
    cases edit with
    | base edit => exact Base.Edit.registerAll_of_refusal? refused sources
    | _ => rfl
  | pdf edit =>
    cases edit with
    | base edit => exact Base.Edit.registerAll_of_refusal? refused sources
    | _ => rfl
  | conformance edit =>
    cases edit with
    | pdf edit =>
      cases edit with
      | base edit => exact Base.Edit.registerAll_of_refusal? refused sources
      | _ => rfl
    | _ => rfl
  | clear tier => rfl

namespace Model

/-- A model offers the calls on its tier and on those below it. -/
theorem isSome_answer? (files : Files) (model : Model) (c : Call) :
    (model.answer? files c).isSome = model.kind.covers c.tier := by
  cases model <;> rcases c with edit | edit | edit | edit | tier <;> try rfl
  all_goals cases tier <;> rfl

/-- The include directories are told by their field. -/
theorem sources_of_field? {model : Model} {sources : Sources}
    (shown : model.field? (.base .sources) = some (.directories sources.entries)) :
    model.basis.sources = sources :=
  congrArg Sources.mk (Content.directories.inj (Option.some.inj shown))

/-- A call that is answered clears the include directories or registers its own. -/
theorem sources_call {files : Files} {model : Model} {c : Call}
    (offered : model.kind.covers c.tier = true) :
    (model.call files c).basis.sources =
      if c.clears then {} else model.basis.sources.registerAll (c.registration files) := by
  rw [← isSome_answer? files] at offered
  obtain ⟨answer, answered⟩ := Option.isSome_iff_exists.mp offered
  have obeys := obeys answered
  rw [call, answered]
  cases refusal : c.refusal? files with
  | some e =>
    rw [refusal] at obeys
    obtain rfl : answer = (.error e, model) := obeys
    have keeps : c.clears = false := by
      cases c with
      | clear tier => cases refusal
      | _ => rfl
    rw [keeps, Call.registerAll_of_refusal? refusal]
    rfl
  | none =>
    rw [refusal] at obeys
    obtain ⟨after, told, rfl, -, fields⟩ := obeys
    refine sources_of_field? ?_
    rw [fields]
    cases clears : c.clears with
    | false => exact Call.fields_sources refusal clears
    | true =>
      cases c with
      | clear tier => cases tier <;> cases model <;> rfl
      | _ => cases clears

/-- The include directories of a model are those that the calls so far have registered. -/
theorem sources_callAll (kind : Kind) (calls : List (Files × Call)) :
    ((blank kind).callAll calls).basis.sources = .registerAll {} (kind.registrations calls) := by
  induction calls using List.reverseRecOn with
  | nil => cases kind <;> rfl
  | append_singleton calls last ih =>
    obtain ⟨files, c⟩ := last
    obtain ⟨tier, -⟩ := sound_callAll (sound_blank kind) calls
    have tier : ((blank kind).callAll calls).kind = kind := tier.trans (by cases kind <;> rfl)
    have step : (blank kind).callAll (calls ++ [(files, c)]) =
        ((blank kind).callAll calls).call files c := by simp [callAll]
    have counted : kind.registrations (calls ++ [(files, c)]) =
        kind.registered (kind.registrations calls) files c := by simp [Kind.registrations]
    rw [step, counted, Kind.registered]
    cases offered : kind.covers c.tier with
    | false =>
      rw [← tier, ← isSome_answer? files, Option.isSome_eq_false_iff,
        Option.isNone_iff_eq_none] at offered
      rw [call, offered]
      exact ih
    | true =>
      rw [sources_call (by rw [tier, offered]), ih]
      cases c.clears with
      | true => rfl
      | false => simp [Sources.registerAll]

/-! ## The token -/

/-- The include directory that a model adds when it is written: under a standard, that of the
profile. -/
def ownDirectory? : Model → Option String
  | .conformance p => if p.isActive then Path.directoryOf? p.iccProfile else none
  | .base _ | .debug _ | .pdf _ => none

/-- The registration that writing a model makes, if any. -/
def ownRegistration (files : Files) (model : Model) : List (Files × String) :=
  (model.ownDirectory?.map fun directory => (files, directory)).toList

/-- The directories in effect are the model's own, after the one that it adds is registered. -/
theorem effectiveSources_eq (files : Files) (model : Model) :
    model.effectiveSources files =
      match model.ownDirectory? with
      | some directory =>
        (model.basis.sources.add files directory).1.map fun _ =>
          (model.basis.sources.add files directory).2
      | none => .ok model.basis.sources := by
  cases model with
  | base p | debug p | pdf p => rfl
  | conformance p =>
    simp only [effectiveSources, Conformance.effectiveSources, ownDirectory?]
    cases p.isActive with
    | false => rfl
    | true => cases Path.directoryOf? p.iccProfile <;> rfl

/-- Where there are directories in effect, the one that the model adds was accepted. -/
theorem exists_add_of_effectiveSources {files : Files} {model : Model} {directory : String}
    {sources : Sources} (own : model.ownDirectory? = some directory)
    (effective : model.effectiveSources files = .ok sources) :
    ∃ new, model.basis.sources.add files directory = (.ok new, sources) := by
  simp only [effectiveSources_eq, own] at effective
  cases added : model.basis.sources.add files directory with
  | mk answer after =>
    rw [added] at effective
    cases answer with
    | error e => cases effective
    | ok new =>
      cases effective
      exact ⟨new, rfl⟩

/-- Where there are none, it was refused, for the same reason. -/
theorem add_of_effectiveSources_eq_error {files : Files} {model : Model} {directory : String}
    {e : Error} (own : model.ownDirectory? = some directory)
    (refused : model.effectiveSources files = .error e) :
    (model.basis.sources.add files directory).1 = .error e := by
  simp only [effectiveSources_eq, own] at refused
  cases answer : (model.basis.sources.add files directory).1 with
  | error reason =>
    rw [answer] at refused
    cases refused
    rfl
  | ok new =>
    rw [answer] at refused
    cases refused

/-- The directories that are written are the model's own, with the one that it adds. -/
theorem eq_registerAll_of_effectiveSources {files : Files} {model : Model} {sources : Sources}
    (effective : model.effectiveSources files = .ok sources) :
    sources = model.basis.sources.registerAll (model.ownRegistration files) := by
  unfold ownRegistration
  cases own : model.ownDirectory? with
  | none =>
    rw [effectiveSources_eq, own] at effective
    exact (Except.ok.inj effective).symm
  | some directory =>
    obtain ⟨new, added⟩ := exists_add_of_effectiveSources own effective
    simp [Sources.registerAll, Sources.register, added]

/-- If there are include directories, one token tells them, and no other token looks like it. -/
theorem filter_search {files : Files} {model : Model} {host : Display.Host} {tokens : List String}
    {sources : Sources} (written : model.toArgs files host = .ok tokens)
    (effective : model.effectiveSources files = .ok sources) (filled : sources.isEmpty = false) :
    tokens.filter (Token.startsWith "-I") = ["-I" ++ sources.joined] := by
  obtain ⟨own, upper, accepted, -, whole⟩ := toArgs_eq_ok_iff.mp written
  obtain rfl : sources = own := Except.ok.inj (effective.symm.trans accepted)
  have token : "-I" ++ sources.joined ∈ sources.tokens := by
    simp [Sources.tokens, filled, Token.text]
  have mem : "-I" ++ sources.joined ∈ tokens := by
    rw [whole]
    unfold Base.tokensWith
    simp only [List.mem_append, token, or_true, true_or]
  have opens : Token.assigned? "-I" = some (.search, "") := by decide
  exact filter_startsWith written opens mem

/-- The search path of a model that calls have made is told by one token. The directories that it
tells are those registered by the calls that count, and by the writing itself under a standard, in
the order of first acceptance and none of them twice. The engine, which cuts the token at every
semicolon, gets each of them in its pieces, and so gets back these directories exactly if none of
them has a semicolon. -/
theorem searchToken_of_callAll (kind : Kind) (calls : List (Files × Call)) {files : Files}
    {host : Display.Host} {tokens : List String} {sources : Sources}
    (written : ((blank kind).callAll calls).toArgs files host = .ok tokens)
    (effective : ((blank kind).callAll calls).effectiveSources files = .ok sources)
    (filled : sources.isEmpty = false) :
    let registrations := kind.registrations calls ++
      ((blank kind).callAll calls).ownRegistration files
    ∃ value, tokens.filter (Token.startsWith "-I") = ["-I" ++ value] ∧
      Sources.ofJoined value = sources.entries.flatMap Sources.ofJoined ∧
      (Sources.ofJoined value = sources.entries ↔
        ∀ entry ∈ sources.entries, ';' ∉ entry.toList) ∧
      sources.entries = (acceptedForms registrations).eraseDups ∧ sources.entries.Nodup ∧
      ∀ entry ∈ sources.entries, ∃ before path, (before, path) ∈ registrations ∧
        Path.canonicalize path = entry ∧ before.isDirectory entry = true := by
  intro registrations
  have some : sources.entries ≠ [] := by simpa [Sources.isEmpty] using filled
  have all : sources = .registerAll {} registrations := by
    rw [eq_registerAll_of_effectiveSources effective, sources_callAll]
    simp [registrations, Sources.registerAll]
  refine ⟨sources.joined, filter_search written effective filled, Sources.ofJoined_joined some,
    Sources.ofJoined_joined_eq_iff some, ?_, ?_, ?_⟩
  · rw [all]
    exact Sources.entries_registerAll registrations
  · rw [all, Sources.entries_registerAll]
    exact nodup_eraseDups _
  · intro entry mem
    rw [all] at mem
    obtain ⟨before, path, registered, accepted⟩ := Sources.mem_entries_registerAll.mp mem
    obtain ⟨same, -, directory⟩ := Sources.accepted?_eq_some_iff.mp accepted
    exact ⟨before, path, registered, same.symm, directory⟩

/-- Calls that register a directory, clear it away and register it again after another one, and that
ask for PDF/A with a profile. A file is refused. -/
def searchCalls : List (Files × Call) :=
  [.base (.addSource "/old"), .clear .base, .base (.addSource "/icc/p.icc"),
    .base (.addSource "\\inc\\"), .base (.addSource "/old"), .base (.addSource "/inc"),
    .conformance (.iccProfile "/icc/p.icc"), .pdf (.pdfA true)].map fun c =>
    (⟨(["old"], .directory) :: profileFiles.entries, []⟩, c)

/-- The tokens after these calls. -/
def searchTokens : List String :=
  ["-I/inc;/old;/icc", "-dPDFA=3", "-dPDFACompatibilityPolicy=2", "-sICCProfile=/icc/p.icc"]

/-- The directory of the profile comes last, and the one that was spelled in two ways comes once. -/
theorem searchToken_of_callAll_profile :
    ((blank .conformance).callAll searchCalls).toArgs profileFiles {} = .ok searchTokens ∧
      ∃ value, searchTokens.filter (Token.startsWith "-I") = ["-I" ++ value] ∧
        Sources.ofJoined value = ["/inc", "/old", "/icc"] ∧
        (acceptedForms (Kind.registrations .conformance searchCalls ++
          ((blank .conformance).callAll searchCalls).ownRegistration profileFiles)).eraseDups =
            ["/inc", "/old", "/icc"] := by
  have written : ((blank .conformance).callAll searchCalls).toArgs profileFiles {} =
      .ok searchTokens := by decide +kernel
  have effective : ((blank .conformance).callAll searchCalls).effectiveSources profileFiles =
      .ok ⟨["/inc", "/old", "/icc"]⟩ := by decide +kernel
  obtain ⟨value, token, -, pieces, order, -⟩ :=
    searchToken_of_callAll .conformance searchCalls written effective rfl
  exact ⟨written, value, token, pieces.mpr (by decide), order.symm⟩

/-- A directory with a semicolon in its name, which is accepted. -/
def semicolonFiles : Files := ⟨[(["a;b"], .directory)], []⟩

/-- The engine takes it for two directories, of which neither was registered. -/
theorem exists_ofJoined_ne :
    ∃ model sources value,
      (blank .base).callAll [(semicolonFiles, .base (.addSource "/a;b"))] = model ∧
      model.effectiveSources semicolonFiles = .ok sources ∧ sources.entries = ["/a;b"] ∧
      model.toArgs semicolonFiles {} = .ok ["-I" ++ value] ∧
      Sources.ofJoined value = ["/a", "b"] ∧ Sources.ofJoined value ≠ sources.entries := by
  refine ⟨.base { sources := ⟨["/a;b"]⟩ }, ⟨["/a;b"]⟩, "/a;b", ?_, rfl, rfl, ?_, ?_, ?_⟩
  all_goals decide +kernel

end Model

end EngineTokens.Params
