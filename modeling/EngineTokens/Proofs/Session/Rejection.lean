import EngineTokens.Proofs.Invocation.Required
import EngineTokens.Proofs.Session.CommandLine
import EngineTokens.Proofs.Session.Saving

/-!
# What a rejected command leaves behind

A command that only looks at something saves nothing, and one that is refused is refused before
anything is saved, but for one refusal. That the pages of a run cannot be shown is found when its
engine is about to be started, and by then the choices of the run have been saved.
`files_of_runProgram` says that this is the only exception, and that it is one every time.
-/

set_option autoImplicit false

namespace EngineTokens

/-! ## Commands that only look, and refusals -/

/-- The command changes nothing by its nature. -/
def Command.looksOnly : Command → Bool
  | .args _ | .settings .print | .settings .location => true
  | .run c => c.dryRun
  | .settings (.change _ _) => false

/-- The failures that are found without starting an engine and not by a file operation. -/
def Error.isRejection : Error → Bool
  | .unsupported _ _ | .conformance _ | .outOfRange _ _ | .fileNotFound _ | .directoryNotFound _
  | .settings _ => true
  | .engine _ | .io _ | .serialization _ => false

variable {spawn : Engine.Spawn} {files after : Files} {env : Environment} {store : Store}
  {p : Preferences} {e : Error}

/-- A command that only looks has nothing to save. -/
theorem Command.saved?_of_looksOnly {command : Command} (looks : command.looksOnly = true) :
    command.saved? files store = none := by
  cases command with
  | args c => rfl
  | run c =>
    rw [Command.looksOnly] at looks
    rw [Command.saved?, RunCommand.saved?, looks]
    split <;> rfl
  | settings c =>
    cases c with
    | print | location => rfl
    | change key value => cases looks

/-- A saving fails for the sake of the files only. -/
theorem Store.isRejection_of_save (refused : store.save files = (after, .error e)) :
    e.isRejection = false := by
  unfold save at refused
  split at refused
  next made refusal _ =>
    cases refusal with
    | some fault =>
      obtain rfl : fault.toError = e := Except.error.inj (Prod.mk.inj refused).2
      rfl
    | none =>
      dsimp only at refused
      split at refused
      next => cases (Prod.mk.inj refused).2
      next fault _ =>
        obtain rfl : fault.toError = e := Except.error.inj (Prod.mk.inj refused).2
        rfl

/-! ## The start of an engine -/

namespace Plan

variable {plan : Plan}

/-- An engine that is not started leaves the files alone. -/
theorem files_of_execute (failed : (plan.execute spawn files env).result = .error e) :
    (plan.execute spawn files env).files = files := by
  unfold execute at failed ⊢
  split at failed
  next => rfl
  next => cases failed

/-- With a document, only a run that shows its pages is refused when its engine is to be started. -/
theorem of_execute_refused (document : plan.request.input ≠ [])
    (failed : (plan.execute spawn files env).result = .error e) (refusal : e.isRejection = true) :
    plan.request.output = .display ∧ ∃ detail, e = .unsupported .displayOutput detail := by
  unfold execute Engine.runProcess Engine.commandLine at failed
  rw [if_neg document] at failed
  cases target : plan.request.output with
  | display =>
    simp only [target, bind, Except.bind, Report.failed, Except.error.injEq] at failed
    exact ⟨rfl, _, failed.symm⟩
  | file path =>
    simp only [target, bind, Except.bind] at failed
    split at failed
    next notStarted =>
      split at notStarted
      next =>
        cases notStarted
        cases failed
        cases refusal
      next => cases notStarted
    next => cases failed

/-- An engine is never started to show pages. -/
theorem execute_display (document : plan.request.input ≠ [])
    (display : plan.request.output = .display) :
    ∃ detail,
      plan.execute spawn files env = .failed files (.unsupported .displayOutput detail) := by
  unfold execute Engine.runProcess Engine.commandLine
  rw [if_neg document, display]
  exact ⟨_, rfl⟩

end Plan

/-! ## Commands -/

/-- The command is a run that is to be carried out and whose pages are to be shown. -/
structure Command.ShowsPages (files : Files) (store : Store) (command : Command) (c : RunCommand)
    (plan : Plan) : Prop where
  run : command = .run c
  runs : c.dryRun = false
  planned : c.plan files store.preferences = .ok plan
  display : plan.request.output = .display

/-- The settings file of a run with its choices saved. -/
def RunCommand.remembered (store : Store) (c : RunCommand) (plan : Plan) : Store :=
  store.record (c.remember plan.device store.preferences)

/-- The document of a run is handed to the engine as it was given. -/
theorem RunCommand.input_of_plan {saved : Preferences} {c : RunCommand} {plan : Plan}
    (planned : c.plan files saved = .ok plan) : plan.request.input = c.input := by
  obtain ⟨model, output, args, -, -, -, -, rfl⟩ := plan_eq_ok_iff.mp planned
  rfl

namespace Command

variable {command : Command}

/-- A refused command changes nothing, or it is a run that shows its pages. -/
theorem files_of_refusal (document : ∀ c, command = .run c → c.input ≠ [])
    (failed : (command.perform spawn files env store).result = .error e)
    (refusal : e.isRejection = true) :
    (command.perform spawn files env store).files = files ∨
      ∃ c plan, command.ShowsPages files store c plan ∧
        (∃ detail, e = .unsupported .displayOutput detail) ∧
        (command.perform spawn files env store).files =
          ((c.remembered store plan).save files).1 := by
  cases saves : command.saved? files store with
  | none => exact .inl (files_of_saved?_eq_none saves)
  | some p =>
    cases saved : (store.record p).save files with
    | mk after outcome =>
      cases outcome with
      | error reason =>
        rw [perform_of_refused saves saved] at failed
        obtain rfl : reason = e := Except.error.inj failed
        rw [Store.isRejection_of_save saved] at refusal
        cases refusal
      | ok _ =>
        cases command with
        | args c => cases saves
        | settings c =>
          rw [perform, SettingsCommand.perform_of_accepted saves saved] at failed
          simp only [Report.said, reduceCtorEq] at failed
        | run c =>
          obtain ⟨plan, planned, runs, rfl⟩ := RunCommand.exists_of_saved? saves
          have performs :
              (Command.run c).perform spawn files env store = plan.execute spawn after env := by
            rw [perform, RunCommand.perform_of_accepted planned runs saved]
          have named : plan.request.input ≠ [] := by
            rw [RunCommand.input_of_plan planned]
            exact document c rfl
          rw [performs] at failed ⊢
          obtain ⟨display, detail⟩ := Plan.of_execute_refused named failed refusal
          refine .inr ⟨c, plan, ⟨rfl, runs, planned, display⟩, detail, ?_⟩
          rw [Plan.files_of_execute failed, RunCommand.remembered, saved]

/-- A run that shows its pages is saved and then refused. -/
theorem perform_of_showsPages {c : RunCommand} {plan : Plan} (named : c.input ≠ [])
    (shows : command.ShowsPages files store c plan)
    (saved : (c.remembered store plan).save files = (after, .ok ())) :
    ∃ detail, command.perform spawn files env store =
      .failed after (.unsupported .displayOutput detail) := by
  obtain ⟨rfl, runs, planned, display⟩ := shows
  rw [perform, RunCommand.perform_of_accepted planned runs saved]
  apply Plan.execute_display _ display
  rw [RunCommand.input_of_plan planned]
  exact named

end Command

/-! ## Whole runs of the program -/

/-- What is printed about a report changes no file. -/
theorem files_ending (report : Report) : report.ending.files = report.files := rfl

/-- Words that are no command line change no file, and neither does a command that only looks. A
command that is refused changes none either, except for a run that is planned to show its pages:
this one leaves its choices saved, and if they can be saved, it is always refused. -/
theorem files_of_runProgram (spawn : Engine.Spawn) (files : Files) (env : Environment)
    (words : List String) :
    match Invocation.read words with
    | .error _ => (runProgram spawn files env words).files = files
    | .ok invocation =>
      (invocation.command.looksOnly = true → (runProgram spawn files env words).files = files) ∧
      (∀ e, (invocation.perform spawn files env).result = .error e → e.isRejection = true →
        (runProgram spawn files env words).files = files ∨
        ∃ store c plan, Store.openAt files (invocation.settingsPath env) = .ok store ∧
          invocation.command.ShowsPages files store c plan ∧
          (∃ detail, e = .unsupported .displayOutput detail) ∧
          (runProgram spawn files env words).files = ((c.remembered store plan).save files).1) ∧
      ∀ store c plan after, Store.openAt files (invocation.settingsPath env) = .ok store →
        invocation.command.ShowsPages files store c plan →
        (c.remembered store plan).save files = (after, .ok ()) →
        (runProgram spawn files env words).files = after ∧
        ∃ detail, (invocation.perform spawn files env).result =
          .error (.unsupported .displayOutput detail) := by
  cases accepted : Invocation.read words with
  | error mistake =>
    simp only [runProgram, accepted]
    split <;> rfl
  | ok invocation =>
    have document : ∀ c, invocation.command = .run c → c.input ≠ [] :=
      fun c => Invocation.document_of_read accepted
    have ends :
        (runProgram spawn files env words).files = (invocation.perform spawn files env).files := by
      simp only [runProgram, accepted, files_ending]
    simp only [ends]
    unfold Invocation.perform
    cases opened : Store.openAt files (invocation.settingsPath env) with
    | error reason =>
      refine ⟨fun _ => rfl, fun _ _ _ => .inl rfl, ?_⟩
      intro store c plan after opens
      cases opens
    | ok store =>
      refine ⟨?_, ?_, ?_⟩
      · intro looks
        exact Command.files_of_saved?_eq_none (Command.saved?_of_looksOnly looks)
      · intro e failed refusal
        rcases Command.files_of_refusal document failed refusal with
          unchanged | ⟨c, plan, shows, detail, saved⟩
        · exact .inl unchanged
        · exact .inr ⟨store, c, plan, rfl, shows, detail, saved⟩
      · rintro _ c plan after ⟨⟩ shows saved
        obtain ⟨detail, performs⟩ :=
          Command.perform_of_showsPages (document c shows.run) shows saved
        dsimp only
        rw [performs]
        exact ⟨rfl, detail, rfl⟩

/-- A command line for a run on a device without an output file. -/
def running (device : String) (rest : List String) : List String :=
  ["--settings", "s.json", "run", "in.ps", "-d", device] ++ rest

/-- The run of that command line. -/
def runOn (device : String) (dryRun : Bool) : RunCommand where
  input := "in.ps"
  options := { base := { device := some device } }
  dryRun

/-- The plan of such a run, where its pages are to be shown. -/
def shownPlan : Plan where
  device := "display"
  request :=
    { args := ["-sDEVICE=display", "-dDisplayFormat=67588", "-dDisplayResolution=96"]
      input := "in.ps"
      output := .display }
  executable := "gs"

/-- Shown only, the run changes nothing, and neither does it on a device that needs an output file.
On the display, what it has saved is there when it has been refused. -/
theorem files_of_runProgram_running :
    (runProgram Engine.spawnNothing ⟨[], []⟩ {} (running "display" ["--dry-run"])).files =
      ⟨[], []⟩ ∧
    (runProgram Engine.spawnNothing ⟨[], []⟩ {} (running "pdfwrite" [])).files = ⟨[], []⟩ ∧
    ∃ after, ((runOn "display" false).remembered ⟨"s.json", []⟩ shownPlan).save ⟨[], []⟩ =
        (after, .ok ()) ∧
      (runProgram Engine.spawnNothing ⟨[], []⟩ {} (running "display" [])).files = after := by
  have reads :
      Invocation.read (running "display" ["--dry-run"]) =
        .ok { settings := some (Path.ofText "s.json"), command := .run (runOn "display" true) } ∧
      Invocation.read (running "pdfwrite" []) =
        .ok { settings := some (Path.ofText "s.json"), command := .run (runOn "pdfwrite" false) } ∧
      Invocation.read (running "display" []) =
        .ok { settings := some (Path.ofText "s.json"), command := .run (runOn "display" false) } := by
    decide +kernel
  have looks :=
    files_of_runProgram Engine.spawnNothing ⟨[], []⟩ {} (running "display" ["--dry-run"])
  have refused := files_of_runProgram Engine.spawnNothing ⟨[], []⟩ {} (running "pdfwrite" [])
  have shows := files_of_runProgram Engine.spawnNothing ⟨[], []⟩ {} (running "display" [])
  simp only [reads] at looks refused shows
  have fresh : Store.openAt ⟨[], []⟩ "s.json" = .ok ⟨"s.json", []⟩ := by
    have absent : Files.doesExist ⟨[], []⟩ "s.json" = false := by decide +kernel
    simp [Store.openAt, absent]
  refine ⟨looks.1 rfl, ?_, ?_⟩
  · have failed : (Invocation.perform Engine.spawnNothing ⟨[], []⟩ {}
        { settings := some (Path.ofText "s.json"), command := .run (runOn "pdfwrite" false) }).result =
          .error (.unsupported .outputFile
            "the pdfwrite device needs an output file; pass --output") := by decide +kernel
    rcases refused.2.1 _ failed rfl with unchanged | ⟨_, _, _, _, _, ⟨_, other⟩, _⟩
    · exact unchanged
    · cases other
  · have planned : (runOn "display" false).plan ⟨[], []⟩ (Store.preferences ⟨"s.json", []⟩) =
        .ok shownPlan := by decide +kernel
    have writes : (((runOn "display" false).remembered ⟨"s.json", []⟩ shownPlan).save
        ⟨[], []⟩).2.isOk = true := by decide +kernel
    cases saved : ((runOn "display" false).remembered ⟨"s.json", []⟩ shownPlan).save ⟨[], []⟩ with
    | mk after outcome =>
      rw [saved] at writes
      cases outcome with
      | error e => cases writes
      | ok _ => exact ⟨after, rfl, (shows.2.2 _ _ _ after fresh ⟨rfl, rfl, planned, rfl⟩ saved).1⟩

/-- A run that is refused because its pages cannot be shown leaves a settings file behind where
there was none. -/
theorem exists_doesExist_runProgram :
    ∃ invocation detail, Invocation.read (running "display" []) = .ok invocation ∧
      (invocation.perform Engine.spawnNothing ⟨[], []⟩ {}).result =
        .error (.unsupported .displayOutput detail) ∧
      invocation.settingsPath {} = "s.json" ∧
      Files.doesExist ⟨[], []⟩ "s.json" = false ∧
      (runProgram Engine.spawnNothing ⟨[], []⟩ {} (running "display" [])).files.doesExist "s.json" =
        true :=
  ⟨{ settings := some (Path.ofText "s.json"), command := .run (runOn "display" false) },
    "display output needs an in-process engine", by decide +kernel, by decide +kernel, rfl,
    by decide +kernel, by decide +kernel⟩

end EngineTokens
