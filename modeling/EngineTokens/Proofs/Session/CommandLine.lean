import Mathlib.Control.Monad.Basic
import EngineTokens.Proofs.Params.Rows
import EngineTokens.Proofs.Path.Raw
import EngineTokens.Session.Arguments
import EngineTokens.Session.Run

/-!
# The command line of a run and the tokens on show

A run and the display of tokens put their lists together separately, and both lists are the same as
far as they go. What makes them agree is that a run into a file has an output file in its model, and
that an output file is written once in every tier (`Model.filter_namesOutput`). So the command line
finds a token for it and adds none of its own, in every run that has been planned.
-/

set_option autoImplicit false

namespace EngineTokens

open Params (Model Base)

/-! ## The token of the output file -/

/-- The token names the output file. -/
def Engine.namesOutput (token : String) : Bool :=
  Token.startsWith Engine.outputToken token

namespace Params

/-- An output file is written. -/
theorem Base.outputFile_mem_tokensWith {p : Base} (given : p.outputFile ≠ "") (host : Display.Host)
    (sources : Sources) :
    Token.text Engine.outputToken p.outputFile ∈ p.tokensWith host sources := by
  have written : Token.text Engine.outputToken p.outputFile ∈
      Token.textUnless "" p.outputFile "-sOutputFile=" := by
    rw [Token.textUnless, if_neg given]
    exact List.mem_singleton_self _
  unfold tokensWith
  exact List.mem_append_right _ written

/-- The tokens of a model with an output file name it once, as it is. -/
theorem Model.filter_namesOutput {files : Files} {model : Model} {host : Display.Host}
    {args : List String} (written : model.toArgs files host = .ok args)
    (given : model.basis.outputFile ≠ "") :
    args.filter Engine.namesOutput = [Token.text Engine.outputToken model.basis.outputFile] := by
  have mem : Token.text Engine.outputToken model.basis.outputFile ∈ args := by
    obtain ⟨sources, upper, -, -, rfl⟩ := Model.toArgs_eq_ok_iff.mp written
    exact List.mem_append_left _ (Base.outputFile_mem_tokensWith given host sources)
  have opens : Token.assigned? Engine.outputToken = some (.name "OutputFile", "") := by decide
  exact Model.filter_startsWith written opens mem

end Params

/-! ## The two lists -/

/-- The engine is given the baseline, the tokens and the document, and no output token besides where
the tokens name the output file. -/
theorem Engine.commandLine_of_names {request : Engine.Request} {path : RawPath}
    (document : request.input ≠ []) (target : request.output = .file path)
    (names : ∃ token ∈ request.args, Engine.namesOutput token = true) :
    Engine.commandLine request =
      .ok (Token.baseline ++ request.args ++
        ["-f", Path.canonicalize (Path.shown request.input)]) := by
  have found : request.args.any (Token.startsWith Engine.outputToken) = true :=
    List.any_eq_true.mpr names
  simp only [Engine.commandLine, if_neg document, target, Engine.outputTokens, found, if_true,
    List.append_nil]

/-- A result goes into a file exactly if an output file is named. -/
theorem Engine.Output.of_eq_file_iff {device outputFile : String} {path : RawPath} :
    Engine.Output.of device outputFile = .ok (.file path) ↔
      outputFile ≠ "" ∧ path = Path.ofText outputFile := by
  unfold Engine.Output.of
  by_cases given : outputFile ≠ ""
  · simp [given, eq_comm]
  · rw [if_neg given]
    split <;> simp [given]

/-- The tokens on show, with the baseline. -/
theorem ArgsCommand.tokens_baseline {files : Files} {saved : Preferences} {options : ModelOptions}
    {model : Model} {args : List String} (built : options.build files saved = .ok model)
    (written : model.toArgs files options.host = .ok args) (json : Bool) :
    ArgsCommand.tokens files saved { options, baseline := true, json } =
      .ok (Token.baseline ++ args ++ options.extraWords saved) := by
  simp only [ArgsCommand.tokens, ModelOptions.tokens, built, written, Except.map, bind,
    Except.bind, pure, Except.pure, if_true, List.append_assoc]

namespace RunCommand

variable {files : Files} {saved : Preferences} {c : RunCommand} {plan : Plan}

/-- A run is planned exactly if its model is built with a device, has a place for the result, and is
written. -/
theorem plan_eq_ok_iff :
    c.plan files saved = .ok plan ↔
      ∃ model output args, c.options.build files saved = .ok model ∧ model.basis.device ≠ "" ∧
        Engine.Output.of model.basis.device model.basis.outputFile = .ok output ∧
        model.toArgs files c.options.host = .ok args ∧
        plan = {
          device := model.basis.device
          request := { args := args ++ c.options.extraWords saved, input := c.input, output }
          executable := c.executable.getD (Engine.locate saved.libraryDir) } := by
  constructor
  · intro planned
    unfold RunCommand.plan at planned
    cases built : c.options.build files saved with
    | error e => simp [built, bind, Except.bind] at planned
    | ok model =>
      by_cases chosen : model.basis.device = ""
      · simp [built, chosen, bind, Except.bind, throw, throwThe, MonadExceptOf.throw] at planned
      · cases target : Engine.Output.of model.basis.device model.basis.outputFile with
        | error e => simp [built, chosen, target, bind, Except.bind] at planned
        | ok output =>
          cases written : model.toArgs files c.options.host with
          | error e =>
            simp [built, chosen, target, ModelOptions.tokens, written, Except.map, bind,
              Except.bind] at planned
          | ok args =>
            simp only [built, chosen, target, ModelOptions.tokens, written, Except.map, bind,
              Except.bind, pure, Except.pure, if_false, Except.ok.injEq] at planned
            exact ⟨model, output, args, rfl, chosen, target, written, planned.symm⟩
  · rintro ⟨model, output, args, built, chosen, target, written, rfl⟩
    simp only [RunCommand.plan, built, chosen, target, ModelOptions.tokens, written, Except.map,
      bind, Except.bind, pure, Except.pure, if_false]

/-- What a planned run has been made from. -/
theorem exists_of_plan (planned : c.plan files saved = .ok plan) :
    ∃ model output args, c.options.build files saved = .ok model ∧
      Engine.Output.of model.basis.device model.basis.outputFile = .ok output ∧
      model.toArgs files c.options.host = .ok args ∧
      plan.request = { args := args ++ c.options.extraWords saved, input := c.input, output } := by
  obtain ⟨model, output, args, built, -, target, written, rfl⟩ := plan_eq_ok_iff.mp planned
  exact ⟨model, output, args, built, target, written, rfl⟩

/-- A planned run of a document into a file hands the engine exactly the tokens on show with the
baseline and then the document. Among the tokens before the extra arguments one names the output
file, namely that of the model, as it is; any other comes from the extra arguments and stands behind
it. A planned run that shows its pages is refused. -/
theorem commandLine_of_plan (planned : c.plan files saved = .ok plan) (document : c.input ≠ []) :
    (∀ path, plan.request.output = .file path →
      ∃ model args, c.options.build files saved = .ok model ∧
        model.toArgs files c.options.host = .ok args ∧
        path = Path.ofText model.basis.outputFile ∧
        (∀ json, ArgsCommand.tokens files saved { options := c.options, baseline := true, json } =
          .ok (Token.baseline ++ args ++ c.options.extraWords saved)) ∧
        Engine.commandLine plan.request =
          .ok (Token.baseline ++ args ++ c.options.extraWords saved ++
            ["-f", Path.canonicalize (Path.shown c.input)]) ∧
        (Token.baseline ++ args).filter Engine.namesOutput =
          [Token.text "-sOutputFile=" model.basis.outputFile] ∧
        (Token.baseline ++ args ++ c.options.extraWords saved).filter Engine.namesOutput =
          Token.text "-sOutputFile=" model.basis.outputFile ::
            (c.options.extraWords saved).filter Engine.namesOutput) ∧
    (plan.request.output = .display →
      ∃ detail, Engine.commandLine plan.request = .error (.unsupported .displayOutput detail)) := by
  obtain ⟨model, output, args, built, target, written, request⟩ := exists_of_plan planned
  rw [request]
  constructor
  · rintro path rfl
    obtain ⟨given, rfl⟩ := Engine.Output.of_eq_file_iff.mp target
    have once := Model.filter_namesOutput written given
    have names : ∃ token ∈ args ++ c.options.extraWords saved,
        Engine.namesOutput token = true := by
      have mem := List.mem_singleton_self (Token.text Engine.outputToken model.basis.outputFile)
      rw [← once] at mem
      obtain ⟨mem, names⟩ := List.mem_filter.mp mem
      exact ⟨_, List.mem_append_left _ mem, names⟩
    have silent : Token.baseline.filter Engine.namesOutput = [] := by decide
    have own : (Token.baseline ++ args).filter Engine.namesOutput =
        [Token.text "-sOutputFile=" model.basis.outputFile] := by
      rw [List.filter_append, silent, List.nil_append]
      exact once
    refine ⟨model, args, built, written, rfl, ArgsCommand.tokens_baseline built written, ?_, own,
      ?_⟩
    · rw [Engine.commandLine_of_names document rfl names, ← List.append_assoc]
    · rw [List.filter_append, own, List.singleton_append]
  · rintro rfl
    exact ⟨_, by rw [Engine.commandLine, if_neg document]⟩

/-- A run with a second output file among its extra arguments. -/
def shadowedRun : RunCommand where
  input := "in.ps"
  options :=
    { base := { device := some "pdfwrite", output := some "o.pdf" }
      extra := some "-sOutputFile=x" }

/-- The plan of that run. -/
def shadowedPlan : Plan where
  device := "pdfwrite"
  request :=
    { args := ["-sDEVICE=pdfwrite", "-sOutputFile=o.pdf", "-sOutputFile=x"]
      input := "in.ps"
      output := .file "o.pdf" }
  executable := "gs"

/-- The second output file stands behind that of the model, and no third one is added. -/
theorem commandLine_of_plan_shadowedRun :
    shadowedRun.plan ⟨[], []⟩ {} = .ok shadowedPlan ∧
    (∃ args, Engine.commandLine shadowedPlan.request =
        .ok (Token.baseline ++ args ++ ["-sOutputFile=x"] ++ ["-f", "in.ps"]) ∧
      (Token.baseline ++ args).filter Engine.namesOutput = ["-sOutputFile=o.pdf"]) ∧
    Engine.commandLine shadowedPlan.request =
      .ok ["-dQUIET", "-dBATCH", "-sDEVICE=pdfwrite", "-sOutputFile=o.pdf", "-sOutputFile=x",
        "-f", "in.ps"] := by
  have planned : shadowedRun.plan ⟨[], []⟩ {} = .ok shadowedPlan := by decide +kernel
  obtain ⟨model, args, -, -, path, -, line, once, -⟩ :=
    (commandLine_of_plan planned (by decide)).1 "o.pdf" rfl
  have words : shadowedRun.options.extraWords {} = ["-sOutputFile=x"] := by decide +kernel
  have name := Path.ofText_injective path
  have document : Path.canonicalize (Path.shown shadowedRun.input) = "in.ps" := by decide +kernel
  rw [words, document] at line
  rw [← name] at once
  exact ⟨planned, ⟨args, line, once⟩, by decide +kernel⟩

end RunCommand

end EngineTokens
