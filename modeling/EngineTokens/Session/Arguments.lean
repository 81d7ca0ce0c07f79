import EngineTokens.Invocation.Command
import EngineTokens.Json.Printer
import EngineTokens.Options.Build
import EngineTokens.Session.Report

/-!
# Showing the tokens of a model

The tokens go one to a line, or all together as a JSON array, after the baseline if it is wanted.
-/

set_option autoImplicit false

namespace EngineTokens.ArgsCommand

/-- The tokens to show. -/
def tokens (files : Files) (saved : Preferences) (c : ArgsCommand) :
    Except Error (List String) := do
  let model ← c.options.build files saved
  let args ← c.options.tokens files saved model
  return (if c.baseline then Token.baseline else []) ++ args

/-- The lines that show some tokens. -/
def lines (c : ArgsCommand) (args : List String) : List String :=
  if c.json then [(Json.Value.array (args.map .string)).render] else args

/-- Shows the tokens. -/
def perform (files : Files) (saved : Preferences) (c : ArgsCommand) : Report :=
  match c.tokens files saved with
  | .ok args => .said files (c.lines args)
  | .error e => .failed files e

end EngineTokens.ArgsCommand
