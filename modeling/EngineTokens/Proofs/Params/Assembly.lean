import EngineTokens.Params.Model

/-!
# How a token list is put together

The token list of a model of any tier has two parts. The first is that of the base tier, and only
this part depends on the host and on the include directories. The second is that of the tiers above
it, which look at neither. `Model.write_eq` and `Model.toArgs_eq` say so for all four tiers at once,
with what is left behind where one of the two parts fails.
-/

set_option autoImplicit false

namespace EngineTokens.Params.Model

/-- The include directories that a model writes. Only the conformance tier adds to those that are
registered, and only it can fail to. -/
def effectiveSources (files : Files) : Model → Except Error Sources
  | .base p => .ok p.sources
  | .debug p => .ok p.base.sources
  | .pdf p => .ok p.base.sources
  | .conformance p => p.effectiveSources files

/-- The tokens of the tiers above the base tier. -/
def upperTokens : Model → Except Error (List String)
  | .base _ => .ok []
  | .debug p => .ok ((Debug.enabled p.flags).map fun name => Token.text "-d" name)
  | .pdf p => p.strategyTokens.map fun strategy => strategy ++ p.optionTokens
  | .conformance p =>
    p.pdf.strategyTokens.map fun strategy => strategy ++ p.pdf.optionTokens ++ p.standardTokens

/-- Writing appends the tokens of the base tier and then those of the tiers above it. Directories
that are refused leave the list as it was, and a failure above the base tier leaves the base tier
written. -/
theorem write_eq (files : Files) (model : Model) (host : Display.Host) (out : List String) :
    model.write files host out =
      match model.effectiveSources files, model.upperTokens with
      | .error e, _ => { tokens := out, failure := some e }
      | .ok sources, .error e =>
        { tokens := out ++ model.basis.tokensWith host sources, failure := some e }
      | .ok sources, .ok upper =>
        { tokens := out ++ model.basis.tokensWith host sources ++ upper } := by
  cases model with
  | base p => simp [write, effectiveSources, upperTokens, basis, Base.write]
  | debug p => simp [write, effectiveSources, upperTokens, basis, Debug.write]
  | pdf p =>
    cases strategy : p.strategyTokens <;>
      simp [write, effectiveSources, upperTokens, basis, Pdf.write, Pdf.writeWith, strategy,
        Except.map]
  | conformance p =>
    cases sources : p.effectiveSources files with
    | error e => simp [write, effectiveSources, Conformance.write, sources]
    | ok sources =>
      cases strategy : p.pdf.strategyTokens <;>
        simp [write, effectiveSources, upperTokens, basis, Conformance.write, Pdf.writeWith,
          strategy, sources, Except.map]

/-- The token list of a model is that of its base tier with the directories it writes, followed by
the tokens of the tiers above. -/
theorem toArgs_eq (files : Files) (model : Model) (host : Display.Host) :
    model.toArgs files host = do
      let sources ← model.effectiveSources files
      let upper ← model.upperTokens
      return model.basis.tokensWith host sources ++ upper := by
  rw [toArgs, write_eq]
  cases model.effectiveSources files with
  | error e => rfl
  | ok sources =>
    cases model.upperTokens with
    | error e => rfl
    | ok upper => simp [Written.result, bind, Except.bind, pure, Except.pure]

/-- A token list was written exactly if both of its parts were. -/
theorem toArgs_eq_ok_iff {files : Files} {model : Model} {host : Display.Host}
    {tokens : List String} :
    model.toArgs files host = .ok tokens ↔
      ∃ sources upper, model.effectiveSources files = .ok sources ∧
        model.upperTokens = .ok upper ∧
        tokens = model.basis.tokensWith host sources ++ upper := by
  rw [toArgs_eq]
  cases model.effectiveSources files with
  | error e => simp [bind, Except.bind]
  | ok sources =>
    cases model.upperTokens with
    | error e => simp [bind, Except.bind]
    | ok upper => simp [bind, Except.bind, pure, Except.pure, eq_comm]

/-- A token list fails with its directories or, where these are accepted, above the base tier. -/
theorem toArgs_eq_error_iff {files : Files} {model : Model} {host : Display.Host} {e : Error} :
    model.toArgs files host = .error e ↔
      model.effectiveSources files = .error e ∨
        (∃ sources, model.effectiveSources files = .ok sources) ∧ model.upperTokens = .error e := by
  rw [toArgs_eq]
  cases model.effectiveSources files with
  | error e => simp [bind, Except.bind]
  | ok sources =>
    cases model.upperTokens with
    | error e => simp [bind, Except.bind]
    | ok upper => simp [bind, Except.bind, pure, Except.pure]

end EngineTokens.Params.Model
