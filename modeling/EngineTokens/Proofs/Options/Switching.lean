import EngineTokens.Proofs.Options.Filling
import EngineTokens.Proofs.Params.Switches

/-!
# Debug switches from names to tokens

Options that are acceptable but for their debug switches give a model exactly if every name names a
switch, and the first that names none is told. Of the names only the switches that they name reach
the tokens (`ModelOptions.NamesSwitches`).
-/

set_option autoImplicit false

namespace EngineTokens

open Params (Kind Model Debug Call)

variable {files : Files} {saved : Preferences}

namespace Params.Debug

/-- Two lists of names name the same switches. -/
def NamedAlike (names others : List String) : Prop :=
  ∀ switch ∈ switches, (∃ name ∈ names, Text.sameWord switch.2 name = true) ↔
    ∃ name ∈ others, Text.sameWord switch.2 name = true

/-- The names of the switches that some names name, in the order of the table. -/
def named (names : List String) : List String :=
  (switches.filter fun switch => names.any fun name => Text.sameWord switch.2 name).map (·.2)

/-- The names listed of a word are those of the switches that it was made of. -/
theorem enabled_wordOf (names : List String) : enabled (wordOf names) = named names := by
  rw [enabled, named]
  exact congrArg _ (List.filter_congr fun switch mem => covers_wordOf mem names)

/-- Names of the same switches make the same word. -/
theorem wordOf_congr {names others : List String} (alike : NamedAlike names others) :
    wordOf names = wordOf others := by
  refine eq_of_covers (wordOf_and_defined names) (wordOf_and_defined others) ?_
  intro switch mem
  rw [covers_wordOf mem, covers_wordOf mem, Bool.eq_iff_iff, List.any_eq_true, List.any_eq_true]
  exact alike switch mem

/-- Known names that name the same switches as no names at all are none. -/
theorem eq_nil_of_namedAlike {names : List String} (alike : NamedAlike names [])
    (known : ∀ name ∈ names, Known name) : names = [] := by
  rw [List.eq_nil_iff_forall_not_mem]
  intro name mem
  obtain ⟨switch, listed, same⟩ := known name mem
  obtain ⟨other, none, -⟩ := (alike switch listed).mp ⟨name, mem, same⟩
  cases none

end Params.Debug

open Params.Debug (Known NamedAlike)

namespace ModelOptions

variable {o : ModelOptions} {kind : Kind} {plain : Model}

/-- What becomes of debug switches in options that give a model without them. -/
structure NamesSwitches (files : Files) (saved : Preferences) (o : ModelOptions) (plain : Model) :
    Prop where
  /-- There is a model exactly if every name names a switch. -/
  refused : (∃ e, o.build files saved = .error e) ↔ ∃ name ∈ o.debug, ¬ Known name
  /-- The first name that names none is told. -/
  first : ∀ before name after, o.debug = before ++ name :: after → (∀ n ∈ before, Known n) →
    ¬ Known name →
    o.build files saved =
      .error (.unsupported .debugSwitch ("unknown debug switch " ++ name))
  /-- Each switch that is named has one token, after those of the base tier. -/
  tokens : (∀ name ∈ o.debug, Known name) → o.debug ≠ [] →
    o.produce files saved =
      .ok (plain.basis.tokensWith o.host plain.basis.sources ++
        (Debug.named o.debug).map (Token.text "-d" ·) ++ o.extraWords saved)
  /-- Names that name the same switches give the same model and tokens. -/
  alike : (∀ name ∈ o.debug, Known name) → ∀ others, (∀ name ∈ others, Known name) →
    NamedAlike o.debug others →
    { o with debug := others }.build files saved = o.build files saved ∧
    { o with debug := others }.produce files saved = o.produce files saved

/-- The tier hangs on whether there are switches, not on which. -/
theorem resolveKind_congr {others : List String} (same : others.isEmpty = o.debug.isEmpty) :
    { o with debug := others }.resolveKind = o.resolveKind := by
  simp only [resolveKind, neededKind, same]

/-- Where the other options are acceptable, only the switches are left to refuse. -/
theorem build_of_plain (settled : o.resolveKind = .ok kind)
    (acceptable : { o with debug := [] }.build files saved = .ok plain) :
    o.build files saved =
      unlessRefused (o.debug.findSome? Debug.switchRefusal?) (o.filled files saved kind) := by
  obtain ⟨lower, below, -⟩ := build_eq_ok_iff.mp acceptable
  rw [build_eq_unlessRefused below, unlessRefused_eq_ok_iff] at acceptable
  have others := acceptable.1
  simp only [firstRefusal?_laterChecks, Option.or_eq_none_iff] at others
  obtain ⟨⟨device, includes⟩, -, ⟨firstPage, lastPage⟩, level, profile⟩ := others
  rw [build_eq_unlessRefused settled, firstRefusal?_laterChecks, device, includes, firstPage,
    lastPage, level, profile]
  simp only [Option.or_none, Option.none_or]

/-- With a switch named, the tier is the debug tier, and the base tier below it is that of the other
options. -/
theorem filled_of_plain (settled : o.resolveKind = .ok kind) (switched : o.debug ≠ [])
    (acceptable : { o with debug := [] }.build files saved = .ok plain) :
    o.filled files saved kind =
      .debug { base := plain.basis, flags := Debug.wordOf o.debug } := by
  have tier : kind = .debug := by
    by_contra other
    exact switched (debug_of_resolveKind settled other)
  have below := basis_of_build acceptable
  rw [BaseOptions.build_eq_unlessRefused, unlessRefused_eq_ok_iff] at below
  rw [tier, filled, ← below.2]

/-- The tokens of the switches come after those of the base tier and before the extra words. -/
theorem tokens_of_plain (settled : o.resolveKind = .ok kind)
    (acceptable : { o with debug := [] }.build files saved = .ok plain)
    (known : ∀ name ∈ o.debug, Known name) (switched : o.debug ≠ []) :
    o.produce files saved =
      .ok (plain.basis.tokensWith o.host plain.basis.sources ++
        (Debug.named o.debug).map (Token.text "-d" ·) ++ o.extraWords saved) := by
  have built := build_of_plain settled acceptable
  rw [Debug.findSome?_switchRefusal? known, filled_of_plain settled switched acceptable] at built
  rw [produce, built, ← Debug.enabled_wordOf]
  rfl

/-- Names of the same switches build the same model. -/
theorem build_congr_debug (settled : o.resolveKind = .ok kind)
    (acceptable : { o with debug := [] }.build files saved = .ok plain)
    (known : ∀ name ∈ o.debug, Known name) {others : List String}
    (knownToo : ∀ name ∈ others, Known name) (alike : NamedAlike o.debug others) :
    { o with debug := others }.build files saved = o.build files saved := by
  have empty : others.isEmpty = o.debug.isEmpty := by
    rw [Bool.eq_iff_iff, List.isEmpty_iff, List.isEmpty_iff]
    constructor
    · rintro rfl
      exact Debug.eq_nil_of_namedAlike alike known
    · intro nothing
      rw [nothing] at alike
      exact Debug.eq_nil_of_namedAlike (fun switch mem => (alike switch mem).symm) knownToo
  have settledToo : { o with debug := others }.resolveKind = .ok kind :=
    (resolveKind_congr empty).trans settled
  have word : Debug.wordOf others = Debug.wordOf o.debug := (Debug.wordOf_congr alike).symm
  rw [build_of_plain settled acceptable, build_of_plain settledToo acceptable]
  dsimp only
  rw [Debug.findSome?_switchRefusal? known, Debug.findSome?_switchRefusal? knownToo]
  cases kind <;> simp only [filled, word]

/-- All that is said about the names of switches holds of them. -/
theorem namesSwitches (settled : o.resolveKind = .ok kind)
    (acceptable : { o with debug := [] }.build files saved = .ok plain) :
    NamesSwitches files saved o plain where
  refused := by
    rw [build_of_plain settled acceptable]
    simp only [unlessRefused_eq_error_iff]
    rw [← Option.ne_none_iff_exists', ne_eq, List.findSome?_eq_none_iff]
    simp only [Debug.switchRefusal?_eq_none_iff, not_forall, exists_prop]
  first before name after split known unknown := by
    rw [build_of_plain settled acceptable, unlessRefused_eq_error_iff, split,
      List.findSome?_append, Debug.findSome?_switchRefusal? known, Option.none_or,
      List.findSome?_cons, Debug.switchRefusal?_eq_some unknown]
  tokens := tokens_of_plain settled acceptable
  alike known others knownToo alike := by
    have same := build_congr_debug settled acceptable known knownToo alike
    refine ⟨same, ?_⟩
    rw [produce, produce, same]
    rfl

/-- Whatever calls are made on a model of the debug tier, the names that are written are those of
the bits of the word, and nothing else of the word matters; and of the names given as options only
the switches that they name matter. -/
theorem debug_is_view :
    (∀ calls : List (Files × Call), ∃ p : Debug,
      (Model.blank .debug).callAll calls = .debug p ∧
      p.flags = calls.foldl (fun word (_, c) => c.word word) 0 ∧
      Debug.Views p.flags (Debug.enabled p.flags) ∧
      (∀ word files host, word &&& Debug.defined = p.flags &&& Debug.defined →
        (Model.debug { p with flags := word }).toArgs files host =
          (Model.debug p).toArgs files host) ∧
      Debug.turnOn 0 (Debug.enabled p.flags) = .ok (p.flags &&& Debug.defined)) ∧
    ∀ (o : ModelOptions) (files : Files) (saved : Preferences) (kind : Kind) (plain : Model),
      o.resolveKind = .ok kind → { o with debug := [] }.build files saved = .ok plain →
      NamesSwitches files saved o plain := by
  constructor
  · intro calls
    obtain ⟨p, after, word⟩ := Model.callAll_debug {} calls
    refine ⟨p, after, word, Debug.views_enabled p.flags, ?_, Debug.turnOn_enabled p.flags⟩
    intro word files host same
    exact Model.toArgs_congr_defined same files host
  · intro o files saved kind plain settled acceptable
    exact namesSwitches settled acceptable

/-- Two switches, one of them named twice. -/
def tracing : ModelOptions where
  debug := ["PdfDebug", "cmapdebug", "PDFDEBUG"]
  extra := some "-q"

/-- Order, repetition and case of the names leave no trace in the tokens. -/
theorem debug_is_view_tracing :
    tracing.resolveKind = .ok .debug ∧
    { tracing with debug := [] }.build ⟨[], []⟩ {} = .ok (.base {}) ∧
    { tracing with debug := ["CMAPDEBUG", "pdfdebug"] }.produce ⟨[], []⟩ {} =
      tracing.produce ⟨[], []⟩ {} ∧
    tracing.produce ⟨[], []⟩ {} = .ok ["-dCMAPDEBUG", "-dPDFDEBUG", "-q"] := by
  have settled : tracing.resolveKind = .ok .debug := by decide +kernel
  have acceptable : { tracing with debug := [] }.build ⟨[], []⟩ {} = .ok (.base {}) := by
    decide +kernel
  have spec := debug_is_view.2 tracing ⟨[], []⟩ {} .debug (.base {}) settled acceptable
  have known : ∀ name ∈ tracing.debug, Known name := by
    unfold Known
    decide +kernel
  have knownToo : ∀ name ∈ ["CMAPDEBUG", "pdfdebug"], Known name := by
    unfold Known
    decide +kernel
  have alike : NamedAlike tracing.debug ["CMAPDEBUG", "pdfdebug"] := by
    unfold NamedAlike
    decide +kernel
  refine ⟨settled, acceptable, (spec.alike known _ knownToo alike).2, ?_⟩
  rw [spec.tokens known (by decide)]
  decide +kernel

end ModelOptions

end EngineTokens
