import EngineTokens.Invocation.Command
import EngineTokens.Invocation.Mistake

/-!
# The arguments of each command

Each level of the command line has named arguments and arguments that are known by their position.
An argument says what its value has to look like and what it changes in the choices gathered so far.
-/

set_option autoImplicit false

namespace EngineTokens.Invocation

/-- What has been chosen so far. -/
structure Choices where
  settings : Option RawPath := none
  options : ModelOptions := {}
  baseline : Bool := false
  json : Bool := false
  input : RawPath := []
  executable : Option RawPath := none
  dryRun : Bool := false
  key : Preferences.Key := .lastFilePath
  value : String := ""
  deriving Repr, Inhabited

/-- What giving an argument does. -/
inductive Effect
  /-- It takes no value. -/
  | turn (set : Choices → Choices)
  /-- It takes one value. -/
  | take (read : String → Except Flaw (Choices → Choices))
  /-- It asks for an explanation. -/
  | help
  /-- It asks for the version. -/
  | version

/-- An argument. -/
structure Argument where
  /-- Its name; for one known by its position, the word that stands for it in explanations. -/
  name : String
  /-- The letter that may stand for the name. -/
  letter : Option Char := none
  /-- The word that stands for its value in explanations. -/
  placeholder : String := ""
  effect : Effect
  /-- It may be given more than once. -/
  repeats : Bool := false
  /-- Its value may start with a hyphen. -/
  hyphens : Bool := false

namespace Argument

/-- The argument takes a value. -/
def takesValue (argument : Argument) : Bool :=
  match argument.effect with
  | .take _ => true
  | _ => false

/-- An argument without a value. -/
def switch (name : String) (set : Choices → Choices) : Argument :=
  { name, effect := .turn set }

/-- An argument with any text as its value. -/
def text (name placeholder : String) (set : String → Choices → Choices) : Argument :=
  { name, placeholder, effect := .take fun value => .ok (set value) }

/-- Accepts a path, which is not empty. -/
def readPath (set : RawPath → Choices → Choices) (value : String) :
    Except Flaw (Choices → Choices) :=
  if value = "" then .error .missing else .ok (set value)

/-- An argument with a path as its value. -/
def path (name placeholder : String) (set : RawPath → Choices → Choices) : Argument :=
  { name, placeholder, effect := .take (readPath set) }

/-- An argument with an integer of a range as its value. -/
def integer (name placeholder : String) (low high : Int) (set : Int → Choices → Choices) :
    Argument :=
  { name, placeholder
    effect := .take fun value =>
      match Text.Integer.readWithin? low high value.toList with
      | some n => .ok (set n)
      | none => .error (.unreadable low high) }

/-- Accepts one of some words. -/
def readWord {α : Type} (words : List (String × α)) (accepted : List String)
    (set : α → Choices → Choices) (value : String) : Except Flaw (Choices → Choices) :=
  match words.lookup value with
  | some choice => .ok (set choice)
  | none => .error (.unknown accepted)

/-- An argument with one of some words as its value. -/
def word {α : Type} (name placeholder : String) (words : List (String × α))
    (set : α → Choices → Choices) : Argument :=
  { name, placeholder, effect := .take (readWord words (words.map (·.1)) set) }

/-- An argument as it is shown in messages. -/
def shown (argument : Argument) : String :=
  if argument.placeholder = "" then "--" ++ argument.name
  else "--" ++ argument.name ++ " <" ++ argument.placeholder ++ ">"

end Argument

/-- The words for the color strategies, of which one has two. -/
def strategyWords : List (String × Strategy) :=
  [("unchanged", .unchanged), ("rgb", .rgb), ("cmyk", .cmyk), ("gray", .gray),
    ("device-independent", .deviceIndependent)]

/-- The words for the policies. -/
def policyWords : List (String × Policy) :=
  [("continue", .proceed), ("ignore", .ignore), ("stop", .stop)]

/-- The words for the tiers. -/
def kindWords : List (String × Params.Kind) :=
  [Params.Kind.base, .debug, .pdf, .conformance].map fun kind => (kind.word, kind)

/-- The words for the settings. -/
def keyWords : List (String × Preferences.Key) :=
  Preferences.Key.all.map fun key => (key.word, key)

/-- The bounds of a signed word of thirty-two bits. -/
def low32 : Int := -0x80000000
/-- The largest signed integer of 32 bits. -/
def high32 : Int := 0x7FFFFFFF

/-- The upper bound of an unsigned word of thirty-two bits. -/
def wide32 : Int := 0xFFFFFFFF

/-- The arguments of every level. -/
def commonArguments : List Argument :=
  [.path "settings" "PATH" fun v c => { c with settings := some v },
    { name := "help", letter := some 'h', effect := .help }]

/-- The arguments of the base tier. -/
def baseArguments : List Argument :=
  [{ Argument.text "device" "DEVICE" (fun v c => { c with options.base.device := some v }) with
      letter := some 'd' },
    .integer "device-index" "DEVICE_INDEX" Preferences.integerBounds.1 Preferences.integerBounds.2
      fun v c => { c with options.base.deviceIndex := some v },
    { Argument.text "output" "PATH" (fun v c => { c with options.base.output := some v }) with
      letter := some 'o' },
    .switch "verbose" fun c => { c with options.base.verbose := true },
    .switch "interactive" fun c => { c with options.base.interactive := true },
    .switch "no-page-prompt" fun c => { c with options.base.noPagePrompt := true },
    .switch "no-pause" fun c => { c with options.base.noPause := true },
    .switch "no-prompt" fun c => { c with options.base.noPrompt := true },
    .switch "no-safer" fun c => { c with options.base.noSafer := true },
    .switch "short-errors" fun c => { c with options.base.shortErrors := true },
    .integer "display-format" "BITS" 0 wide32
      fun v c => { c with options.base.displayFormat := some ⟨BitVec.ofInt 32 v⟩ },
    .integer "display-resolution" "DPI" low32 high32
      fun v c => { c with options.base.displayResolution := some v },
    { Argument.text "include" "DIR"
        (fun v c => { c with options.base.includes := c.options.base.includes ++ [v] }) with
      letter := some 'I', repeats := true },
    .text "font-resource-dir" "DIR" fun v c => { c with options.base.fontResourceDir := some v },
    .text "generic-resource-dir" "DIR"
      fun v c => { c with options.base.genericResourceDir := some v }]

/-- The arguments of the PDF tier. -/
def pdfArguments : List Argument :=
  [{ name := "color-strategy", placeholder := "COLOR_STRATEGY"
     effect := .take (Argument.readWord (strategyWords ++ [("cie", .deviceIndependent)])
      (strategyWords.map (·.1)) fun v c => { c with options.pdf.colorStrategy := some v }) },
    .switch "embed-all-fonts" fun c => { c with options.pdf.embedAllFonts := true },
    .switch "new-pdf" fun c => { c with options.pdf.newPdf := true },
    .switch "pdf-info" fun c => { c with options.pdf.pdfInfo := true },
    .switch "fit-page" fun c => { c with options.pdf.fitPage := true },
    .text "title" "TITLE" fun v c => { c with options.pdf.title := some v },
    .switch "use-bleed-box" fun c => { c with options.pdf.useBleedBox := true },
    .switch "use-trim-box" fun c => { c with options.pdf.useTrimBox := true },
    .switch "use-art-box" fun c => { c with options.pdf.useArtBox := true },
    .switch "use-crop-box" fun c => { c with options.pdf.useCropBox := true },
    .text "password" "PASSWORD" fun v c => { c with options.pdf.password := some v },
    .switch "hide-annots" fun c => { c with options.pdf.hideAnnots := true },
    .switch "hide-acro-form" fun c => { c with options.pdf.hideAcroForm := true },
    .switch "no-user-unit" fun c => { c with options.pdf.noUserUnit := true },
    .switch "render-tt-notdef" fun c => { c with options.pdf.renderTtNotdef := true },
    .integer "first-page" "PAGE" low32 high32
      fun v c => { c with options.pdf.firstPage := some v },
    .integer "last-page" "PAGE" low32 high32 fun v c => { c with options.pdf.lastPage := some v },
    .text "page-list" "LIST" fun v c => { c with options.pdf.pageList := some v },
    .switch "no-subset-fonts" fun c => { c with options.pdf.noSubsetFonts := true }]

/-- The arguments of the conformance tier. -/
def conformanceArguments : List Argument :=
  [.integer "pdfa" "LEVEL" low32 high32
      fun v c => { c with options.conformance.pdfA := some v },
    .switch "pdfx" fun c => { c with options.conformance.pdfX := true },
    .path "icc-profile" "PATH" fun v c => { c with options.conformance.iccProfile := some v },
    .word "compat-policy" "COMPAT_POLICY" policyWords
      fun v c => { c with options.conformance.policy := some v },
    .text "output-condition" "ID"
      fun v c => { c with options.conformance.outputCondition := some v }]

/-- The arguments that describe a model. -/
def modelArguments : List Argument :=
  .word "kind" "KIND" kindWords (fun v c => { c with options.kind := some v }) ::
    baseArguments ++ pdfArguments ++ conformanceArguments ++
    [{ Argument.text "debug" "SWITCH"
        (fun v c => { c with options.debug := c.options.debug ++ [v] }) with repeats := true },
      { Argument.text "extra" "TEXT" (fun v c => { c with options.extra := some v }) with
        hyphens := true },
      .integer "host-depth" "HOST_DEPTH" 0 wide32
        fun v c => { c with options.host.colorDepth := v.toNat },
      .integer "host-dpi" "HOST_DPI" 0 wide32
        fun v c => { c with options.host.dpi := v.toNat }]

namespace Level

/-- The named arguments of a level. -/
def arguments : Level → List Argument
  | .program =>
    commonArguments ++ [{ name := "version", letter := some 'V', effect := .version }]
  | .args =>
    modelArguments ++ [.switch "baseline" fun c => { c with baseline := true },
      .switch "json" fun c => { c with json := true }] ++ commonArguments
  | .run =>
    modelArguments ++ [.path "gs" "EXE" fun v c => { c with executable := some v },
      .switch "dry-run" fun c => { c with dryRun := true }] ++ commonArguments
  | _ => commonArguments

/-- The arguments that a level knows by their position. All of them have to be given. -/
def positional : Level → List Argument
  | .run => [.path "INPUT" "" fun v c => { c with input := v }]
  | .settingsSet =>
    [.word "KEY" "" keyWords fun v c => { c with key := v },
      .text "VALUE" "" fun v c => { c with value := v }]
  | _ => []

/-- The pairs of arguments of which one excludes the other. -/
def exclusions : Level → List (String × String)
  | .args | .run => [("device", "device-index"), ("pdfa", "pdfx")]
  | _ => []

/-- The command that the choices of a level amount to, where the level is one. -/
def command? (level : Level) (choices : Choices) : Option Command :=
  match level with
  | .program | .settings => none
  | .args =>
    some (.args { options := choices.options, baseline := choices.baseline, json := choices.json })
  | .run =>
    some (.run { input := choices.input, options := choices.options
                 executable := choices.executable, dryRun := choices.dryRun })
  | .settingsShow => some (.settings .print)
  | .settingsPath => some (.settings .location)
  | .settingsSet => some (.settings (.change choices.key choices.value))

end Level

end EngineTokens.Invocation
