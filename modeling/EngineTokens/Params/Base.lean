import EngineTokens.Device
import EngineTokens.Display.Format
import EngineTokens.Params.Sources

/-!
# The base tier

The switches that every run of the engine has. Their tokens come in a fixed order, because the
engine applies definitions from left to right.

With the preview device and no format chosen, the format follows the color depth of the host's
screen, and a resolution that is not set follows its density. The model itself does not change.
-/

set_option autoImplicit false

namespace EngineTokens.Params

/-- A token list and the failure, if any, that ended its construction. On failure the tokens are
those appended before it. -/
structure Written where
  tokens : List String
  failure : Option Error := none
  deriving DecidableEq, Repr

/-- The finished token list; nothing is returned of one that failed. -/
def Written.result (written : Written) : Except Error (List String) :=
  match written.failure with
  | none => .ok written.tokens
  | some e => .error e

/-- The base tier. -/
structure Base where
  quiet : Bool := true
  batch : Bool := true
  noPagePrompt : Bool := false
  noPause : Bool := false
  noPrompt : Bool := false
  /-- The engine's restrictions on file access are lifted. -/
  noSafer : Bool := false
  shortErrors : Bool := false
  device : String := ""
  displayFormat : Display.Format := ⟨0⟩
  /-- Preview resolution in dots per inch; zero if it is not set. -/
  displayResolution : Int := 0
  outputFile : String := ""
  fontResourceDir : String := ""
  genericResourceDir : String := ""
  sources : Sources := {}
  deriving DecidableEq, Repr, Inhabited

/-- The display format and resolution as they are written. -/
structure EffectiveDisplay where
  format : Display.Format
  resolution : Int
  deriving DecidableEq, Repr

namespace Base

/-- The format and the resolution of a run on a given host are taken from the host. -/
def followsHost (p : Base) : Bool :=
  Device.isDisplay p.device && p.displayFormat.isUnset

/-- The largest resolution that can be written. -/
def resolutionLimit : Nat := 0x7FFFFFFF

/-- The display format and resolution to write for a host. -/
def effectiveDisplay (p : Base) (host : Display.Host) : EffectiveDisplay :=
  if p.followsHost then
    { format := .ofColorDepth host.colorDepth
      resolution :=
        if p.displayResolution = 0 then (min host.dpi resolutionLimit : Nat)
        else p.displayResolution }
  else { format := p.displayFormat, resolution := p.displayResolution }

/-- The tokens of the base tier, with a given set of include directories. A higher tier passes an
extended set where it contributes directories of its own. -/
def tokensWith (p : Base) (host : Display.Host) (sources : Sources) : List String :=
  let shown := p.effectiveDisplay host
  Token.flagUnless true p.quiet "-dQUIET=" ++
  Token.flagUnless true p.batch "-dBATCH=" ++
  Token.flagUnless false p.noPagePrompt "-dNOPAGEPROMPT" ++
  Token.flagUnless false p.noPause "-dNOPAUSE" ++
  Token.flagUnless false p.noPrompt "-dNOPROMPT" ++
  Token.flagUnless false p.noSafer "-dNOSAFER" ++
  Token.flagUnless false p.shortErrors "-dSHORTERRORS" ++
  Token.textUnless "" p.device "-sDEVICE=" ++
  Token.numberUnless 0 shown.format.bits.toNat "-dDisplayFormat=" ++
  Token.numberUnless 0 shown.resolution "-dDisplayResolution=" ++
  sources.tokens ++
  Token.textUnless "" p.fontResourceDir "-sFontResourceDir=" ++
  Token.textUnless "" p.genericResourceDir "-sGenericResourceDir=" ++
  Token.textUnless "" p.outputFile "-sOutputFile="

/-- Appends the tokens of the base tier. -/
def write (p : Base) (host : Display.Host) (out : List String) : Written :=
  { tokens := out ++ p.tokensWith host p.sources }

/-- A change to one field of the base tier. -/
inductive Edit
  | quiet (on : Bool)
  | batch (on : Bool)
  | noPagePrompt (on : Bool)
  | noPause (on : Bool)
  | noPrompt (on : Bool)
  | noSafer (on : Bool)
  | shortErrors (on : Bool)
  | device (name : String)
  | displayFormat (format : Display.Format)
  | displayResolution (dpi : Int)
  | outputFile (path : String)
  | fontResourceDir (path : String)
  | genericResourceDir (path : String)
  /-- Registers an include directory. -/
  | addSource (path : String)
  deriving DecidableEq, Repr

/-- Makes a change in place. Registering a directory answers whether it is new. -/
def Edit.make (files : Files) : Edit → Steps Base (Option Bool)
  | .quiet on => .assign fun p => { p with quiet := on }
  | .batch on => .assign fun p => { p with batch := on }
  | .noPagePrompt on => .assign fun p => { p with noPagePrompt := on }
  | .noPause on => .assign fun p => { p with noPause := on }
  | .noPrompt on => .assign fun p => { p with noPrompt := on }
  | .noSafer on => .assign fun p => { p with noSafer := on }
  | .shortErrors on => .assign fun p => { p with shortErrors := on }
  | .device name => .assign fun p => { p with device := name }
  | .displayFormat format => .assign fun p => { p with displayFormat := format }
  | .displayResolution dpi => .assign fun p => { p with displayResolution := dpi }
  | .outputFile path => .assign fun p => { p with outputFile := path }
  | .fontResourceDir path => .assign fun p => { p with fontResourceDir := path }
  | .genericResourceDir path => .assign fun p => { p with genericResourceDir := path }
  | .addSource path =>
    some <$> Steps.within Base.sources (fun p sources => { p with sources })
      (Sources.accept files path)

/-- Makes a change: the answer, and the tier after it. -/
def apply (files : Files) (p : Base) (edit : Edit) : Except Error (Option Bool) × Base :=
  (edit.make files).take p

end Base

end EngineTokens.Params
