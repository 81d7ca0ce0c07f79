import EngineTokens.Params.Base

/-!
# The debug tier

Diagnostic switches on top of the base tier, one bit of a 32-bit word each. The word is all that is
kept; bits without a switch may be set in it and are never written.
-/

set_option autoImplicit false

namespace EngineTokens.Params

namespace Debug

/-- The engine's switches in the order in which they are written, each with its bit. -/
def switches : List (BitVec 32 × String) :=
  [(0x0001#32, "CCFONTDEBUG"), (0x0002#32, "CFFDEBUG"), (0x0004#32, "CMAPDEBUG"),
    (0x0008#32, "DOCIEDEBUG"), (0x0010#32, "EPSDEBUG"), (0x0020#32, "FAPIDEBUG"),
    (0x0040#32, "INITDEBUG"), (0x0080#32, "PDFDEBUG"), (0x0100#32, "PDFWRDEBUG"),
    (0x0200#32, "SETPDDEBUG"), (0x0400#32, "STRESTDEBUG"), (0x0800#32, "TTFDEBUG"),
    (0x1000#32, "VGIFDEBUG"), (0x2000#32, "VJPGDEBUG")]

/-- The bits that have a switch. -/
def defined : BitVec 32 := 0x3FFF#32

/-- The switch of a name, up to ASCII case. -/
def switch? (name : String) : Option (BitVec 32 × String) :=
  switches.find? fun (_, known) => Text.sameWord known name

/-- All bits of `part` are set in `word`. -/
def covers (word part : BitVec 32) : Bool :=
  word &&& part == part

/-- The names of the switches whose bits are set in a word. -/
def enabled (word : BitVec 32) : List String :=
  (switches.filter fun (bit, _) => covers word bit).map (·.2)

end Debug

/-- The base tier with debug switches. -/
structure Debug where
  base : Base := {}
  flags : BitVec 32 := 0
  deriving DecidableEq, Repr, Inhabited

namespace Debug

/-- Appends the tokens of the base tier and then one for each switch that is on. -/
def write (p : Debug) (host : Display.Host) (out : List String) : Written :=
  { tokens := out ++ p.base.tokensWith host p.base.sources ++
      (enabled p.flags).map fun name => Token.text "-d" name }

/-- A change to one field of the debug tier. -/
inductive Edit
  | base (edit : Base.Edit)
  /-- Replaces the word, dropping bits without a switch. -/
  | setBits (word : BitVec 32)
  /-- Replaces the word as it is. -/
  | setFlags (word : BitVec 32)
  /-- Turns the bits of a word on or off. -/
  | turn (word : BitVec 32) (on : Bool)
  deriving DecidableEq, Repr

/-- The word after a change that concerns it. -/
def turned (flags word : BitVec 32) (on : Bool) : BitVec 32 :=
  if on then flags ||| word else flags &&& ~~~word

/-- Makes a change in place. -/
def Edit.make (files : Files) : Edit → Steps Debug (Option Bool)
  | .base edit => .within Debug.base (fun p base => { p with base }) (edit.make files)
  | .setBits word => .assign fun p => { p with flags := word &&& defined }
  | .setFlags word => .assign fun p => { p with flags := word }
  | .turn word on => .assign fun p => { p with flags := turned p.flags word on }

/-- Makes a change: the answer, and the tier after it. -/
def apply (files : Files) (p : Debug) (edit : Edit) : Except Error (Option Bool) × Debug :=
  (edit.make files).take p

end Debug

end EngineTokens.Params
