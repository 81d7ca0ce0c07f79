/-!
# Color conversion

How the engine converts colors when it writes PDF, and which of the strategies PDF/X admits.
-/

set_option autoImplicit false

namespace EngineTokens

/-- A color conversion strategy. -/
inductive Strategy
  /-- None requested. -/
  | unset
  | unchanged
  | rgb
  | cmyk
  | gray
  | deviceIndependent
  deriving DecidableEq, Repr, Inhabited

namespace Strategy

/-- Every strategy. -/
def all : List Strategy :=
  [.unset, .unchanged, .rgb, .cmyk, .gray, .deviceIndependent]

/-- The name of a strategy in saved data. -/
def name : Strategy → String
  | .unset => "None"
  | .unchanged => "Unchanged"
  | .rgb => "Rgb"
  | .cmyk => "Cmyk"
  | .gray => "Gray"
  | .deviceIndependent => "DeviceIndependent"

/-- The strategy of a name in saved data, to the letter. -/
def ofName? (word : String) : Option Strategy :=
  all.find? fun strategy => strategy.name == word

/-- The engine's keyword, for every strategy that is one. -/
def keyword? : Strategy → Option String
  | .unset => none
  | .unchanged => some "LeaveColorUnchanged"
  | .rgb => some "RGB"
  | .cmyk => some "CMYK"
  | .gray => some "Gray"
  | .deviceIndependent => some "UseDeviceIndependentColor"

/-- PDF/X output can be produced with this strategy. -/
def allowedForPdfX : Strategy → Bool
  | .gray | .cmyk => true
  | _ => false

/-- A strategy is got back from its name. -/
theorem ofName?_name (strategy : Strategy) : ofName? strategy.name = some strategy := by
  cases strategy <;> decide

end Strategy

end EngineTokens
