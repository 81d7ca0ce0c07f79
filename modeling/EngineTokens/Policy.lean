import EngineTokens.Error

/-!
# What to do where a document does not conform

The policy of a PDF/A run towards a construct that the standard does not admit, and the number by
which the engine knows it.
-/

set_option autoImplicit false

namespace EngineTokens

/-- A policy towards constructs that do not conform. -/
inductive Policy
  /-- Keep the construct and write a file that does not conform. -/
  | proceed
  /-- Drop the construct and go on. -/
  | ignore
  /-- Stop with an error. -/
  | stop
  deriving DecidableEq, Repr, Inhabited

namespace Policy

/-- Every policy, in the order of its numbers. -/
def all : List Policy := [.proceed, .ignore, .stop]

/-- The name of a policy in saved data. -/
def name : Policy → String
  | .proceed => "Continue"
  | .ignore => "Ignore"
  | .stop => "Stop"

/-- The policy of a name in saved data, to the letter. -/
def ofName? (word : String) : Option Policy :=
  all.find? fun policy => policy.name == word

/-- The engine's number for a policy. -/
def value : Policy → Int
  | .proceed => 0
  | .ignore => 1
  | .stop => 2

/-- The policy of an engine number; any other number is out of range. -/
def ofValue (n : Int) : Except Error Policy :=
  match all.find? fun policy => policy.value == n with
  | some policy => .ok policy
  | none => .error (.outOfRange "PDFACompatibilityPolicy" n)

/-- A policy is got back from its name. -/
theorem ofName?_name (policy : Policy) : ofName? policy.name = some policy := by
  cases policy <;> decide

/-- A policy is got back from its number. -/
theorem ofValue_value (policy : Policy) : ofValue policy.value = .ok policy := by
  cases policy <;> rfl

end Policy

end EngineTokens
