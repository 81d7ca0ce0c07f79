import EngineTokens.Engine.Request

/-!
# What becomes of events

Lines are printed as they arrive, each on the stream it came from, and pages are converted and kept.
A page that cannot be converted is dropped and leaves those before it where they are.
-/

set_option autoImplicit false

namespace EngineTokens.Engine

/-- Lines on the two output streams. -/
structure Printed where
  out : List String := []
  err : List String := []
  deriving DecidableEq, Repr, Inhabited

namespace Printed

/-- A stream of lines as text, with a line end after each. -/
def text (lines : List String) : String :=
  String.join (lines.map fun line => line ++ "\n")

/-- Adds a line to the output. -/
def say (printed : Printed) (line : String) : Printed :=
  { printed with out := printed.out ++ [line] }

/-- Adds a line to the error output. -/
def complain (printed : Printed) (line : String) : Printed :=
  { printed with err := printed.err ++ [line] }

end Printed

/-- What has been printed and kept so far. -/
structure Shown where
  printed : Printed := {}
  pages : List Display.Image := []
  deriving Repr, Inhabited

namespace Shown

/-- Takes one event. -/
def take (shown : Shown) : Event → Shown
  | .stdout line => { shown with printed := shown.printed.say line }
  | .stderr line => { shown with printed := shown.printed.complain line }
  | .page page => { shown with pages := (Display.store shown.pages page).1 }

/-- Takes events in the order in which they arrive. -/
def takeAll (shown : Shown) (events : List Event) : Shown :=
  events.foldl take shown

end Shown

end EngineTokens.Engine
