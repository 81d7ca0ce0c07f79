import EngineTokens.Color
import EngineTokens.Display.Format
import EngineTokens.Json.Record
import EngineTokens.Policy

/-!
# Saved forms of single values

A color strategy and a policy are saved by their names, and the properties of a screen as a record.
-/

set_option autoImplicit false

namespace EngineTokens

/-- The strategy that a whole text is. -/
def Strategy.ofText? (text : String) : Option Strategy :=
  (Json.name? (all.map name) text.toList).bind ofName?

/-- The policy that a whole text is. -/
def Policy.ofText? (text : String) : Option Policy :=
  (Json.name? (all.map name) text.toList).bind ofName?

/-- The record type of the properties of a screen. -/
def Display.Host.recordType : Json.RecordType :=
  [("color_depth", .integer 0 0xFFFFFFFF), ("dpi", .integer 0 0xFFFFFFFF)]

/-- The properties of a screen that a whole text is. -/
def Display.Host.ofText? (text : String) : Option Display.Host :=
  match Json.record? recordType text.toList with
  | some [.integer colorDepth, .integer dpi] =>
    some { colorDepth := colorDepth.toNat, dpi := dpi.toNat }
  | _ => none

end EngineTokens
