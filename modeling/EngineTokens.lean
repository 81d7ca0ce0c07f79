import EngineTokens.Session.Perform
import EngineTokens.Settings.Forms
import EngineTokens.Engine.Scripted
import EngineTokens.Engine.Channel
import EngineTokens.Main
import EngineTokens.Proofs.Token.Reading
import EngineTokens.Proofs.Params.Assembly
import EngineTokens.Proofs.Params.Rows
import EngineTokens.Proofs.Params.Readback
import EngineTokens.Proofs.Options.Tier
import EngineTokens.Proofs.Params.Display
import EngineTokens.Proofs.Session.CommandLine
import EngineTokens.Proofs.Text.Utf8
import EngineTokens.Proofs.Json.Shape
import EngineTokens.Proofs.Json.RoundTrip
import EngineTokens.Proofs.Files.Writing
import EngineTokens.Engine.Execution
import EngineTokens.Proofs.Engine.Delivery
import EngineTokens.Proofs.Settings.Persistence
import EngineTokens.Proofs.Path.Canonical
import EngineTokens.Proofs.Params.Fields
import EngineTokens.Proofs.Params.Effects
import EngineTokens.Proofs.Params.Calls
import EngineTokens.Proofs.Session.Saving
import EngineTokens.Proofs.Settings.History
import EngineTokens.Proofs.Path.Containing
import EngineTokens.Proofs.Params.Refusals
import EngineTokens.Proofs.Params.Appending
import EngineTokens.Proofs.Options.Built
import EngineTokens.Proofs.Session.Repeating
import EngineTokens.Proofs.Invocation.Required
import EngineTokens.Proofs.Session.Rejection
import EngineTokens.Proofs.Display.Bounds
import EngineTokens.Proofs.Display.Pixels
import EngineTokens.Proofs.Display.Packing
import EngineTokens.Proofs.Display.Preview
import EngineTokens.Proofs.Words.Splitting
import EngineTokens.Proofs.Text.Lossy
import EngineTokens.Engine.Forwarding
import EngineTokens.Proofs.Engine.Lines
import EngineTokens.Proofs.Engine.Departure
import EngineTokens.Proofs.Files.Resolving
import EngineTokens.Proofs.Path.Spellings
import EngineTokens.Proofs.Params.Profiles
import EngineTokens.Proofs.Path.Segments
import EngineTokens.Proofs.Files.Listing
import EngineTokens.Proofs.Options.Checks
import EngineTokens.Proofs.Params.Switches
import EngineTokens.Proofs.Options.Filling
import EngineTokens.Proofs.Options.Switching
import EngineTokens.Proofs.Path.Parting
import EngineTokens.Proofs.Display.Fields
import EngineTokens.Proofs.Text.Numbers
import EngineTokens.Proofs.Settings.Changing
import EngineTokens.Proofs.Session.Advising
