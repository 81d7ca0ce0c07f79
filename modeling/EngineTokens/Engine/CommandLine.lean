import EngineTokens.Engine.Request
import EngineTokens.Path.Canonical
import EngineTokens.Path.Lexical
import EngineTokens.Token

/-!
# The command line of the console engine

The engine's executable is given the baseline, the tokens of the request, the output file unless a
token names one, and the input after `-f`. Paths are written in canonical spelling.
-/

set_option autoImplicit false

namespace EngineTokens.Engine

/-- The name of the engine's executable. -/
def defaultExecutable : String := "gs"

/-- The executable in a directory, or the one found by its name if the directory is empty. -/
def locate (libraryDir : String) : RawPath :=
  if libraryDir = "" then defaultExecutable else Path.join libraryDir defaultExecutable

/-- How a token that names the output file starts. -/
def outputToken : String := "-sOutputFile="

/-- The token for an output file, unless the tokens name one already. -/
def outputTokens (args : List String) (path : RawPath) : List String :=
  if args.any (Token.startsWith outputToken) then []
  else [Token.text outputToken (Path.canonicalize (Path.shown path))]

/-- The arguments after the executable's name. -/
def commandLine (request : Request) : Except Error (List String) :=
  if request.input = [] then .error (.unsupported .input "no input document")
  else
    match request.output with
    | .display =>
      .error (.unsupported .displayOutput "display output needs an in-process engine")
    | .file path =>
      .ok (Token.baseline ++ request.args ++ outputTokens request.args path ++
        ["-f", Path.canonicalize (Path.shown request.input)])

end EngineTokens.Engine
