import EngineTokens.Engine.Process
import EngineTokens.Shell.Start

/-!
# A machine whose engines are scripts

Here an executable is a script for the shell, or one of the programs of the machine. It is looked up
by its path or, without a slash, in the directories of the search path.
-/

set_option autoImplicit false

namespace EngineTokens.Shell

/-- The directories in which a program is looked up by its name. -/
def programDirectories : List String :=
  ["/usr/local/sbin", "/usr/local/bin", "/usr/sbin", "/usr/bin", "/sbin", "/bin"]

/-- The paths at which an executable may be found: its own if it has a slash, else its name in each
directory of the search path. -/
def candidates (executable : RawPath) : List RawPath :=
  if executable.contains Path.slash then [executable]
  else if executable = [] then []
  else programDirectories.map fun (directory : String) => Path.join directory executable

/-- The first program among some paths that can be started under a name with some arguments; paths
without one are passed over. -/
def firstProgram (files : Files) (called : ByteText) (args : List ByteText) :
    List RawPath → Except Fault Launch
  | [] => .error .missing
  | [path] => launch files interpreterLimit called (ofPath path) args
  | path :: rest =>
    match launch files interpreterLimit called (ofPath path) args with
    | .ok launch => .ok launch
    | .error _ => firstProgram files called args rest

/-- The variables that a child sees. -/
def childVariables (files : Files) (env : Environment) : List (ByteText × ByteText) :=
  let given : List (String × Option RawPath) :=
    [("XDG_DATA_HOME", env.xdgDataHome.map Path.ofText), ("APPDATA", env.appData.map Path.ofText),
      ("HOME", env.home.map Path.ofText), ("TMPDIR", env.tmpDir),
      ("PATH", some (":".intercalate programDirectories)), ("PWD", some (Path.ofNames files.here))]
  given.filterMap fun (name, value) => value.map fun value => (name.toList, ofPath value)

/-- Starts a script and lets it run to its end; the files are then as it left them. -/
def spawn : Engine.Spawn := fun files env executable argv =>
  let argv := argv.map Path.ofText
  if (executable :: argv).any fun word => word.contains 0 then .error .zeroInArgument
  else if !executable.contains Path.slash && Files.nameLimit < executable.length then
    .error .nameTooLong
  else do
    match ← firstProgram files (ofPath executable) (argv.map ofPath) (candidates executable) with
    | .unmarked _ => throw .notExecutable
    | .system name called args =>
      let result := start files (childVariables files env) name called args
      return ({
        out := result.out
        err := result.err
        exit := match result.ending with
          | .exit code => some code
          | .killed => none }, result.files)

end EngineTokens.Shell
