import EngineTokens.Shell.Print
import EngineTokens.Shell.Program.Lines
import EngineTokens.Shell.Program.Paths
import EngineTokens.Shell.Program.Texts
import EngineTokens.Shell.Program.Values

/-!
# Utilities

The common programs that a script may start and that start no others, by their names.
-/

set_option autoImplicit false

namespace EngineTokens.Shell

/-- The program of a name that reads its arguments itself. -/
def plainProgram? (name : String) (args : List ByteText) : Option Program :=
  match name with
  | "chmod" => some (Program.chmod args)
  | "echo" => some (Program.finish (Program.plainEcho escapes true false args) 0)
  | "expr" => some (Program.expr args)
  | "false" => some (pure 1)
  | "printf" => some do
    let printing := printf (args.headD []) (args.drop 1)
    for complaint in printing.complaints.reverse do Program.grumble complaint
    Program.finish printing.out.reverse.flatten (min 1 printing.status)
  | "pwd" => some do Program.finish (ofPath (Path.ofNames (← get).files.here) ++ ['\n']) 0
  | "rev" => some (Program.rev args)
  | "seq" => some (Program.seq args)
  | "tac" => some (Program.tac args)
  | "true" => some (pure 0)
  | _ => none

/-- The program of a name, called as it should be. -/
def calledProgram? (name : String) (call : Call) : Option Program :=
  match name with
  | "basename" => some (Program.basename call)
  | "cat" => some (Program.cat call)
  | "cp" => some (Program.cp call)
  | "cut" => some (Program.cut call)
  | "dirname" => some (Program.dirname call)
  | "head" => some (Program.head call)
  | "ln" => some (Program.ln call)
  | "ls" => some (Program.ls call)
  | "mkdir" => some (Program.mkdir call)
  | "mv" => some (Program.mv call)
  | "printenv" => some (Program.printenv call)
  | "readlink" => some (Program.readlink call)
  | "realpath" => some (Program.realpath call)
  | "rm" => some (Program.rm call)
  | "rmdir" => some (Program.rmdir call)
  | "sleep" => some (Program.sleep call.operands)
  | "sort" => some (Program.sort call)
  | "tail" => some (Program.tail call)
  | "tee" => some (Program.tee call)
  | "touch" => some (Program.touch call)
  | "tr" => some (Program.tr call)
  | "uniq" => some (Program.uniq call)
  | "wc" => some (Program.wc call)
  | "yes" => some (Program.yes call.operands)
  | _ => none

/-- The program of a name, if it is known. One that is called as it should not be tells so. -/
def program? (name : String) (args : List ByteText) : Option Program :=
  match Usage.known.lookup name with
  | none => plainProgram? name args
  | some usage =>
    let args := if name == "head" || name == "tail" then Program.numberAsOption args else args
    match usage.call args with
    | .error trouble => some (Program.refuseCall trouble usage.status)
    | .ok call => calledProgram? name call

end EngineTokens.Shell
