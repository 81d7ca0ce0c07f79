import EngineTokens.Shell.Machine
import EngineTokens.Shell.Utility

/-!
# What runs when a program is started

A path leads to a program of the machine or to a script, and a script names its interpreter on its
first line. The interpreter may be a script itself, to some depth.
-/

set_option autoImplicit false

namespace EngineTokens.Shell

/-- How many bytes of a script are looked at for its interpreter. -/
def headSize : Nat := 256

/-- The interpreter that the first line of a script names, with an argument that may follow. The
name has to end in the head of the script; an argument is cut off there. Behind the end of a short
script the head holds zero bytes, which end a name and an argument. -/
def interpreter? (text : ByteText) : Option (ByteText × Option ByteText) :=
  match text with
  | '#' :: '!' :: rest =>
    let isGap (c : Char) : Bool := c == ' ' || c == '\t'
    let ends (c : Char) : Bool := isGap c || c == '\x00'
    let head := rest.take (headSize - 2)
    let head := head ++ List.replicate (headSize - 2 - head.length) '\x00'
    let first := head.takeWhile fun c => c != '\n' && c != '\x00'
    let isWhole := (head.drop first.length).head? == some '\n'
    if !isWhole && !((head.dropWhile isGap).any ends) then none
    else
      let line := if isWhole then first else head.dropLast
      let line := (line.reverse.dropWhile isGap).reverse.dropWhile isGap
      if line.isEmpty then none
      else
        let name := line.takeWhile fun c => !ends c
        match line.drop name.length with
        | ' ' :: after | '\t' :: after =>
          some (name, some ((after.dropWhile isGap).takeWhile (· != '\x00')))
        | _ => some (name, none)
  | _ => none

/-- What runs when a program is started. -/
inductive Launch
  /-- A program of the machine, and the name by which it is called. -/
  | system (name called : ByteText) (args : List ByteText)
  /-- A script without an interpreter, which a shell may take for its own. -/
  | unmarked (text : ByteText)
  deriving DecidableEq, Repr

/-- What runs when the program at a path is started under a name; scripts may name scripts as
interpreters. -/
def launch (files : Files) : (depth : Nat) → (called path : ByteText) → (args : List ByteText) →
    Except Fault Launch
  | 0, _, _, _ => .error .tooManyLinks
  | depth + 1, called, path, args =>
    match Machine.target path with
    | .program name => .ok (.system name called args)
    | .beyond => .error .notDirectory
    | .elsewhere =>
      match if (deviceNamed? path).isSome then .error .denied else files.stat (pathOf path) with
      | .error fault => .error fault
      | .ok (_, .file contents true) =>
        let text := ofBytes contents
        match interpreter? text with
        | some ([], _) => .error .denied
        | some (name, argument) =>
          launch files depth name name (argument.toList ++ path :: args)
        | none => .ok (.unmarked text)
      | .ok _ => .error .denied

/-- How many scripts may name one another as interpreters. -/
def interpreterLimit : Nat := 6

end EngineTokens.Shell
