import EngineTokens.Shell.Run

/-!
# Starting a program from outside

A program is started in an environment, with no input. What it writes on its two output streams is
kept, together with how it ended and the files it leaves.
-/

set_option autoImplicit false

namespace EngineTokens.Shell

/-- How a program ends. -/
inductive Ending
  | exit (code : Nat)
  | killed
  deriving DecidableEq, Repr

/-- What a program did. -/
structure Result where
  out : List UInt8
  err : List UInt8
  ending : Ending
  files : Files

/-- The number of the first process. -/
def firstProcess : Nat := 4242

/-- How deep commands may run inside one another. -/
def depthLimit : Nat := 20000

/-- The state in which a program is started. The streams are numbered as processes number them. -/
def State.initial (files : Files) (environment : List (ByteText × ByteText)) : State where
  script := []
  args := []
  bindings := environment.map fun (name, value) => (name, { value := some value, exported := true })
  streams := [(0, 0), (1, 1), (2, 2)]
  directory := ofPath (Path.ofNames files.here)
  process := 4241
  files := files
  openings :=
    [(0, { source := .nowhere, reads := true, writes := false }),
      (1, { source := .gathered [], reads := false, writes := true }),
      (2, { source := .gathered [], reads := false, writes := true })]
  nextOpening := 3
  nextProcess := firstProcess

/-- Runs a program of the machine under a name with some arguments to its end. -/
def start (files : Files) (environment : List (ByteText × ByteText)) (name called : ByteText)
    (args : List ByteText) : Result :=
  let run := runner depthLimit
  let s := State.initial files environment
  let ended := (s.runSystem run (args.length + 1) name called args)
  let left := ended.runJobs run
  { out := toBytes (left.gatheredIn 1)
    err := toBytes (left.gatheredIn 2)
    ending := match ended.flow with
      | .killed _ => .killed
      | _ => .exit (ended.status % 256)
    files := { left.files with here := files.here } }

end EngineTokens.Shell
