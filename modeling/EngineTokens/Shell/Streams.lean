import EngineTokens.Shell.Expand

/-!
# Redirections

A redirection lets the stream of a number lead to a file, to where another stream leads, to a
here-document or to nowhere. Some paths name no file but the streams that are open already.
-/

set_option autoImplicit false

namespace EngineTokens.Shell

/-- How a refusal of the file system is told in one line. -/
def reasonOf : Fault → String
  | .missing => "No such file or directory"
  | .notDirectory => "Not a directory"
  | .isDirectory => "Is a directory"
  | .occupied => "File exists"
  | .denied => "Permission denied"
  | .notExecutable => "Exec format error"
  | .noDevice => "No such device or address"
  | .tooManyLinks => "Too many levels of symbolic links"
  | .nameTooLong => "File name too long"
  | .zeroInPath | .zeroInArgument | .emptyPath | .notText => "Invalid argument"

/-- How the refusal to open a file is told. -/
def openingReason (creating : Bool) : Fault → String
  | .missing | .notDirectory => if creating then "Directory nonexistent" else "No such file"
  | fault => reasonOf fault

/-- The stream that a path names. -/
def streamNamed? (path : ByteText) : Option Nat :=
  match String.ofList path with
  | "/dev/stdin" => some 0
  | "/dev/stdout" => some 1
  | "/dev/stderr" => some 2
  | _ =>
    match path.reverse with
    | n :: '/' :: _ =>
      let directory := String.ofList path.dropLast
      if n.isDigit && (directory == "/dev/fd/" || directory == "/proc/self/fd/") then
        some (n.toNat - '0'.toNat)
      else none
    | _ => none

/-- The source that a path names if it names no file. -/
def deviceNamed? (path : ByteText) : Option Source :=
  match String.ofList path with
  | "/dev/null" => some .nowhere
  | "/dev/zero" => some .zeros
  | "/dev/full" => some .full
  | _ => none

namespace State

/-- The file at a path, made or emptied before it is written. -/
def fileToWrite (s : State) (path : RawPath) (keep protect : Bool) : Except Fault (Place × State) :=
  match s.files.findToWrite path with
  | .ok (.entry place (.file _ _)) =>
    if keep then .ok (place, s)
    else if protect then .error .occupied
    else (s.files.write path []).map fun files => (place, { s with files })
  | .ok (.entry _ .special) => .error .noDevice
  | .ok (.entry _ _) => .error .isDirectory
  | .ok (.vacant place) => (s.files.write path []).map fun files => (place, { s with files })
  | .error fault => .error fault

/-- Opens the file at a path. -/
def openFile (s : State) (path : ByteText) (direction : Direction) : Except Fault (Nat × State) :=
  match deviceNamed? path, direction with
  | some source, _ => .ok (s.openNew { source, reads := true, writes := true })
  | none, .read => do
    match ← s.files.stat (pathOf path) with
    | (place, .file _ _) => return s.openNew { source := .file place, reads := true, writes := false }
    | (_, .special) => throw .noDevice
    | _ => return s.openNew { source := .directory, reads := true, writes := false }
  | none, direction => do
    let (keep, protect) :=
      match direction with
      | .write force => (false, s.has 'C' && !force)
      | _ => (true, false)
    let (place, s) ← s.fileToWrite (pathOf path) keep protect
    let appends := direction == .append
    return s.openNew { source := .file place, reads := direction == .both, writes := true, appends }

end State

namespace Work

/-- Lets a stream lead to where another leads. -/
def leadAlike (stream source : Nat) : Work Unit := do
  match (← get).streams.lookup source with
  | some n => modify fun s => s.lead stream (some n)
  | none => failOn "" (Nat.toDigits 10 source) ": Bad file descriptor"

/-- Where a redirection leads to. That of a here-document is found out only as it is carried out. -/
def target (capture : Capture) : Redirect → Work ByteText
  | .mk _ (.document _) _ => return []
  | .mk _ .same target => do
    let text ← orEnding (expandText capture target)
    match text with
    | [c] => if c = '-' || c.isDigit then return text else badNumber
    | _ => badNumber
  | .mk _ _ target => orEnding (expandText capture target)
where
  /-- Gives up because a stream has no such number. -/
  badNumber : Work ByteText := do
    modify fun s => { s with line := s.lineRead }
    orEnding (fail "Syntax error: Bad fd number")

/-- Carries out a redirection that leads to the target. -/
def redirect (capture : Capture) (target : ByteText) : Redirect → Work Unit
  | .mk stream direction _ => do
    match direction with
    | .same =>
      match target with
      | ['-'] => modify fun s => s.lead stream none
      | target => leadAlike stream (Nat.ofDigitChars 10 target 0)
    | .document n =>
      let word := ((← get).documents.lookup n).getD []
      let text ← expandDocument capture word
      modify fun s =>
        let (n, s) := s.openNew { source := .supply text, reads := true, writes := false }
        s.lead stream (some n)
    | direction =>
      match streamNamed? target with
      | some source => leadAlike stream source
      | none =>
        let s ← get
        match s.openFile target direction with
        | .ok (n, s) => set (s.lead stream (some n))
        | .error fault =>
          -- a directory is only opened where files that are there are protected
          let isOpened := direction == .write false && s.has 'C' && s.files.isDirectory (pathOf target)
          let creating := direction != .read && !isOpened
          failOn (if creating then "cannot create " else "cannot open ") target
            (": " ++ openingReason creating fault)

/-- Carries out redirections in order, of which all targets are known before. -/
def redirectAll (capture : Capture) (redirects : List Redirect) : Work Unit := do
  let targets ← redirects.mapM (target capture)
  for (redirection, target) in redirects.zip targets do
    redirect capture target redirection

end Work

end EngineTokens.Shell
