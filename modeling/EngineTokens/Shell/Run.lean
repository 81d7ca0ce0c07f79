import EngineTokens.Shell.Builtin
import EngineTokens.Shell.Launch

/-!
# Running a shell script

Commands are run one after another on the state of the script. A command that runs others does so by
a `Runner`, which is handed in; `runner` ties the knot, a number of levels deep. Processes that run
side by side are run one after the other: the parts of a pipeline in order, and commands in the
background when they are waited for, when the script sleeps, or at its end.
-/

set_option autoImplicit false

namespace EngineTokens.Shell

/-- Runs commands; the flag tells that their success is asked about, so that failure ends nothing. -/
abbrev Runner := Bool → List Command → State → State

namespace State

/-- Ends the script with a status. -/
def ending (s : State) (status : Nat) : State :=
  { s with status, flow := .ended }

/-- Does some work. If it is given up, the script ends. -/
def orEnd {α : Type} (work : Work α) (s : State) : Option α × State :=
  match work.run s with
  | (some value, s) => (some value, s)
  | (none, s) => (none, { s with flow := .ended })

/-! ## Texts -/

/-- Reads commands from a text and runs them, line by line. Where it is wanted, the lines of a file
are shown as they are read. -/
def runLines (run : Runner) (tested ofFile : Bool) : (fuel : Nat) → Cursor → State → State
  | 0, _, s => s
  | fuel + 1, cursor, s =>
    let cursor := { cursor with next := s.nextDocument, documents := [], aliases := s.aliases }
    let isShown := ofFile && s.has 'v'
    match Reading.line?.run cursor with
    | .error trouble =>
      let s :=
        if isShown then
          s.tell ((linesIn cursor.rest).take (trouble.line + 1 - cursor.line)).flatten
        else s
      { s with line := trouble.line }.complain ("Syntax error: " ++ trouble.message) |>.ending 2
    | .ok (line, after) =>
      let s :=
        if isShown then s.tell (cursor.rest.take (cursor.rest.length - after.rest.length)) else s
      match line with
      | none => s
      | some commands =>
        let s := { s with
          documents := after.documents ++ s.documents
          nextDocument := after.next
          lineRead := after.line }
        let s := run tested commands s
        if s.goesOn then runLines run tested ofFile fuel after s else s

/-- The most lines that aliases add to a text. -/
def addedLines : Nat := 10000000

/-- Reads commands from a text, which may be that of a file, and runs them. -/
def runText (run : Runner) (tested ofFile : Bool) (text : ByteText) (s : State) : State :=
  s.runLines run tested ofFile (text.length + addedLines) { rest := text }

/-! ## Signals -/

/-- Heeds the signals that were sent to this process: each is ignored, answered by what is set for
it, or kills. -/
def heed (run : Runner) (s : State) : State :=
  if s.level ≠ 0 || s.signals.isEmpty then s
  else
    let mine := (s.signals.filter fun (process, _) => process == s.process).map Prod.snd
    let s := { s with signals := s.signals.filter fun (process, _) => process != s.process }
    mine.foldl (fun s signal =>
      if !s.goesOn then s
      else
        match if isUnblockable signal then none else s.traps.lookup signal with
        | none => if isHarmless signal then s else { s with flow := .killed signal }
        | some [] => s
        | some action =>
          let started := { s with trapStatus := some (s.trapStatus.getD s.status) }
          let after := { started.runText run false false action with trapStatus := s.trapStatus }
          if after.goesOn then { after with status := s.status } else after) s

/-- Ends a process: what is set for its end is run, and its status is found. -/
def finish (run : Runner) (s : State) : State :=
  match s.flow with
  | .killed signal => { s with status := 128 + signal }
  | _ =>
    let s :=
      match s.traps.lookup 0 with
      | none | some [] => s
      | some action =>
        let started := { s with
          traps := s.traps.filter fun (n, _) => n != 0
          flow := .normal
          trapStatus := some s.status
          loops := 0
          builtin := none }
        let after := started.runText run false false action
        match after.flow with
        | .ended | .killed _ => after
        | _ => { after with status := s.status }
    match s.flow with
    | .killed signal => { s with status := 128 + signal }
    | _ => { s with flow := .ended, status := s.status % 256 }

/-! ## Processes -/

/-- A subshell begins: it makes no provision for signals but to ignore them. -/
def enter (s : State) : State :=
  { s with
    level := s.level + 1
    traps := s.traps.filter fun (_, action) => action.isEmpty
    loops := 0
    flow := .normal }

/-- What is left when another process has ended: the scope is as before, and the world as that
process left it. -/
def after (s ended : State) : State :=
  { toScope := { s.toScope with status := ended.status }
    toWorld := { ended.toWorld with files := { ended.files with here := s.files.here } } }

/-- Runs commands in a subshell. -/
def inSubshell (run : Runner) (tested : Bool) (commands : List Command) (s : State) : State :=
  s.after ((run tested commands s.enter).finish run)

/-- Runs a command of the background, if it is still to be run. -/
def runJob (run : Runner) (s : State) (process : Nat) : State :=
  match s.jobs.find? fun job => job.process == process with
  | some { pending := some (scope, here, command), .. } =>
    let jobs := s.jobs.filter fun job => job.process != process
    let inner : State :=
      { toScope := scope, toWorld := { s.toWorld with jobs, files := { s.files with here } } }
    let ended := (run false [command] inner.enter).finish run
    let after := s.after ended
    { after with
      status := s.status
      jobs := { process, pending := none, status := ended.status } :: after.jobs }
  | _ => s

/-- Runs all commands of the background that are still to be run. -/
def runJobs (run : Runner) (s : State) : State :=
  (s.jobs.reverse.filter fun job => job.pending.isSome).foldl
    (fun s job => s.runJob run job.process) s

/-- A command lets its output lead elsewhere itself. -/
def leadsOutput : Command → Bool
  | .simple _ _ _ redirects | .redirected _ redirects _ =>
    redirects.any fun | .mk stream _ _ => stream == 1
  | _ => false

/-- Runs the commands of the background that write to an opened stream: what reads from it waits for
them. -/
def runWriters (run : Runner) (n : Nat) (s : State) : State :=
  let writers := s.jobs.reverse.filter fun job =>
    match job.pending with
    | some (scope, _, command) =>
      scope.streams.any (fun (_, other) => other == n) && !leadsOutput command
    | none => false
  writers.foldl (fun s job => s.runJob run job.process) s

/-- A text without line ends at its end and without zero bytes. -/
def trimmedOutput (text : ByteText) : ByteText :=
  ((text.filter (· != '\x00')).reverse.dropWhile (· == '\n')).reverse

/-- Runs commands for their output. -/
def capture (run : Runner) : Capture := fun commands s =>
  let (n, inner) := s.enter.openNew { source := .gathered [], reads := false, writes := true }
  let ended := ((run false commands (inner.lead 1 (some n))).finish run).runWriters run n
  let text := ended.gatheredIn n
  let ended := { ended with openings := ended.openings.filter fun (other, _) => other != n }
  let after := s.after ended
  (trimmedOutput text, { after with status := s.status, outputStatus := ended.status })

/-- Runs the parts of a pipeline, each on what the one before wrote; `supply` is what that was. -/
def pipe (run : Runner) (supply : Option ByteText) : List Command → State → State
  | [], s => s
  | command :: rest, s =>
    let inner := s.enter
    let inner :=
      match supply with
      | some text =>
        let (n, inner) := inner.openNew { source := .supply text, reads := true, writes := false }
        inner.lead 0 (some n)
      | none => inner
    if rest.isEmpty then s.after ((run false [command] inner).finish run)
    else
      let (n, inner) := inner.openNew { source := .gathered [], reads := false, writes := true }
      let ended := ((run false [command] (inner.lead 1 (some n))).finish run).runWriters run n
      let text := ended.gatheredIn n
      let ended := { ended with openings := ended.openings.filter fun (other, _) => other != n }
      pipe run (some text) rest (s.after ended)

/-- Puts a command into the background. -/
def startJob (command : Command) (s : State) : State :=
  let process := s.nextProcess
  let (n, inner) := s.openNew { source := .nowhere, reads := true, writes := false }
  let scope := (inner.lead 0 (some n)).toScope
  { inner with
    nextProcess := process + 1
    lastJob := some process
    status := 0
    jobs := { process, pending := some (scope, s.files.here, command) } :: inner.jobs }

/-- Waits for commands of the background. -/
def waitFor (run : Runner) (args : List ByteText) : Work Nat := do
  let (_, words) ← Work.options "" args
  if words.isEmpty then
    modify fun s => s.runJobs run
    return 0
  else
    let mut status := 0
    for word in words do
      if word.head? == some '%' then Work.failOn "No such job: " word ""
      let process ← Work.count word
      modify fun s => s.runJob run process
      let s ← get
      match s.jobs.find? fun job => job.process == process with
      | some job =>
        match job.signal.bind signalReport? with
        | some report => set (s.tell (report ++ "\n").toList)
        | none => pure ()
        status := job.status
      | none => status := 127
    return status

/-! ## Programs -/

/-- How a shell is called. -/
structure ShellCall where
  /-- The first operand is the text to be run. -/
  inLine : Bool := false
  options : List Char := []
  operands : List ByteText := []

/-- Turns the options of one word on or off; an option of a given name may follow. -/
def shellLetters (on : Bool) (call : ShellCall) : List Char → List ByteText →
    Except ByteText (ShellCall × List ByteText)
  | [], rest => .ok (call, rest)
  | 'c' :: letters, rest => shellLetters on { call with inLine := true } letters rest
  | 'l' :: letters, rest => shellLetters on call letters rest
  | 'o' :: letters, [] => shellLetters on call letters []
  | 'o' :: letters, name :: rest =>
    match Work.optionNames.lookup (String.ofList name) with
    | some letter => shellLetters on (turned letter) letters rest
    | none => .error ("Illegal option -o ".toList ++ name)
  | letter :: letters, rest =>
    if optionLetters.contains letter then shellLetters on (turned letter) letters rest
    else .error ("Illegal option -".toList ++ [letter])
where
  /-- The call with an option on or off. -/
  turned (letter : Char) : ShellCall :=
    let others := call.options.filter (· != letter)
    { call with options := if on then letter :: others else others }

/-- Reads the words with which a shell is called. -/
def shellCall : (fuel : Nat) → ShellCall → List ByteText → Except ByteText ShellCall
  | 0, call, words => .ok { call with operands := words }
  | fuel + 1, call, words =>
    match words with
    | ['-'] :: rest | ['-', '-'] :: rest => .ok { call with operands := rest }
    | ('-' :: letters) :: rest => do
      let (call, rest) ← shellLetters true call letters rest
      shellCall fuel call rest
    | ('+' :: letters) :: rest => do
      let (call, rest) ← shellLetters false call letters rest
      shellCall fuel call rest
    | words => .ok { call with operands := words }

/-- The variables that every shell has, unless it is given others. -/
def ownVariables : List (String × String) :=
  [("OPTIND", "1"), ("PS1", "# "), ("PS2", "> "), ("PS4", "+ ")]

/-- The variables with which a shell begins, from those that it is given. -/
def beginning (parent : Nat) (directory : ByteText) (given : List (ByteText × Variable)) :
    List (ByteText × Variable) :=
  let own := ownVariables.filterMap fun (name, value) =>
    if (given.lookup name.toList).isSome then none
    else some (name.toList, ({ value := some value.toList } : Variable))
  let reset := given.filter fun (name, _) => !(["IFS", "PPID", "PWD"].contains (String.ofList name))
  let isExported := (given.lookup "PWD".toList).isSome
  ("IFS".toList, { value := some [' ', '\t', '\n'] }) ::
    ("PPID".toList, { value := some (Nat.toDigits 10 parent) }) ::
    ("PWD".toList, { value := some directory, exported := isExported }) :: own ++ reset

/-- Runs a text, which may be that of a file, as a shell process of its own, to its end. -/
def runShell (run : Runner) (ofFile : Bool) (script : ByteText) (options : List Char)
    (args : List ByteText) (text : ByteText) (s : State) : State :=
  let s := if options.contains 'm' then s.tell (script ++ ": 0: ".toList ++
    Work.noTerminal.toList ++ ['\n']) else s
  let process := s.nextProcess
  let scope : Scope :=
    { script
      args
      bindings := beginning s.process s.directory s.bindings
      options := options.filter fun letter => optionLetters.contains letter && letter != 'm'
      traps := s.traps.filter fun (_, action) => action.isEmpty
      streams := s.streams
      directory := s.directory
      process
      above := s.process :: s.above }
  let world := { s.toWorld with nextProcess := process + 1 }
  let text := text.filter (· != '\x00')
  ((State.mk scope world).runText run false ofFile text).heed run |>.finish run

/-- What is left when a program has ended, with a report if it was killed. -/
def settle (s ended : State) : State :=
  let after := s.after ended
  match ended.flow with
  | .killed signal =>
    match signalReport? signal with
    | some report => after.tell (report ++ "\n").toList
    | none => after
  | _ => after

/-- The directories in which programs are looked up. -/
def searchPath (s : State) : List ByteText :=
  match s.value? "PATH".toList with
  | some path => piecesAt ':' path
  | none => ["/usr/bin", "/bin"].map String.toList

/-- The commands at a path, as a text. -/
def sourced? (s : State) (path : ByteText) : Except Fault ByteText :=
  match streamNamed? path, deviceNamed? path with
  | some stream, _ =>
    match s.readable? stream 0 with
    | some text => .ok text
    | none => .error .missing
  | none, some _ => .ok []
  | none, none =>
    match s.files.read (pathOf path) with
    | .ok contents => .ok (ofBytes contents)
    | .error .isDirectory => .ok []
    | .error fault => .error fault

/-- Runs a shell with the words of its call. -/
def runShellWords (run : Runner) (name : ByteText) (words : List ByteText) (s : State) : State :=
  let refused (reason : ByteText) : State :=
    { s.tell (name ++ ": 0: ".toList ++ reason ++ ['\n']) with status := 2 }
  match shellCall (words.length + 1) {} words with
  | .error trouble => refused trouble
  | .ok { inLine := true, operands := [], .. } => refused "-c requires an argument".toList
  | .ok { inLine := true, options, operands := text :: rest } =>
    s.runShell run false (rest.headD name) options (rest.drop 1) text
  | .ok { options, operands, .. } =>
    match if options.contains 's' then [] else operands with
    | [] =>
      let text := (s.readable? 0 0).getD []
      (s.passOver 0 text.length).runShell run true name options operands text
    | path :: args =>
      match s.sourced? path with
      | .ok text => s.runShell run true path options args text
      | .error fault =>
        refused ("cannot open ".toList ++ path ++ (": " ++ openingReason false fault).toList)

/-- The path of the program of a name, and whether there was one that may not be started. -/
def findProgram (s : State) (name : ByteText) : Except Fault ByteText :=
  if name.contains '/' then .ok name
  else if name == ['.'] || name == ['.', '.'] then .error .denied
  else
    let paths := s.searchPath.map fun directory =>
      if directory.isEmpty then name else directory ++ '/' :: name
    match paths.find? fun path => (launch s.files 1 name path []) matches .ok _ | .error .tooManyLinks with
    | some path => .ok path
    | none =>
      .error (if paths.any fun path => (s.files.stat (pathOf path)) matches .ok (_, .file _ false)
        then .denied else .missing)

/-- Keeps where the program of a name was found. -/
def lookUp (s : State) (name : ByteText) : State :=
  match s.findProgram name with
  | .ok path =>
    if name.contains '/' || (s.lookedUp.lookup name).isSome then s
    else { s with lookedUp := s.lookedUp ++ [(name, path)] }
  | .error _ => s

/-- Sets a variable that programs see. -/
def exportNow (s : State) (name value : ByteText) : State :=
  s.putVariable name { value := some value, exported := true }

/-- What `env` does before it starts a command: variables are taken away, and the directory is
changed. -/
def prepared (call : Call) (s : State) : Except ByteText State := do
  let bare := call.has 'i' || call.operands.head? == some ['-']
  let start : State :=
    if bare then { s with bindings := s.bindings.filter fun (_, v) => !v.exported } else s
  let cleared ← call.options.foldlM (fun (s : State) (letter, name) =>
    if letter != 'u' then .ok s
    else if name.isEmpty || name.contains '=' then
      .error ("cannot unset ".toList ++ quotedWord name ++ ": Invalid argument".toList)
    else .ok (s.dropVariable name)) start
  match call.value? 'C' with
  | none => return cleared
  | some path =>
    match s.files.stat (pathOf path) with
    | .ok (place, .directory) => return { cleared with files := { cleared.files with here := place } }
    | other =>
      let reason := match other with
        | .error fault => reasonOf fault
        | .ok _ => reasonOf .notDirectory
      .error ("cannot change directory to ".toList ++ quotedWord path ++ ": ".toList ++ reason.toList)

/-- Runs a program of the machine to its end. -/
def runSystem (run : Runner) :
    (fuel : Nat) → (name called : ByteText) → List ByteText → State → State
  | 0, _, _, _, s => s
  | fuel + 1, name, called, args, s =>
    let s := { s with called }
    if Machine.shellNames.contains (String.ofList name) then s.runShellWords run called args
    else if name == "env".toList then
      let refusedCall (trouble : ByteText) (hint : ByteText) : State :=
        { s.tell (called ++ ": ".toList ++ trouble ++ '\n' :: hint ++ Usage.hint called) with status := 125 }
      match ((Usage.known.lookup "env").getD { letters := "" }).call (splitting args) with
      | .error trouble =>
        refusedCall trouble (if Usage.isOfBlank trouble then Usage.splittingHint called else [])
      | .ok call =>
        match s.prepared call with
        | .error trouble => { s.tell (called ++ ": ".toList ++ trouble ++ ['\n']) with status := 125 }
        | .ok ready =>
          let words := if call.operands.head? == some ['-'] then call.operands.drop 1 else call.operands
          let isSetting (word : ByteText) : Bool := word.contains '='
          let settings := words.takeWhile isSetting
          let ready := settings.foldl (fun s word =>
            let (name, value) := Work.cutAssignment word
            s.exportNow name (value.getD [])) ready
          match words.dropWhile isSetting with
          | [] =>
            if call.has 'C' then refusedCall "must specify command with --chdir (-C)".toList []
            else
              let (status, ended) := (Program.printenv { options := call.options }).run ready
              { ended with status }
          | command :: rest =>
            if call.has '0' then refusedCall "cannot specify --null (-0) with command".toList []
            else
              let refused (fault : Fault) : State :=
                let told := s.tell (called ++ ": ".toList ++ quotedWord command ++ ": ".toList ++
                  (reasonOf fault ++ "\n").toList)
                let told := if fault = .missing && command.contains ' ' then
                  told.tell (Usage.splittingHint called) else told
                { told with status := if fault = .missing then 127 else 126 }
              match ready.findProgram command with
              | .error fault => refused fault
              | .ok path =>
                match launch ready.files interpreterLimit command path rest with
                | .ok (.system name called words) => ready.runSystem run fuel name called words
                | .ok (.unmarked text) => ready.runShell run true path [] rest text
                | .error fault => refused fault
    else
      let s := if name == "sleep".toList then s.runJobs run else s
      match program? (String.ofList name) args with
      | some program =>
        let (status, ended) := program.run s
        { ended with status }
      | none => { s with status := 127 }

/-- The state with no variables but those that programs see, as they are handed on. -/
def handingOn (s : State) : State :=
  let seen := s.bindings.filter fun (_, v) => v.exported && v.value.isSome
  { s with bindings := inRows 39 seen }

/-- Starts the program of a name and lets it run to its end. -/
def runProgram (run : Runner) (name : ByteText) (args : List ByteText) (s : State) : State :=
  let refused (fault : Fault) : State :=
    match fault with
    | .missing | .notDirectory => { s.complainOf "" name ": not found" with status := 127 }
    | fault => { s.complainOf "" name (": " ++ reasonOf fault) with status := 126 }
  match s.findProgram name with
  | .error fault =>
    let told := refused (if name.isEmpty then .denied else fault)
    if s.builtin == some "exec".toList then told else { told with status := 127 }
  | .ok path =>
    match launch s.files interpreterLimit name path args with
    | .ok (.system name called args) => s.handingOn.runSystem run (args.length + 1) name called args
    | .ok (.unmarked text) => s.handingOn.runShell run true path [] args text
    | .error fault => refused fault

/-! ## Commands -/

/-- What stands before a command that is shown as it is run: a text that is expanded, unless it
cannot be read or expanded. -/
def marker (capture : Capture) (s : State) : ByteText × State :=
  let text := s.valueOf "PS4"
  let beginning : Cursor := { rest := text, next := s.nextDocument, aliases := s.aliases }
  match Reading.wholeDocument.run beginning with
  | .error _ => (text, s)
  | .ok (word, _) =>
    match (expandText capture word).run { s with options := s.options.filter (· != 'x') } with
    | (some expanded, after) => (expanded, { after with options := s.options })
    | (none, _) => (text, s)

/-- Shows a command as it is run, where that is wanted. -/
def trace (capture : Capture) (s : State) (assignments : List (ByteText × ByteText))
    (words : List ByteText) : State :=
  if s.has 'x' && !(assignments.isEmpty && words.isEmpty) then
    let (before, s) := s.marker capture
    let shown := assignments.map fun (name, value) => name ++ '=' :: value
    s.tell (before ++ [' '].intercalate (shown ++ words) ++ ['\n'])
  else s

/-- The most functions that may be at work inside one another. -/
def callLimit : Nat := 1000

/-- Calls a function. -/
def call (run : Runner) (tested : Bool) (body : Command) (args : List ByteText) (s : State) :
    State :=
  if callLimit ≤ s.saved.length then
    { s.complain "Maximum function recursion depth (1000) reached" with status := 2, flow := .ended }
  else
  let inner := { s.withArgs args with loops := 0, saved := {} :: s.saved }
  let ended := run tested [body] inner
  let frame := ended.saved.headD {}
  let restored := frame.bindings.foldl (fun (s : State) (name, old) =>
    match old with
    | some v => s.putVariable name v
    | none => s.dropVariable name) ended
  { restored with
    options := frame.options.getD restored.options
    args := s.args
    loops := s.loops
    saved := s.saved
    optionIndex := s.optionIndex
    optionOffset := s.optionOffset
    flow := match ended.flow with
      | .returned => .normal
      | flow => flow }

/-- Tells where a command is found, in short or in words. -/
def describe (s : State) (short : Bool) (name : ByteText) : Option ByteText :=
  let told (what : String) : ByteText := if short then name else name ++ what.toList
  if Work.isKeywordText name then some (told " is a shell keyword")
  else if let some text := s.aliases.get? name then
    if short then some ("alias ".toList ++ Work.shownAlias (name, text))
    else some (name ++ " is an alias for ".toList ++ text)
  else if (s.functions.lookup name).isSome then some (told " is a shell function")
  else if specialCommands.contains (String.ofList name) then
    some (told " is a special shell builtin")
  else if isBuiltin name then some (told " is a shell builtin")
  else
    match s.findProgram name with
    | .ok path =>
      if (launch s.files interpreterLimit name path []).isOk then
        some (if short then path else name ++ " is ".toList ++ path)
      else none
    | .error _ => none

/-- Tells about commands. -/
def describeAll (short : Bool) (names : List ByteText) : Work Nat := do
  let mut status := 0
  let mut shown : ByteText := []
  for name in names do
    match (← get).describe short name with
    | some text => shown := shown ++ text ++ ['\n']
    | none =>
      if !short then shown := shown ++ name ++ ": not found\n".toList
      status := 127
  return max status (← Work.print shown)

/-- Runs the commands of a file. -/
def source (run : Runner) (tested : Bool) (args : List ByteText) : Work Nat := do
  let (_, args) ← Work.options "" args
  match args with
  | [] => return 0
  | name :: _ =>
    let s ← get
    let paths := if name.contains '/' then [name] else s.searchPath.map fun directory =>
      if directory.isEmpty then name else directory ++ '/' :: name
    let isThere (path : ByteText) : Bool :=
      (s.sourced? path).isOk && (name.contains '/' || !s.files.isDirectory (pathOf path))
    match paths.find? isThere with
    | some path =>
      let text := ((s.sourced? path).toOption.getD []).filter (· != '\x00')
      let after := { s with builtin := some path, status := 0 }.runText run tested true text
      set { after with flow := match after.flow with
        | .returned => .normal
        | flow => flow }
      return after.status
    | none =>
      if name.contains '/' then Work.failOn "cannot open " name ": No such file"
      else Work.failOn "" name ": not found"

/-- Looks programs up, or shows those that were, or forgets them. -/
def lookUpAll (args : List ByteText) : Work Nat := do
  let (letters, names) ← Work.options "r" args
  if !letters.isEmpty then
    modify fun s => { s with lookedUp := [] }
    return 0
  if names.isEmpty then
    return ← Work.print ((inRows 31 (← get).lookedUp).flatMap fun (_, path) => path ++ ['\n'])
  let mut status := 0
  for name in names do
    let s ← get
    if !((s.functions.lookup name).isSome || isBuiltin name || name.contains '/') then
      match s.findProgram name with
      | .ok _ => set (s.lookUp name)
      | .error _ =>
        let reason := if name.isEmpty then .denied else Fault.missing
        set (s.complainOf "" name (if reason = .missing then ": not found" else ": " ++ reasonOf reason))
        status := 1
  return status

/-- Runs the words of a command that is built in. -/
def runBuiltin (run : Runner) (tested : Bool) (name : ByteText) (args : List ByteText) :
    Work Nat := do
  match String.ofList name with
  | "eval" =>
    let after := { (← get) with status := 0 }.runText run tested false ([' '].intercalate args)
    set after
    return after.status
  | "." => source run tested args
  | "wait" => waitFor run args
  | "hash" => lookUpAll args
  | "type" => describeAll false args
  | text =>
    match Work.builtin? text args with
    | some work => work
    | none => return 0

/-- The words after the command `command` and its options: what is to be told about a command, or
the words of one that is no function. -/
inductive Commanded
  | words (words : List ByteText)
  | tell (short : Bool) (names : List ByteText)

/-- Reads the words after the command `command`. -/
def commanded (args : List ByteText) : Work Commanded := do
  let (letters, words) ← Work.options "pvV" args
  match (letters.map Prod.fst).filter (· != 'p') with
  | [] => return .words words
  | letters => return .tell (letters.getLast? == some 'v') (words.take 1)

/-- Carries out words whose redirections and assignments are in force. The flag tells that the
command named may be a function. -/
def perform (run : Runner) (tested : Bool) : (fuel : Nat) → (functions : Bool) →
    List ByteText → State → State
  | 0, _, _, s => s
  | _ + 1, _, [], s => { s with status := s.outputStatus }
  | fuel + 1, functions, name :: args, s =>
    match if functions then s.functions.lookup name else none with
    | some body => s.call run tested body args
    | none =>
      if name == "exec".toList then
        match args with
        | [] => { s with status := 0 }
        | name :: args =>
          let ended := { s with builtin := some "exec".toList }.runProgram run name args
          let after := s.after ended
          { after with
            traps := []
            flow := match ended.flow with
              | .killed signal => .killed signal
              | _ => .ended }
      else if name == "command".toList then
        match (commanded args).run { s with builtin := some name } with
        | (some (.words words), _) => s.perform run tested fuel false words
        | (some (.tell short names), after) =>
          let (status, after) := (describeAll short names).run after
          { after with status := status.getD 2, builtin := s.builtin }
        | (none, after) => { after with status := 2, builtin := s.builtin }
      else if isBuiltin name then
        match (runBuiltin run tested name args).run { s with builtin := some name } with
        | (some status, after) => { after with status, builtin := s.builtin }
        | (none, after) =>
          let after := { after with status := 2, builtin := s.builtin }
          if specialCommands.contains (String.ofList name) && functions then
            { after with flow := .ended }
          else after
      else
        let s := s.lookUp name
        s.settle (s.runProgram run name args)

/-- The fields of the words of a command. Arguments of some commands set variables and are not cut. -/
def expandWords (capture : Capture) (words : List Word) : Work (List ByteText) := do
  let mut fields : List ByteText := []
  for word in words do
    let sets := match fields.head? with
      | some name => ["export", "readonly", "local"].contains (String.ofList name)
      | none => false
    match sets, assignment? word with
    | true, some (name, value) =>
      fields := fields ++ [name ++ '=' :: (← expandValue capture value)]
    | _, _ => fields := fields ++ (← expandFields capture word)
  return fields

/-- Sets the variables before a command, and gives the values. Where they hold for the command
alone, programs see them. -/
def assignAll (capture : Capture) (exported : Bool) :
    List (ByteText × Word) → Work (List (ByteText × ByteText))
  | [] => pure []
  | (name, word) :: rest => do
    let value ← expandValue capture word
    Work.assign name value exported
    return (name, value) :: (← assignAll capture exported rest)

/-- Puts variables back to what they were. -/
def restore (before : State) (names : List ByteText) (s : State) : State :=
  names.foldl (fun s name =>
    match before.variableOf? name with
    | some v => s.putVariable name v
    | none => s.dropVariable name) s

/-- Runs a simple command. -/
def simple (run : Runner) (tested : Bool) (line : Nat) (assignments : List (ByteText × Word))
    (words : List Word) (redirects : List Redirect) (s : State) : State :=
  let capture := capture run
  let s := { s with line, outputStatus := 0 }
  match s.orEnd (expandWords capture words) with
  | (none, s) => s
  | (some fields, s) =>
    let name := fields.headD []
    let isFunction := (s.functions.lookup name).isSome
    let isSpecial := specialCommands.contains (String.ofList name) && !isFunction
    let lasting := fields.isEmpty || isSpecial
    let streams := s.streams
    match (Work.redirectAll capture redirects).run s with
    | (none, after) =>
      let after := { after with streams, status := 2 }
      if isSpecial then { after with flow := .ended } else after
    | (some (), after) =>
      match after.orEnd (assignAll capture (!lasting || (name == "exec".toList)) assignments) with
      | (none, after) => { after with streams }
      | (some values, after) =>
        let shown := { after with streams }.trace capture values fields
        let ready := { shown with streams := after.streams }
        let ended := ready.perform run tested (fields.length + 1) true fields
        let ended := if lasting then ended else restore s (assignments.map Prod.fst) ended
        if name == "exec".toList && !isFunction then ended else { ended with streams }

/-- A command has been run in a loop: whether the loop goes on, and how the script does. -/
def afterRound (s : State) : Bool × State :=
  match s.flow with
  | .normal => (true, s)
  | .leave n => (false, { s with flow := if n ≤ 1 then .normal else .leave (n - 1) })
  | .again n =>
    if n ≤ 1 then (true, { s with flow := .normal }) else (false, { s with flow := .again (n - 1) })
  | _ => (false, s)

/-- Runs a body once for each field. -/
def rounds (run : Runner) (tested : Bool) (name : ByteText) (body : List Command) :
    List ByteText → State → State
  | [], s => s
  | field :: rest, s =>
    match s.orEnd (Work.assign name field false) with
    | (none, s) => s
    | (some (), s) =>
      let (goesOn, s) := (run tested body s).afterRound
      if goesOn then rounds run tested name body rest s else s

/-- Runs a body as long as a condition asks for it; `status` is that of the last round. -/
def repeated (run : Runner) (tested untilSuccess : Bool) (condition body : List Command) :
    (fuel : Nat) → (status : Nat) → State → State
  | 0, _, s => s.ending 2
  | fuel + 1, status, s =>
    let asked := run true condition s
    match asked.flow with
    | .normal =>
      if (asked.status == 0) == untilSuccess then { asked with status }
      else
        let (goesOn, next) := (run tested body asked).afterRound
        if goesOn then repeated run tested untilSuccess condition body fuel next.status next
        else next
    | _ =>
      let (goesOn, next) := asked.afterRound
      if goesOn then repeated run tested untilSuccess condition body fuel status next
      else if next.goesOn then { next with status } else next

/-- The body of the first branch with a pattern that matches a text. -/
def chosen (capture : Capture) (text : ByteText) :
    List (List Word × List Command) → Work (Option (List Command))
  | [] => pure none
  | (patterns, body) :: rest => do
    let mut found := false
    for pattern in patterns do
      if !found then
        if patternMatches (← expandPattern capture pattern) text then found := true
    if found then return some body else chosen capture text rest

/-- The greatest number of rounds of a loop. -/
def roundLimit : Nat := 10000000

/-- Runs a command, apart from what is heeded before and after it. -/
def evaluate (run : Runner) (tested : Bool) (command : Command) (s : State) : State :=
  match command with
  | .simple line assignments words redirects =>
    s.simple run tested line assignments words redirects
  | .redirected line redirects command =>
    let streams := s.streams
    match (Work.redirectAll (capture run) redirects).run { s with line } with
    | (none, after) =>
      let flow := if s.has 'e' && !tested then .ended else after.flow
      { after with streams, status := 2, flow }
    | (some (), after) => { run tested [command] after with streams }
  | .pipeline commands => s.pipe run none commands
  | .negated command =>
    let after := run true [command] s
    if after.goesOn then { after with status := if after.status = 0 then 1 else 0 } else after
  | .chain ifSuccess first second =>
    let after := run true [first] s
    if after.goesOn && (after.status == 0) == ifSuccess then run tested [second] after else after
  | .background command => s.startJob command
  | .group commands => run tested commands s
  | .subshell commands => s.inSubshell run tested commands
  | .each line name words body =>
    match { s with line }.orEnd (expandWords (capture run) words) with
    | (none, s) => s
    | (some fields, s) =>
      let ended := { s with loops := s.loops + 1, status := 0 }.rounds run tested name body fields
      { ended with loops := s.loops }
  | .loop untilSuccess condition body =>
    let ended := { s with loops := s.loops + 1 }.repeated run tested untilSuccess condition body
      roundLimit 0
    { ended with loops := s.loops }
  | .choose condition yes no =>
    let asked := run true condition s
    if !asked.goesOn then asked
    else if asked.status = 0 then run tested yes asked
    else if no.isEmpty then { asked with status := 0 }
    else run tested no asked
  | .select line word branches =>
    match { s with line }.orEnd (do
        let text ← expandText (capture run) word
        chosen (capture run) text branches) with
    | (none, s) => s
    | (some none, s) => { s with status := 0 }
    | (some (some body), s) =>
      if body.isEmpty then { s with status := 0 } else run tested body s
  | .define _ name body =>
    { s with
      functions := (name, body) :: s.functions.filter fun (other, _) => other != name
      status := 0 }

/-- The command ends a script by its failure, where failure does that. -/
def isChecked : Command → Bool
  | .simple _ _ _ _ | .pipeline _ | .subshell _ => true
  | _ => false

/-- Runs a command. -/
def runOne (run : Runner) (tested : Bool) (command : Command) (s : State) : State :=
  let s := s.heed run
  if !s.goesOn || s.has 'n' then s
  else
    let s := (s.evaluate run tested command).heed run
    if s.goesOn && !tested && s.status ≠ 0 && s.has 'e' && isChecked command then
      { s with flow := .ended }
    else s

/-- Runs commands one after another. -/
def runEach (run : Runner) (tested : Bool) : List Command → State → State
  | [], s => s
  | command :: rest, s =>
    let s := s.runOne run tested command
    if s.goesOn then runEach run tested rest s else s

end State

/-- Runs commands inside one another, down to a given depth; a process that goes deeper is killed. -/
def runner : (depth : Nat) → Runner
  | 0 => fun _ _ s => { s with flow := .killed 11 }
  | depth + 1 => fun tested commands s => s.runEach (runner depth) tested commands

end EngineTokens.Shell
