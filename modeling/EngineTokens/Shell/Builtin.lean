import EngineTokens.Shell.Condition
import EngineTokens.Shell.Mask
import EngineTokens.Shell.Print
import EngineTokens.Shell.Streams

/-!
# Commands that are built in

The commands that a shell carries out itself, as far as they run no other commands. Each yields its
status, or gives up after an error.
-/

set_option autoImplicit false

namespace EngineTokens.Shell

/-- The commands that are built in, apart from the special ones. -/
def regularCommands : List String :=
  ["alias", "bg", "cd", "chdir", "command", "echo", "false", "fg", "getopts", "hash", "jobs", "kill",
    "printf", "pwd", "read", "test", "[", "true", "type", "ulimit", "umask", "unalias", "wait"]

/-- A command is built in. -/
def isBuiltin (name : ByteText) : Bool :=
  specialCommands.contains (String.ofList name) || regularCommands.contains (String.ofList name)

/-- A text in single quotes; those that it holds stand between double quotes. -/
def quotedText (text : ByteText) : ByteText :=
  let groups := text.splitBy fun a b => (a == '\x27') == (b == '\x27')
  let start := if text.head?.all (· == '\x27') then ['\x27', '\x27'] else []
  start ++ groups.flatMap fun group =>
    let mark := if group.head? == some '\x27' then '"' else '\x27'
    mark :: group ++ [mark]

namespace Work

/-- Prints a text and yields the status. -/
def print (text : ByteText) : Work Nat := do
  let (s, written) := (← get).write 1 text
  set s
  if written then return 0
  let name := (s.builtin.getD [])
  set (s.complainOf "" name ": I/O error")
  return 1

/-- A word that is to be a number that counts something. -/
def count (word : ByteText) : Work Nat := do
  match wholeNumber? (some 10) word with
  | some n =>
    if 0 ≤ n && n ≤ 0x7fffffff then return n.toNat else failOn "Illegal number: " word ""
  | none => failOn "Illegal number: " word ""

/-- The options among the letters of one word. A colon after a known letter tells that a value
belongs to it, which is the rest of the word or the argument after it. -/
def lettersIn (known : List Char) : List Char → List ByteText →
    Work (List (Char × ByteText) × List ByteText)
  | [], rest => pure ([], rest)
  | letter :: letters, rest => do
    match if letter = ':' then [] else known.dropWhile (· != letter) with
    | [] => failOn "Illegal option -" [letter] ""
    | _ :: ':' :: _ =>
      match letters, rest with
      | [], [] => failOn "No arg for -" [letter] " option"
      | [], value :: rest => return ([(letter, value)], rest)
      | value, rest => return ([(letter, value)], rest)
    | _ =>
      let (others, rest) ← lettersIn known letters rest
      return ((letter, []) :: others, rest)

/-- The options at the head of some arguments, and the operands after them. -/
def optionsFrom (known : List Char) : (fuel : Nat) → List ByteText →
    Work (List (Char × ByteText) × List ByteText)
  | 0, args => pure ([], args)
  | fuel + 1, args => do
    match args with
    | ['-', '-'] :: rest => return ([], rest)
    | ('-' :: letter :: letters) :: rest =>
      let (first, rest) ← lettersIn known (letter :: letters) rest
      let (others, operands) ← optionsFrom known fuel rest
      return (first ++ others, operands)
    | args => return ([], args)

/-- The options at the head of some arguments, among those that are known, and the operands. -/
def options (known : String) (args : List ByteText) :
    Work (List (Char × ByteText) × List ByteText) :=
  optionsFrom known.toList (args.length + 1) args

/-! ## Variables -/

/-- The name and the value of an argument that sets a variable. -/
def cutAssignment (arg : ByteText) : ByteText × Option ByteText :=
  let name := arg.takeWhile (· != '=')
  match arg.drop name.length with
  | [] => (name, none)
  | _ :: value => (name, some value)

/-- The lines that show variables, in the order of their names. -/
def shownVariables (s : State) (before : String) (chosen : Variable → Bool) : ByteText :=
  let listed := s.bindings.filter fun (_, v) => chosen v
  (listed.mergeSort fun a b => !(decide (b.1 < a.1))).flatMap fun (name, v) =>
    before.toList ++ name ++ (match v.value with
      | some value => '=' :: quotedText value
      | none => []) ++ ['\n']

/-- Marks variables as exported or read-only, and sets those that have a value. -/
def mark (word : String) (change : Variable → Variable) (chosen : Variable → Bool)
    (args : List ByteText) : Work Nat := do
  let (letters, args) ← options "p" args
  if args.isEmpty || !letters.isEmpty then
    print (shownVariables (← get) (word ++ " ") chosen)
  else
    for arg in args do
      let (name, value) := cutAssignment arg
      if !isName name then failOn "" name ": bad variable name"
      match value with
      | some value => assign name value false
      | none => pure ()
      modify fun s =>
        s.putVariable name (change ((s.variableOf? name).getD { value := none }))
    return 0

/-- Keeps something in the frame of the function at work, to be put back when the function is left. -/
def keep (change : Frame → Frame) : Work Unit :=
  modify fun s => { s with saved := match s.saved with
    | frame :: frames => change frame :: frames
    | [] => [] }

/-- Makes variables of a function, which are put back when the function is left; a dash stands for
the options. -/
def makeLocal (args : List ByteText) : Work Nat := do
  if (← get).saved.isEmpty then fail "not in a function"
  for arg in args do
    let s ← get
    if arg == ['-'] then
      keep fun frame => { frame with options := some (frame.options.getD s.options) }
    else
      let (name, value) := cutAssignment arg
      if !isName name then failOn "" name ": bad variable name"
      keep fun frame =>
        if frame.bindings.any fun (other, _) => other == name then frame
        else { frame with bindings := (name, s.variableOf? name) :: frame.bindings }
      match value with
      | some value => assign name value false
      | none => pure ()
  return 0

/-- Takes variables or functions away. -/
def unset (args : List ByteText) : Work Nat := do
  let (letters, args) ← options "vf" args
  let functions := (letters.getLast?.map Prod.fst) == some 'f'
  for name in args do
    if functions then
      modify fun s => { s with functions := s.functions.filter fun (other, _) => other != name }
    else
      let (variableName, _) := cutAssignment name
      if !isName variableName then failOn "" name ": bad variable name"
      unassign variableName
  return 0

/-! ## Aliases -/

/-- An alias as it is shown. -/
def shownAlias (entry : ByteText × ByteText) : ByteText :=
  entry.1 ++ '=' :: quotedText entry.2

/-- Sets aliases, or shows those that are named, or all. -/
def setAliases (args : List ByteText) : Work Nat := do
  if args.isEmpty then
    return ← print ((← get).aliases.toList.flatMap fun entry => shownAlias entry ++ ['\n'])
  let mut status := 0
  let mut shown : ByteText := []
  for arg in args do
    let name := arg.take 1 ++ (arg.drop 1).takeWhile (· != '=')
    match arg.drop name.length, (← get).aliases.get? name with
    | _ :: text, _ => modify fun s => { s with aliases := s.aliases.insert name text }
    | [], some text => shown := shown ++ shownAlias (name, text) ++ ['\n']
    | [], none =>
      modify fun s => s.tell ("alias: ".toList ++ name ++ " not found\n".toList)
      status := 1
  return max status (← print shown)

/-- Takes aliases away. -/
def dropAliases (args : List ByteText) : Work Nat := do
  let (letters, names) ← options "a" args
  if !letters.isEmpty then
    modify fun s => { s with aliases := {} }
    return 0
  let mut status := 0
  for name in names do
    let s ← get
    if (s.aliases.get? name).isSome then set { s with aliases := s.aliases.erase name }
    else
      set (s.tell ("unalias: ".toList ++ name ++ " not found\n".toList))
      status := 1
  return status

/-! ## Options and arguments -/

/-- The options with their names. -/
def optionNames : List (String × Char) :=
  [("errexit", 'e'), ("noglob", 'f'), ("ignoreeof", 'I'), ("interactive", 'i'), ("monitor", 'm'),
    ("noexec", 'n'), ("stdin", 's'), ("xtrace", 'x'), ("verbose", 'v'), ("vi", 'V'), ("emacs", 'E'),
    ("noclobber", 'C'), ("allexport", 'a'), ("notify", 'b'), ("nounset", 'u'), ("nolog", 'l'),
    ("debug", 'D')]

/-- Why commands are not put under control one by one. -/
def noTerminal : String :=
  "can\x27t access tty; job control turned off"

/-- Turns an option on or off. There is no terminal from which commands could be controlled, and of
the two ways to edit lines one goes when the other comes. -/
def turn (letter : Char) (on : Bool) : Work Unit :=
  modify fun s =>
    if letter = 'm' && on && s.level = 0 then s.complain noTerminal
    else
      let rival := if letter = 'V' then 'E' else if letter = 'E' then 'V' else letter
      let others := s.options.filter fun other => other != letter && !(on && other == rival)
      { s with options := if on then letter :: others else others }

/-- The lines that show the options. -/
def shownOptions (s : State) (asCommands : Bool) : ByteText :=
  if asCommands then
    optionNames.flatMap fun (name, letter) =>
      (if s.has letter then "set -o " else "set +o ").toList ++ name.toList ++ ['\n']
  else
    "Current option settings\n".toList ++ optionNames.flatMap fun (name, letter) =>
      name.toList ++ List.replicate (16 - name.length) ' ' ++
        (if s.has letter then "on\n" else "off\n").toList

/-- Turns the options of one word on or off; an option of a given name may follow. -/
def turnAll (on : Bool) : List Char → List ByteText → Work (List ByteText)
  | [], rest => pure rest
  | 'o' :: letters, rest => do
    match rest with
    | [] =>
      let _ ← print (shownOptions (← get) !on)
      turnAll on letters []
    | name :: rest =>
      match optionNames.lookup (String.ofList name) with
      | some letter =>
        turn letter on
        turnAll on letters rest
      | none => failOn "Illegal option -o " name ""
  | letter :: letters, rest => do
    if optionLetters.contains letter then
      turn letter on
      turnAll on letters rest
    else failOn "Illegal option -" [letter] ""

/-- Sets options and arguments. -/
def setAll : (fuel : Nat) → List ByteText → Work Nat
  | 0, _ => return 0
  | fuel + 1, args => do
    match args with
    | [] => return 0
    | ['-', '-'] :: rest =>
      modify fun s => s.withArgs rest
      return 0
    | ['-'] :: rest =>
      turn 'x' false
      turn 'v' false
      if !rest.isEmpty then modify fun s => s.withArgs rest
      return 0
    | ('-' :: letters) :: rest => setAll fuel (← turnAll true letters rest)
    | ('+' :: letters) :: rest => setAll fuel (← turnAll false letters rest)
    | args =>
      modify fun s => s.withArgs args
      return 0

/-- Drops arguments. -/
def shift (args : List ByteText) : Work Nat := do
  let n ← match args with
    | [] => pure 1
    | word :: _ => count word
  if (← get).args.length < n then fail "can\x27t shift that many"
  modify fun s => s.withArgs (s.args.drop n)
  return 0

/-- What stands in a form after the letter of an option, if the letter is known. A colon after a
letter belongs to it; a colon that begins the form is a letter, too. -/
def afterLetter? (letter : Char) : ByteText → Option ByteText
  | [] => none
  | c :: ':' :: rest => if c = letter then some (':' :: rest) else afterLetter? letter rest
  | c :: rest => if c = letter then some rest else afterLetter? letter rest

/-- What is left of the argument that `getopts` read last, and how far it was read. -/
def leftOver (words : List ByteText) (index : Nat) (offset : Option Nat) : ByteText × Nat :=
  match offset with
  | some offset => if index ≤ 1 then ([], 0) else (((words[index - 2]?).getD []).drop offset, offset)
  | none => ([], 0)

/-- Reads the next option of some arguments into a variable. `OPTIND` numbers the argument to be
read next, and the offset tells how far the one before it was read. -/
def getopts (args : List ByteText) : Work Nat := do
  match args with
  | form :: name :: rest =>
    let s ← get
    let words := if rest.isEmpty then s.args else rest
    let quiet := form.head? == some ':'
    let (index, offset) :=
      match s.optionIndex with
      | some index => if words.length + 1 < index then (1, none) else (index, s.optionOffset)
      | none => (1, none)
    set { s with optionIndex := none }
    let finish (index : Nat) (offset : Option Nat) (letter : Char) (status : Nat) : Work Nat := do
      putValue "OPTIND".toList (Nat.toDigits 10 index) false
      if !isName name then failOn "" name ": bad variable name"
      assign name [letter] false
      modify fun s => { s with optionIndex := some index, optionOffset := offset }
      return status
    let argument (value : ByteText) : Work Unit := assign "OPTARG".toList value false
    let complain (before after : String) (letter : Char) : Work Unit := do
      modify fun s => s.tell (before.toList ++ letter :: after.toList)
      unassign "OPTARG".toList
    let option (index offset : Nat) (letter : Char) (rest : ByteText) : Work Nat := do
      match afterLetter? letter form with
      | none =>
        if quiet then argument [letter] else complain "Illegal option -" "\n" letter
        finish index (some offset) '?' 0
      | some (':' :: _) =>
        match rest, words[index - 1]? with
        | [], some value =>
          argument value
          finish (index + 1) none letter 0
        | [], none =>
          if quiet then
            argument [letter]
            finish index none ':' 0
          else
            complain "No arg for -" " option\n" letter
            finish index none '?' 0
        | value, _ =>
          argument value
          finish index none letter 0
      | some _ =>
        argument []
        finish index (some offset) letter 0
    match leftOver words index offset with
    | (letter :: rest, offset) => option index (offset + 1) letter rest
    | ([], _) =>
      match words[index - 1]? with
      | some ('-' :: letter :: rest) =>
        if letter = '-' && rest.isEmpty then finish (index + 1) none '?' 1
        else option (index + 1) 2 letter rest
      | _ => finish index none '?' 1
  | _ => fail "Usage: getopts optstring var [arg...]"

/-! ## Directories -/

/-- The text of a directory as it is reached from another by its components. Two slashes at the
beginning, but not three, stay two. -/
def reached (start path : ByteText) : ByteText :=
  let path := if path.head? == some '/' then path else start ++ '/' :: path
  let names := (piecesAt '/' path).foldl (fun (names : List ByteText) part =>
    if part.isEmpty || part == ['.'] then names
    else if part == ['.', '.'] then names.drop 1
    else part :: names) []
  let isDouble := path.take 2 == ['/', '/'] && path[2]? != some '/'
  (if isDouble then ['/', '/'] else ['/']) ++ ['/'].intercalate names.reverse

/-- The directories in which the next one may be looked up, as `CDPATH` lists them; a path that says
where it begins is looked up nowhere. -/
def directoriesFor (s : State) (target : ByteText) : List ByteText :=
  let first := (piecesAt '/' target).headD []
  if target.head? == some '/' || first == ['.'] || first == ['.', '.'] then []
  else
    match s.value? "CDPATH".toList with
    | some path => piecesAt ':' path
    | none => []

/-- Goes to another directory. -/
def changeDirectory (args : List ByteText) : Work Nat := do
  let (letters, args) ← options "LP" args
  let isPhysical := (letters.getLast?.map Prod.fst) == some 'P'
  let s ← get
  let target := match args with
    | [] => s.valueOf "HOME"
    | ['-'] :: _ => s.valueOf "OLDPWD"
    | path :: _ => path
  let isDirectory (path : ByteText) : Bool := s.files.isDirectory (pathOf (reached s.directory path))
  let lookedUp := ((directoriesFor s target).map fun directory =>
    (!directory.isEmpty,
      if directory.isEmpty then target else directory ++ '/' :: target)).find? fun (_, path) =>
        isDirectory path
  let (isTold, path) := lookedUp.getD (false, target)
  let directory := if path.isEmpty then s.directory else reached s.directory path
  match s.files.stat (pathOf directory) with
  | .ok (place, .directory) =>
    let directory := if isPhysical then ofPath (Path.ofNames place) else directory
    set { s with directory, files := { s.files with here := place } }
    assign "OLDPWD".toList s.directory false
    assign "PWD".toList directory false
    if isTold || args.head? == some ['-'] then print (directory ++ ['\n']) else return 0
  | _ => failOn "can\x27t cd to " target ""

/-- Shows the directory at hand. -/
def printDirectory (args : List ByteText) : Work Nat := do
  let (letters, _) ← options "LP" args
  let s ← get
  let isPhysical := (letters.getLast?.map Prod.fst) == some 'P'
  print ((if isPhysical then ofPath (Path.ofNames s.files.here) else s.directory) ++ ['\n'])

/-- Shows or sets the permissions that new files lack. -/
def mask (args : List ByteText) : Work Nat := do
  let (letters, args) ← options "S" args
  let given := (Permissions.ofNat (← get).mask).opposite
  match args with
  | [] =>
    if !letters.isEmpty then print (given.symbols ++ ['\n'])
    else
      let digits := Nat.toDigits 8 (← get).mask
      print (List.replicate (4 - digits.length) '0' ++ digits ++ ['\n'])
  | mode :: _ =>
    let mask ←
      if (mode.head?.map Char.isDigit) == some true then
        if mode.all isOctal then pure (ofDigits 8 mode % 512) else failOn "Illegal number: " mode ""
      else
        match given.after? mode with
        | some given => pure given.opposite.toNat
        | none => failOn "Illegal mode: " mode ""
    modify fun s => { s with mask }
    return 0

/-- The limits of processes that may be shown and set, by their letters. -/
def limitLetters : String := "HSatfdscmlpnvwr"

/-- Shows or sets a limit of processes. There are none unless they are set. -/
def limit (args : List ByteText) : Work Nat := do
  let (letters, args) ← options limitLetters args
  let kinds := (letters.map Prod.fst).filter fun c => c != 'H' && c != 'S' && c != 'a'
  let kind := kinds.getLastD 'f'
  let s ← get
  match args with
  | [] => print ((s.limits.lookup kind).getD "unlimited".toList ++ ['\n'])
  | _ :: _ :: _ => fail "too many arguments"
  | [value] =>
    if value == "unlimited".toList || value.all Char.isDigit then
      set { s with limits := (kind, value) :: s.limits.filter fun (other, _) => other != kind }
      return 0
    else fail "bad number"

/-! ## Reading -/

/-- A line read from the input: its pieces, which end where a backslash took the meaning of a byte,
and whether the line was ended; then how many bytes were read. The piece in hand stands with its
last byte first, and so do the pieces. -/
def lineFrom (raw : Bool) : (fuel : Nat) → (size : Nat) → List Piece → (inHand : ByteText) →
    ByteText → List Piece × Bool × Nat
  | 0, size, pieces, inHand, _ => ((.cut inHand.reverse :: pieces).reverse, false, size)
  | fuel + 1, size, pieces, inHand, text =>
    let ended (pieces : List Piece) : List Piece := .cut inHand.reverse :: pieces
    match text with
    | [] => ((ended pieces).reverse, false, size)
    | '\n' :: _ => ((ended pieces).reverse, true, size + 1)
    | '\x00' :: rest => lineFrom raw fuel (size + 1) pieces inHand rest
    | '\\' :: rest =>
      if raw then lineFrom raw fuel (size + 1) pieces ('\\' :: inHand) rest
      else
        let isZero (c : Char) : Bool := c == '\x00'
        let zeros := (rest.takeWhile isZero).length
        match rest.dropWhile isZero with
        | '\n' :: rest => lineFrom raw fuel (size + zeros + 2) (ended pieces) [] rest
        | c :: rest => lineFrom raw fuel (size + zeros + 2) (.text [c] false :: ended pieces) [] rest
        | [] => ((ended pieces).reverse, false, size + zeros + 1)
    | c :: rest => lineFrom raw fuel (size + 1) pieces (c :: inHand) rest

/-- Reads a line into variables. The last one takes all that is left. -/
def read (args : List ByteText) : Work Nat := do
  let (letters, names) ← options "p:r" args
  let raw := letters.any fun (letter, _) => letter == 'r'
  if names.isEmpty then fail "arg count"
  match names.find? fun name => !isName name with
  | some name => failOn "" name ": bad variable name"
  | none =>
    let s ← get
    let text := (s.readable? 0 0).getD []
    let (pieces, ended, size) := lineFrom raw (text.length + 1) 0 [] [] text
    set (s.passOver 0 size)
    let fields := (pieces.foldl (Fields.take s.separators) { room := some names.length }).finish
    for (name, i) in names.zipIdx do
      assign name (((fields[i]?).getD []).map Glyph.byte) false
    return if ended then 0 else 1

/-! ## Signals and processes -/

/-- What is run at signals, as commands that would bring it about. -/
def shownTraps (s : State) : ByteText :=
  (s.traps.mergeSort fun a b => a.1 ≤ b.1).flatMap fun (n, action) =>
    "trap -- ".toList ++ quotedText action ++ ' ' :: (signalName n).toList ++ ['\n']

/-- Sets what is run at each of some signals; nothing given means that no provision is made. -/
def trapAll (action : Option ByteText) : List ByteText → Work Nat
  | [] => pure 0
  | word :: rest => do
    match signalNumber? word with
    | none =>
      modify fun s => s.tell ("trap: ".toList ++ word ++ ": bad trap\n".toList)
      return 1
    | some n =>
      modify fun s =>
        let others := s.traps.filter fun (other, _) => other != n
        { s with traps := match action with
          | some text => (n, text) :: others
          | none => others }
      trapAll action rest

/-- Sets or shows what is run at signals. -/
def trap (args : List ByteText) : Work Nat := do
  let (_, args) ← options "" args
  match args with
  | [] => print (shownTraps (← get))
  | [word] => trapAll none [word]
  | action :: rest =>
    if action.all Char.isDigit && !action.isEmpty then trapAll none args
    else trapAll (if action == ['-'] then none else some action) rest

/-- How `kill` is used. -/
def killUsage : String :=
  "Usage: kill [-s sigspec | -signum | -sigspec] [pid | job]... or\nkill -l [exitstatus]"

/-- Sends a signal to a process. -/
def send (signal process : Nat) : Work Nat := do
  let s ← get
  if process = s.process || s.above.contains process then
    if signal != 0 then set { s with signals := s.signals ++ [(process, signal)] }
    return 0
  match s.jobs.find? fun job => job.process == process && job.pending.isSome with
  | some job =>
    if signal != 0 && !isHarmless signal then
      let killed := { job with pending := none, status := 128 + signal, signal := some signal }
      set { s with jobs := s.jobs.map fun (other : Job) =>
        if other.process == process then killed else other }
    return 0
  | none =>
    if s.jobs.any fun job => job.process == process then return 0
    else
      set (s.complain "No such process\n")
      return 1

/-- Sends a signal to processes. -/
def sendAll (signal : Nat) : List ByteText → Work Nat
  | [] => pure 0
  | word :: rest => do
    if word.head? == some '%' then failOn "No such job: " word ""
    let process ← match word with
      | '-' :: word => pure (0x80000000 + (← count word))
      | word => count word
    let status ← send signal process
    return max status (← sendAll signal rest)

/-- Sends a signal to processes, or shows the names of signals. -/
def kill (args : List ByteText) : Work Nat := do
  let numbered? : Option Nat :=
    match args with
    | ('-' :: word) :: _ => signalNumber? word
    | _ => none
  match args, numbered? with
  | [], _ => fail killUsage
  | _ :: rest, some n => if rest.isEmpty then fail killUsage else sendAll n rest
  | args, none =>
    let (letters, operands) ← options "ls:" args
    let mut signal : Option Nat := none
    for (letter, value) in letters do
      if letter == 's' then
        match signalNumber? value with
        | some n => signal := some n
        | none => failOn "invalid signal number or name: " value ""
    if letters.any fun (letter, _) => letter == 'l' then
      match operands, signal with
      | _, some _ => fail killUsage
      | [], none => print (("0" :: signalNames).flatMap fun name => name.toList ++ ['\n'])
      | word :: _, none =>
        let n ← count word
        let n := if 128 < n then n - 128 else n
        if n = 0 || 64 < n then
          failOn "invalid signal number or exit status: " word ""
        else print ((signalName n).toList ++ ['\n'])
    else if operands.isEmpty then fail killUsage
    else sendAll (signal.getD 15) operands

/-! ## Telling what a command is -/

/-- The words that begin compound commands. -/
def isKeywordText (name : ByteText) : Bool :=
  Lexeme.keywords.contains (String.ofList name)

/-- Leaves loops, or goes on with their next round. -/
def leaveLoops (flow : Nat → Flow) (args : List ByteText) : Work Nat := do
  let n ← match args with
    | [] => pure 1
    | word :: _ => count word
  if n = 0 then failOn "Illegal number: " (args.headD []) ""
  modify fun s => if s.loops = 0 then s else { s with flow := flow (min n s.loops) }
  return 0

/-- Asks a condition. -/
def test (words : List ByteText) : Work Nat := do
  match answer (← get) words with
  | .ok true => return 0
  | .ok false => return 1
  | .error unclear =>
    match unclear.word with
    | none | some [] => failOn "" unclear.message ""
    | some word => failOn "" (word ++ ": ".toList ++ unclear.message) ""

/-- Carries out a command that is built in and runs no other; `none` where there is no such one. -/
def builtin? (name : String) (args : List ByteText) : Option (Work Nat) :=
  match name with
  | ":" | "true" => some (pure 0)
  | "alias" => some (setAliases args)
  | "bg" | "fg" => some do
    let (_, jobs) ← options "" args
    match jobs with
    | [] => fail "No current job"
    | job :: _ => failOn "No such job: " job ""
  | "jobs" => some do
    let (_, jobs) ← options "lp" args
    match jobs with
    | [] => return 0
    | job :: _ => failOn "No such job: " job ""
  | "ulimit" => some (limit args)
  | "false" => some (pure 1)
  | "times" => some (print "0m0.000000s 0m0.000000s\n0m0.000000s 0m0.000000s\n".toList)
  | "break" => some (leaveLoops .leave args)
  | "continue" => some (leaveLoops .again args)
  | "cd" | "chdir" => some (changeDirectory args)
  | "echo" => some (print (echo args))
  | "exit" => some do
    let s ← get
    let n ← match args with
      | [] => pure (s.trapStatus.getD s.status)
      | word :: _ => count word
    modify fun s => { s with flow := .ended }
    return n
  | "return" => some do
    let n ← match args with
      | [] => pure (← get).status
      | word :: _ => count word
    modify fun s => { s with flow := .returned }
    return n
  | "export" =>
    some (mark "export" (fun v => { v with exported := true }) Variable.exported args)
  | "readonly" =>
    some (mark "readonly" (fun v => { v with readOnly := true }) Variable.readOnly args)
  | "getopts" => some (getopts args)
  | "kill" => some (kill args)
  | "local" => some (makeLocal args)
  | "printf" => some do
    let (_, args) ← options "" args
    match args with
    | [] => fail "usage: printf format [arg ...]"
    | format :: args =>
      let printing := printf format args
      for complaint in printing.complaints.reverse do
        modify fun s => s.complainOf "" complaint ""
      let status ← print printing.out.reverse.flatten
      return max status printing.status
  | "pwd" => some (printDirectory args)
  | "read" => some (read args)
  | "set" => some do
    if args.isEmpty then print (shownVariables (← get) "" fun v => v.value.isSome)
    else setAll (args.length + 1) args
  | "shift" => some (shift args)
  | "test" => some (test args)
  | "[" => some do
    if args.getLast? == some [']'] then test args.dropLast else fail "missing ]"
  | "trap" => some (trap args)
  | "umask" => some (mask args)
  | "unalias" => some (dropAliases args)
  | "unset" => some (unset args)
  | _ => none

end Work

end EngineTokens.Shell
