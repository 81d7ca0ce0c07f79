import EngineTokens.Shell.Filter
import EngineTokens.Shell.Program.Basic

/-!
# Programs that show texts

These programs show texts whole, their beginnings or their ends, their lines in reverse, or how
large they are.
-/

set_option autoImplicit false

namespace EngineTokens.Shell

/-! ## Texts with marks -/

/-- How a text is shown. -/
structure Marking where
  /-- Lines are numbered; `blank` tells that empty ones are, too. -/
  numbers : Bool := false
  blank : Bool := true
  /-- Of several empty lines on end one is shown. -/
  squeezed : Bool := false
  /-- The end of each line is marked. -/
  ends : Bool := false
  /-- Tabs are shown as a mark. -/
  tabs : Bool := false
  /-- All that cannot be printed is shown as a mark. -/
  unprintable : Bool := false
  deriving DecidableEq, Repr

/-- How far a text with marks was shown. -/
structure Marked where
  /-- How many lines were numbered. -/
  number : Nat := 0
  /-- Within a line; else how many line ends were met on end, as far as up to two of them count. -/
  lineEnds : Option Nat := some 0

namespace Marking

/-- The options of a call that ask for marks. -/
def ofCall (call : Call) : Marking :=
  { numbers := call.has 'n' || call.has 'b'
    blank := !call.has 'b'
    squeezed := call.has 's'
    ends := call.has 'E' || call.has 'A' || call.has 'e'
    tabs := call.has 'T' || call.has 'A' || call.has 't'
    unprintable := call.has 'v' || call.has 'A' || call.has 'e' || call.has 't' }

/-- A byte as a mark, where it cannot be printed. -/
def visible (c : Char) : ByteText :=
  let low (n : Nat) : ByteText :=
    if n < 32 then ['^', Char.ofNat (n + 64)] else if n = 127 then ['^', '?'] else [Char.ofNat n]
  if c.toNat < 128 then low c.toNat else 'M' :: '-' :: low (c.toNat - 128)

/-- A byte within a line; `next` is the byte after it. -/
def shown (marking : Marking) (c : Char) (next : Option Char) : ByteText :=
  if c = '\t' then if marking.tabs then visible c else [c]
  else if marking.unprintable then visible c
  else if c = '\r' && marking.ends && next == some '\n' then visible c
  else [c]

/-- The number before a line. -/
def numberText (n : Nat) : ByteText :=
  Program.padded 6 n ++ ['\t']

/-- Shows a text, the last byte of what is shown first. -/
def showFrom (marking : Marking) (marked : Marked) : (out : ByteText) → ByteText → ByteText × Marked
  | out, [] => (out, marked)
  | out, '\n' :: rest =>
    let lineEnds := match marked.lineEnds with
      | none => 0
      | some n => min 2 (n + 1)
    if lineEnds = 2 && marking.squeezed then
      showFrom marking { marked with lineEnds := some lineEnds } out rest
    else
      let isNumbered := 0 < lineEnds && marking.numbers && marking.blank
      let number := if isNumbered then marked.number + 1 else marked.number
      let before := (if isNumbered then numberText number else []) ++ if marking.ends then ['$'] else []
      showFrom marking { number, lineEnds := some lineEnds } ('\n' :: (before.reverse ++ out)) rest
  | out, c :: rest =>
    let isNumbered := marked.lineEnds.isSome && marking.numbers
    let number := if isNumbered then marked.number + 1 else marked.number
    let before := if isNumbered then numberText number else []
    let text := before ++ marking.shown c rest.head?
    showFrom marking { number, lineEnds := none } (text.reverse ++ out) rest

/-- Shows a text that follows others. -/
def «show» (marking : Marking) (marked : Marked) (text : ByteText) : ByteText × Marked :=
  let (out, marked) := marking.showFrom marked [] text
  (out.reverse, marked)

end Marking

namespace Program

/-- The operand leads to the file to which the output goes, and there is something left in it. -/
def isOutput (s : State) (path : ByteText) : Bool :=
  match s.opening? 1 with
  | some (_, { source := .file place, .. }) =>
    let left := (s.contents place).length
    if isInput path then
      match s.opening? 0 with
      | some (_, { source := .file other, offset, .. }) => other = place && offset < left
      | _ => false
    else
      match s.files.stat (pathOf path) with
      | .ok (other, _) => other = place && 0 < left
      | .error _ => false
  | _ => false

/-- Shows texts one after another. -/
def cat (call : Call) : Program := do
  let marking := Marking.ofCall call
  let mut marked : Marked := {}
  let mut status := 0
  let mut isClosed := false
  for path in orInput call.operands do
    if isOutput (← get) path then
      grumble (nameInMessage path ++ ": input file is output file".toList)
      status := 1
    else
      match ← readOperand 0 path with
      | .ok text =>
        let (shown, after) := if marking = {} then (text, marked) else marking.show marked text
        marked := after
        status := max status (← finishAs "standard output" shown 0)
      | .error fault =>
        grumble (nameInMessage path ++ ": ".toList ++ operandReason fault)
        status := 1
        isClosed := isClosed || fault = .zeroInArgument
  if isClosed then grumble "closing standard input: Bad file descriptor".toList
  return status

/-! ## Beginnings and ends -/

/-- How much of a text `head` or `tail` shows: lines or bytes, how many, and from which end. -/
structure Extract where
  bytes : Bool := false
  count : Nat := 10
  /-- The sign before the number. -/
  sign : Option Char := none

namespace Extract

/-- The number with its sign that a value gives. -/
def ofValue? (bytes : Bool) (value : ByteText) : Option Extract :=
  match value with
  | '-' :: digits => (amount? digits).map ({ bytes, count := ·, sign := some '-' })
  | '+' :: digits => (amount? digits).map ({ bytes, count := ·, sign := some '+' })
  | digits => (amount? digits).map ({ bytes, count := · })

/-- What the options of a call ask for, of which the last counts, or the value that is no number. -/
def ofOptions (extract : Extract) : List (Char × ByteText) → Except (Bool × ByteText) Extract
  | [] => .ok extract
  | (letter, value) :: rest =>
    if letter = 'n' || letter = 'c' then
      match ofValue? (letter == 'c') value with
      | some extract => ofOptions extract rest
      | none => .error (letter == 'c', value)
    else ofOptions extract rest

/-- The first so many lines or bytes of a text, or all but so many of the last. -/
def first (extract : Extract) (text : ByteText) : ByteText :=
  let n : Int := if extract.sign == some '-' then -(extract.count : Int) else extract.count
  if extract.bytes then firstBytes n text else firstLines n text

/-- The last so many lines or bytes of a text, or all from a given one on. -/
def last (extract : Extract) (text : ByteText) : ByteText :=
  let fromStart := extract.sign == some '+'
  if extract.bytes then lastBytes fromStart extract.count text
  else lastLines fromStart extract.count text

end Extract

/-- The arguments of `head` and `tail`, in which a number may stand as an option of its own. -/
def numberAsOption : List ByteText → List ByteText
  | ('-' :: d :: n) :: rest =>
    if (d :: n).all Char.isDigit then ['-', 'n'] :: (d :: n) :: rest else ('-' :: d :: n) :: rest
  | args => args

/-- What `head` and `tail` call an operand. -/
def titleOf (path : ByteText) : ByteText :=
  if path == ['-'] then "standard input".toList else path

/-- The input is a file. -/
def isFileInput (s : State) : Bool :=
  match s.opening? 0 with
  | some (_, { source := .file _, .. }) => true
  | _ => false

/-- Shows the beginnings or the ends of texts. What is not shown of the input is left there if
`leaves` holds, unless it had to be read to find the ends of lines. -/
def extracts (call : Call) (leaves : Bool) (chosen : Extract → ByteText → ByteText) : Program := do
  match Extract.ofOptions {} call.options with
  | .error (bytes, value) =>
    refuse ("invalid number of ".toList ++ (if bytes then "bytes" else "lines").toList ++ ": ".toList ++
      quotedWord value) 1
  | .ok extract =>
    let operands := orInput call.operands
    let titled :=
      match call.last? ['q', 'v'] with
      | some letter => letter == 'v'
      | none => 1 < operands.length
    let mut shown : ByteText := []
    let mut status := 0
    for path in operands do
      let title := if titled then
        (if shown.isEmpty then [] else ['\n']) ++ "==> ".toList ++ titleOf path ++ " <==\n".toList
        else []
      let input ← if isInput path then inputLeft extract.count else readOperand extract.count path
      match input with
      | .ok text =>
        let part := chosen extract text
        if isInput path then
          let isLeft := leaves && extract.sign != some '-' && (extract.bytes || isFileInput (← get))
          modify fun s => s.passOver 0 (if isLeft then part.length else text.length)
        shown := shown ++ title ++ part
      | .error .isDirectory =>
        shown := shown ++ title
        grumble ("error reading ".toList ++ quotedName (titleOf path) ++ ": Is a directory".toList)
        status := 1
      | .error fault =>
        grumble ("cannot open ".toList ++ quotedName (titleOf path) ++ " for reading: ".toList ++
          operandReason fault)
        status := 1
    finish shown status

/-- Shows the beginnings of texts. -/
def head (call : Call) : Program :=
  extracts call true Extract.first

/-- Shows the ends of texts. -/
def tail (call : Call) : Program :=
  extracts call false Extract.last

/-- Shows the lines of texts in reverse. -/
def tac (operands : List ByteText) : Program := do
  let (texts, status) ← readAll operands
  finish (texts.flatMap fun text => (linesIn text).reverse.flatten) status

/-- Shows lines with their bytes in reverse. -/
def rev (operands : List ByteText) : Program := do
  let (texts, status) ← readAll operands
  let shown := texts.flatMap fun text =>
    (linesIn text).flatMap fun line => (withoutEnd line).reverse ++ line.drop (withoutEnd line).length
  finish shown status

/-! ## Sizes -/

/-- How much of everything there is in a text. -/
structure Sizes where
  lines : Nat := 0
  words : Nat := 0
  bytes : Nat := 0
  /-- The width of the widest line. -/
  width : Nat := 0

namespace Sizes

/-- The sizes of a text. -/
def ofText (text : ByteText) : Sizes :=
  { lines := text.count '\n'
    words := wordCount false 0 text
    bytes := text.length
    width := widest 0 0 text }

/-- The sizes of two texts together. -/
def add (a b : Sizes) : Sizes :=
  { lines := a.lines + b.lines
    words := a.words + b.words
    bytes := a.bytes + b.bytes
    width := max a.width b.width }

/-- The sizes that a call asks for. -/
def asked (sizes : Sizes) (call : Call) : List Nat :=
  let all := call.options.isEmpty
  (if all || call.has 'l' then [sizes.lines] else []) ++
    (if all || call.has 'w' then [sizes.words] else []) ++
    (if call.has 'm' then [sizes.bytes] else []) ++
    (if all || call.has 'c' then [sizes.bytes] else []) ++
    (if call.has 'L' then [sizes.width] else [])

end Sizes

/-- The size of the file behind an operand, or nothing where no file is behind it. -/
def fileSize? (s : State) (path : ByteText) : Option Nat :=
  if isInput path then
    match s.opening? 0 with
    | some (_, { source := .file place, .. }) => some (s.contents place).length
    | _ => none
  else
    match s.files.stat (pathOf path) with
    | .ok (_, .file contents _) => some contents.length
    | _ => none

/-- The operand leads to something. -/
def isThere (s : State) (path : ByteText) : Bool :=
  isInput path || (deviceNamed? path).isSome || s.files.doesExist (pathOf path)

/-- Counts lines, words and bytes. -/
def wc (call : Call) : Program := do
  let s ← get
  let operands := orInput call.operands
  let sizes := (operands.filter (isThere s)).map (fileSize? s)
  let single := operands.length = 1 && (Sizes.asked {} call).length = 1
  let total := (sizes.map fun size => size.getD 0).foldl (· + ·) 0
  let isPlain := sizes.all Option.isSome
  let width := if single || !operands.head?.any (isThere s) then 1
    else max (Nat.toDigits 10 total).length (if isPlain then 1 else 7)
  let row (sizes : Sizes) (name : ByteText) : ByteText :=
    [' '].intercalate ((sizes.asked call).map (padded width)) ++
      (if name.isEmpty then [] else ' ' :: name) ++ ['\n']
  let mut shown : ByteText := []
  let mut all : Sizes := {}
  let mut status := 0
  for path in operands do
    let name := if call.operands.isEmpty then [] else path
    match ← readOperand 0 path with
    | .ok text =>
      let sizes := Sizes.ofText text
      all := all.add sizes
      shown := shown ++ row sizes name
    | .error fault =>
      grumble (nameInMessage path ++ ": ".toList ++ operandReason fault)
      status := 1
      if fault = .isDirectory then shown := shown ++ row {} name
  if 1 < operands.length then shown := shown ++ row all "total".toList
  finish shown status

/-! ## Copies -/

/-- Copies the input to the output and into files. -/
def tee (call : Call) : Program := do
  match ← readInput 0 with
  | .error fault => refuse ("read error: ".toList ++ operandReason fault) 1
  | .ok text =>
    let mut status := 0
    for path in call.operands do
      let direction : Direction := if call.has 'a' then .append else .write true
      match (← get).openFile path direction with
      | .ok (n, s) =>
        match s.openings.lookup n with
        | some opening => set (s.writeOpening n opening text)
        | none => set s
      | .error fault =>
        grumble (nameInMessage path ++ ": ".toList ++ operandReason fault)
        status := 1
    finish text status

/-- How many bytes are shown of what has no end. -/
def endless : Nat := 1200000

/-- Shows a line over and over. -/
def yes (args : List ByteText) : Program :=
  let line := if args.isEmpty then ['y', '\n'] else [' '].intercalate args ++ ['\n']
  finish (List.replicate (endless / line.length + 1) line).flatten 0

end Program

end EngineTokens.Shell
