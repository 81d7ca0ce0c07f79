import EngineTokens.Shell.ByteSet
import EngineTokens.Shell.Columns
import EngineTokens.Shell.Filter
import EngineTokens.Shell.Order
import EngineTokens.Shell.Program.Basic

/-!
# Programs that change texts

These programs put lines in order, drop those that repeat others, keep some columns of each, or
exchange single bytes.
-/

set_option autoImplicit false

namespace EngineTokens.Shell

namespace Program

/-! ## Order -/

/-- How keys are compared after some letters were read. -/
def comparingOf (letters : List Char) : Comparing :=
  { numeric := letters.contains 'n' || letters.contains 'g'
    folded := letters.contains 'f'
    dictionary := letters.contains 'd'
    trimmed := letters.contains 'b'
    reversed := letters.contains 'r' }

/-- A place such as `2.3` in the text of a key, and the letters after it. -/
def keyPlace (text : ByteText) : KeyPlace × ByteText :=
  let fields := text.takeWhile Char.isDigit
  match text.drop fields.length with
  | '.' :: rest =>
    let bytes := rest.takeWhile Char.isDigit
    (⟨ofDigits 10 fields, ofDigits 10 bytes⟩, rest.drop bytes.length)
  | rest => (⟨ofDigits 10 fields, 0⟩, rest)

/-- Reads a key such as `2.3,4n`; `others` tells how it is compared if it does not tell so itself. -/
def keyOf (others : Comparing) (text : ByteText) : Key :=
  let (start, rest) := keyPlace text
  let letters := rest.takeWhile Char.isAlpha
  let (stop, letters) : Option KeyPlace × ByteText :=
    match rest.drop letters.length with
    | ',' :: rest =>
      let (stop, more) := keyPlace rest
      (some ⟨stop.fields - 1, stop.bytes⟩, letters ++ more)
    | _ => (none, letters)
  { start := ⟨start.fields - 1, start.bytes - 1⟩
    stop
    comparing := if letters.isEmpty then others else comparingOf letters }

/-- The order that a call asks for. -/
def sortingOf (call : Call) : Sorting :=
  let comparing := comparingOf (call.options.map Prod.fst)
  let keys := (call.options.filter fun (letter, _) => letter == 'k').map fun (_, text) =>
    keyOf comparing text
  { mark := (call.value? 't').bind fun text =>
      if text == ['\\', '0'] then some '\x00' else text.head?
    keys := if keys.isEmpty && comparing != { reversed := comparing.reversed } then [{ comparing }] else keys
    stable := call.has 's'
    reversed := comparing.reversed }

/-- The first line that is not in order after the one before it, with its number. -/
def disorder? (isInOrder : ByteText → ByteText → Bool) :
    (n : Nat) → List ByteText → Option (Nat × ByteText)
  | n, a :: b :: rest =>
    if isInOrder a b then disorder? isInOrder (n + 1) (b :: rest) else some (n + 1, b)
  | _, _ => none

/-- Puts lines in order. -/
def sort (call : Call) : Program := do
  let s ← get
  let operands := orInput call.operands
  match operands.find? fun path => !isInput path && !s.files.doesExist (pathOf path) with
  | some path =>
    let reason := match s.files.stat (pathOf path) with
      | .error fault => reasonOf fault
      | .ok _ => ""
    refuse ("cannot read: ".toList ++ nameInMessage path ++ ": ".toList ++ reason.toList) 2
  | none =>
    let mut lines : List ByteText := []
    for path in operands do
      match ← readOperand 0 path with
      | .ok text => lines := lines ++ bareLines text
      | .error fault =>
        return ← refuse ("read failed: ".toList ++ nameInMessage path ++ ": ".toList ++
          operandReason fault) 2
    let sorting := sortingOf call
    let isUnique := call.has 'u'
    let compare (a b : ByteText) : Ordering :=
      if isUnique && !sorting.keys.isEmpty then sorting.compareKeys a b else sorting.compare a b
    if call.has 'c' || call.has 'C' then
      let isInOrder (a b : ByteText) : Bool :=
        let order := compare a b
        order == .lt || (order == .eq && !isUnique)
      match disorder? isInOrder 1 lines with
      | none => return 0
      | some (n, line) =>
        if call.has 'c' then
          grumble (nameInMessage (operands.headD []) ++ ":".toList ++ Nat.toDigits 10 n ++
            ": disorder: ".toList ++ line)
        return 1
    else
      let sorted := lines.mergeSort fun a b => compare a b != .gt
      let kept := if isUnique then
        (groupsBy (fun a b => compare a b == .eq) sorted).filterMap List.head? else sorted
      match call.value? 'o' with
      | none => finish (ofLines kept) 0
      | some path =>
        match (← get).files.write (pathOf path) (toBytes (ofLines kept)) with
        | .ok files =>
          modify fun s => { s with files }
          return 0
        | .error fault =>
          refuse ("open failed: ".toList ++ nameInMessage path ++ ": ".toList ++ operandReason fault) 2

/-! ## Repeated lines -/

/-- What of a line counts when it is compared with the line before. -/
def comparedPart (call : Call) (line : ByteText) : ByteText :=
  let number (letter : Char) : Option Nat := (call.value? letter).map (ofDigits 10 ·)
  let size := Key.fieldsSize none false ((number 'f').getD 0) line
  let rest := (line.drop size).drop ((number 's').getD 0)
  let rest := match number 'w' with
    | some n => rest.take n
    | none => rest
  if call.has 'i' then rest.map Char.toLower else rest

/-- Drops lines that repeat the one before. -/
def uniq (call : Call) : Program := do
  let path := call.operands.headD ['-']
  match ← readOperand 0 path with
  | .error .isDirectory => refuse ("error reading ".toList ++ quotedName path ++ ": Is a directory".toList) 1
  | .error fault => refuse (nameInMessage path ++ ": ".toList ++ operandReason fault) 1
  | .ok text =>
    let isEqual (a b : ByteText) : Bool := comparedPart call a == comparedPart call b
    let chosen := (groupsBy isEqual (bareLines text)).filter fun lines =>
      (!(call.has 'd' || call.has 'D') || 1 < lines.length) && (!call.has 'u' || lines.length = 1)
    let shown := chosen.flatMap fun lines =>
      let first := lines.headD []
      if call.has 'D' then ofLines lines
      else if call.has 'c' then padded 7 lines.length ++ ' ' :: first ++ ['\n']
      else first ++ ['\n']
    match call.operands[1]? with
    | none | some ['-'] => finish shown 0
    | some path =>
      match (← get).files.write (pathOf path) (toBytes shown) with
      | .ok files =>
        modify fun s => { s with files }
        return 0
      | .error fault => refuse (nameInMessage path ++ ": ".toList ++ operandReason fault) 1

/-! ## Columns -/

/-- Shows some columns of lines. -/
def cut (call : Call) : Program := do
  let lists := call.options.filter fun (letter, _) => ['b', 'c', 'f'].contains letter
  let mark := call.value? 'd'
  match lists with
  | [] => refuseCall "you must specify a list of bytes, characters, or fields".toList 1
  | _ :: _ :: _ => refuseCall "only one list may be specified".toList 1
  | [(letter, list)] =>
    let fields := letter == 'f'
    let problem : Option String :=
      if mark.any fun mark => 1 < mark.length then some "the delimiter must be a single character"
      else if mark.isSome && !fields then
        some "an input delimiter may be specified only\n\twhen operating on fields"
      else if call.has 's' && !fields then
        some "suppressing non-delimited lines makes sense\n\tonly when operating on fields"
      else none
    match problem, Range.ofList (list.length + 1) list with
    | some problem, _ => refuseCall problem.toList 1
    | none, .error trouble => refuseCall (trouble.message fields) 1
    | none, .ok ranges =>
      let (texts, status) ← readAll call.operands
      let lines := texts.flatMap bareLines
      let mark := (mark.getD ['\t']).headD '\x00'
      let shown :=
        if fields then lines.filterMap (fieldsOf? mark ranges (call.has 's'))
        else lines.map (chosenFrom ranges)
      finish (ofLines shown) status

/-! ## Bytes -/

/-- What is wrong with the number of sets in a call of `tr`, and what is told besides. -/
def setsTrouble? (call : Call) : Option (ByteText × String) :=
  let deletes := call.has 'd'
  let squeezes := call.has 's'
  let least := if deletes == squeezes then 2 else 1
  let most := if deletes && !squeezes then 1 else 2
  let sets := call.operands
  if sets.length < least then
    some ("missing operand after ".toList ++ quotedWord (sets.getLastD []),
      if squeezes then "Two strings must be given when both deleting and squeezing repeats.\n"
      else "Two strings must be given when translating.\n")
  else if most < sets.length then
    some ("extra operand ".toList ++ quotedWord ((sets[most]?).getD []),
      if sets.length = 2 then
        "Only one string may be given when deleting without squeezing repeats.\n"
      else "")
  else none

/-- Exchanges or drops bytes. -/
def tr (call : Call) : Program := do
  match setsTrouble? call with
  | some (trouble, more) =>
    grumble trouble
    modify fun s => s.tell (more.toList ++ Usage.hint s.called)
    return 1
  | none =>
    match call.operands.mapM ByteSet.read with
    | .error trouble => refuse trouble 1
    | .ok sets =>
      let first := ByteSet.bytes (sets.headD []) 0
      let first := if call.has 'c' || call.has 'C' then
        ByteSet.all.filter fun c => !first.contains c else first
      let second := ByteSet.bytes ((sets.drop 1).headD []) first.length
      let isExchange := 1 < sets.length && !call.has 'd'
      if isExchange && second.isEmpty && !first.isEmpty && !call.has 't' then
        refuse "when not truncating set1, string2 must be non-empty".toList 1
      else
        match ← readInput 0 with
        | .error fault => refuse ("read error: ".toList ++ operandReason fault) 1
        | .ok text =>
          let kept := if call.has 'd' then text.filter fun c => !first.contains c else text
          let first := if call.has 't' then first.take second.length else first
          let table := (ByteSet.all.map (exchanged first second)).toArray
          let changed := if isExchange then kept.map fun c => (table[c.toNat]?).getD c else kept
          let shown :=
            if call.has 's' then squeezed (if sets.length = 1 then first else second) changed else changed
          finish shown 0

end Program

end EngineTokens.Shell
