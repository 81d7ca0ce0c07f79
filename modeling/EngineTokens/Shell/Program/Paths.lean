import EngineTokens.Shell.Program.Basic

/-!
# Programs that work on files

These programs make, copy, move, remove and list files and directories, mark them as executable, and
take paths apart. Where several operands are given, one that is refused is told of and the others
are seen to.
-/

set_option autoImplicit false

namespace EngineTokens.Shell

namespace Program

/-- What is said about one operand, and the status that it leads to. -/
abbrev Outcome := StateM State (ByteText × Nat)

/-- Tells that something cannot be done to an operand. -/
def refused (trouble : ByteText) (reason : ByteText) : Outcome := do
  grumble (trouble ++ (if reason.isEmpty then [] else ": ".toList) ++ reason)
  return ([], 1)

/-- Puts the files in the place of those at hand, and says something if that is asked for. -/
def done (call : Call) (files : Files) (said : ByteText) : Outcome := do
  modify fun s => { s with files }
  return (if call.has 'v' then said ++ ['\n'] else [], 0)

/-- How a refusal is told. -/
def reason (fault : Fault) : ByteText :=
  (reasonOf fault).toList

/-! ## Paths as texts -/

/-- The path without slashes at its end. -/
def withoutSlashes (path : ByteText) : ByteText :=
  (path.reverse.dropWhile (· == '/')).reverse

/-- The last component of a path. -/
def lastName (path : ByteText) : ByteText :=
  let trimmed := withoutSlashes path
  if trimmed.isEmpty then path.take 1
  else (trimmed.reverse.takeWhile (· != '/')).reverse

/-- The name without an ending, unless it is nothing else. -/
def withoutEnding (ending name : ByteText) : ByteText :=
  if ending.isSuffixOf name && ending != name then name.take (name.length - ending.length) else name

/-- Shows the last components of paths, perhaps without an ending. -/
def basename (call : Call) : Program := do
  let mark := if call.has 'z' then '\x00' else '\n'
  let several := call.has 'a' || call.has 's'
  match call.operands with
  | [] => refuseCall "missing operand".toList 1
  | path :: rest =>
    if several then
      let ending := (call.value? 's').getD []
      finish (call.operands.flatMap fun path => withoutEnding ending (lastName path) ++ [mark]) 0
    else
      match rest[1]? with
      | some extra => refuseCall ("extra operand ".toList ++ quotedWord extra) 1
      | none => finish (withoutEnding (rest.headD []) (lastName path) ++ [mark]) 0

/-- The part of a path before its last component. -/
def directoryName (path : ByteText) : ByteText :=
  let trimmed := withoutSlashes path
  if trimmed.isEmpty then (if path.isEmpty then ['.'] else ['/'])
  else if trimmed.contains '/' then
    let before := withoutSlashes (trimmed.reverse.dropWhile (· != '/')).reverse
    if before.isEmpty then ['/'] else before
  else ['.']

/-- Shows the directories of paths. -/
def dirname (call : Call) : Program :=
  let mark := if call.has 'z' then '\x00' else '\n'
  finish (call.operands.flatMap fun path => directoryName path ++ [mark]) 0

/-- A path in a directory. -/
def under (directory name : ByteText) : ByteText :=
  if directory.getLast? == some '/' then directory ++ name else directory ++ '/' :: name

/-! ## Making and removing -/

/-- The paths of the directories that lead to a path, and the path itself. -/
def pathsTo (path : ByteText) : List ByteText :=
  let trimmed := withoutSlashes path
  let inner := (List.range trimmed.length).filter fun i =>
    0 < i && trimmed[i]? == some '/' && trimmed[i - 1]? != some '/'
  inner.map (trimmed.take ·) ++ [path]

/-- Makes a directory together with those that lead to it. -/
def makeParents (call : Call) (path : ByteText) : List ByteText → ByteText → Outcome
  | [], said => return (said, 0)
  | part :: rest, said => do
    let s ← get
    match s.files.makeDirectory (pathOf part) with
    | .ok files =>
      let (text, _) ← done call files (s.called ++ ": created directory ".toList ++ quotedName part)
      makeParents call path rest (said ++ text)
    | .error fault =>
      if s.files.isDirectory (pathOf part) then makeParents call path rest said
      else
        let (fault, part) :=
          if fault = .occupied && !rest.isEmpty then (Fault.notDirectory, part) else (fault, part)
        let (_, status) ← refused ("cannot create directory ".toList ++ quotedName part) (reason fault)
        return (said, status)

/-- Makes directories. -/
def mkdir (call : Call) : Program :=
  forEach call.operands fun path => do
    if call.has 'p' then makeParents call path (pathsTo path) []
    else
      let s ← get
      match s.files.makeDirectory (pathOf path) with
      | .ok files => done call files (s.called ++ ": created directory ".toList ++ quotedName path)
      | .error fault => refused ("cannot create directory ".toList ++ quotedName path) (reason fault)

/-- What is said as a directory and all in it are removed; `names` are paths of what is left to be
seen to. -/
def removalsIn (files : Files) : (depth : Nat) → Place → ByteText → ByteText
  | 0, _, _ => []
  | depth + 1, place, path =>
    let inside := (files.namesIn place).flatMap fun name =>
      let inner := under path (ofPath name)
      match files.entry? (place ++ [name]) with
      | some .directory => removalsIn files depth (place ++ [name]) inner
      | _ => "removed ".toList ++ quotedName inner ++ ['\n']
    inside ++ "removed directory ".toList ++ quotedName path ++ ['\n']

/-- Removes a file, and with `-r` a directory. -/
def rmOne (call : Call) (path : ByteText) : Outcome := do
  let s ← get
  let name := "cannot remove ".toList ++ quotedName path
  match s.files.find false (pathOf path) with
  | .ok (.entry place .directory) =>
    let isEmpty := (s.files.namesIn place).isEmpty
    if !(call.has 'r' || call.has 'R') && !(call.has 'd' && isEmpty) then
      refused name (if call.has 'd' then "Directory not empty".toList else reason .isDirectory)
    else if ([".", ".."].map String.toList).contains (lastName path) then
      refused ("refusing to remove \x27.\x27 or \x27..\x27 directory: skipping ".toList ++
        quotedName path) []
    else
      let said := removalsIn s.files (s.files.entries.length + 1) place path
      done call (s.files.remove (pathOf path)) said.dropLast
  | .ok (.entry _ _) =>
    done call (s.files.remove (pathOf path)) ("removed ".toList ++ quotedName path)
  | .ok (.vacant _) | .error .missing =>
    if call.has 'f' then return ([], 0) else refused name (reason .missing)
  | .error .notDirectory =>
    if call.has 'f' then return ([], 0) else refused name (reason .notDirectory)
  | .error fault => refused name (reason fault)

/-- Removes files, and with `-r` directories. -/
def rm (call : Call) : Program :=
  if call.operands.isEmpty && !call.has 'f' then refuseCall "missing operand".toList 1
  else forEach call.operands (rmOne call)

/-- Removes an empty directory. -/
def rmdirOne (call : Call) (path : ByteText) : Outcome := do
  let s ← get
  let said := s.called ++ ": removing directory, ".toList ++ quotedName path
  let said := if call.has 'v' then said ++ ['\n'] else []
  let failed (why : ByteText) : Outcome := do
    let (_, status) ← refused ("failed to remove ".toList ++ quotedName path) why
    return (said, status)
  match s.files.find false (pathOf path) with
  | .ok (.entry place .directory) =>
    if lastName path == ['.'] then failed "Invalid argument".toList
    else if !(s.files.namesIn place).isEmpty || lastName path == ['.', '.'] then
      if call.has 'e' then return (said, 0) else failed "Directory not empty".toList
    else
      set { s with files := s.files.remove (pathOf path) }
      return (said, 0)
  | .ok (.entry _ _) => failed (reason .notDirectory)
  | .ok (.vacant _) => failed (reason .missing)
  | .error fault => failed (reason fault)

/-- Removes empty directories, and with `-p` those that lead to them. -/
def rmdir (call : Call) : Program :=
  let operands := call.operands.flatMap fun path =>
    if call.has 'p' then (pathsTo path).reverse else [path]
  forEach operands (rmdirOne call)

/-- Makes empty files where there are none. -/
def touch (call : Call) : Program :=
  forEach call.operands fun path => do
    let s ← get
    if s.files.doesExist (pathOf path) || call.has 'c' || (deviceNamed? path).isSome then return ([], 0)
    else
      match s.files.write (pathOf path) [] with
      | .ok files =>
        set { s with files }
        return ([], 0)
      | .error .isDirectory =>
        refused ("cannot touch ".toList ++ quotedName path) (reason .missing)
      | .error fault => refused ("cannot touch ".toList ++ quotedName path) (reason fault)

/-! ## Copying and moving -/

/-- The file system after the entry at a path was copied to a place, with all below it. -/
def copied (files : Files) (source place : Place) (entry : Entry) : Files :=
  match entry with
  | .directory =>
    let below := files.entries.filter fun (other, _) => source.isPrefixOf other && other != source
    let start := if (files.entry? place).isSome then files else files.put place .directory
    below.foldl (fun files (other, entry) =>
      let target := place ++ other.drop source.length
      match entry, files.entry? target with
      | .directory, some .directory => files
      | entry, _ => files.put target entry) start
  | entry => files.put place entry

/-- A transfer of a file or directory to a path. -/
structure Transfer where
  source : ByteText
  target : ByteText

/-- Where the sources of a call go, or what is wrong with its operands; the flag tells that it is
the call itself that is wrong. -/
def transfersOf (call : Call) (s : State) : Except (Bool × ByteText) (List Transfer) :=
  let into (directory : ByteText) (sources : List ByteText) : List Transfer :=
    sources.map fun source => ⟨source, under directory (lastName source)⟩
  let toDirectory (directory : ByteText) (sources : List ByteText) : Except (Bool × ByteText) (List Transfer) :=
    match s.files.stat (pathOf directory) with
    | .ok (_, .directory) => .ok (into directory sources)
    | .ok _ => .error (false, "target ".toList ++ quotedName directory ++ ": Not a directory".toList)
    | .error fault => .error (false, "target ".toList ++ quotedName directory ++ ": ".toList ++ reason fault)
  match call.value? 't', call.operands with
  | _, [] => .error (true, "missing file operand".toList)
  | some directory, sources => toDirectory directory sources
  | none, [source] =>
    .error (true, "missing destination file operand after ".toList ++ quotedName source)
  | none, operands =>
    let target := operands.getLastD []
    let sources := operands.dropLast
    if call.has 'T' then
      match operands with
      | [source, target] => .ok [⟨source, target⟩]
      | _ => .error (true, "extra operand ".toList ++ quotedName ((operands[2]?).getD []))
    else if s.files.isDirectory (pathOf target) then .ok (into target sources)
    else
      match sources with
      | [source] => .ok [⟨source, target⟩]
      | sources => toDirectory target sources

/-- Carries out the transfers that a call asks for. -/
def transferAll (call : Call) (act : Transfer → Outcome) : Program := do
  match transfersOf call (← get) with
  | .error (true, trouble) => refuseCall trouble 1
  | .error (false, trouble) => refuse trouble 1
  | .ok transfers =>
    let mut said : ByteText := []
    let mut status := 0
    for transfer in transfers do
      let (text, reached) ← act transfer
      said := said ++ text
      status := max status reached
    finish said status

/-- What is said of a transfer. -/
def Transfer.shown (transfer : Transfer) : ByteText :=
  quotedName transfer.source ++ " -> ".toList ++ quotedName transfer.target

/-- What is said as a directory and all in it are copied. -/
def copiesIn (files : Files) : (depth : Nat) → Place → Transfer → ByteText
  | 0, _, _ => []
  | depth + 1, place, transfer =>
    let inside := (files.namesIn place).flatMap fun name =>
      let inner : Transfer := ⟨under transfer.source (ofPath name), under transfer.target (ofPath name)⟩
      match files.entry? (place ++ [name]) with
      | some .directory => '\n' :: copiesIn files depth (place ++ [name]) inner
      | _ => '\n' :: inner.shown
    transfer.shown ++ inside

/-- Copies a file, and with `-r` a directory. -/
def cpOne (call : Call) (transfer : Transfer) : Outcome := do
  let s ← get
  let files := s.files
  let ⟨source, target⟩ := transfer
  let recursive := ['r', 'R', 'a'].any call.has
  let keepsLinks := (recursive || call.has 'P' || call.has 'd') && !call.has 'L'
  match files.find (!keepsLinks) (pathOf source) with
  | .error fault => refused ("cannot stat ".toList ++ quotedName source) (reason fault)
  | .ok (.vacant _) => refused ("cannot stat ".toList ++ quotedName source) (reason .missing)
  | .ok (.entry place entry) =>
    let isDirectory := entry == .directory
    if isDirectory && !recursive then
      refused ("-r not specified; omitting directory ".toList ++ quotedName source) []
    else
      match files.find (!keepsLinks) (pathOf target) with
      | .ok (.entry there old) =>
        if there = place then
          refused (quotedName source ++ " and ".toList ++ quotedName target ++
            " are the same file".toList) []
        else if call.has 'n' then return ([], 0)
        else if old == .directory && !isDirectory then
          refused ("cannot overwrite directory ".toList ++ quotedName target ++
            " with non-directory".toList) []
        else if old != .directory && isDirectory then
          refused ("cannot overwrite non-directory ".toList ++ quotedName target ++
            " with directory ".toList ++ quotedName source) []
        else
          let said := if isDirectory then copiesIn files (files.entries.length + 1) place transfer
            else transfer.shown
          let entry := match entry, old with
            | .file contents _, .file _ executable => .file contents executable
            | entry, _ => entry
          done call (copied files place there entry) said
      | .ok (.vacant there) =>
        if isDirectory then
          if place.isPrefixOf there then
            refused ("cannot copy a directory, ".toList ++ quotedName source ++ ", into itself, ".toList ++
              quotedName target) []
          else
            done call (copied files place there entry)
              (copiesIn files (files.entries.length + 1) place transfer)
        else
          match files.find false (pathOf target) with
          | .ok (.entry _ (.link _)) =>
            refused ("not writing through dangling symlink ".toList ++ quotedName target) []
          | _ => done call (copied files place there entry) transfer.shown
      | .error fault =>
        let what := if isDirectory then "cannot create directory " else "cannot create regular file "
        let fault := if !isDirectory && Path.endsWithSlash (pathOf target) && fault = .missing &&
          files.isDirectory (pathOf (directoryName target)) then Fault.notDirectory else fault
        if fault = .notDirectory && !Path.endsWithSlash (pathOf target) then
          refused ("failed to access ".toList ++ quotedName target) (reason fault)
        else refused (what.toList ++ quotedName target) (reason fault)

/-- Copies files, and with `-r` directories. -/
def cp (call : Call) : Program :=
  transferAll call (cpOne call)

/-- Moves a file or directory. -/
def mvOne (call : Call) (transfer : Transfer) : Outcome := do
  let s ← get
  let files := s.files
  let ⟨source, target⟩ := transfer
  match files.find false (pathOf source) with
  | .error fault => refused ("cannot stat ".toList ++ quotedName source) (reason fault)
  | .ok (.vacant _) => refused ("cannot stat ".toList ++ quotedName source) (reason .missing)
  | .ok (.entry place entry) =>
    let isDirectory := entry == .directory
    let move (there : Place) : Outcome :=
      let below := files.entries.filter fun (other, _) => place.isPrefixOf other && other != place
      let rest := files.entries.filter fun (other, _) =>
        !place.isPrefixOf other && !there.isPrefixOf other
      let moved := below.map fun (other, entry) => (there ++ other.drop place.length, entry)
      done call { files with entries := rest ++ (there, entry) :: moved }
        ("renamed ".toList ++ transfer.shown)
    match files.find false (pathOf target) with
    | .ok (.entry there old) =>
      if there = place then
        refused (quotedName source ++ " and ".toList ++ quotedName target ++
          " are the same file".toList) []
      else if call.has 'n' then return ([], 0)
      else if old == .directory && !isDirectory then
        refused ("cannot overwrite directory ".toList ++ quotedName target ++
          " with non-directory".toList) []
      else if old != .directory && isDirectory then
        refused ("cannot overwrite non-directory ".toList ++ quotedName target ++
          " with directory ".toList ++ quotedName source) []
      else if place.isPrefixOf there then
        refused ("cannot move ".toList ++ quotedName source ++ " to a subdirectory of itself, ".toList ++
          quotedName target) []
      else if isDirectory && !(files.namesIn there).isEmpty then
        refused ("cannot overwrite ".toList ++ quotedName target) "Directory not empty".toList
      else move there
    | .ok (.vacant there) =>
      if place.isPrefixOf there then
        refused ("cannot move ".toList ++ quotedName source ++ " to a subdirectory of itself, ".toList ++
          quotedName target) []
      else move there
    | .error fault =>
      let trimmed := withoutSlashes target
      match if isDirectory then files.find false (pathOf trimmed) else .error fault with
      | .ok (.vacant there) => move there
      | _ =>
        let fault := if !isDirectory && trimmed != target && fault = .missing &&
          files.isDirectory (pathOf (directoryName target)) then Fault.notDirectory else fault
        if fault = .notDirectory && trimmed == target then
          refused ("failed to access ".toList ++ quotedName target) (reason fault)
        else
          refused ("cannot move ".toList ++ quotedName source ++ " to ".toList ++ quotedName target)
            (reason fault)

/-- Moves files and directories. -/
def mv (call : Call) : Program :=
  transferAll call (mvOne call)

/-- Makes a link. -/
def lnOne (call : Call) (transfer : Transfer) : Outcome := do
  let s ← get
  let files := s.files
  let ⟨source, target⟩ := transfer
  let kind := if call.has 's' then "symbolic" else "hard"
  let failed (fault : Fault) : Outcome :=
    let arrow := if call.has 's' then [] else " => ".toList ++ quotedName source
    refused (("failed to create " ++ kind ++ " link ").toList ++ quotedName target ++
      if fault = .occupied then [] else arrow) (reason fault)
  let said := quotedName target ++ (if call.has 's' then " -> " else " => ").toList ++ quotedName source
  let cleared : Files :=
    match files.find false (pathOf target) with
    | .ok (.entry _ .directory) => files
    | .ok (.entry _ _) => if call.has 'f' then files.remove (pathOf target) else files
    | _ => files
  if call.has 's' then
    match cleared.makeLink (pathOf target) (pathOf source) with
    | .ok files => done call files said
    | .error fault => failed fault
  else
    match files.find (call.has 'L') (pathOf source) with
    | .ok (.entry _ .directory) =>
      refused (quotedName source ++ ": hard link not allowed for directory".toList) []
    | .ok (.entry _ entry) =>
      match cleared.find false (pathOf target) with
      | .ok (.vacant place) => done call (cleared.put place entry) said
      | .ok (.entry _ _) => failed .occupied
      | .error fault => failed fault
    | .ok (.vacant _) => refused ("failed to access ".toList ++ quotedName source) (reason .missing)
    | .error fault => refused ("failed to access ".toList ++ quotedName source) (reason fault)

/-- Makes links. -/
def ln (call : Call) : Program :=
  match call.operands with
  | [target] =>
    transferAll { call with operands := [target, ['.']] } (fun transfer =>
      lnOne call { transfer with target := transfer.target.drop 2 })
  | _ => transferAll call (lnOne call)

/-! ## Listing -/

/-- The mark behind the name of what stands at a place. -/
def kindMark (call : Call) (entry : Option Entry) : ByteText :=
  match entry with
  | some .directory => if call.has 'F' || call.has 'p' then ['/'] else []
  | some (.link _) => if call.has 'F' then ['@'] else []
  | some (.file _ true) => if call.has 'F' then ['*'] else []
  | _ => []

/-- Names in order. -/
def ordered (call : Call) (names : List (ByteText × ByteText)) : List (ByteText × ByteText) :=
  let sorted := if call.has 'U' || call.has 'f' then names
    else names.mergeSort fun a b => !(decide (b.1 < a.1))
  if call.has 'r' then sorted.reverse else sorted

/-- Names with their marks, one on a line. -/
def listed (names : List (ByteText × ByteText)) : ByteText :=
  names.flatMap fun (name, mark) => name ++ mark ++ ['\n']

/-- The lists of a directory and, where that is asked for, of those in it. -/
def listsOf (call : Call) (files : Files) : (depth : Nat) → Place → ByteText → List (ByteText × ByteText)
  | 0, _, _ => []
  | depth + 1, place, path =>
    let names := ((files.namesIn place).map ofPath).filter fun name =>
      name.head? != some '.' || call.has 'a' || call.has 'A' || call.has 'f'
    let marked := names.map fun name =>
      (name, kindMark call (files.entry? (place ++ [pathOf name])))
    let dots := if call.has 'a' || call.has 'f' then
      [".", ".."].map fun name => (name.toList, kindMark call (some .directory)) else []
    let entries := ordered call (dots ++ marked)
    let inner := if call.has 'R' then
      (entries.map Prod.fst).flatMap fun name =>
        if name == ['.'] || name == ['.', '.'] then []
        else
          match files.entry? (place ++ [pathOf name]) with
          | some .directory => listsOf call files depth (place ++ [pathOf name]) (under path name)
          | _ => []
      else []
    (path, listed entries) :: inner

/-- Lists directories, after what else is named. -/
def ls (call : Call) : Program := do
  let operands := if call.operands.isEmpty then [['.']] else call.operands
  let files := (← get).files
  let mut status := 0
  let mut named : List (ByteText × ByteText) := []
  let mut directories : List (ByteText × Place) := []
  for path in operands do
    if (deviceNamed? path).isSome then named := named ++ [(path, [])]
    else
      match files.stat (pathOf path), files.find false (pathOf path) with
      | .ok (place, .directory), _ =>
        if call.has 'd' then named := named ++ [(path, kindMark call (some .directory))]
        else directories := directories ++ [(path, place)]
      | _, .ok (.entry _ entry) => named := named ++ [(path, kindMark call (some entry))]
      | .error fault, _ =>
        grumble ("cannot access ".toList ++ quotedName path ++ ": ".toList ++ reason fault)
        status := 2
      | .ok (_, entry), _ => named := named ++ [(path, kindMark call (some entry))]
  let titled := 1 < operands.length || call.has 'R'
  let sorted := ordered call (directories.map fun (path, _) => (path, []))
  let lists := sorted.flatMap fun (path, _) =>
    match directories.lookup path with
    | some place => listsOf call files (files.entries.length + 1) place path
    | none => []
  let parts := lists.map fun (path, text) =>
    if titled then nameInMessage path ++ ":\n".toList ++ text else text
  let parts := if named.isEmpty then parts else listed (ordered call named) :: parts
  finish (['\n'].intercalate parts) status

/-! ## Modes -/

/-- What a mode in letters or digits makes of the mark of a file, if it is one. -/
def executableAfter? (mode : ByteText) (executable : Bool) : Option Bool :=
  let clause (executable : Bool) (text : ByteText) : Option Bool :=
    let who := text.takeWhile ['u', 'g', 'o', 'a'].contains
    match text.drop who.length with
    | sign :: letters =>
      if !(['+', '-', '='].contains sign) ||
          !letters.all ['r', 'w', 'x', 'X', 's', 't'].contains then none
      else
        let isMeant := letters.contains 'x' || (letters.contains 'X' && executable)
        let isWhole := who.isEmpty || who.contains 'a' || ['u', 'g', 'o'].all who.contains
        some (match sign with
          | '+' => executable || isMeant
          | '-' => executable && !(isMeant && isWhole)
          | _ => isMeant || (executable && !isWhole))
    | [] => none
  if mode.isEmpty then none
  else if mode.all Char.isDigit then
    if mode.all (isDigitIn 8) && ofDigits 8 mode ≤ 0o7777 then
      some (mode.reverse.take 3 |>.any fun c => (c.toNat - '0'.toNat) % 2 = 1)
    else none
  else (piecesAt ',' mode).foldl (fun mark text => mark.bind (clause · text)) (some executable)

/-- The word looks like an option of `chmod` but takes a right away. -/
def takesRights (word : ByteText) : Bool :=
  match word with
  | '-' :: c :: _ => ['r', 'w', 'x', 'X', 's', 't', 'u', 'g', 'o', 'a', ','].contains c
  | _ => false

/-- Marks files as executable or not. -/
def chmod (args : List ByteText) : Program := do
  let isOption (word : ByteText) : Bool := word.head? == some '-' && 1 < word.length && !takesRights word
  let unknown := args.filter fun word =>
    isOption word && !(["-R", "-v", "-c", "-f", "--"].map String.toList).contains word
  match unknown, args.filter fun word => !isOption word with
  | word :: _, _ =>
    refuseCall (if word.take 2 == ['-', '-'] then "unrecognized option \x27".toList ++ word ++ ['\x27']
      else "invalid option -- \x27".toList ++ (word.drop 1).take 1 ++ ['\x27']) 1
  | [], [] => refuseCall "missing operand".toList 1
  | [], [mode] => refuseCall ("missing operand after ".toList ++ quotedWord mode) 1
  | [], mode :: operands =>
    if (executableAfter? mode false).isNone then
      refuseCall ("invalid mode: ".toList ++ quotedWord mode) 1
    else
      forEach operands fun path => do
        let s ← get
        match s.files.stat (pathOf path) with
        | .ok (_, .file _ executable) =>
          match s.files.setExecutable (pathOf path) ((executableAfter? mode executable).getD false) with
          | .ok files =>
            set { s with files }
            return ([], 0)
          | .error fault => refused ("cannot access ".toList ++ quotedName path) (reason fault)
        | .ok _ => return ([], 0)
        | .error fault => refused ("cannot access ".toList ++ quotedName path) (reason fault)

/-! ## Links and places -/

/-- The place that a path leads to: its last name may be missing unless it has to be there. -/
def placeOf (s : State) (mustExist : Bool) (path : ByteText) : Except Fault ByteText :=
  match s.files.find true (pathOf path) with
  | .ok (.entry place _) => .ok (ofPath (Path.ofNames place))
  | .ok (.vacant place) => if mustExist then .error .missing else .ok (ofPath (Path.ofNames place))
  | .error fault => .error fault

/-- Shows the places that paths lead to; where only the last name is missing, the place is free. -/
def realpath (call : Call) : Program := do
  let s ← get
  let mut status := 0
  let mut shown : ByteText := []
  for path in call.operands do
    match placeOf s (call.has 'e') path with
    | .ok place => shown := shown ++ place ++ [if call.has 'z' then '\x00' else '\n']
    | .error fault =>
      if !call.has 'q' then grumble (nameInMessage path ++ ": ".toList ++ reason fault)
      status := 1
  finish shown status

/-- Shows where links lead: their targets, or with `-f` the places at the end. -/
def readlink (call : Call) : Program := do
  let s ← get
  let isWhole := call.has 'f' || call.has 'e'
  let mark := if call.has 'n' && call.operands.length = 1 then [] else [if call.has 'z' then '\x00' else '\n']
  let mut status := 0
  let mut shown : ByteText := []
  for path in call.operands do
    let found : Except Fault ByteText :=
      if isWhole then placeOf s (call.has 'e') path
      else
        match s.files.find false (pathOf path) with
        | .ok (.entry _ (.link target)) => .ok (ofPath target)
        | .ok (.entry _ _) => .error .zeroInArgument
        | .ok (.vacant _) => .error .missing
        | .error fault => .error fault
    match found with
    | .ok text => shown := shown ++ text ++ mark
    | .error fault =>
      if call.has 'v' then grumble (nameInMessage path ++ ": ".toList ++ reason fault)
      status := 1
  finish shown status

end Program

end EngineTokens.Shell
