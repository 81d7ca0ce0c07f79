import EngineTokens.Shell.Numeral
import EngineTokens.Shell.Quoting

/-!
# How programs are called

A program knows some options, each by a letter and perhaps by a longer name, and may need a number
of operands. Options stand before or among the operands and end at `--`; letters may share a word,
and the value of an option is the rest of its word or the word after it. A long name may be cut
short where only one begins so. `Usage.call` reads the words of a call, or tells what is wrong with
them.
-/

set_option autoImplicit false

namespace EngineTokens.Shell

/-- How a program is called. -/
structure Usage where
  /-- The letters of the options, with a colon after those that take a value. -/
  letters : String
  /-- The long names of options. -/
  names : List (String × Char) := []
  /-- Options may stand among the operands. -/
  mixed : Bool := true
  /-- How many operands there have to be. -/
  operands : Nat := 0
  /-- How many operands there may be. -/
  most : Option Nat := none
  /-- What the operands are called. -/
  noun : String := "operand"
  /-- The status after a wrong call. -/
  status : Nat := 1

/-- A call of a program, as it is meant. -/
structure Call where
  /-- The options in order, with their values. -/
  options : List (Char × ByteText) := []
  operands : List ByteText := []

namespace Call

/-- An option is given. -/
def has (call : Call) (letter : Char) : Bool :=
  call.options.any fun (other, _) => other == letter

/-- The value of an option, which is the last one given. -/
def value? (call : Call) (letter : Char) : Option ByteText :=
  call.options.reverse.lookup letter

/-- Which of some options is given last. -/
def last? (call : Call) (letters : List Char) : Option Char :=
  (call.options.reverse.map Prod.fst).find? letters.contains

end Call

namespace Usage

/-- The programs that watch how they are called. -/
def known : List (String × Usage) :=
  [("basename",
      { letters := "as:z", mixed := false
        names := [("multiple", 'a'), ("suffix", 's'), ("zero", 'z')] }),
    ("cat",
      { letters := "AbeEnstTuv"
        names := [("number-nonblank", 'b'), ("number", 'n'), ("squeeze-blank", 's'),
            ("show-nonprinting", 'v'), ("show-ends", 'E'), ("show-tabs", 'T'), ("show-all", 'A')] }),
    ("cp",
      { letters := "abdfiHlLnPprRst:S:TuvxZ", noun := "file operand"
        names := [("archive", 'a'), ("dereference", 'L'), ("force", 'f'), ("interactive", 'i'),
            ("link", 'l'), ("no-clobber", 'n'), ("no-dereference", 'P'), ("no-target-directory", 'T'),
            ("one-file-system", 'x'), ("recursive", 'R'), ("suffix", 'S'), ("symbolic-link", 's'),
            ("target-directory", 't'), ("update", 'u'), ("verbose", 'v')] }),
    ("cut",
      { letters := "b:c:d:f:nsz"
        names := [("bytes", 'b'), ("characters", 'c'), ("delimiter", 'd'), ("fields", 'f'),
            ("only-delimited", 's'), ("zero-terminated", 'z')] }),
    ("dirname", { letters := "z", operands := 1, names := [("zero", 'z')] }),
    ("env",
      { letters := "C:iS:u:v0", mixed := false, status := 125
        names := [("ignore-environment", 'i'), ("null", '0'), ("unset", 'u'), ("chdir", 'C'),
            ("split-string", 'S'), ("debug", 'v')] }),
    ("head",
      { letters := "c:n:qvz0123456789"
        names := [("bytes", 'c'), ("lines", 'n'), ("quiet", 'q'), ("silent", 'q'), ("verbose", 'v'),
            ("zero-terminated", 'z')] }),
    ("ln",
      { letters := "bdfFiLnPrsS:t:Tv", operands := 1, noun := "file operand"
        names := [("directory", 'd'), ("force", 'f'), ("interactive", 'i'), ("logical", 'L'),
            ("no-dereference", 'n'), ("no-target-directory", 'T'), ("physical", 'P'), ("relative", 'r'),
            ("suffix", 'S'), ("symbolic", 's'), ("target-directory", 't'), ("verbose", 'v')] }),
    ("ls",
      { letters := "abcdfghiklmnopqrstuvw:xABCDFGHI:LNQRST:UXZ1", status := 2
        names := [("all", 'a'), ("almost-all", 'A'), ("directory", 'd'), ("classify", 'F'),
            ("reverse", 'r'), ("recursive", 'R')] }),
    ("mkdir",
      { letters := "m:pvZ", operands := 1
        names := [("mode", 'm'), ("parents", 'p'), ("verbose", 'v')] }),
    ("mv",
      { letters := "bfinS:t:TuvZ", noun := "file operand"
        names := [("force", 'f'), ("interactive", 'i'), ("no-clobber", 'n'),
            ("no-target-directory", 'T'), ("suffix", 'S'), ("target-directory", 't'), ("update", 'u'),
            ("verbose", 'v')] }),
    ("printenv", { letters := "0", mixed := false, status := 2, names := [("null", '0')] }),
    ("readlink",
      { letters := "efmnqsvz", operands := 1
        names := [("canonicalize", 'f'), ("canonicalize-existing", 'e'), ("canonicalize-missing", 'm'),
            ("no-newline", 'n'), ("quiet", 'q'), ("silent", 's'), ("verbose", 'v'), ("zero", 'z')] }),
    ("realpath",
      { letters := "eLmPqsz", operands := 1
        names := [("canonicalize-existing", 'e'), ("canonicalize-missing", 'm'), ("logical", 'L'),
            ("physical", 'P'), ("quiet", 'q'), ("strip", 's'), ("no-symlinks", 's'), ("zero", 'z')] }),
    ("rm",
      { letters := "dfiIrRv"
        names := [("dir", 'd'), ("force", 'f'), ("recursive", 'r'), ("verbose", 'v')] }),
    ("rmdir",
      { letters := "pv", operands := 1
        names := [("ignore-fail-on-non-empty", 'e'), ("parents", 'p'), ("verbose", 'v')] }),
    ("sleep", { letters := "", operands := 1 }),
    ("sort",
      { letters := "bcCdfghik:mMno:rRsS:t:T:uVy:z", status := 2
        names := [("ignore-leading-blanks", 'b'), ("check", 'c'), ("dictionary-order", 'd'),
            ("ignore-case", 'f'), ("field-separator", 't'), ("general-numeric-sort", 'g'),
            ("ignore-nonprinting", 'i'), ("key", 'k'), ("merge", 'm'), ("month-sort", 'M'),
            ("numeric-sort", 'n'), ("human-numeric-sort", 'h'), ("version-sort", 'V'),
            ("random-sort", 'R'), ("output", 'o'), ("reverse", 'r'), ("stable", 's'),
            ("buffer-size", 'S'), ("temporary-directory", 'T'), ("unique", 'u'),
            ("zero-terminated", 'z')] }),
    ("tail",
      { letters := "c:Ffn:qs:vz0123456789"
        names := [("bytes", 'c'), ("lines", 'n'), ("quiet", 'q'), ("silent", 'q'), ("verbose", 'v'),
            ("sleep-interval", 's'), ("zero-terminated", 'z')] }),
    ("tee", { letters := "aip", names := [("append", 'a'), ("ignore-interrupts", 'i')] }),
    ("touch",
      { letters := "acd:fhmr:t:", operands := 1, noun := "file operand"
        names := [("no-create", 'c'), ("date", 'd'), ("no-dereference", 'h'), ("reference", 'r')] }),
    ("tr",
      { letters := "cCdst", mixed := false, operands := 1
        names := [("complement", 'c'), ("delete", 'd'), ("squeeze-repeats", 's'),
            ("truncate-set1", 't')] }),
    ("uniq",
      { letters := "cdDf:is:uw:z0123456789", most := some 2
        names := [("count", 'c'), ("repeated", 'd'), ("ignore-case", 'i'), ("unique", 'u'),
            ("skip-fields", 'f'), ("skip-chars", 's'), ("check-chars", 'w'), ("zero-terminated", 'z')] }),
    ("wc",
      { letters := "clLmw"
        names := [("bytes", 'c'), ("chars", 'm'), ("lines", 'l'), ("words", 'w'),
            ("max-line-length", 'L')] }),
    ("yes", { letters := "", mixed := false })]

/-- The option of a letter takes a value, if there is such an option. -/
def takesValue? (usage : Usage) (letter : Char) : Option Bool :=
  match usage.letters.toList.dropWhile (· != letter) with
  | [] => none
  | _ :: rest => if letter = ':' then none else some (rest.head? == some ':')

/-- Reads the letters of one word and the words after it: the options, and whether the next word is
a value of the last. -/
def lettered (usage : Usage) (next : Option ByteText) :
    List Char → Except ByteText (List (Char × ByteText) × Bool)
  | [] => .ok ([], false)
  | letter :: rest =>
    match usage.takesValue? letter with
    | none => .error ("invalid option -- \x27".toList ++ [letter, '\x27'])
    | some false => do
      let (options, takesNext) ← lettered usage next rest
      return ((letter, []) :: options, takesNext)
    | some true =>
      if !rest.isEmpty then .ok ([(letter, rest)], false)
      else
        match next with
        | some value => .ok ([(letter, value)], true)
        | none => .error ("option requires an argument -- \x27".toList ++ [letter, '\x27'])

/-- The long names that begin with a text, or the one that is the text. -/
def namesLike (usage : Usage) (text : ByteText) : List (String × Char) :=
  match usage.names.find? fun (name, _) => name.toList == text with
  | some name => [name]
  | none => usage.names.filter fun (name, _) => text.isPrefixOf name.toList

/-- Reads a word with the long name of an option: the option, and whether the next word is its
value. -/
def named (usage : Usage) (next : Option ByteText) (word : ByteText) :
    Except ByteText ((Char × ByteText) × Bool) :=
  let text := word.takeWhile (· != '=')
  let value := if text.length < word.length then some (word.drop (text.length + 1)) else none
  match usage.namesLike text with
  | [] => .error ("unrecognized option \x27--".toList ++ word ++ ['\x27'])
  | (name, letter) :: others =>
    if others.any fun (_, other) => other != letter then
      let shown := ((name, letter) :: others).flatMap fun (name, _) =>
        " \x27--".toList ++ name.toList ++ ['\x27']
      .error ("option \x27--".toList ++ word ++ "\x27 is ambiguous; possibilities:".toList ++ shown)
    else
      let option := "option \x27--".toList ++ name.toList
      match (usage.takesValue? letter).getD false, value, next with
      | true, some value, _ => .ok ((letter, value), false)
      | true, none, some value => .ok ((letter, value), true)
      | true, none, none => .error (option ++ "\x27 requires an argument".toList)
      | false, some _, _ => .error (option ++ "\x27 doesn\x27t allow an argument".toList)
      | false, none, _ => .ok ((letter, []), false)

/-- Reads the words of a call; the flag tells that the first of them is a value that has been read. -/
def read (usage : Usage) (isValue : Bool) : List ByteText → Except ByteText Call
  | [] => .ok {}
  | word :: rest =>
    if isValue then read usage false rest
    else
      match word with
      | ['-', '-'] => .ok { operands := rest }
      | '-' :: '-' :: name => do
        let (option, takesNext) ← usage.named rest.head? name
        let call ← read usage takesNext rest
        return { call with options := option :: call.options }
      | '-' :: c :: letters => do
        let (options, takesNext) ← usage.lettered rest.head? (c :: letters)
        let call ← read usage takesNext rest
        return { call with options := options ++ call.options }
      | operand =>
        if usage.mixed then do
          let call ← read usage false rest
          return { call with operands := operand :: call.operands }
        else .ok { operands := operand :: rest }

/-- Reads the words of a call, or tells what is wrong with them. -/
def call (usage : Usage) (args : List ByteText) : Except ByteText Call := do
  let call ← usage.read false args
  if call.operands.length < usage.operands then .error ("missing ".toList ++ usage.noun.toList)
  else
    match usage.most.bind fun most => call.operands[most]? with
    | some operand => .error ("extra operand ".toList ++ quotedWord operand)
    | none => return call

/-- Where more can be found out about a program. -/
def hint (called : ByteText) : ByteText :=
  "Try \x27".toList ++ called ++ " --help\x27 for more information.\n".toList

/-- What is told where one word seems to hold several. -/
def splittingHint (called : ByteText) : ByteText :=
  called ++ ": use -[v]S to pass options in shebang lines\n".toList

/-- The trouble is with a blank that was taken for an option. -/
def isOfBlank (trouble : ByteText) : Bool :=
  match trouble.reverse with
  | '\x27' :: c :: '\x27' :: _ => c == ' ' || c == '\t'
  | _ => false

/-- How the trouble with a call is told. -/
def told (called : ByteText) (trouble : ByteText) : ByteText :=
  called ++ ": ".toList ++ trouble ++ '\n' :: hint called

end Usage

/-- Cuts a text into words: blanks part them, quotes hold blanks together, and a backslash stands
for the byte after it or for a blank. The word in hand stands in reverse, if one was begun. -/
def wordsIn : (fuel : Nat) → (quote : Option Char) → (word : Option ByteText) → ByteText →
    List ByteText
  | 0, _, _, _ => []
  | _, _, word, [] => word.toList.map List.reverse
  | fuel + 1, none, word, c :: rest =>
    if [' ', '\t', '\n', '\x0b', '\x0c', '\r'].contains c then
      word.toList.map List.reverse ++ wordsIn fuel none none rest
    else if c = '\x27' || c = '"' then wordsIn fuel (some c) (some (word.getD [])) rest
    else if c = '#' && word.isNone then []
    else if c = '\\' then escaped fuel none (word.getD []) rest
    else wordsIn fuel none (some (c :: word.getD [])) rest
  | fuel + 1, some quote, word, c :: rest =>
    if c = quote then wordsIn fuel none word rest
    else if c = '\\' && quote = '"' then escaped fuel (some quote) (word.getD []) rest
    else wordsIn fuel (some quote) (some (c :: word.getD [])) rest
where
  /-- Goes on after a backslash. -/
  escaped (fuel : Nat) (quote : Option Char) (word : ByteText) : ByteText → List ByteText
    | [] => [word.reverse]
    | '_' :: rest =>
      if quote.isNone then word.reverse :: wordsIn fuel none none rest
      else wordsIn fuel quote (some (' ' :: word)) rest
    | 't' :: rest => wordsIn fuel quote (some ('\t' :: word)) rest
    | 'n' :: rest => wordsIn fuel quote (some ('\n' :: word)) rest
    | 'c' :: _ => [word.reverse]
    | c :: rest => wordsIn fuel quote (some (c :: word)) rest

/-- The arguments of `env`, with the words in the place of each option `-S`, which holds them in
one. -/
def splitting : List ByteText → List ByteText
  | ['-', 'u'] :: name :: rest => ['-', 'u'] :: name :: splitting rest
  | ['-', 'S'] :: text :: rest => wordsIn (text.length + 1) none none text ++ rest
  | ('-' :: 'S' :: text) :: rest => wordsIn (text.length + 1) none none text ++ rest
  | ['-', '-'] :: rest => ['-', '-'] :: rest
  | ('-' :: letters) :: rest => ('-' :: letters) :: splitting rest
  | rest => rest

/-- A number of seconds, minutes, hours or days, such as `0.5` or `2m`. -/
def isDuration (word : ByteText) : Bool :=
  let number :=
    match word.reverse with
    | unit :: rest => if ['s', 'm', 'h', 'd'].contains unit then rest.reverse else word
    | [] => []
  let whole := number.takeWhile Char.isDigit
  let fraction := number.drop whole.length
  match fraction with
  | [] => !whole.isEmpty
  | '.' :: digits => digits.all Char.isDigit && !(whole.isEmpty && digits.isEmpty)
  | _ => false

end EngineTokens.Shell
