import EngineTokens.Number.Double
import EngineTokens.Shell.Numeral

/-!
# What scripts print

The escapes of `echo` and the formats of `printf`. A format is gone over again as long as arguments
are left. An argument that should be a number and is none is complained about and counts as the
number at its beginning, or zero.
-/

set_option autoImplicit false

namespace EngineTokens.Shell

/-! ## Escapes -/

/-- The byte is an octal digit. -/
def isOctal (c : Char) : Bool := '0' ≤ c && c ≤ '7'

/-- The byte that a letter after a backslash stands for. -/
def letterEscape? : Char → Option Char
  | 'a' => some '\x07'
  | 'b' => some '\x08'
  | 'e' => some '\x1b'
  | 'f' => some '\x0c'
  | 'n' => some '\n'
  | 'r' => some '\r'
  | 't' => some '\t'
  | 'v' => some '\x0b'
  | '\\' => some '\\'
  | _ => none

/-- Reads the escape after a backslash, where `longZero` allows three digits after a zero. -/
def escape (longZero : Bool) (text : ByteText) : ByteText × ByteText :=
  match text with
  | [] => (['\\'], [])
  | c :: rest =>
    match letterEscape? c with
    | some e => ([e], rest)
    | none =>
      if isOctal c then
        let size := if longZero && c == '0' then 4 else 3
        let digits := (text.take size).takeWhile isOctal
        ([Char.ofNat (ofDigits 8 digits % 256)], text.drop digits.length)
      else (['\\'], text)

/-- Works out the escapes of a text; `gathered` holds what came before, the latest first. The flag
tells that `\c` ended the output. -/
def escapesFrom : (fuel : Nat) → (gathered : ByteText) → ByteText → ByteText × Bool
  | 0, gathered, _ => (gathered.reverse, false)
  | fuel + 1, gathered, text =>
    match text with
    | [] => (gathered.reverse, false)
    | '\\' :: 'c' :: _ => (gathered.reverse, true)
    | '\\' :: rest =>
      let (piece, rest) := escape true rest
      escapesFrom fuel (piece ++ gathered) rest
    | c :: rest => escapesFrom fuel (c :: gathered) rest

/-- Works out the escapes of a text. -/
def escapes (text : ByteText) : ByteText × Bool :=
  escapesFrom (text.length + 1) [] text

/-- What `echo` prints of its arguments. -/
def echo (args : List ByteText) : ByteText :=
  let (args, newline) : List ByteText × Bool :=
    match args with
    | ['-', 'n'] :: args => (args, false)
    | args => (args, true)
  let (text, ended) := escapes ([' '].intercalate args)
  if ended || !newline then text else text ++ ['\n']

/-! ## Numbers with a point -/

/-- A number that may have a point. -/
inductive Decimal
  | finite (negative : Bool) (num den : Nat)
  | infinite (negative : Bool)
  | undefined (negative : Bool)
  deriving DecidableEq, Repr

/-- A name of a number at the beginning of a text, in letters of either case. -/
def namedAt? (name : String) (text : ByteText) : Option ByteText :=
  if (text.take name.length).map Char.toLower = name.toList then some (text.drop name.length)
  else none

/-- The double nearest to a ratio, as a ratio, and whether doubles reach so far: beyond the greatest
they do not, nor below the least with all its digits, unless the ratio is a double itself. -/
def nearest (negative : Bool) (num den : Nat) : Decimal × Bool :=
  match Number.Double.ofRatio? negative num den with
  | some x =>
    let (n, d) := x.ratio
    let isTiny := num * Nat.pow 2 1076 < den * (Nat.pow 2 54 - 1)
    (.finite negative n d, n * den == num * d || !isTiny)
  | none => (.infinite negative, false)

/-- The exponent at the beginning of a text after a letter of either case, and what follows it. -/
def exponentAt (letter : Char) (text : ByteText) : Int × ByteText :=
  match text with
  | e :: rest =>
    if e.toLower = letter then
      let (negative, digits) := signOf rest
      match digits.takeWhile Char.isDigit with
      | [] => (0, text)
      | size =>
        let n : Int := min (ofDigits 10 size) 5000
        (if negative then -n else n, digits.drop size.length)
    else (0, text)
  | [] => (0, [])

/-- Digits in a base with a point among them, and what follows them: all digits, how many of them
stand after the point, and the rest. -/
def pointedAt (base : Nat) (text : ByteText) : ByteText × Nat × ByteText :=
  let whole := text.takeWhile (isDigitIn base)
  match text.drop whole.length with
  | '.' :: after =>
    let part := after.takeWhile (isDigitIn base)
    if whole.isEmpty && part.isEmpty then ([], 0, text)
    else (whole ++ part, part.length, after.drop part.length)
  | after => (whole, 0, after)

/-- What follows the details in brackets that may stand after the name of an undefined number. -/
def afterDetails (text : ByteText) : ByteText :=
  match text with
  | '(' :: inside =>
    match inside.dropWhile fun c => c.isAlphanum || c == '_' with
    | ')' :: rest => rest
    | _ => text
  | text => text

/-- A number with digits in base sixteen, after `0x`. -/
def hexadecimalAt? (negative : Bool) (text : ByteText) : Option ((Decimal × Bool) × ByteText) :=
  match pointedAt 16 text with
  | ([], _, _) => none
  | (digits, places, after) =>
    let (exponent, rest) := exponentAt 'p' after
    let power := exponent - 4 * (places : Int)
    some (nearest negative (ofDigits 16 digits * Nat.pow 2 power.toNat) (Nat.pow 2 (-power).toNat), rest)

/-- A number that may have a point at the beginning of a text, with a flag that tells whether
doubles reach so far, and what follows it. -/
def decimalAt (text : ByteText) : Option (Decimal × Bool) × ByteText :=
  let (negative, body) := signOf (text.dropWhile isSpace)
  match namedAt? "infinity" body, namedAt? "inf" body, namedAt? "nan" body with
  | some rest, _, _ | none, some rest, _ => (some (.infinite negative, true), rest)
  | none, none, some rest => (some (.undefined negative, true), afterDetails rest)
  | none, none, none =>
    let hexadecimal := match body with
      | '0' :: x :: rest => if x.toLower = 'x' then hexadecimalAt? negative rest else none
      | _ => none
    match hexadecimal with
    | some (n, rest) => (some n, rest)
    | none =>
      match pointedAt 10 body with
      | ([], _, _) => (none, text)
      | (digits, places, after) =>
        let (exponent, rest) := exponentAt 'e' after
        let power := exponent - (places : Int)
        (some (nearest negative (ofDigits 10 digits * Nat.pow 10 power.toNat)
          (Nat.pow 10 (-power).toNat)), rest)

/-- A quotient rounded to the nearest integer, and to the even one of two equally near. -/
def roundQuotient (num den : Nat) : Nat :=
  let q := num / den
  let twice := 2 * (num % den)
  if twice < den then q else if den < twice then q + 1 else q + q % 2

/-- Digits with a point before the last `places` of them. -/
def withPoint (point : Bool) (places : Nat) (digits : ByteText) : ByteText :=
  let digits := List.replicate (places + 1 - digits.length) '0' ++ digits
  let whole := digits.take (digits.length - places)
  if places = 0 && !point then whole else whole ++ '.' :: digits.drop whole.length

/-- A ratio with a fixed number of places. -/
def fixedText (point : Bool) (places num den : Nat) : ByteText :=
  withPoint point places (Nat.toDigits 10 (roundQuotient (num * Nat.pow 10 places) den))

/-- The power of ten of the first digit of a positive ratio. -/
def magnitudeOf (num den : Nat) : Int :=
  if den ≤ num then ((Nat.toDigits 10 (num / den)).length : Int) - 1
  else
    let zeros := (Nat.toDigits 10 (den / num)).length
    if den ≤ num * Nat.pow 10 (zeros - 1) then -((zeros : Int) - 1) else -(zeros : Int)

/-- The digits of a ratio with `places` after the first, and the power of ten of the first. -/
def scientific (places num den : Nat) : Nat × Int :=
  if num = 0 then (0, 0)
  else
    let power := magnitudeOf num den
    let shift := (places : Int) - power
    let digits := roundQuotient (num * Nat.pow 10 shift.toNat) (den * Nat.pow 10 (-shift).toNat)
    if digits = Nat.pow 10 (places + 1) then (digits / 10, power + 1) else (digits, power)

/-- The text of a power of ten, with two digits at least. -/
def powerText (power : Int) : ByteText :=
  let digits := Nat.toDigits 10 power.natAbs
  (if power < 0 then '-' else '+') :: (List.replicate (2 - digits.length) '0' ++ digits)

/-- A ratio with one digit before the point and a power of ten. -/
def scientificText (point : Bool) (places num den : Nat) : ByteText :=
  let (digits, power) := scientific places num den
  withPoint point places (Nat.toDigits 10 digits) ++ 'e' :: powerText power

/-- The text without zeros at the end of its places. -/
def stripPlaces (text : ByteText) : ByteText :=
  if text.contains '.' then
    let text := (text.reverse.dropWhile (· == '0')).reverse
    if text.getLast? == some '.' then text.dropLast else text
  else text

/-- A ratio with a number of digits, in the shorter of the two forms. -/
def shorterText (keep : Bool) (digits num den : Nat) : ByteText :=
  let digits := max digits 1
  let power := (scientific (digits - 1) num den).2
  if -4 ≤ power && power < (digits : Int) then
    let text := fixedText keep ((digits : Int) - 1 - power).toNat num den
    if keep then text else stripPlaces text
  else
    let text := scientificText keep (digits - 1) num den
    if keep then text
    else stripPlaces (text.takeWhile (· != 'e')) ++ text.dropWhile (· != 'e')

/-- A ratio in base sixteen, after `0x`: one digit before the point, which is one unless the number
is too small for it, and a power of two. Without a number of places there are as many as it takes. -/
def hexadecimalText (point : Bool) (places : Option Nat) (num den : Nat) : ByteText :=
  let power : Int := if num = 0 then 0 else max ((Nat.log2 num : Int) - Nat.log2 den) (-1022)
  let shift := 52 - power
  let digits := num * Nat.pow 2 shift.toNat / (den * Nat.pow 2 (-shift).toNat)
  let places' := places.getD 13
  let digits :=
    if places' ≤ 13 then roundQuotient digits (Nat.pow 16 (13 - places'))
    else digits * Nat.pow 16 (places' - 13)
  let text := withPoint point places' (Nat.toDigits 16 digits)
  let text := if places.isNone && !point then stripPlaces text
    else if places.isNone then (text.reverse.dropWhile (· == '0')).reverse
    else text
  text ++ 'p' :: (if power < 0 then '-' else '+') :: Nat.toDigits 10 power.natAbs

/-! ## Formats -/

/-- The form of one conversion of a format. -/
structure Conversion where
  flags : List Char
  width : Nat
  precision : Option Nat
  letter : Char
  /-- What stands after a star that is out of place. -/
  stray : Option ByteText := none
  deriving DecidableEq, Repr

namespace Conversion

/-- Fills a text up to the width with blanks. -/
def pad (c : Conversion) (text : ByteText) : ByteText :=
  let fill := List.replicate (c.width - text.length) ' '
  if c.flags.contains '-' then text ++ fill else fill ++ text

/-- The sign of a number. -/
def sign (c : Conversion) (negative : Bool) : ByteText :=
  if negative then ['-'] else if c.flags.contains '+' then ['+']
  else if c.flags.contains ' ' then [' '] else []

/-- Fills a number up to the width, with zeros after its sign if `zeros` holds and the flags ask for
them. -/
def padNumber (c : Conversion) (zeros : Bool) (sign digits : ByteText) : ByteText :=
  if zeros && c.flags.contains '0' && !c.flags.contains '-' then
    sign ++ List.replicate (c.width - (sign ++ digits).length) '0' ++ digits
  else c.pad (sign ++ digits)

/-- A whole number in a base, with the sign or the mark of the base before it. -/
def integer (c : Conversion) (base : Nat) (mark : ByteText) (n : Nat) : ByteText :=
  let digits := if n = 0 ∧ c.precision = some 0 then [] else Nat.toDigits base n
  let digits := List.replicate (c.precision.getD 0 - digits.length) '0' ++ digits
  let digits := if c.letter == 'X' then digits.map Char.toUpper else digits
  let digits :=
    if c.letter == 'o' && c.flags.contains '#' && digits.head? != some '0' then '0' :: digits
    else digits
  c.padNumber c.precision.isNone mark digits

/-- A number with a point. -/
def decimal (c : Conversion) (n : Decimal) : ByteText :=
  let keep := c.flags.contains '#'
  let upper := c.letter.isUpper
  let raised (text : ByteText) : ByteText := if upper then text.map Char.toUpper else text
  match n with
  | .infinite negative => c.padNumber false (c.sign negative) (raised "inf".toList)
  | .undefined negative => c.padNumber false (c.sign negative) (raised "nan".toList)
  | .finite negative num den =>
    let places := c.precision.getD 6
    let sign := c.sign negative
    match c.letter.toLower with
    | 'a' =>
      c.padNumber true (sign ++ raised ['0', 'x']) (raised (hexadecimalText keep c.precision num den))
    | 'f' => c.padNumber true sign (raised (fixedText keep places num den))
    | 'e' => c.padNumber true sign (raised (scientificText keep places num den))
    | _ => c.padNumber true sign (raised (shorterText keep places num den))

/-- The greatest width and precision. -/
def sizeLimit : Nat := 0x7fffffff

/-- No text can be made so wide. -/
def isTooWide (c : Conversion) : Bool :=
  sizeLimit < c.width || sizeLimit < c.precision.getD 0

/-- The conversion as it is shown where a star is out of place: up to the star in its plainest form,
and then as it stands. -/
def shownWith (c : Conversion) (after : ByteText) : ByteText :=
  let has (flag : Char) : Bool := c.flags.contains flag
  let flags := (if has '#' then ['#'] else []) ++
    (if has '+' then ['+'] else if has ' ' then [' '] else []) ++
    (if has '-' then ['-'] else if has '0' then ['0'] else [])
  let width := if c.width = 0 then [] else Nat.toDigits 10 c.width
  let precision := match c.precision with
    | some n => '.' :: Nat.toDigits 10 n
    | none => []
  let letters := if "diouxX".toList.contains c.letter then ['l', c.letter]
    else if c.letter = 'b' then ['s'] else [c.letter]
  '%' :: flags ++ width ++ precision ++ '*' :: after ++ letters

end Conversion

/-- A format at work. -/
structure Printing where
  args : List ByteText
  /-- What was printed, the latest first. -/
  out : List ByteText := []
  /-- What was complained about, the latest first. -/
  complaints : List ByteText := []
  /-- The status so far. -/
  status : Nat := 0
  /-- Nothing more is printed. -/
  ended : Bool := false

namespace Printing

/-- Prints a text. -/
def put (p : Printing) (text : ByteText) : Printing :=
  { p with out := text :: p.out }

/-- Complains without ending. -/
def complain (p : Printing) (text : ByteText) : Printing :=
  { p with complaints := text :: p.complaints, status := 1 }

/-- Ends with a complaint. -/
def fail (p : Printing) (text : ByteText) : Printing :=
  { p with complaints := text :: p.complaints, status := 2, ended := true }

/-- Takes the next argument, if there is one. -/
def next (p : Printing) : Option ByteText × Printing :=
  (p.args.head?, { p with args := p.args.drop 1 })

/-- Complains about an argument of which no number, or not all, was read. -/
def check (p : Printing) (arg rest : ByteText) (inRange : Bool) : Printing :=
  if rest ≠ [] then
    p.complain (arg ++ if rest = arg then ": expected numeric value".toList
      else ": not completely converted".toList)
  else if inRange then p
  else p.complain (arg ++ ": Numerical result out of range".toList)

/-- Takes an argument as a number; a quote stands for the number of the byte after it. -/
def nextNumber (p : Printing) (signed : Bool) : Int × Printing :=
  match p.next with
  | (none, p) => (0, p)
  | (some (quote :: rest), p) =>
    if quote = '"' || quote = '\x27' then (((rest.headD '\x00').toNat : Int), p)
    else
      let arg := quote :: rest
      let (n, rest) := integerAt none arg
      let n := n.getD 0
      if signed then (clamp n, p.check arg rest (clamp n == n))
      else if n.natAbs < wordSize then ((bitsOf n : Int), p.check arg rest true)
      else (((wordSize - 1 : Nat) : Int), p.check arg rest false)
  | (some [], p) => (0, p)

/-- Takes an argument as a number with a point. -/
def nextDecimal (p : Printing) : Decimal × Printing :=
  match p.next with
  | (none, p) | (some [], p) => (.finite false 0 1, p)
  | (some (quote :: rest), p) =>
    if quote = '"' || quote = '\x27' then (.finite false (rest.headD '\x00').toNat 1, p)
    else
      let arg := quote :: rest
      let (found, rest) := decimalAt arg
      let (n, isInRange) := found.getD (.finite false 0 1, true)
      (n, p.check arg rest isInRange)

/-- Prints what a conversion makes of an argument. -/
def emit (p : Printing) (c : Conversion) (text : Conversion → ByteText) : Printing :=
  match c.stray with
  | some after => p.put (c.shownWith after)
  | none => if c.isTooWide then p.fail "xvsnprintf failed".toList else p.put (text c)

/-- Carries out a conversion; `shown` is its text. -/
def convert (p : Printing) (shown : ByteText) (c : Conversion) : Printing :=
  let cut (c : Conversion) (text : ByteText) : ByteText :=
    match c.precision with
    | some size => text.take size
    | none => text
  match c.letter with
  | 's' =>
    let (arg, p) := p.next
    p.emit c fun c => c.pad (cut c (arg.getD []))
  | 'b' =>
    let (arg, p) := p.next
    let (text, ended) := escapes (arg.getD [])
    let p := p.emit c fun c => c.pad (cut c text)
    { p with ended := p.ended || ended }
  | 'c' =>
    let (arg, p) := p.next
    p.emit c fun c => c.pad [(arg.getD []).headD '\x00']
  | 'd' | 'i' =>
    let (n, p) := p.nextNumber true
    p.emit c fun c => c.integer 10 (c.sign (n < 0)) n.natAbs
  | 'u' =>
    let (n, p) := p.nextNumber false
    p.emit c fun c => c.integer 10 [] n.natAbs
  | 'o' =>
    let (n, p) := p.nextNumber false
    p.emit c fun c => c.integer 8 [] n.natAbs
  | 'x' | 'X' =>
    let (n, p) := p.nextNumber false
    let mark := if c.flags.contains '#' && n != 0 then ['0', c.letter] else []
    p.emit c fun c => c.integer 16 mark n.natAbs
  | 'a' | 'A' | 'e' | 'E' | 'f' | 'F' | 'g' | 'G' =>
    let (n, p) := p.nextDecimal
    p.emit c fun c => c.decimal n
  | _ => p.fail (shown ++ ": invalid directive".toList)

/-- A width or precision of a format. -/
structure Size where
  /-- The number, if there is one. -/
  number : Option Int := none
  /-- What stands after a star among its digits. -/
  stray : Option ByteText := none

/-- Takes the width or precision that stands in a format, or the argument that a star asks for, of
which the last thirty-two bits count. -/
def size (p : Printing) (format : ByteText) : Size × Printing × ByteText :=
  match format with
  | '*' :: rest =>
    let (n, p) := p.nextNumber true
    ({ number := some (Int.bmod n 0x100000000) }, p, rest)
  | format =>
    let field := format.takeWhile fun c => c.isDigit || c == '*'
    let digits := field.takeWhile Char.isDigit
    let number := if digits.isEmpty then none else some (ofDigits 10 digits : Int)
    let stray := if digits.length < field.length then some (field.drop (digits.length + 1)) else none
    ({ number, stray }, p, format.drop field.length)

/-- Carries out the conversion after a percent sign, and gives what follows it. -/
def conversion (p : Printing) (format : ByteText) : Printing × ByteText :=
  let isFlag (c : Char) : Bool := ['-', '+', ' ', '0', '#'].contains c
  let flags := format.takeWhile isFlag
  let (wide, p, afterWidth) := p.size (format.drop flags.length)
  let width := wide.number.getD 0
  let flags := if width < 0 then '-' :: flags else flags
  let (precise, p, rest) : Size × Printing × ByteText :=
    match afterWidth with
    | '.' :: rest =>
      let (precise, p, rest) := p.size rest
      ({ precise with number := some (precise.number.getD 0) }, p, rest)
    | rest => ({}, p, rest)
  match rest with
  | [] => (p.fail "missing format character".toList, [])
  | letter :: after =>
    let shown := '%' :: format.take (format.length - after.length)
    let precision := (precise.number.filter (0 ≤ ·)).map Int.toNat
    let stray := match wide.stray with
      | some text => some (text ++ afterWidth.take (afterWidth.length - rest.length))
      | none => precise.stray
    let precision := if wide.stray.isSome then none else precision
    (p.convert shown { flags, width := width.natAbs, precision, letter, stray }, after)

/-- Goes over a format once. -/
def pass (p : Printing) : (fuel : Nat) → ByteText → Printing
  | 0, _ => p
  | fuel + 1, format =>
    if p.ended then p
    else
      match format with
      | [] => p
      | '\\' :: rest =>
        let (piece, rest) := escape false rest
        pass (p.put piece) fuel rest
      | '%' :: '%' :: rest => pass (p.put ['%']) fuel rest
      | '%' :: rest =>
        let (p, rest) := p.conversion rest
        pass p fuel rest
      | c :: rest => pass (p.put [c]) fuel rest

/-- Goes over a format again as long as arguments are left and each pass takes some. -/
def passes (p : Printing) (format : ByteText) : (fuel : Nat) → Printing
  | 0 => p
  | fuel + 1 =>
    let after := p.pass (format.length + 1) format
    if after.ended || after.args = [] || after.args.length = p.args.length then after
    else passes after format fuel

end Printing

/-- What `printf` makes of a format and its arguments. -/
def printf (format : ByteText) (args : List ByteText) : Printing :=
  ({ args : Printing }).passes format (args.length + 1)

end EngineTokens.Shell
