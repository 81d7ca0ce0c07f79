import EngineTokens.Shell.Pattern
import EngineTokens.Shell.Quoting

/-!
# Sets of bytes

Bytes in order, written as a text in which ranges such as `a-z`, classes such as `[:digit:]` and
runs such as `[x*3]` may stand. `ByteSet.read` reads such a text, and `ByteSet.bytes` gives its
bytes, where a run without a number is as long as another set needs it to be.
-/

set_option autoImplicit false

namespace EngineTokens.Shell

/-- A part of a set of bytes. -/
inductive SetItem
  | bytes (bytes : ByteText)
  | run (byte : Char) (count : Nat)
  /-- A run that is as long as it needs to be. -/
  | fill (byte : Char)
  deriving DecidableEq, Repr

/-- Bytes in order. -/
abbrev ByteSet := List SetItem

namespace ByteSet

/-- The bytes from one to another. -/
def between (first last : Char) : ByteText :=
  (List.range (last.toNat + 1 - first.toNat)).map fun i => Char.ofNat (first.toNat + i)

/-- All bytes in order. -/
def all : ByteText := (List.range 256).map Char.ofNat

/-- The bytes of a text in which a backslash may stand before a byte, each with the flag that it
stood after one. -/
def unescaped : (fuel : Nat) → ByteText → List (Char × Bool)
  | 0, _ => []
  | _, [] => []
  | fuel + 1, '\\' :: rest =>
    let digits := (rest.take 3).takeWhile fun c => '0' ≤ c && c ≤ '7'
    let digits := if 255 < ofDigits 8 digits then digits.take 2 else digits
    if !digits.isEmpty then
      (Char.ofNat (ofDigits 8 digits), true) :: unescaped fuel (rest.drop digits.length)
    else
      match rest with
      | [] => [('\\', false)]
      | c :: rest =>
        let named := [('a', '\x07'), ('b', '\x08'), ('f', '\x0c'), ('n', '\n'), ('r', '\r'),
          ('t', '\t'), ('v', '\x0b')]
        ((named.lookup c).getD c, true) :: unescaped fuel rest
  | fuel + 1, c :: rest => (c, false) :: unescaped fuel rest

/-- A byte as errors show it. -/
def shownByte (c : Char) : ByteText :=
  if Quoting.isPrintable c then [c] else Quoting.escape c

/-- The names of the classes. -/
def classNames : List String :=
  ["alnum", "alpha", "blank", "cntrl", "digit", "graph", "lower", "print", "punct", "space", "upper",
    "xdigit"]

/-- What stands between brackets with a sign on their inner sides, after the first sign. -/
def bracketed? (sign : Char) : List (Char × Bool) → Option (ByteText × List (Char × Bool))
  | (c, false) :: (']', false) :: rest => if c = sign then some ([], rest) else none
  | (c, _) :: rest => (bracketed? sign rest).map fun (text, rest) => (c :: text, rest)
  | [] => none

/-- A run after its bracket, such as `x*3]`. -/
def run? : List (Char × Bool) → Option (SetItem × List (Char × Bool))
  | (c, _) :: ('*', false) :: rest =>
    let digits := (rest.takeWhile fun (c, escaped) => c.isDigit && !escaped).map Prod.fst
    match rest.drop digits.length with
    | (']', false) :: rest =>
      let count := ofDigits (if digits.head? == some '0' then 8 else 10) digits
      some (if count = 0 then .fill c else .run c count, rest)
    | _ => none
  | _ => none

/-- Reads a set, or tells what is wrong with it. -/
def readFrom : (fuel : Nat) → List (Char × Bool) → Except ByteText ByteSet
  | 0, _ => .ok []
  | _, [] => .ok []
  | fuel + 1, ('[', false) :: (':', false) :: rest =>
    match bracketed? ':' rest with
    | some (name, after) =>
      if classNames.contains (String.ofList name) then
        (readFrom fuel after).map (.bytes (all.filter (Member.inClass name)) :: ·)
      else .error ("invalid character class ".toList ++ quotedWord name)
    | none => (readFrom fuel ((':', false) :: rest)).map (.bytes ['['] :: ·)
  | fuel + 1, ('[', false) :: ('=', false) :: rest =>
    match bracketed? '=' rest with
    | some ([c], after) => (readFrom fuel after).map (.bytes [c] :: ·)
    | some (_, _) | none => (readFrom fuel (('=', false) :: rest)).map (.bytes ['['] :: ·)
  | fuel + 1, (c, escaped) :: rest =>
    match if c = '[' && !escaped then run? rest else none with
    | some (item, after) => (readFrom fuel after).map (item :: ·)
    | none =>
      match rest with
      | ('-', false) :: (last, _) :: after =>
        if last < c then
          .error ("range-endpoints of \x27".toList ++ shownByte c ++ '-' :: shownByte last ++
            "\x27 are in reverse collating sequence order".toList)
        else (readFrom fuel after).map (.bytes (between c last) :: ·)
      | _ => (readFrom fuel rest).map (.bytes [c] :: ·)

/-- Reads a set, or tells what is wrong with it. -/
def read (text : ByteText) : Except ByteText ByteSet :=
  readFrom (text.length + 1) (unescaped (text.length + 1) text)

/-- The bytes of a set. A run without a number makes it as long as `size`. -/
def bytes (set : ByteSet) (size : Nat) : ByteText :=
  let fixed := (set.map fun
    | .bytes bytes => bytes.length
    | .run _ count => count
    | .fill _ => 0).foldl (· + ·) 0
  set.flatMap fun
    | .bytes bytes => bytes
    | .run byte count => List.replicate count byte
    | .fill byte => List.replicate (size - fixed) byte

end ByteSet

/-- The byte in whose place a byte is put: the one at its position in the second set, or the last of
that set. -/
def exchanged (from' to' : ByteText) (c : Char) : Char :=
  match (from'.reverse.findIdx? (· == c)).map fun i => from'.length - 1 - i with
  | some i => (to'[i]?).getD (to'.getLast?.getD c)
  | none => c

/-- A text in which runs of a byte of a set are one byte. -/
def squeezed (set : ByteText) (text : ByteText) : ByteText :=
  (text.foldl (fun (out : ByteText) c =>
    if out.head? == some c && set.contains c then out else c :: out) []).reverse

end EngineTokens.Shell
