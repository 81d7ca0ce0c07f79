import EngineTokens.Shell.Machine
import EngineTokens.Shell.State

/-!
# Conditions

What `test` asks about texts, numbers and files. A condition is read from left to right: a word is
taken as an operator only where its neighbours allow it. With three words the one in the middle
comes first, and with four or fewer an outer pair of brackets and a leading `!` do.
-/

set_option autoImplicit false

namespace EngineTokens.Shell

/-- An operator of a condition. -/
inductive Asking
  /-- Something about the word that follows. -/
  | about (letter : Char)
  /-- Something about the words on both sides. -/
  | between (sign : String)
  | not
  | and
  | or
  | opening
  | closing
  deriving DecidableEq, Repr

/-- Why a condition cannot be answered, and the word up to which it was read. -/
structure Unclear where
  word : Option ByteText
  message : ByteText

/-- The operator that a word may be. -/
def asking? (word : ByteText) : Option Asking :=
  match String.ofList word with
  | "!" => some .not
  | "-a" => some .and
  | "-o" => some .or
  | "(" => some .opening
  | ")" => some .closing
  | text =>
    if ["=", "!=", "<", ">", "-eq", "-ne", "-gt", "-ge", "-lt", "-le", "-nt", "-ot", "-ef"].contains
      text then some (.between text)
    else
      match word with
      | ['-', letter] =>
        if "rwxefdcbpugkszntOGhLS".toList.contains letter then some (.about letter) else none
      | _ => none

/-- A word that is to be a number. -/
def numberIn (word : ByteText) : Except Unclear Int :=
  match wholeNumber? (some 10) word with
  | some n => .ok n
  | none => .error ⟨none, "Illegal number: ".toList ++ word⟩

/-- The answer about the entry at a path. -/
def answerAbout (s : State) (letter : Char) (word : ByteText) : Except Unclear Bool :=
  let path := pathOf word
  let named := String.ofList word
  let entry : Option Entry :=
    if ["/dev/null", "/dev/zero", "/dev/full", "/dev/stdin", "/dev/stdout", "/dev/stderr"].contains named then
      some (.file [] false)
    else if Machine.isProgram word then some (.file [0x7f] true)
    else (s.files.stat path).toOption.map Prod.snd
  let isDevice := ["/dev/null", "/dev/zero", "/dev/full"].contains named
  match letter with
  | 'z' => .ok word.isEmpty
  | 'n' => .ok !word.isEmpty
  | 't' => (numberIn word).map fun _ => false
  | 'e' | 'r' | 'w' | 'O' | 'G' => .ok entry.isSome
  | 'f' =>
    .ok (!isDevice && match entry with
      | some (.file _ _) => true
      | _ => false)
  | 'd' => .ok (entry == some .directory)
  | 'c' => .ok isDevice
  | 's' =>
    .ok (match entry with
      | some (.file contents _) => !contents.isEmpty
      | some .directory => true
      | _ => false)
  | 'x' =>
    .ok (match entry with
      | some (.file _ executable) => executable
      | some .directory => true
      | _ => false)
  | 'h' | 'L' =>
    .ok (match s.files.find false path with
      | .ok (.entry _ (.link _)) => true
      | _ => false)
  | _ => .ok false

/-- The answer about two words. -/
def answerBetween (s : State) (sign : String) (a b : ByteText) : Except Unclear Bool :=
  let numbers (holds : Int → Int → Bool) : Except Unclear Bool := do
    let n ← numberIn a
    return holds n (← numberIn b)
  match sign with
  | "=" => .ok (a == b)
  | "!=" => .ok (a != b)
  | "<" => .ok (decide (a < b))
  | ">" => .ok (decide (b < a))
  | "-eq" => numbers fun n m => n == m
  | "-ne" => numbers fun n m => n != m
  | "-gt" => numbers fun n m => m < n
  | "-ge" => numbers fun n m => m ≤ n
  | "-lt" => numbers fun n m => n < m
  | "-le" => numbers fun n m => n ≤ m
  | "-ef" =>
    .ok (match s.files.stat (pathOf a), s.files.stat (pathOf b) with
      | .ok (p, _), .ok (q, _) => p == q
      | _, _ => false)
  -- no file is known to be newer or older than another
  | _ => .ok false

/-- The first of some words is followed by an operator between it and another, or by nothing. -/
def isOperand : List ByteText → Bool
  | [] => true
  | [_] => false
  | sign :: _ :: _ =>
    match asking? sign with
    | some (.between _) => true
    | _ => false

/-- The operator that the first of some words is where it stands. -/
def leading? : List ByteText → Option Asking
  | [] => none
  | word :: rest =>
    match asking? word with
    | some (.about letter) => if isOperand rest then none else some (.about letter)
    | some .opening => if rest.isEmpty then none else some .opening
    | other => other

/-- An answer, and the words after those that were asked about. -/
abbrev Answer := Except Unclear (Bool × List ByteText)

mutual

/-- Answers a question without `-a` and `-o`. -/
def answerPrimary (s : State) : (fuel : Nat) → List ByteText → Answer
  | 0, words => .ok (false, words)
  | fuel + 1, words =>
    match words with
    | [] => .ok (false, [])
    | word :: rest =>
      match leading? words with
      | some .opening =>
        match rest with
        | [] => .ok (false, [])
        | next :: after =>
          if leading? (next :: after) = some .closing then .ok (false, after)
          else do
            let (answer, after) ← answerOr s fuel (next :: after)
            match after with
            | close :: after =>
              if asking? close = some .closing then return (answer, after)
              else throw ⟨none, "closing paren expected".toList⟩
            | [] => throw ⟨none, "closing paren expected".toList⟩
      | some (.about letter) =>
        match rest with
        | [] => .error ⟨some word, "argument expected".toList⟩
        | operand :: after => (answerAbout s letter operand).map fun answer => (answer, after)
      | _ =>
        match leading? rest, rest with
        | some (.between sign), _ :: second :: after =>
          (answerBetween s sign word second).map fun answer => (answer, after)
        | some (.between _), [sign] => .error ⟨some sign, "argument expected".toList⟩
        | _, rest => .ok (!word.isEmpty, rest)

/-- Answers a question that may be turned round. -/
def answerNot (s : State) : (fuel : Nat) → List ByteText → Answer
  | 0, words => .ok (false, words)
  | fuel + 1, words =>
    match leading? words, words with
    | some .not, _ :: rest =>
      if rest.isEmpty then .ok (true, [])
      else (answerNot s fuel rest).map fun (answer, rest) => (!answer, rest)
    | _, words => answerPrimary s fuel words

/-- Answers questions joined by `-a`. -/
def answerAnd (s : State) : (fuel : Nat) → List ByteText → Answer
  | 0, words => .ok (false, words)
  | fuel + 1, words => do
    let (answer, rest) ← answerNot s fuel words
    match leading? rest, rest with
    | some .and, _ :: more =>
      let (others, rest) ← answerAnd s fuel more
      return (answer && others, rest)
    | _, rest => return (answer, rest)

/-- Answers questions joined by `-o`. -/
def answerOr (s : State) : (fuel : Nat) → List ByteText → Answer
  | 0, words => .ok (false, words)
  | fuel + 1, words => do
    let (answer, rest) ← answerAnd s fuel words
    match leading? rest, rest with
    | some .or, _ :: more =>
      let (others, rest) ← answerOr s fuel more
      return (answer || others, rest)
    | _, rest => return (answer, rest)

end

/-- The answer to all the words, none of which may be left. -/
def answerAll (s : State) (words : List ByteText) : Except Unclear Bool := do
  let whole (answer : Answer) : Except Unclear Bool := do
    match ← answer with
    | (answer, []) => return answer
    | (_, rest) => throw ⟨words[words.length - rest.length - 1]?, "unexpected operator".toList⟩
  let general := whole (answerOr s (4 * words.length + 4) words)
  match words with
  | [a, sign, b] =>
    match asking? sign with
    | some (.between sign) => answerBetween s sign a b
    | _ => general
  | _ => general

/-- The answer to the words of a condition. -/
def answer (s : State) (words : List ByteText) : Except Unclear Bool := do
  match words with
  | [] => return false
  | [a, b, c] =>
    match asking? b with
    | some (.between sign) => answerBetween s sign a c
    | _ => outer a [b, c]
  | [a, b, c, d] => outer a [b, c, d]
  | words => answerAll s words
where
  /-- Takes an outer pair of brackets or a leading `!` off. -/
  outer (first : ByteText) (rest : List ByteText) : Except Unclear Bool := do
    if first == ['('] && rest.getLast? == some [')'] then answerAll s rest.dropLast
    else if first == ['!'] then return !(← answerAll s rest)
    else answerAll s (first :: rest)

end EngineTokens.Shell
