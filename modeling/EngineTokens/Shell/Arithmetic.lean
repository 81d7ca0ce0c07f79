import EngineTokens.Shell.Numeral

/-!
# Arithmetic

Expressions over numbers of sixty-four bits with the operators of C, except those that count up or
down and the comma. A variable stands for the number its value reads as.

An expression is worked out while it is read, so the first fault on the way is the one that counts,
be it one of reading or of reckoning. What `&&`, `||` and `?` pass over is read without being worked
out. Assignments are gathered, so that a later part of the expression sees them.
-/

set_option autoImplicit false

namespace EngineTokens.Shell

/-- An operator between two numbers. -/
inductive Operator
  | or | xor | and
  | equal | unequal
  | less | atMost | greater | atLeast
  | shiftLeft | shiftRight
  | plus | minus
  | times | over | modulo
  deriving DecidableEq, Repr

/-- An operator before a number. -/
inductive Sign
  | minus | plus | not | complement
  deriving DecidableEq, Repr

/-- Why an expression has no value. -/
inductive Unsolved
  | expecting (what : String)
  | divisionByZero
  | notANumber (text : ByteText)
  | readOnly (name : ByteText)
  deriving DecidableEq, Repr

/-- The variables that an expression may name. -/
structure Naming where
  /-- The text of a variable, which is empty where it has none. -/
  text : ByteText → ByteText
  /-- The variable cannot be set. -/
  isReadOnly : ByteText → Bool

/-- One for a condition that holds, else zero. -/
def truthNumber (condition : Bool) : Int := if condition then 1 else 0

/-- The result of an operator. -/
def Operator.apply (operator : Operator) (a b : Int) : Except Unsolved Int :=
  match operator with
  | .or => .ok (wrap (Nat.lor (bitsOf a) (bitsOf b) : Nat))
  | .xor => .ok (wrap (Nat.xor (bitsOf a) (bitsOf b) : Nat))
  | .and => .ok (wrap (Nat.land (bitsOf a) (bitsOf b) : Nat))
  | .equal => .ok (truthNumber (a == b))
  | .unequal => .ok (truthNumber (a != b))
  | .less => .ok (truthNumber (a < b))
  | .atMost => .ok (truthNumber (a ≤ b))
  | .greater => .ok (truthNumber (b < a))
  | .atLeast => .ok (truthNumber (b ≤ a))
  | .shiftLeft => .ok (wrap (a * (Nat.pow 2 (bitsOf b % 64) : Nat)))
  | .shiftRight => .ok (Int.fdiv a (Nat.pow 2 (bitsOf b % 64) : Nat))
  | .plus => .ok (wrap (a + b))
  | .minus => .ok (wrap (a - b))
  | .times => .ok (wrap (a * b))
  | .over => if b = 0 then .error .divisionByZero else .ok (wrap (Int.tdiv a b))
  | .modulo => if b = 0 then .error .divisionByZero else .ok (Int.tmod a b)

/-- The result of an operator before a number. -/
def Sign.apply (n : Int) : Sign → Int
  | .minus => wrap (-n)
  | .plus => n
  | .not => truthNumber (n == 0)
  | .complement => -n - 1

/-- A piece of an expression. -/
inductive Term
  | number (n : Int)
  | named (name : ByteText)
  | sign (sign : String)
  deriving DecidableEq, Repr

namespace Arithmetic

/-- The signs of expressions, longer ones first. -/
def signs : List String :=
  ["<<=", ">>=", "<<", ">>", "<=", ">=", "==", "!=", "&&", "||", "+=", "-=", "*=", "/=", "%=", "&=",
    "|=", "^=", "<", ">", "=", "!", "&", "|", "^", "+", "-", "*", "/", "%", "~", "?", ":", "(", ")"]

/-- Cuts an expression into pieces; a byte that belongs to none is a sign of its own. -/
def terms : (fuel : Nat) → ByteText → List Term
  | 0, _ => []
  | fuel + 1, text =>
    match text with
    | [] => []
    | c :: rest =>
      if c == ' ' || c == '\t' || c == '\n' then terms fuel rest
      else if isNameStart c then
        .named (text.takeWhile isNameRest) :: terms fuel (text.dropWhile isNameRest)
      else
        match natural? none text with
        | some (n, rest) => .number (clamp (n : Int)) :: terms fuel rest
        | none =>
          match signs.find? fun sign => sign.toList.isPrefixOf text with
          | some sign => .sign sign :: terms fuel (text.drop sign.length)
          | none => .sign (String.ofList [c]) :: terms fuel rest

/-- The operator of a sign and how closely it binds. -/
def operator? : String → Option (Operator × Nat)
  | "|" => some (.or, 1)
  | "^" => some (.xor, 2)
  | "&" => some (.and, 3)
  | "==" => some (.equal, 4)
  | "!=" => some (.unequal, 4)
  | "<" => some (.less, 5)
  | "<=" => some (.atMost, 5)
  | ">" => some (.greater, 5)
  | ">=" => some (.atLeast, 5)
  | "<<" => some (.shiftLeft, 6)
  | ">>" => some (.shiftRight, 6)
  | "+" => some (.plus, 7)
  | "-" => some (.minus, 7)
  | "*" => some (.times, 8)
  | "/" => some (.over, 8)
  | "%" => some (.modulo, 8)
  | _ => none

/-- The operator of an assignment's sign, if it is one. -/
def assignment? : String → Option (Option Operator)
  | "=" => some none
  | "|=" => some (some .or)
  | "^=" => some (some .xor)
  | "&=" => some (some .and)
  | "<<=" => some (some .shiftLeft)
  | ">>=" => some (some .shiftRight)
  | "+=" => some (some .plus)
  | "-=" => some (some .minus)
  | "*=" => some (some .times)
  | "/=" => some (some .over)
  | "%=" => some (some .modulo)
  | _ => none

/-- The operator before a number. -/
def sign? : String → Option Sign
  | "-" => some .minus
  | "+" => some .plus
  | "!" => some .not
  | "~" => some .complement
  | _ => none

/-- The variables that have been assigned, latest first. -/
abbrev Assigned := List (ByteText × Int)

/-- Works on an expression. Assignments stand even where a fault comes after them. -/
abbrev Solving (α : Type) := ExceptT Unsolved (StateM Assigned) α

/-- The value of a variable: the number assigned to it, or the one that its text reads as. -/
def valueOf (naming : Naming) (name : ByteText) : Solving Int := do
  match (← get).lookup name with
  | some n => return n
  | none =>
    match wholeNumber? none (naming.text name) with
    | some n => return n
    | none => throw (.notANumber (naming.text name))

/-- Sets a variable to a number. -/
def assign (naming : Naming) (name : ByteText) (n : Int) : Solving Unit := do
  if naming.isReadOnly name then throw (.readOnly name)
  modify ((name, n) :: ·)

/-- The result of an operator; where it is not wanted, that of the right side will do. -/
def combine (live : Bool) (operator : Operator) (a b : Int) : Solving Int :=
  if live then
    match operator.apply a b with
    | .ok n => return n
    | .error fault => throw fault
  else return b

/-- The value of what was read, and the pieces after it. -/
abbrev Solved := Solving (Int × List Term)

mutual

/-- Works out a number, a variable, an expression in brackets, or one of these after signs. -/
def primary (naming : Naming) (live : Bool) : (fuel : Nat) → List Term → Solved
  | 0, _ => throw (.expecting "primary")
  | fuel + 1, pieces => do
    match pieces with
    | .number n :: rest => return (n, rest)
    | .named name :: rest => return (← if live then valueOf naming name else pure 1, rest)
    | .sign "(" :: rest =>
      match ← assigned naming live fuel rest with
      | (n, .sign ")" :: rest) => return (n, rest)
      | _ => throw (.expecting "')'")
    | .sign text :: rest =>
      match sign? text with
      | some sign =>
        let (n, rest) ← primary naming live fuel rest
        return (sign.apply n, rest)
      | none => throw (.expecting "primary")
    | [] => throw (.expecting "primary")

/-- Works out the operators that bind at least as closely as `level`, after their left side. -/
def binaryFrom (naming : Naming) (live : Bool) : (fuel : Nat) → (level : Nat) → Int → List Term → Solved
  | 0, _, left, rest => return (left, rest)
  | fuel + 1, level, left, pieces => do
    match pieces with
    | .sign text :: rest =>
      match operator? text with
      | some (operator, binding) =>
        if level ≤ binding then
          let (right, rest) ← primary naming live fuel rest
          let (right, rest) ← binaryFrom naming live fuel (binding + 1) right rest
          binaryFrom naming live fuel level (← combine live operator left right) rest
        else return (left, pieces)
      | none => return (left, pieces)
    | pieces => return (left, pieces)

/-- Works out what `&&` joins. -/
def joined (naming : Naming) (live : Bool) : (fuel : Nat) → List Term → Solved
  | 0, _ => throw (.expecting "primary")
  | fuel + 1, pieces => do
    let (left, rest) ← primary naming live fuel pieces
    let (left, rest) ← binaryFrom naming live fuel 1 left rest
    match rest with
    | .sign "&&" :: rest =>
      let (right, rest) ← joined naming (live && left != 0) fuel rest
      return (truthNumber (left != 0 && right != 0), rest)
    | rest => return (left, rest)

/-- Works out what `||` joins. -/
def alternatives (naming : Naming) (live : Bool) : (fuel : Nat) → List Term → Solved
  | 0, _ => throw (.expecting "primary")
  | fuel + 1, pieces => do
    let (left, rest) ← joined naming live fuel pieces
    match rest with
    | .sign "||" :: rest =>
      let (right, rest) ← alternatives naming (live && left == 0) fuel rest
      return (truthNumber (left != 0 || right != 0), rest)
    | rest => return (left, rest)

/-- Works out a choice between two expressions. -/
def choice (naming : Naming) (live : Bool) : (fuel : Nat) → List Term → Solved
  | 0, _ => throw (.expecting "primary")
  | fuel + 1, pieces => do
    let (condition, rest) ← alternatives naming live fuel pieces
    match rest with
    | .sign "?" :: rest =>
      match ← assigned naming (live && condition != 0) fuel rest with
      | (yes, .sign ":" :: rest) =>
        let (no, rest) ← choice naming (live && condition == 0) fuel rest
        return (if condition != 0 then yes else no, rest)
      | _ => throw (.expecting "':'")
    | rest => return (condition, rest)

/-- Works out an assignment or a choice. -/
def assigned (naming : Naming) (live : Bool) : (fuel : Nat) → List Term → Solved
  | 0, _ => throw (.expecting "primary")
  | fuel + 1, pieces => do
    match pieces with
    | .named name :: .sign text :: rest =>
      match assignment? text with
      | some operator =>
        let (n, rest) ← assigned naming live fuel rest
        if !live then return (n, rest)
        let n ← match operator with
          | some operator => combine true operator (← valueOf naming name) n
          | none => pure n
        assign naming name n
        return (n, rest)
      | none => choice naming live fuel pieces
    | pieces => choice naming live fuel pieces

end

/-- Works out a whole expression. -/
def whole (naming : Naming) (text : ByteText) : Solving Int := do
  let pieces := terms (text.length + 1) text
  match ← assigned naming true (8 * pieces.length + 8) pieces with
  | (n, []) => return n
  | _ => throw (.expecting "EOF")

/-- The value of an expression given as text, and the variables that it assigns, latest first. -/
def solve (naming : Naming) (text : ByteText) : Except Unsolved Int × Assigned :=
  (whole naming text).run.run []

end Arithmetic

end EngineTokens.Shell
