import EngineTokens.Json.Numeral

/-!
# Reading JSON

A text is one value between blanks. Objects may repeat a key, where the last member counts, and
containers may be nested to a fixed depth.

Values that nobody asks for are passed over by `skip?`: their form is checked, but neither the size
of their numbers, nor their depth, nor the pairing of surrogates in their strings.
-/

set_option autoImplicit false

namespace EngineTokens.Json

/-- The four blank characters of JSON. -/
def isBlank (c : Char) : Bool :=
  c == ' ' || c == '\n' || c == '\t' || c == '\r'

/-- Drops the blanks at the head of a text. -/
def skipBlanks (text : List Char) : List Char :=
  text.dropWhile isBlank

/-- How deep containers may be nested. -/
def depthLimit : Nat := 127

/-- The value of a hexadecimal digit. -/
def hexDigit? (c : Char) : Option Nat :=
  if '0' ≤ c ∧ c ≤ '9' then some (c.toNat - '0'.toNat)
  else if 'a' ≤ c ∧ c ≤ 'f' then some (c.toNat - 'a'.toNat + 10)
  else if 'A' ≤ c ∧ c ≤ 'F' then some (c.toNat - 'A'.toNat + 10)
  else none

/-- The value of four hexadecimal digits. -/
def hexCode? (a b c d : Char) : Option Nat := do
  return (((← hexDigit? a) * 16 + (← hexDigit? b)) * 16 + (← hexDigit? c)) * 16 + (← hexDigit? d)

/-- The character of an escape of one letter. -/
def escaped? : Char → Option Char
  | '"' => some '"'
  | '\\' => some '\\'
  | '/' => some '/'
  | 'b' => some '\x08'
  | 'f' => some '\x0c'
  | 'n' => some '\n'
  | 'r' => some '\r'
  | 't' => some '\t'
  | _ => none

/-- The code is the first half of a surrogate pair. -/
def isLeading (code : Nat) : Bool := 0xD800 ≤ code && code < 0xDC00

/-- The code is the second half of a surrogate pair. -/
def isTrailing (code : Nat) : Bool := 0xDC00 ≤ code && code < 0xE000

/-- Reads a string after its opening quote, to its closing one. -/
def stringBody? : List Char → Option (List Char × List Char)
  | [] => none
  | '"' :: rest => some ([], rest)
  | '\\' :: 'u' :: a :: b :: c :: d :: rest =>
    match hexCode? a b c d with
    | none => none
    | some code =>
      if isTrailing code then none
      else if isLeading code then
        match rest with
        | '\\' :: 'u' :: e :: f :: g :: h :: rest =>
          match hexCode? e f g h with
          | none => none
          | some second =>
            if isTrailing second then
              (stringBody? rest).map fun (s, rest) =>
                (Char.ofNat (0x10000 + (code - 0xD800) * 0x400 + (second - 0xDC00)) :: s, rest)
            else none
        | _ => none
      else (stringBody? rest).map fun (s, rest) => (Char.ofNat code :: s, rest)
  | '\\' :: c :: rest =>
    match escaped? c with
    | none => none
    | some e => (stringBody? rest).map fun (s, rest) => (e :: s, rest)
  | c :: rest =>
    if c.toNat < 0x20 ∨ c = '\\' then none
    else (stringBody? rest).map fun (s, rest) => (c :: s, rest)

/-- A quote ends a string. -/
@[simp] theorem stringBody?_quote (rest : List Char) :
    stringBody? ('"' :: rest) = some ([], rest) := by
  rw [stringBody?]

/-- Reads a string with its quotes. -/
def string? : List Char → Option (String × List Char)
  | '"' :: rest => (stringBody? rest).map fun (s, rest) => (String.ofList s, rest)
  | _ => none

/-- Reads a number. -/
def number? (text : List Char) : Option (Number × List Char) := do
  let (numeral, rest) ← Numeral.cut? text
  return (← numeral.value?, rest)

mutual

/-- Reads a value, where containers may still be nested `depth` deep. -/
def value? : (fuel : Nat) → (depth : Nat) → List Char → Option (Value × List Char)
  | 0, _, _ => none
  | fuel + 1, depth, text =>
    match skipBlanks text with
    | 'n' :: 'u' :: 'l' :: 'l' :: rest => some (.null, rest)
    | 't' :: 'r' :: 'u' :: 'e' :: rest => some (.bool true, rest)
    | 'f' :: 'a' :: 'l' :: 's' :: 'e' :: rest => some (.bool false, rest)
    | '"' :: rest => (string? ('"' :: rest)).map fun (s, rest) => (.string s, rest)
    | '[' :: rest =>
      match depth with
      | 0 => none
      | depth + 1 =>
        match skipBlanks rest with
        | ']' :: rest => some (.array [], rest)
        | rest => (items? fuel depth rest).map fun (items, rest) => (.array items, rest)
    | '\x7b' :: rest =>
      match depth with
      | 0 => none
      | depth + 1 =>
        match skipBlanks rest with
        | '\x7d' :: rest => some (.object [], rest)
        | rest =>
          (members? fuel depth rest).map fun (members, rest) =>
            (.object (Object.ofList members), rest)
    | rest => (number? rest).map fun (n, rest) => (.number n, rest)

/-- Reads the items of an array from the first on, to its closing bracket. -/
def items? : (fuel : Nat) → (depth : Nat) → List Char → Option (List Value × List Char)
  | 0, _, _ => none
  | fuel + 1, depth, text =>
    match value? fuel depth text with
    | none => none
    | some (item, rest) =>
      match skipBlanks rest with
      | ']' :: rest => some ([item], rest)
      | ',' :: rest => (items? fuel depth rest).map fun (items, rest) => (item :: items, rest)
      | _ => none

/-- Reads the members of an object from the first on, to its closing brace. -/
def members? : (fuel : Nat) → (depth : Nat) → List Char →
    Option (List (String × Value) × List Char)
  | 0, _, _ => none
  | fuel + 1, depth, text =>
    match string? (skipBlanks text) with
    | none => none
    | some (key, rest) =>
      match skipBlanks rest with
      | ':' :: rest =>
        match value? fuel depth rest with
        | none => none
        | some (value, rest) =>
          match skipBlanks rest with
          | '\x7d' :: rest => some ([(key, value)], rest)
          | ',' :: rest =>
            (members? fuel depth rest).map fun (members, rest) => ((key, value) :: members, rest)
          | _ => none
      | _ => none

end

section OutOfFuel

variable (depth : Nat) (text : List Char)

/-- Without fuel no value is read. -/
@[simp] theorem value?_zero : value? 0 depth text = none := by
  rw [value?]

/-- Without fuel no item is read. -/
@[simp] theorem items?_zero : items? 0 depth text = none := by
  rw [items?]

/-- Without fuel no member is read. -/
@[simp] theorem members?_zero : members? 0 depth text = none := by
  rw [members?]

end OutOfFuel

/-- What was read, if only blanks follow it. -/
def toEnd {α : Type} : Option (α × List Char) → Option α
  | some (result, rest) => if skipBlanks rest = [] then some result else none
  | none => none

/-- The value that a whole text is. -/
def parse? (text : List Char) : Option Value :=
  toEnd (value? (text.length + 1) depthLimit text)

/-- Passes over a string after its opening quote. -/
def skipBody? : List Char → Option (List Char)
  | [] => none
  | '"' :: rest => some rest
  | '\\' :: 'u' :: a :: b :: c :: d :: rest =>
    if (hexCode? a b c d).isSome then skipBody? rest else none
  | '\\' :: c :: rest => if (escaped? c).isSome then skipBody? rest else none
  | c :: rest => if c.toNat < 0x20 ∨ c = '\\' then none else skipBody? rest

mutual

/-- Passes over a value. -/
def skip? : (fuel : Nat) → List Char → Option (List Char)
  | 0, _ => none
  | fuel + 1, text =>
    match skipBlanks text with
    | 'n' :: 'u' :: 'l' :: 'l' :: rest => some rest
    | 't' :: 'r' :: 'u' :: 'e' :: rest => some rest
    | 'f' :: 'a' :: 'l' :: 's' :: 'e' :: rest => some rest
    | '"' :: rest => skipBody? rest
    | '[' :: rest =>
      match skipBlanks rest with
      | ']' :: rest => some rest
      | rest => skipItems? fuel rest
    | '\x7b' :: rest =>
      match skipBlanks rest with
      | '\x7d' :: rest => some rest
      | rest => skipMembers? fuel rest
    | rest => (Numeral.cut? rest).map (·.2)

/-- Passes over the items of an array from the first on. -/
def skipItems? : (fuel : Nat) → List Char → Option (List Char)
  | 0, _ => none
  | fuel + 1, text =>
    match skip? fuel text with
    | none => none
    | some rest =>
      match skipBlanks rest with
      | ']' :: rest => some rest
      | ',' :: rest => skipItems? fuel rest
      | _ => none

/-- Passes over the members of an object from the first on. -/
def skipMembers? : (fuel : Nat) → List Char → Option (List Char)
  | 0, _ => none
  | fuel + 1, text =>
    match skipBlanks text with
    | '"' :: rest =>
      match skipBody? rest with
      | none => none
      | some rest =>
        match skipBlanks rest with
        | ':' :: rest =>
          match skip? fuel rest with
          | none => none
          | some rest =>
            match skipBlanks rest with
            | '\x7d' :: rest => some rest
            | ',' :: rest => skipMembers? fuel rest
            | _ => none
        | _ => none
    | _ => none

end

end EngineTokens.Json
