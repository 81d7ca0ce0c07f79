import EngineTokens.Json.Parser

/-!
# Records and names in JSON

A record with known fields is read from an object, whose other members are passed over and which
must hold every known field exactly once, or from an array of exactly all fields in their order. One
of a list of names is read from a string, or from an object with the name as its only key and null
as its value.
-/

set_option autoImplicit false

namespace EngineTokens.Json

/-- What a field of a record may hold. -/
inductive FieldKind
  | text
  /-- An integer between two bounds. -/
  | integer (low high : Int)
  deriving DecidableEq, Repr

/-- What a field of a record holds. -/
inductive Datum
  | text (s : String)
  | integer (n : Int)
  deriving DecidableEq, Repr

/-- A record type: its fields in order, each with a name. -/
abbrev RecordType := List (String × FieldKind)

/-- Reads the content of one field. -/
def datum? (kind : FieldKind) (text : List Char) : Option (Datum × List Char) :=
  match kind with
  | .text => (string? (skipBlanks text)).map fun (s, rest) => (.text s, rest)
  | .integer low high =>
    match number? (skipBlanks text) with
    | some (.integer n, rest) => if low ≤ n ∧ n ≤ high then some (.integer n, rest) else none
    | _ => none

/-- Reads all fields in order from the first item of an array on. -/
def inOrder? : RecordType → List Char → Option (List Datum × List Char)
  | [], _ => none
  | [(_, kind)], text =>
    match datum? kind text with
    | none => none
    | some (d, rest) =>
      match skipBlanks rest with
      | ']' :: rest => some ([d], rest)
      | _ => none
  | (_, kind) :: fields, text =>
    match datum? kind text with
    | none => none
    | some (d, rest) =>
      match skipBlanks rest with
      | ',' :: rest => (inOrder? fields rest).map fun (ds, rest) => (d :: ds, rest)
      | _ => none

/-- Reads the members of an object from the first on; `seen` holds the known fields read so far. -/
def byName? (type : RecordType) : (fuel : Nat) → (seen : List (String × Datum)) → List Char →
    Option (List (String × Datum) × List Char)
  | 0, _, _ => none
  | fuel + 1, seen, text =>
    match string? (skipBlanks text) with
    | none => none
    | some (key, rest) =>
      match skipBlanks rest with
      | ':' :: rest =>
        let member : Option (List (String × Datum) × List Char) :=
          match type.lookup key with
          | none => (skip? (rest.length + 1) rest).map fun rest => (seen, rest)
          | some kind =>
            if (seen.lookup key).isSome then none
            else (datum? kind rest).map fun (d, rest) => ((key, d) :: seen, rest)
        match member with
        | none => none
        | some (seen, rest) =>
          match skipBlanks rest with
          | '\x7d' :: rest => some (seen, rest)
          | ',' :: rest => byName? type fuel seen rest
          | _ => none
      | _ => none

/-- The fields of a type in order, if all were seen. -/
def collect? (type : RecordType) (seen : List (String × Datum)) : Option (List Datum) :=
  type.mapM fun (name, _) => seen.lookup name

/-- The fields, in order, of the record that a whole text is. -/
def record? (type : RecordType) (text : List Char) : Option (List Datum) :=
  match skipBlanks text with
  | '[' :: rest => toEnd (inOrder? type rest)
  | '\x7b' :: rest =>
    match skipBlanks rest with
    | '\x7d' :: _ => none
    | rest => do
      let seen ← toEnd (byName? type (rest.length + 1) [] rest)
      collect? type seen
  | _ => none

/-- The name that a whole text is, if it is one of a list. -/
def name? (names : List String) (text : List Char) : Option String := do
  let name ← toEnd <|
    match skipBlanks text with
    | '\x7b' :: rest =>
      match string? (skipBlanks rest) with
      | none => none
      | some (name, rest) =>
        match skipBlanks rest with
        | ':' :: rest =>
          match skipBlanks rest with
          | 'n' :: 'u' :: 'l' :: 'l' :: rest =>
            match skipBlanks rest with
            | '\x7d' :: rest => some (name, rest)
            | _ => none
          | _ => none
        | _ => none
    | rest => string? rest
  if names.contains name then some name else none

end EngineTokens.Json
