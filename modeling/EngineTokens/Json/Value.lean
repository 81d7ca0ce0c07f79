import EngineTokens.Number.Double

/-!
# JSON values

Values with exact integers apart from other numbers, and objects as lists of members in ascending
order of their keys, each key once.
-/

set_option autoImplicit false

namespace EngineTokens.Json

/-- A number: an integer that fits a word of sixty-four bits, or a double. -/
inductive Number
  | integer (n : Int)
  | real (x : Number.Double)
  deriving DecidableEq, Repr

/-- A value. -/
inductive Value
  | null
  | bool (b : Bool)
  | number (n : Number)
  | string (s : String)
  | array (items : List Value)
  | object (members : List (String × Value))
  deriving Repr

/-- The members of an object. -/
abbrev Object := List (String × Value)

namespace Object

/-- Sets a member, in its place among keys in ascending order. -/
def insert (key : String) (value : Value) : Object → Object
  | [] => [(key, value)]
  | (k, v) :: rest =>
    if key = k then (key, value) :: rest
    else if key < k then (key, value) :: (k, v) :: rest
    else (k, v) :: insert key value rest

/-- The value of a key. -/
def get? (members : Object) (key : String) : Option Value :=
  List.lookup key members

/-- The object of a list of members, where the last of one key counts. -/
def ofList (members : List (String × Value)) : Object :=
  members.foldl (fun object (key, value) => insert key value object) []

/-- A member is found with the value that was inserted. -/
theorem get?_insert_self (key : String) (value : Value) (members : Object) :
    get? (insert key value members) key = some value := by
  induction members with
  | nil => simp [insert, get?]
  | cons head rest ih =>
    obtain ⟨k, v⟩ := head
    simp only [insert]
    split
    · simp [get?]
    · split
      · simp [get?]
      · rename_i ne _
        have : (key == k) = false := by simpa using ne
        simpa [get?, List.lookup_cons, this] using ih

/-- An insertion leaves the other members as they were. -/
theorem get?_insert_of_ne {key other : String} (ne : other ≠ key) (value : Value)
    (members : Object) : get? (insert key value members) other = get? members other := by
  have apart : (other == key) = false := by simpa using ne
  induction members with
  | nil => simp [insert, get?, List.lookup_cons, apart]
  | cons head rest ih =>
    obtain ⟨k, v⟩ := head
    simp only [insert]
    split
    · rename_i eq
      subst eq
      simp [get?, List.lookup_cons, apart]
    · split
      · simp [get?, List.lookup_cons, apart]
      · by_cases same : other = k
        · simp [get?, same]
        · have : (other == k) = false := by simpa using same
          simpa [get?, List.lookup_cons, this] using ih

end Object

/-- What a value is, in words. -/
def Value.kind : Value → String
  | .null => "null"
  | .bool _ => "a boolean"
  | .number _ => "a number"
  | .string _ => "a string"
  | .array _ => "an array"
  | .object _ => "an object"

end EngineTokens.Json
