import EngineTokens.Json.Parser

/-!
# What the reader gives

A value that was read is regular (`regular_of_parse?`): its containers are nested no deeper than the
reader goes, each object has its keys in ascending order, and an integer is one of sixty-four bits,
with or without a sign. Regular values are those that can be written and read again, as far as their
numbers can.
-/

set_option autoImplicit false

namespace EngineTokens.Json

/-! ## Numbers -/

/-- The integers that a word of sixty-four bits can hold, with or without a sign. -/
def integerRange : Int × Int := (-0x8000000000000000, 0xFFFFFFFFFFFFFFFF)

/-- An integer is one that a word can hold. -/
def Number.Regular : Number → Prop
  | .integer n => integerRange.1 ≤ n ∧ n ≤ integerRange.2
  | .real _ => True

/-- The number is an integer. -/
def Number.isInteger : Number → Bool
  | .integer _ => true
  | .real _ => false

namespace Numeral

/-- The digits that are gathered fit a word. -/
theorem gather_lt {word : Nat} (small : word < wordLimit) (ds : List Char) :
    (gather word ds).1 < wordLimit := by
  induction ds generalizing word with
  | nil => exact small
  | cons c ds ih =>
    simp only [gather]
    split
    next fits => exact ih fits
    next => exact small

/-- An integer that is read from a word fits its range. -/
theorem regular_of_integer? {negative : Bool} {word : Nat} {n : Number} (small : word < wordLimit)
    (read : integer? negative word = some n) : n.Regular := by
  unfold wordLimit at small
  unfold integer? at read
  split at read
  next =>
    cases read
    simp only [Number.Regular, integerRange]
    omega
  next =>
    split at read
    next bounds =>
      cases read
      simp only [Number.Regular, integerRange]
      omega
    next => cases read

/-- A number that is read as a double is regular. -/
theorem regular_of_map_real {x : Option Number.Double} {n : Number}
    (read : x.map Number.real = some n) : n.Regular := by
  obtain ⟨x, -, rfl⟩ := Option.map_eq_some_iff.mp read
  exact trivial

/-- The number that a numeral stands for is regular. -/
theorem regular_of_value? {numeral : Numeral} {n : Number} (read : numeral.value? = some n) :
    n.Regular := by
  have small : (gather 0 numeral.whole).1 < wordLimit := gather_lt (by decide) _
  unfold value? at read
  dsimp only at read
  split at read
  next =>
    split at read
    next number integer =>
      cases read
      split at integer
      next => exact regular_of_integer? small integer
      next => cases integer
    next => exact regular_of_map_real read
  next => exact regular_of_map_real read

end Numeral

/-- A number that is read from a text is regular. -/
theorem regular_of_number? {text rest : List Char} {n : Number}
    (read : number? text = some (n, rest)) : n.Regular := by
  unfold number? at read
  simp only [Option.bind_eq_bind, Option.bind_eq_some_iff, Option.pure_def, Option.some.injEq,
    Prod.mk.injEq] at read
  obtain ⟨⟨numeral, tail⟩, -, m, value, rfl, -⟩ := read
  exact Numeral.regular_of_value? value

/-! ## Objects -/

namespace Object

/-- The keys are in ascending order, so each stands once. -/
def Ascending (members : Object) : Prop :=
  members.Pairwise fun a b => a.1 < b.1

/-- No names ascend. -/
theorem ascending_nil : Ascending [] := List.Pairwise.nil

/-- An insertion adds one member. -/
theorem mem_of_mem_insert {key : String} {value : Value} {members : Object}
    {m : String × Value} (mem : m ∈ insert key value members) :
    m = (key, value) ∨ m ∈ members := by
  induction members with
  | nil => simpa [insert] using mem
  | cons head rest ih =>
    obtain ⟨k, v⟩ := head
    simp only [insert] at mem
    split at mem
    next =>
      rcases List.mem_cons.mp mem with rfl | mem
      · exact .inl rfl
      · exact .inr (List.mem_cons_of_mem _ mem)
    next =>
      split at mem
      next => exact List.mem_cons.mp mem
      next =>
        rcases List.mem_cons.mp mem with rfl | mem
        · exact .inr List.mem_cons_self
        · exact (ih mem).imp_right (List.mem_cons_of_mem _)

/-- A member is inserted in its place. -/
theorem Ascending.insert {members : Object} (ascending : members.Ascending) (key : String)
    (value : Value) : (Object.insert key value members).Ascending := by
  induction members with
  | nil => exact List.pairwise_singleton _ _
  | cons head rest ih =>
    obtain ⟨k, v⟩ := head
    obtain ⟨first, tail⟩ := List.pairwise_cons.mp ascending
    simp only [Object.insert]
    split
    next same =>
      subst same
      exact List.pairwise_cons.mpr ⟨first, tail⟩
    next apart =>
      split
      next before =>
        refine List.pairwise_cons.mpr ⟨?_, ascending⟩
        intro m mem
        rcases List.mem_cons.mp mem with rfl | mem
        · exact before
        · exact String.lt_trans before (first m mem)
      next behind =>
        have after : k < key := Decidable.byContradiction fun none =>
          apart (String.le_antisymm (String.not_lt.mp none) (String.not_lt.mp behind))
        refine List.pairwise_cons.mpr ⟨?_, ih tail⟩
        intro m mem
        rcases mem_of_mem_insert mem with rfl | mem
        · exact after
        · exact first m mem

/-- A member whose key is behind all others goes to the end. -/
theorem insert_of_behind {members : Object} {key : String} (behind : ∀ m ∈ members, m.1 < key)
    (value : Value) : insert key value members = members ++ [(key, value)] := by
  induction members with
  | nil => rfl
  | cons head rest ih =>
    obtain ⟨k, v⟩ := head
    have after : k < key := behind (k, v) List.mem_cons_self
    have apart : key ≠ k := by
      rintro rfl
      exact String.lt_irrefl key after
    rw [insert, if_neg apart, if_neg (String.lt_asymm after),
      ih fun m mem => behind m (List.mem_cons_of_mem _ mem)]
    rfl

/-- An object is made from its members one after another. -/
theorem ofList_eq_foldl (members : List (String × Value)) :
    ofList members = members.foldl (fun object m => insert m.1 m.2 object) [] := rfl

/-- However the members come, those of the object ascend. -/
theorem ascending_ofList (members : List (String × Value)) : (ofList members).Ascending := by
  have kept : ∀ object : Object, object.Ascending →
      Ascending (members.foldl (fun object m => insert m.1 m.2 object) object) := by
    induction members with
    | nil => exact fun object ascending => ascending
    | cons m members ih => exact fun object ascending => ih _ (ascending.insert m.1 m.2)
  rw [ofList_eq_foldl]
  exact kept [] ascending_nil

/-- An object has no members but those that it is made from. -/
theorem mem_of_mem_ofList {members : List (String × Value)} {m : String × Value}
    (mem : m ∈ ofList members) : m ∈ members := by
  have kept : ∀ object : Object,
      m ∈ members.foldl (fun object m => insert m.1 m.2 object) object →
        m ∈ object ∨ m ∈ members := by
    clear mem
    induction members with
    | nil => exact fun object mem => .inl mem
    | cons head members ih =>
      intro object mem
      rcases ih _ mem with mem | mem
      · rcases mem_of_mem_insert mem with rfl | mem
        · exact .inr List.mem_cons_self
        · exact .inl mem
      · exact .inr (List.mem_cons_of_mem _ mem)
  rw [ofList_eq_foldl] at mem
  exact (kept [] mem).resolve_left List.not_mem_nil

/-- Members in ascending order are the object that they make. -/
theorem ofList_of_ascending {members : Object} (ascending : members.Ascending) :
    ofList members = members := by
  have appended : ∀ (rest before : Object), (before ++ rest).Ascending →
      rest.foldl (fun object m => insert m.1 m.2 object) before = before ++ rest := by
    intro rest
    induction rest with
    | nil => simp
    | cons head rest ih =>
      obtain ⟨k, v⟩ := head
      intro before ascending
      have behind : ∀ other ∈ before, other.1 < k := fun other mem =>
        (List.pairwise_append.mp ascending).2.2 other mem (k, v) List.mem_cons_self
      simp only [List.foldl_cons, insert_of_behind behind]
      rw [ih _ (by simpa using ascending), List.append_assoc, List.singleton_append]
  rw [ofList_eq_foldl]
  exact appended members [] ascending

end Object

/-! ## Values -/

/-- A value with containers nested at most `depth` deep, with the keys of each object in ascending
order and with regular numbers. -/
inductive Value.Regular : (depth : Nat) → Value → Prop
  | null (depth : Nat) : Regular depth .null
  | bool (depth : Nat) (b : Bool) : Regular depth (.bool b)
  | number (depth : Nat) {n : Number} (regular : n.Regular) : Regular depth (.number n)
  | string (depth : Nat) (s : String) : Regular depth (.string s)
  | array {depth : Nat} {items : List Value} (regular : ∀ item ∈ items, Regular depth item) :
    Regular (depth + 1) (.array items)
  | object {depth : Nat} {members : List (String × Value)} (ascending : Object.Ascending members)
    (regular : ∀ m ∈ members, Regular depth m.2) : Regular (depth + 1) (.object members)

mutual

/-- The numbers in a value, at any depth. -/
def Value.numbers : Value → List Number
  | .null => []
  | .bool _ => []
  | .number n => [n]
  | .string _ => []
  | .array items => numbersOfItems items
  | .object members => numbersOfMembers members

/-- The numbers in some items. -/
def numbersOfItems : List Value → List Number
  | [] => []
  | item :: items => item.numbers ++ numbersOfItems items

/-- The numbers in the values of some members. -/
def numbersOfMembers : List (String × Value) → List Number
  | [] => []
  | (_, value) :: members => value.numbers ++ numbersOfMembers members

end

/-- The numbers of an array are those of its items. -/
theorem mem_numbersOfItems {n : Number} {items : List Value} :
    n ∈ numbersOfItems items ↔ ∃ item ∈ items, n ∈ item.numbers := by
  induction items with
  | nil => simp [numbersOfItems]
  | cons item items ih => simp [numbersOfItems, ih]

/-- The numbers of an object are those of its members. -/
theorem mem_numbersOfMembers {n : Number} {members : List (String × Value)} :
    n ∈ numbersOfMembers members ↔ ∃ m ∈ members, n ∈ m.2.numbers := by
  induction members with
  | nil => simp [numbersOfMembers]
  | cons m members ih =>
    obtain ⟨key, value⟩ := m
    simp [numbersOfMembers, ih]

/-- Values read with some fuel are regular, and so are items and members. -/
structure ReadsRegular (fuel : Nat) : Prop where
  value : ∀ {depth : Nat} {text rest : List Char} {v : Value},
    value? fuel depth text = some (v, rest) → v.Regular depth
  items : ∀ {depth : Nat} {text rest : List Char} {vs : List Value},
    items? fuel depth text = some (vs, rest) → ∀ v ∈ vs, v.Regular depth
  members : ∀ {depth : Nat} {text rest : List Char} {ms : List (String × Value)},
    members? fuel depth text = some (ms, rest) → ∀ m ∈ ms, m.2.Regular depth

section Reading

variable {fuel depth : Nat} {text rest : List Char}

/-- With one more unit of fuel, a value that is read is regular. -/
theorem ReadsRegular.value_succ (reads : ReadsRegular fuel) {v : Value}
    (read : value? (fuel + 1) depth text = some (v, rest)) : v.Regular depth := by
  rw [value?] at read
  split at read
  next => cases read; exact .null depth
  next => cases read; exact .bool depth true
  next => cases read; exact .bool depth false
  next =>
    obtain ⟨⟨s, _⟩, -, eq⟩ := Option.map_eq_some_iff.mp read
    cases eq
    exact .string depth s
  next =>
    split at read
    next => cases read
    next =>
      split at read
      next =>
        cases read
        exact .array fun item mem => absurd mem List.not_mem_nil
      next =>
        obtain ⟨⟨vs, _⟩, items, eq⟩ := Option.map_eq_some_iff.mp read
        cases eq
        exact .array (reads.items items)
  next =>
    split at read
    next => cases read
    next =>
      split at read
      next =>
        cases read
        exact .object Object.ascending_nil fun m mem => absurd mem List.not_mem_nil
      next =>
        obtain ⟨⟨ms, _⟩, members, eq⟩ := Option.map_eq_some_iff.mp read
        cases eq
        exact .object (Object.ascending_ofList ms) fun m mem =>
          reads.members members m (Object.mem_of_mem_ofList mem)
  next =>
    obtain ⟨⟨n, _⟩, number, eq⟩ := Option.map_eq_some_iff.mp read
    cases eq
    exact .number depth (regular_of_number? number)

/-- With one more unit of fuel, so is every item. -/
theorem ReadsRegular.items_succ (reads : ReadsRegular fuel) {vs : List Value}
    (read : items? (fuel + 1) depth text = some (vs, rest)) : ∀ v ∈ vs, v.Regular depth := by
  rw [items?] at read
  split at read
  next => cases read
  next item _ first =>
    have regular := reads.value first
    split at read
    next =>
      cases read
      exact List.forall_mem_singleton.mpr regular
    next =>
      obtain ⟨⟨vs, _⟩, others, eq⟩ := Option.map_eq_some_iff.mp read
      cases eq
      exact List.forall_mem_cons.mpr ⟨regular, reads.items others⟩
    next => cases read

/-- With one more unit of fuel, so is every member. -/
theorem ReadsRegular.members_succ (reads : ReadsRegular fuel) {ms : List (String × Value)}
    (read : members? (fuel + 1) depth text = some (ms, rest)) : ∀ m ∈ ms, m.2.Regular depth := by
  rw [members?] at read
  split at read
  next => cases read
  next =>
    split at read
    next =>
      split at read
      next => cases read
      next value _ first =>
        have regular := reads.value first
        split at read
        next =>
          cases read
          exact List.forall_mem_singleton.mpr regular
        next =>
          obtain ⟨⟨ms, _⟩, others, eq⟩ := Option.map_eq_some_iff.mp read
          cases eq
          exact List.forall_mem_cons.mpr ⟨regular, reads.members others⟩
        next => cases read
    next => cases read

/-- By induction on the fuel, of which each part of a value has less than the whole. -/
theorem readsRegular (fuel : Nat) : ReadsRegular fuel := by
  induction fuel with
  | zero =>
    exact {
      value := fun read => by simp at read
      items := fun read => by simp at read
      members := fun read => by simp at read }
  | succ fuel reads =>
    exact {
      value := reads.value_succ
      items := reads.items_succ
      members := reads.members_succ }

end Reading

/-- A text is read as a regular value. -/
theorem regular_of_parse? {text : List Char} {v : Value} (read : parse? text = some v) :
    v.Regular depthLimit := by
  unfold parse? toEnd at read
  split at read
  next value =>
    split at read
    next =>
      cases read
      exact (readsRegular _).value value
    next => cases read
  next => cases read

end EngineTokens.Json
