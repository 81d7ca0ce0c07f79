import Mathlib.Data.List.Nodup
import EngineTokens.Proofs.Options.Checks

/-!
# Debug switches and the word that holds them

Each switch of the table has one bit of the word, and the switches that are on are seen in the order
of the table (`Debug.views_enabled`). The bits without a switch are seen by nobody
(`Model.toArgs_congr_defined`). A list of names gives the word in which exactly the switches named
are on, however often, in which order and in which case they are named (`Debug.covers_wordOf`).
Turning on the names of the switches that are on gives the word back (`Debug.turnOn_enabled`).
-/

set_option autoImplicit false

namespace EngineTokens.Params

namespace Debug

/-! ## The table -/

/-- The switches are the lowest fourteen bits, in order. -/
theorem bit_of_getElem? {i : Nat} {switch : BitVec 32 × String} (entry : switches[i]? = some switch) :
    i < 14 ∧ switch.1 = BitVec.twoPow 32 i := by
  have bits : ∀ i : Fin 14, (switches[i.val]?).map (·.1) = some (BitVec.twoPow 32 i) := by decide
  have within : i < 14 := (List.getElem?_eq_some_iff.mp entry).1
  have bit := bits ⟨i, within⟩
  simp only [entry, Option.map_some, Option.some.injEq] at bit
  exact ⟨within, bit⟩

/-- Every switch is one bit. -/
theorem exists_bit {switch : BitVec 32 × String} (mem : switch ∈ switches) :
    ∃ i < 14, switch.1 = BitVec.twoPow 32 i := by
  obtain ⟨i, entry⟩ := List.mem_iff_getElem?.mp mem
  exact ⟨i, bit_of_getElem? entry⟩

/-- A word covers a bit exactly if the bit is set in it. -/
theorem covers_twoPow (word : BitVec 32) {i : Nat} (within : i < 32) :
    covers word (BitVec.twoPow 32 i) = word.getLsbD i := by
  have some : BitVec.twoPow 32 i ≠ 0#32 := by
    intro zero
    have bit := congrArg (fun word => word.getLsbD i) zero
    simp [within] at bit
  rw [covers, BitVec.and_twoPow]
  cases word.getLsbD i with
  | true => simp
  | false => simpa using some.symm

variable {switch other : BitVec 32 × String}

/-- The empty word covers no switch. -/
theorem covers_zero (mem : switch ∈ switches) : covers 0#32 switch.1 = false := by
  obtain ⟨i, within, bit⟩ := exists_bit mem
  rw [bit, covers_twoPow _ (Nat.lt_trans within (by decide))]
  exact BitVec.getLsbD_zero

/-- Two words together cover what either covers. -/
theorem covers_or (mem : switch ∈ switches) (first second : BitVec 32) :
    covers (first ||| second) switch.1 = (covers first switch.1 || covers second switch.1) := by
  obtain ⟨i, within, bit⟩ := exists_bit mem
  simp only [bit, covers_twoPow _ (Nat.lt_trans within (by decide)), BitVec.getLsbD_or]

/-- Two names of the table are the same only if the switches are. -/
theorem eq_of_fold_eq (mem : switch ∈ switches) (known : other ∈ switches)
    (same : Text.fold switch.2 = Text.fold other.2) : switch = other := by
  have distinct : (switches.map fun switch => Text.fold switch.2).Nodup := by decide +kernel
  exact List.inj_on_of_nodup_map distinct mem known same

/-- Different switches have different names. -/
theorem eq_of_name_eq (mem : switch ∈ switches) (known : other ∈ switches)
    (same : switch.2 = other.2) : switch = other :=
  eq_of_fold_eq mem known (congrArg Text.fold same)

/-- A switch covers itself only. -/
theorem covers_bit_iff (mem : switch ∈ switches) (known : other ∈ switches) :
    covers other.1 switch.1 = true ↔ switch = other := by
  have apart : ∀ switch ∈ switches, ∀ other ∈ switches,
      covers other.1 switch.1 = true ↔ switch = other := by decide +kernel
  exact apart switch mem other known

/-- A bit of a switch is one that has a switch. -/
theorem covers_and_defined (mem : switch ∈ switches) (word : BitVec 32) :
    covers (word &&& defined) switch.1 = covers word switch.1 := by
  obtain ⟨i, within, bit⟩ := exists_bit mem
  have below : i < 32 := Nat.lt_trans within (by decide)
  have known : ∀ i : Fin 14, defined.getLsbD i = true := by decide
  rw [bit, covers_twoPow _ below, covers_twoPow _ below, BitVec.getLsbD_and, known ⟨i, within⟩,
    Bool.and_true]

/-- Words without other bits are the same if they have the same switches on. -/
theorem eq_of_covers {first second : BitVec 32} (left : first &&& defined = first)
    (right : second &&& defined = second)
    (same : ∀ switch ∈ switches, covers first switch.1 = covers second switch.1) :
    first = second := by
  apply BitVec.eq_of_getLsbD_eq
  intro i below
  by_cases within : i < 14
  · obtain ⟨switch, entry⟩ : ∃ switch, switches[i]? = some switch :=
      ⟨_, List.getElem?_eq_getElem within⟩
    have bit := same switch (List.mem_of_getElem? entry)
    rwa [(bit_of_getElem? entry).2, covers_twoPow _ below, covers_twoPow _ below] at bit
  · have outside : ∀ i : Fin 32, 14 ≤ i.val → defined.getLsbD i = false := by decide
    have off : defined.getLsbD i = false := outside ⟨i, below⟩ (Nat.le_of_not_lt within)
    rw [← left, ← right, BitVec.getLsbD_and, BitVec.getLsbD_and, off, Bool.and_false,
      Bool.and_false]

/-! ## The switches that are on -/

/-- A name is listed exactly if it is that of a switch that is covered. -/
theorem mem_enabled_iff {word : BitVec 32} {name : String} :
    name ∈ enabled word ↔ ∃ switch ∈ switches, covers word switch.1 = true ∧ switch.2 = name := by
  simp only [enabled, List.mem_map, List.mem_filter, and_assoc]

/-- Only the bits of switches are looked at. -/
theorem enabled_congr {first second : BitVec 32}
    (same : ∀ switch ∈ switches, covers first switch.1 = covers second switch.1) :
    enabled first = enabled second := by
  rw [enabled, enabled, List.filter_congr same]

/-- Bits without a switch are not listed. -/
theorem enabled_and_defined (word : BitVec 32) : enabled (word &&& defined) = enabled word :=
  enabled_congr fun _ mem => covers_and_defined mem word

/-- The names of the switches that are on in a word. -/
structure Views (word : BitVec 32) (names : List String) : Prop where
  /-- They stand in the order of the table. -/
  ordered : names.Sublist (switches.map (·.2))
  nodup : names.Nodup
  /-- The switch at a position of the table has the bit at that position. -/
  mem_iff : ∀ i bit name, switches[i]? = some (bit, name) →
    bit = BitVec.twoPow 32 i ∧ (name ∈ names ↔ word.getLsbD i = true)

/-- The names listed of a word are its view. -/
theorem views_enabled (word : BitVec 32) : Views word (enabled word) where
  ordered := List.filter_sublist.map _
  nodup := by
    have distinct : (switches.map (·.2)).Nodup := by decide +kernel
    exact distinct.sublist (List.filter_sublist.map _)
  mem_iff i bit name entry := by
    obtain ⟨within, rfl⟩ := bit_of_getElem? entry
    have below : i < 32 := Nat.lt_trans within (by decide)
    refine ⟨rfl, ?_⟩
    rw [mem_enabled_iff, ← covers_twoPow word below]
    constructor
    · rintro ⟨switch, mem, on, same⟩
      obtain rfl := eq_of_name_eq mem (List.mem_of_getElem? entry) same
      exact on
    · exact fun on => ⟨_, List.mem_of_getElem? entry, on, rfl⟩

/-! ## Switches turned on by name -/

/-- A name is found if it is that of a switch up to case. -/
theorem switch?_eq_some_iff {name : String} :
    switch? name = some switch ↔ switch ∈ switches ∧ Text.sameWord switch.2 name = true := by
  have sound : ∀ first, switch? name = some first →
      first ∈ switches ∧ Text.sameWord first.2 name = true := by
    intro first found
    have named := List.find?_some found
    exact ⟨List.mem_of_find?_eq_some found, named⟩
  constructor
  · exact sound switch
  · rintro ⟨mem, same⟩
    obtain ⟨first, found⟩ : ∃ first, switch? name = some first := by
      rw [← Option.isSome_iff_exists, switch?, List.find?_isSome]
      exact ⟨switch, mem, same⟩
    obtain ⟨known, named⟩ := sound first found
    have alike : Text.fold first.2 = Text.fold switch.2 :=
      (Text.sameWord_iff.mp named).trans (Text.sameWord_iff.mp same).symm
    rw [found, eq_of_fold_eq known mem alike]

/-- A name is not found if no switch is called so up to case. -/
theorem switch?_eq_none_iff {name : String} :
    switch? name = none ↔ ∀ switch ∈ switches, Text.sameWord switch.2 name = false := by
  simp [switch?, List.find?_eq_none]

/-- A switch is on exactly if some name names it. -/
theorem covers_wordOf (mem : switch ∈ switches) (names : List String) :
    covers (wordOf names) switch.1 = names.any fun name => Text.sameWord switch.2 name := by
  induction names with
  | nil => exact covers_zero mem
  | cons name rest ih =>
    have first : covers ((switch? name).elim 0 (·.1)) switch.1 = Text.sameWord switch.2 name := by
      cases found : switch? name with
      | none =>
        rw [switch?_eq_none_iff.mp found switch mem]
        exact covers_zero mem
      | some other =>
        obtain ⟨known, named⟩ := switch?_eq_some_iff.mp found
        rw [Bool.eq_iff_iff, Option.elim_some, covers_bit_iff mem known]
        constructor
        · rintro rfl
          exact named
        · intro same
          have both := switch?_eq_some_iff.mpr ⟨mem, same⟩
          rw [found] at both
          exact (Option.some.inj both).symm
    rw [wordOf, covers_or mem, first, ih, List.any_cons]

/-- A word that is made of names has no bits without a switch. -/
theorem wordOf_and_defined (names : List String) : wordOf names &&& defined = wordOf names := by
  have bits : ∀ switch ∈ switches, switch.1 &&& defined = switch.1 := by decide
  induction names with
  | nil => exact BitVec.zero_and
  | cons name rest ih =>
    have first : (switch? name).elim 0 (·.1) &&& defined = (switch? name).elim 0 (·.1) := by
      cases found : switch? name with
      | none => exact BitVec.zero_and
      | some switch => exact bits switch (switch?_eq_some_iff.mp found).1
    rw [wordOf, BitVec.and_comm, BitVec.and_or_distrib_left, BitVec.and_comm defined, first,
      BitVec.and_comm defined, ih]

/-- The names listed of a word give back its bits that have a switch. -/
theorem wordOf_enabled (word : BitVec 32) : wordOf (enabled word) = word &&& defined := by
  refine eq_of_covers (wordOf_and_defined _) (by rw [BitVec.and_assoc, BitVec.and_self]) ?_
  intro switch mem
  rw [covers_wordOf mem, covers_and_defined mem, Bool.eq_iff_iff, List.any_eq_true]
  constructor
  · rintro ⟨name, named, same⟩
    obtain ⟨other, known, on, rfl⟩ := mem_enabled_iff.mp named
    rwa [eq_of_fold_eq mem known (Text.sameWord_iff.mp same)]
  · exact fun on => ⟨switch.2, mem_enabled_iff.mpr ⟨switch, mem, on, rfl⟩, Text.sameWord_refl _⟩

/-- Turning on the names of the switches that are on gives the word back, without other bits. -/
theorem turnOn_enabled (word : BitVec 32) :
    turnOn 0 (enabled word) = .ok (word &&& defined) := by
  have known : ∀ name ∈ enabled word, Known name := by
    intro name named
    obtain ⟨switch, mem, -, rfl⟩ := mem_enabled_iff.mp named
    exact ⟨switch, mem, Text.sameWord_refl switch.2⟩
  rw [turnOn_zero, findSome?_switchRefusal? known, wordOf_enabled]
  rfl

/-! ## The word over time -/

end Debug

/-- The word after a call: it is replaced, with bits that have no switch or without them, or takes
bits or loses them; all other calls leave it, unless they clear it. -/
def Call.word (word : BitVec 32) : Call → BitVec 32
  | .debug (.setBits bits) => bits &&& Debug.defined
  | .debug (.setFlags bits) => bits
  | .debug (.turn bits true) => word ||| bits
  | .debug (.turn bits false) => word &&& ~~~bits
  | .clear .debug => 0
  | _ => word

namespace Model

/-- One call on a model of the debug tier leaves a model of that tier, with the word that the call
makes. -/
theorem call_debug (p : Debug) (files : Files) (c : Call) :
    ∃ q : Debug, (Model.debug p).call files c = .debug q ∧ q.flags = c.word p.flags := by
  cases c with
  | base edit => exact ⟨{ p with base := (p.base.apply files edit).2 }, rfl, rfl⟩
  | debug edit =>
    cases edit with
    | base edit => exact ⟨{ p with base := (p.base.apply files edit).2 }, rfl, rfl⟩
    | setBits bits => exact ⟨_, rfl, rfl⟩
    | setFlags bits => exact ⟨_, rfl, rfl⟩
    | turn bits on => cases on <;> exact ⟨_, rfl, rfl⟩
  | pdf edit => exact ⟨p, rfl, rfl⟩
  | conformance edit => exact ⟨p, rfl, rfl⟩
  | clear tier => cases tier <;> exact ⟨_, rfl, rfl⟩

/-- The word after some calls is worked out from them alone. -/
theorem callAll_debug (p : Debug) (calls : List (Files × Call)) :
    ∃ q : Debug, (Model.debug p).callAll calls = .debug q ∧
      q.flags = calls.foldl (fun word (_, c) => c.word word) p.flags := by
  induction calls generalizing p with
  | nil => exact ⟨p, rfl, rfl⟩
  | cons call calls ih =>
    obtain ⟨files, c⟩ := call
    obtain ⟨q, after, word⟩ := call_debug p files c
    obtain ⟨r, all, words⟩ := ih q
    refine ⟨r, ?_, by rw [words, word, List.foldl_cons]⟩
    rw [← all, ← after]
    rfl

/-- The bits without a switch are never written. -/
theorem toArgs_congr_defined {p : Debug} {word : BitVec 32}
    (same : word &&& Debug.defined = p.flags &&& Debug.defined) (files : Files)
    (host : Display.Host) :
    (Model.debug { p with flags := word }).toArgs files host = (Model.debug p).toArgs files host := by
  have names : Debug.enabled word = Debug.enabled p.flags := by
    rw [← Debug.enabled_and_defined, same, Debug.enabled_and_defined]
  simp only [toArgs, write, Debug.write, names]

end Model

end EngineTokens.Params
