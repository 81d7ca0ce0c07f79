import EngineTokens.Proofs.Text.Utf8

/-!
# Lossy text may be cut at ASCII bytes

A byte below 0x80 never continues a character. The reader that meets one gives up the character in
hand, if there is one, and stands between characters after it. So a byte sequence may be cut at such
a byte and its parts read on their own, well-formed or not (`lossy_append_ascii`). In the other
direction an ASCII character comes from its byte alone (`mem_lossy_iff`), because no character of
several bytes is that small.
-/

set_option autoImplicit false

namespace EngineTokens.Text.Utf8

/-! ## The character in hand -/

/-- The next byte is not ASCII, and neither is the character in the end: before its last byte, the
value is at least two. -/
structure Owed.Wide (s : Owed) : Prop where
  low : 0x80 ≤ s.low.toNat
  grows : 2 ≤ s.value * 64 + (s.low.toNat - 0x80)
  last : s.more ≤ 1 → 2 ≤ s.value

/-- What is owed after a lead byte is more than ASCII. -/
theorem wide_of_lead {b : UInt8} {s : Owed} (owes : lead b = .owes s) : s.Wide := by
  have plain : (0x80 : UInt8).toNat = 128 := by decide
  have third : (0xA0 : UInt8).toNat = 160 := by decide
  have fourth : (0x90 : UInt8).toNat = 144 := by decide
  simp only [lead, beq_iff_eq] at owes
  repeat' split at owes
  all_goals cases owes
  all_goals constructor <;> dsimp only <;> omega

/-- A byte that continues a character without ending it makes the value grow. -/
theorem wide_step {state : Option Owed} (wide : ∀ s ∈ state, s.Wide) (b : UInt8) :
    ∀ s ∈ (step state b).2, s.Wide := by
  have fresh : ∀ s ∈ (start b).2, s.Wide := by
    intro s mem
    unfold start at mem
    split at mem
    next => cases mem
    next owed owes =>
      obtain rfl : owed = s := by simpa using mem
      exact wide_of_lead owes
    next => cases mem
  cases state with
  | none => exact fresh
  | some owed =>
    obtain ⟨low, grows, last⟩ := wide owed rfl
    intro s mem
    unfold step at mem
    dsimp only at mem
    split at mem
    next inside =>
      split at mem
      next => cases mem
      next further =>
        have above := (Bool.and_eq_true_iff.mp inside).1
        rw [decide_eq_true_eq, UInt8.le_iff_toNat_le] at above
        have plain : (0x80 : UInt8).toNat = 128 := by decide
        obtain rfl := Option.some.inj mem
        constructor <;> dsimp only <;> omega
    next => exact fresh s mem

/-- A byte below 0x80 is a character of its own wherever the reader stands, and gives up the
character in hand. -/
theorem step_ascii {state : Option Owed} (wide : ∀ s ∈ state, s.Wide) {b : UInt8}
    (ascii : b.toNat < 0x80) :
    step state b =
      (state.toList.map (fun _ => none) ++ [some (Char.ofNat b.toNat)], none) := by
  have whole : start b = ([some (Char.ofNat b.toNat)], none) := by
    have own := step_whole ascii
    rwa [UInt8.ofNat_toNat] at own
  cases state with
  | none => exact whole
  | some owed =>
    have outside : (decide (owed.low ≤ b) && decide (b ≤ owed.high)) = false := by
      have low := (wide owed rfl).low
      rw [Bool.and_eq_false_iff, decide_eq_false_iff_not, UInt8.le_iff_toNat_le]
      omega
    simp only [step, outside, Bool.false_eq_true, if_false, whole]
    rfl

/-! ## Cutting -/

/-- The pieces that are there already come first. -/
theorem piecesFrom_eq (before : List (Option Char)) (state : Option Owed) (bytes : List UInt8) :
    piecesFrom before state bytes = before.reverse ++ piecesFrom [] state bytes := by
  induction bytes generalizing before state with
  | nil => cases state <;> simp [piecesFrom]
  | cons b rest ih =>
    rw [piecesFrom_cons, piecesFrom_cons, ih, ih ((step state b).1.reverse ++ [])]
    simp

/-- By induction on the bytes before the one at which the sequence is cut. -/
theorem piecesFrom_append_ascii {state : Option Owed} (wide : ∀ s ∈ state, s.Wide) {b : UInt8}
    (ascii : b.toNat < 0x80) (front back : List UInt8) :
    piecesFrom [] state (front ++ b :: back) =
      piecesFrom [] state front ++ some (Char.ofNat b.toNat) :: pieces back := by
  induction front generalizing state with
  | nil =>
    rw [List.nil_append, piecesFrom_cons, step_ascii wide ascii, piecesFrom_eq]
    cases state <;> simp [piecesFrom, pieces]
  | cons a front ih =>
    rw [List.cons_append, piecesFrom_cons, piecesFrom_cons, piecesFrom_eq,
      piecesFrom_eq _ _ front, ih (wide_step wide a), List.append_assoc]

/-- Texts can be cut at an ASCII byte, before and after the decoding. -/
theorem lossy_append_ascii {b : UInt8} (ascii : b.toNat < 0x80) (front back : List UInt8) :
    lossy (front ++ b :: back) = lossy front ++ Char.ofNat b.toNat :: lossy back := by
  have cut : pieces (front ++ b :: back) =
      pieces front ++ some (Char.ofNat b.toNat) :: pieces back :=
    piecesFrom_append_ascii (by simp) ascii front back
  simp [lossy, cut]

/-! ## Nothing and something -/

/-- A byte yields a piece or leaves a continuation owed. -/
theorem step_ne_nil (state : Option Owed) (b : UInt8) :
    (step state b).1 ≠ [] ∨ (step state b).2 ≠ none := by
  have fresh : (start b).1 ≠ [] ∨ (start b).2 ≠ none := by
    unfold start
    split <;> simp
  cases state with
  | none => exact fresh
  | some owed =>
    simp only [step]
    split
    · split <;> simp
    · simp

/-- Bytes that are read as nothing are no bytes. -/
theorem piecesFrom_eq_nil {state : Option Owed} {bytes : List UInt8}
    (nothing : piecesFrom [] state bytes = []) : state = none ∧ bytes = [] := by
  induction bytes generalizing state with
  | nil =>
    cases state with
    | none => exact ⟨rfl, rfl⟩
    | some owed => cases nothing
  | cons b rest ih =>
    rw [piecesFrom_cons, piecesFrom_eq] at nothing
    obtain ⟨first, later⟩ := List.append_eq_nil_iff.mp nothing
    have between := (ih later).1
    rcases step_ne_nil state b with piece | owes
    · simp [piece] at first
    · exact absurd between owes

/-- Only no bytes decode to the empty text. -/
theorem lossy_eq_nil_iff {bytes : List UInt8} : lossy bytes = [] ↔ bytes = [] := by
  constructor
  · intro nothing
    exact (piecesFrom_eq_nil (List.map_eq_nil_iff.mp nothing)).2
  · rintro rfl
    rfl

/-- A text is read back from its bytes. -/
theorem lossy_encode (text : List Char) : lossy (encode text) = text := by
  have read : pieces (encode text) = text.map some := by simp [pieces, piecesFrom_encode]
  rw [lossy, read, List.map_map]
  exact List.map_id text

/-! ## ASCII characters -/

/-- What is no character is read as the zero character. -/
theorem toNat_ofNat (n : Nat) : (Char.ofNat n).toNat = n ∨ (Char.ofNat n).toNat = 0 := by
  by_cases valid : n.isValidChar
  · refine .inl ?_
    rw [Char.ofNat, dif_pos valid]
    rfl
  · refine .inr ?_
    rw [Char.ofNat, dif_neg valid]
    rfl

/-- A byte that is a whole character is its code. -/
theorem eq_ofNat_of_lead {b : UInt8} {c : Char} (whole : lead b = .whole c) :
    c = Char.ofNat b.toNat := by
  simp only [lead] at whole
  split at whole
  next => exact (Lead.whole.inj whole).symm
  next =>
    repeat' split at whole
    all_goals cases whole

/-- An ASCII character other than zero comes from its byte. -/
theorem toNat_eq_of_step {state : Option Owed} (wide : ∀ s ∈ state, s.Wide) {b : UInt8} {c : Char}
    (mem : some c ∈ (step state b).1) (ascii : c.toNat < 0x80) (nonzero : c.toNat ≠ 0) :
    c.toNat = b.toNat := by
  have fresh : some c ∈ (start b).1 → c.toNat = b.toNat := by
    intro mem
    unfold start at mem
    split at mem
    next d whole =>
      obtain rfl : c = d := by simpa using mem
      have own := toNat_ofNat b.toNat
      rw [← eq_ofNat_of_lead whole] at own
      exact own.resolve_right nonzero
    next => cases mem
    next => simp at mem
  cases state with
  | none => exact fresh mem
  | some owed =>
    have wide := wide owed rfl
    simp only [step] at mem
    split at mem
    next =>
      split at mem
      next last =>
        -- a character of several bytes is not that small
        have same : c = Char.ofNat (owed.value * 64 + (b.toNat - 0x80)) := by simpa using mem
        have two := wide.last last
        rcases toNat_ofNat (owed.value * 64 + (b.toNat - 0x80)) with own | zero
        · rw [same, own] at ascii
          omega
        · rw [same] at nonzero
          exact absurd zero nonzero
      next => cases mem
    next => exact fresh (by simpa using mem)

/-- An ASCII character comes from its own byte, never from a longer sequence. -/
theorem mem_of_mem_piecesFrom {state : Option Owed} (wide : ∀ s ∈ state, s.Wide) {c : Char}
    (ascii : c.toNat < 0x80) (nonzero : c.toNat ≠ 0) {bytes : List UInt8}
    (mem : some c ∈ piecesFrom [] state bytes) : UInt8.ofNat c.toNat ∈ bytes := by
  induction bytes generalizing state with
  | nil => cases state <;> simp [piecesFrom] at mem
  | cons b rest ih =>
    rw [piecesFrom_cons, piecesFrom_eq] at mem
    rcases List.mem_append.mp mem with here | later
    · have same := toNat_eq_of_step wide (by simpa using here) ascii nonzero
      rw [same, UInt8.ofNat_toNat]
      exact List.mem_cons_self
    · exact List.mem_cons_of_mem b (ih (wide_step wide b) later)

/-- An ASCII character stands in a decoded text exactly if its byte stands in the bytes. -/
theorem mem_lossy_iff {b : UInt8} (ascii : b.toNat < 0x80) (nonzero : b.toNat ≠ 0)
    {bytes : List UInt8} : Char.ofNat b.toNat ∈ lossy bytes ↔ b ∈ bytes := by
  have size : (Char.ofNat b.toNat).toNat = b.toNat := by
    have valid : b.toNat.isValidChar := .inl (by omega)
    rw [Char.ofNat, dif_pos valid]
    rfl
  constructor
  · intro mem
    obtain ⟨piece, among, same⟩ := List.mem_map.mp mem
    cases piece with
    | none =>
      have far : ¬ replacement.toNat < 0x80 := by decide
      have same : replacement = Char.ofNat b.toNat := same
      rw [same, size] at far
      exact absurd ascii far
    | some c =>
      have same : c = Char.ofNat b.toNat := same
      rw [← same] at size
      have found := mem_of_mem_piecesFrom (by simp) (size ▸ ascii) (size ▸ nonzero) among
      rwa [size, UInt8.ofNat_toNat] at found
  · intro mem
    obtain ⟨front, back, rfl⟩ := List.append_of_mem mem
    rw [lossy_append_ascii ascii]
    exact List.mem_append_right _ List.mem_cons_self

/-- Behind the last place of an ASCII byte nothing is read as its character. -/
theorem getLast?_lossy_iff {b : UInt8} (ascii : b.toNat < 0x80) (nonzero : b.toNat ≠ 0)
    {bytes : List UInt8} :
    (lossy bytes).getLast? = some (Char.ofNat b.toNat) ↔ bytes.getLast? = some b := by
  constructor
  · intro last
    have mem := (mem_lossy_iff ascii nonzero).mp (List.mem_of_getLast? last)
    obtain ⟨back, front, reversed, clean⟩ := List.eq_append_cons_of_mem (List.mem_reverse.mpr mem)
    obtain rfl : bytes = front.reverse ++ b :: back.reverse := by
      rw [← List.reverse_reverse bytes, reversed]
      simp
    rw [lossy_append_ascii ascii, List.getLast?_append] at last
    cases back with
    | nil => simp
    | cons d back =>
      have more : lossy (d :: back).reverse ≠ [] := by simp [lossy_eq_nil_iff]
      rw [List.getLast?_cons_of_ne_nil more, List.getLast?_eq_some_getLast more, Option.some_or]
        at last
      have later := List.getLast_mem more
      rw [Option.some.inj last, mem_lossy_iff ascii nonzero, List.mem_reverse] at later
      exact absurd later clean
  · intro last
    obtain ⟨front, rfl⟩ := List.getLast?_eq_some_iff.mp last
    simp [lossy_append_ascii ascii, lossy_eq_nil_iff.mpr]

end EngineTokens.Text.Utf8
