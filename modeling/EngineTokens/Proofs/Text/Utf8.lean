import EngineTokens.Text.Utf8

/-!
# Text written as UTF-8 is read back

The reader takes the bytes of one character after another, and each character costs it exactly the
bytes that writing gives it (`piecesFrom_utf8EncodeChar`). So the bytes of a text are well-formed
and are read as that text (`decode?_encode`).
-/

set_option autoImplicit false

namespace EngineTokens.Text.Utf8

/-- Texts are written one after the other. -/
theorem encode_append (front back : List Char) :
    encode (front ++ back) = encode front ++ encode back :=
  List.flatMap_append

/-- The pieces of a byte are put after those before it. -/
theorem piecesFrom_cons (before : List (Option Char)) (state : Option Owed) (b : UInt8)
    (rest : List UInt8) :
    piecesFrom before state (b :: rest) =
      piecesFrom ((step state b).1.reverse ++ before) (step state b).2 rest := by
  cases state <;> rfl

/-! ## One byte -/

/-- A byte below 0x80 is a character of its own. -/
theorem step_whole {n : Nat} (ascii : n < 0x80) :
    step none (UInt8.ofNat n) = ([some (Char.ofNat n)], none) := by
  have size : (UInt8.ofNat n).toNat = n := UInt8.toNat_ofNat_of_lt' (Nat.lt_trans ascii (by decide))
  simp only [step, start, lead, size, if_pos ascii]

/-- The first of two bytes. -/
theorem step_lead_two {n : Nat} (low : 0xC2 ≤ n) (high : n < 0xE0) :
    step none (UInt8.ofNat n) = ([], some ⟨1, 0x80, 0xBF, n - 0xC0⟩) := by
  have size : (UInt8.ofNat n).toNat = n := UInt8.toNat_ofNat_of_lt' (Nat.lt_trans high (by decide))
  simp only [step, start, lead, size]
  rw [if_neg (by omega), if_neg (by omega), if_pos high]

/-- The first of three bytes. Two of them narrow the bounds of the next byte. -/
theorem step_lead_three {n : Nat} (low : 0xE0 ≤ n) (high : n < 0xF0) :
    step none (UInt8.ofNat n) =
      ([], some ⟨2, if n = 0xE0 then 0xA0 else 0x80, if n = 0xED then 0x9F else 0xBF, n - 0xE0⟩) := by
  have size : (UInt8.ofNat n).toNat = n := UInt8.toNat_ofNat_of_lt' (Nat.lt_trans high (by decide))
  simp only [step, start, lead, size, beq_iff_eq]
  rw [if_neg (by omega), if_neg (by omega), if_neg (by omega)]
  by_cases shortest : n = 0xE0
  · subst shortest
    rfl
  · by_cases surrogate : n = 0xED
    · subst surrogate
      rfl
    · simp only [if_neg shortest, if_neg surrogate, if_pos high]

/-- The first of four bytes. Two of them narrow the bounds of the next byte. -/
theorem step_lead_four {n : Nat} (low : 0xF0 ≤ n) (high : n < 0xF5) :
    step none (UInt8.ofNat n) =
      ([], some ⟨3, if n = 0xF0 then 0x90 else 0x80, if n = 0xF4 then 0x8F else 0xBF, n - 0xF0⟩) := by
  have size : (UInt8.ofNat n).toNat = n := UInt8.toNat_ofNat_of_lt' (Nat.lt_trans high (by decide))
  simp only [step, start, lead, size, beq_iff_eq]
  rw [if_neg (by omega), if_neg (by omega), if_neg (by omega), if_neg (by omega),
    if_neg (by omega), if_neg (by omega)]
  by_cases shortest : n = 0xF0
  · subst shortest
    rfl
  · by_cases largest : n = 0xF4
    · subst largest
      rfl
    · simp only [if_neg shortest, if_neg largest]
      rw [if_pos (by omega)]

/-- A byte within the bounds of the character in hand continues it. -/
theorem step_continue {s : Owed} {n : Nat} (small : n < 0x100) (low : s.low.toNat ≤ n)
    (high : n ≤ s.high.toNat) :
    step (some s) (UInt8.ofNat n) =
      if s.more ≤ 1 then ([some (Char.ofNat (s.value * 64 + (n - 0x80)))], none)
      else ([], some ⟨s.more - 1, 0x80, 0xBF, s.value * 64 + (n - 0x80)⟩) := by
  have size : (UInt8.ofNat n).toNat = n := UInt8.toNat_ofNat_of_lt' small
  have inside : (decide (s.low ≤ UInt8.ofNat n) && decide (UInt8.ofNat n ≤ s.high)) = true := by
    simp only [Bool.and_eq_true, decide_eq_true_eq, UInt8.le_iff_toNat_le, size]
    exact ⟨low, high⟩
  simp only [step, inside, if_true, size]

/-- Bounds that are not narrowed. -/
theorem step_continue_plain {more value n : Nat} (low : 0x80 ≤ n) (high : n < 0xC0) :
    step (some ⟨more, 0x80, 0xBF, value⟩) (UInt8.ofNat n) =
      if more ≤ 1 then ([some (Char.ofNat (value * 64 + (n - 0x80)))], none)
      else ([], some ⟨more - 1, 0x80, 0xBF, value * 64 + (n - 0x80)⟩) :=
  step_continue (by omega) low (Nat.le_of_lt_succ high)

/-! ## One character -/

/-- The bytes of one character are read as that character, whatever follows. -/
theorem piecesFrom_utf8EncodeChar (before : List (Option Char)) (c : Char) (rest : List UInt8) :
    piecesFrom before none (String.utf8EncodeChar c ++ rest) =
      piecesFrom (some c :: before) none rest := by
  have self : Char.ofNat c.val.toNat = c := Char.ofNat_toNat c
  have valid : c.val.toNat < 0xD800 ∨ 0xDFFF < c.val.toNat ∧ c.val.toNat < 0x110000 := c.valid
  unfold String.utf8EncodeChar
  generalize c.val.toNat = v at self valid
  dsimp only
  split
  next one =>
    rw [List.singleton_append, piecesFrom_cons, step_whole (by omega), self]
    rfl
  split
  next two =>
    have value : (v / 64 % 32 + 192 - 192) * 64 + (v % 64 + 128 - 128) = v := by omega
    simp only [List.cons_append, List.nil_append]
    rw [piecesFrom_cons, step_lead_two (by omega) (by omega), piecesFrom_cons,
      step_continue_plain (by omega) (by omega)]
    simp only [Nat.le_refl, if_true, value, self]
    rfl
  split
  next three =>
    have value : ((v / 4096 % 16 + 224 - 224) * 64 + (v / 64 % 64 + 128 - 128)) * 64 +
        (v % 64 + 128 - 128) = v := by omega
    -- short forms and surrogates are ruled out by the size of the character
    have low : (if v / 4096 % 16 + 224 = 0xE0 then 0xA0 else 0x80 : UInt8).toNat ≤
        v / 64 % 64 + 128 := by
      split
      · have short : (0xA0 : UInt8).toNat = 160 := rfl
        omega
      · have least : (0x80 : UInt8).toNat = 128 := rfl
        omega
    have high : v / 64 % 64 + 128 ≤
        (if v / 4096 % 16 + 224 = 0xED then 0x9F else 0xBF : UInt8).toNat := by
      split
      · have surrogate : (0x9F : UInt8).toNat = 159 := rfl
        omega
      · have greatest : (0xBF : UInt8).toNat = 191 := rfl
        omega
    simp only [List.cons_append, List.nil_append]
    rw [piecesFrom_cons, step_lead_three (by omega) (by omega), piecesFrom_cons,
      step_continue (by omega) (by exact low) (by exact high), if_neg (by simp), piecesFrom_cons,
      step_continue_plain (by omega) (by omega)]
    simp only [Nat.reduceSub, Nat.reduceLeDiff, if_true, value, self]
    rfl
  next four =>
    have value : (((v / 262144 % 8 + 240 - 240) * 64 + (v / 4096 % 64 + 128 - 128)) * 64 +
        (v / 64 % 64 + 128 - 128)) * 64 + (v % 64 + 128 - 128) = v := by omega
    have low : (if v / 262144 % 8 + 240 = 0xF0 then 0x90 else 0x80 : UInt8).toNat ≤
        v / 4096 % 64 + 128 := by
      split
      · have short : (0x90 : UInt8).toNat = 144 := rfl
        omega
      · have least : (0x80 : UInt8).toNat = 128 := rfl
        omega
    have high : v / 4096 % 64 + 128 ≤
        (if v / 262144 % 8 + 240 = 0xF4 then 0x8F else 0xBF : UInt8).toNat := by
      split
      · have beyond : (0x8F : UInt8).toNat = 143 := rfl
        omega
      · have greatest : (0xBF : UInt8).toNat = 191 := rfl
        omega
    simp only [List.cons_append, List.nil_append]
    rw [piecesFrom_cons, step_lead_four (by omega) (by omega), piecesFrom_cons,
      step_continue (by omega) (by exact low) (by exact high), if_neg (by simp), piecesFrom_cons,
      step_continue_plain (by omega) (by omega), if_neg (by simp), piecesFrom_cons,
      step_continue_plain (by omega) (by omega)]
    simp only [Nat.reduceSub, Nat.reduceLeDiff, if_true, value, self]
    rfl

/-! ## A whole text -/

/-- An encoded text decodes to its characters, whatever pieces are there before it. -/
theorem piecesFrom_encode (before : List (Option Char)) (text : List Char) :
    piecesFrom before none (encode text) = before.reverse ++ text.map some := by
  induction text generalizing before with
  | nil => simp [encode, piecesFrom]
  | cons c text ih =>
    have cut : encode (c :: text) = String.utf8EncodeChar c ++ encode text := List.flatMap_cons
    rw [cut, piecesFrom_utf8EncodeChar, ih]
    simp

/-- Where no piece is broken, all characters are there. -/
theorem wholeFrom?_map_some (before text : List Char) :
    wholeFrom? before (text.map some) = some (before.reverse ++ text) := by
  induction text generalizing before with
  | nil => simp [wholeFrom?]
  | cons c text ih => simp [wholeFrom?, ih]

/-- The bytes of a text are well-formed and are read as that text. -/
theorem decode?_encode (text : List Char) : decode? (encode text) = some text := by
  rw [decode?, pieces, piecesFrom_encode, List.reverse_nil, List.nil_append, wholeFrom?_map_some]
  rfl

end EngineTokens.Text.Utf8
