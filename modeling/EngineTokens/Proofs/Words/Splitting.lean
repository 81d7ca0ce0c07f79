import EngineTokens.Words

/-!
# A text is cut at the blanks outside quotes

Whether a blank cuts depends on the quotes before it alone: it does where their number is even. A
run of such blanks may stand for the end of one text and the start of another (`cut_append`), and a
text without any such blank is one word (`cut_of_blanksQuoted`). These two laws say what
`Words.split` is; the others follow. No word holds a quote, no character is lost apart from quotes
and cutting blanks (`flatten_cut`), and any list of words without quotes comes back from a text
where each stands in quotes.
-/

set_option autoImplicit false

namespace EngineTokens.Words

/-! ## Open quotes -/

/-- Whether a quote is open behind a text, where `quoted` tells whether one is open before it. -/
def openAfter (quoted : Bool) (text : List Char) : Bool :=
  quoted != (text.count '"' % 2 == 1)

/-- Nothing opens or closes a quote. -/
theorem openAfter_nil (quoted : Bool) : openAfter quoted [] = quoted := by
  simp [openAfter]

/-- A quote opens or closes. -/
theorem openAfter_quote (quoted : Bool) (text : List Char) :
    openAfter quoted ('"' :: text) = openAfter (!quoted) text := by
  have parity : ((text.count '"' + 1) % 2 == 1) = !(text.count '"' % 2 == 1) := by
    rcases Nat.mod_two_eq_zero_or_one (text.count '"') with even | odd
    · have next : (text.count '"' + 1) % 2 = 1 := by omega
      rw [even, next]
      rfl
    · have next : (text.count '"' + 1) % 2 = 0 := by omega
      rw [odd, next]
      rfl
  rw [openAfter, openAfter, List.count_cons_self, parity]
  cases quoted <;> simp

/-- Any other character leaves a quote open or closed. -/
theorem openAfter_plain {c : Char} (plain : c ≠ '"') (quoted : Bool) (text : List Char) :
    openAfter quoted (c :: text) = openAfter quoted text := by
  rw [openAfter, openAfter, List.count_cons_of_ne plain]

/-- A quote is not blank. -/
theorem ne_quote_of_isBlank {c : Char} (blank : Text.isBlank c = true) : c ≠ '"' := by
  rintro rfl
  exact absurd blank (by decide)

/-! ## One character -/

/-- A quote begins a word if none is begun, and stands for nothing itself. -/
theorem cut_quote (quoted : Bool) (word : Option (List Char)) (rest : List Char) :
    cut quoted word ('"' :: rest) = cut (!quoted) (some (word.getD [])) rest := by
  simp [cut]

/-- A blank outside of quotes ends a word. -/
theorem cut_unquoted {c : Char} (blank : Text.isBlank c = true) (word : Option (List Char))
    (rest : List Char) :
    cut false word (c :: rest) = (word.map List.reverse).toList ++ cut false none rest := by
  have plain := ne_quote_of_isBlank blank
  cases word <;> simp [cut, plain, blank]

/-- Any other character, and a blank within quotes, goes into a word. -/
theorem cut_kept {quoted : Bool} {c : Char} (plain : c ≠ '"')
    (stays : Text.isBlank c = true → quoted = true) (word : Option (List Char)) (rest : List Char) :
    cut quoted word (c :: rest) = cut quoted (some (c :: word.getD [])) rest := by
  cases blank : Text.isBlank c with
  | false => simp [cut, plain, blank]
  | true => simp [cut, plain, stays blank]

/-- A character is a quote, a blank that cuts, or one that is kept. -/
theorem quote_or_unquoted_or_kept (quoted : Bool) (c : Char) :
    c = '"' ∨ (Text.isBlank c = true ∧ quoted = false) ∨
      (c ≠ '"' ∧ (Text.isBlank c = true → quoted = true)) := by
  by_cases quote : c = '"'
  · exact .inl quote
  · cases quoted with
    | true => exact .inr (.inr ⟨quote, fun _ => rfl⟩)
    | false =>
      cases blank : Text.isBlank c with
      | true => exact .inr (.inl ⟨rfl, rfl⟩)
      | false => exact .inr (.inr ⟨quote, fun absurd => by cases absurd⟩)

/-! ## Where a text is cut -/

/-- A blank behind a text that leaves no quote open ends the word in hand, and what comes after it
is cut on its own. By induction on the text before the blank. -/
theorem cut_append_blank {quoted : Bool} {front : List Char} (closed : openAfter quoted front = false)
    {c : Char} (blank : Text.isBlank c = true) (word : Option (List Char)) (back : List Char) :
    cut quoted word (front ++ c :: back) = cut quoted word front ++ cut false none back := by
  induction front generalizing quoted word with
  | nil =>
    rw [openAfter_nil] at closed
    subst closed
    rw [List.nil_append, cut_unquoted blank]
    rfl
  | cons d front ih =>
    rw [List.cons_append]
    rcases quote_or_unquoted_or_kept quoted d with rfl | ⟨ends, rfl⟩ | ⟨plain, stays⟩
    · rw [openAfter_quote] at closed
      rw [cut_quote, cut_quote, ih closed]
    · rw [openAfter_plain (ne_quote_of_isBlank ends)] at closed
      rw [cut_unquoted ends, cut_unquoted ends, ih closed, List.append_assoc]
    · rw [openAfter_plain plain] at closed
      rw [cut_kept plain stays, cut_kept plain stays, ih closed]

/-- Blanks between two words are passed over. -/
theorem cut_blanks {gap : List Char} (blank : ∀ c ∈ gap, Text.isBlank c = true)
    (back : List Char) : cut false none (gap ++ back) = cut false none back := by
  induction gap with
  | nil => rfl
  | cons c gap ih =>
    have first := blank c List.mem_cons_self
    have others : ∀ d ∈ gap, Text.isBlank d = true := fun d mem =>
      blank d (List.mem_cons_of_mem c mem)
    rw [List.cons_append, cut_unquoted first, ih others]
    rfl

/-- Texts between which only blanks stand are split on their own, unless a quote is open between
them. -/
theorem cut_append {front gap : List Char} (even : front.count '"' % 2 = 0) (some : gap ≠ [])
    (blank : ∀ c ∈ gap, Text.isBlank c = true) (back : List Char) :
    cut false none (front ++ gap ++ back) = cut false none front ++ cut false none back := by
  cases gap with
  | nil => exact absurd rfl some
  | cons c gap =>
    have first := blank c List.mem_cons_self
    have others : ∀ d ∈ gap, Text.isBlank d = true := fun d mem =>
      blank d (List.mem_cons_of_mem c mem)
    have closed : openAfter false front = false := by simpa [openAfter] using even
    rw [List.append_assoc, List.cons_append, cut_append_blank closed first, cut_blanks others]

/-! ## Where it is not -/

/-- Every blank of a text stands inside quotes, where `quoted` tells whether a quote is open before
the text. -/
def BlanksQuoted (quoted : Bool) (text : List Char) : Prop :=
  ∀ before c after, text = before ++ c :: after → Text.isBlank c = true →
    openAfter quoted before = true

/-- A blank at the start is within quotes. -/
theorem BlanksQuoted.head {quoted : Bool} {c : Char} {text : List Char}
    (inside : BlanksQuoted quoted (c :: text)) (blank : Text.isBlank c = true) : quoted = true := by
  have here := inside [] c text rfl blank
  rwa [openAfter_nil] at here

/-- So are the blanks after a quote. -/
theorem BlanksQuoted.tail_quote {quoted : Bool} {text : List Char}
    (inside : BlanksQuoted quoted ('"' :: text)) : BlanksQuoted (!quoted) text := by
  intro before c after whole blank
  have here := inside ('"' :: before) c after (by rw [whole, List.cons_append]) blank
  rwa [openAfter_quote] at here

/-- So are the blanks after any other character. -/
theorem BlanksQuoted.tail_plain {quoted : Bool} {d : Char} {text : List Char}
    (inside : BlanksQuoted quoted (d :: text)) (plain : d ≠ '"') : BlanksQuoted quoted text := by
  intro before c after whole blank
  have here := inside (d :: before) c after (by rw [whole, List.cons_append]) blank
  rwa [openAfter_plain plain] at here

/-- The word in hand goes on to the end of a text that is not cut. -/
theorem cut_some_of_blanksQuoted {quoted : Bool} {text : List Char}
    (inside : BlanksQuoted quoted text) (word : List Char) :
    cut quoted (some word) text = [word.reverse ++ text.filter (· != '"')] := by
  induction text generalizing quoted word with
  | nil => simp [cut]
  | cons c text ih =>
    by_cases quote : c = '"'
    · subst quote
      rw [cut_quote, ih inside.tail_quote]
      simp
    · rw [cut_kept quote inside.head, ih (inside.tail_plain quote)]
      simp [quote]

/-- A text without a blank outside of quotes is one word, or none if it is empty. -/
theorem cut_of_blanksQuoted {text : List Char} (inside : BlanksQuoted false text) :
    cut false none text = if text = [] then [] else [text.filter (· != '"')] := by
  cases text with
  | nil => rfl
  | cons c text =>
    -- the first character opens a word, even if it is a quote
    have opens : cut false none (c :: text) = cut false (some []) (c :: text) := by
      by_cases quote : c = '"'
      · rw [quote, cut_quote, cut_quote]
        rfl
      · rw [cut_kept quote inside.head, cut_kept quote inside.head]
        rfl
    rw [opens, cut_some_of_blanksQuoted inside, if_neg (List.cons_ne_nil c text)]
    rfl

/-! ## What the words hold -/

/-- The characters of a text apart from quotes and from blanks outside quotes, where `quoted` tells
whether a quote is open before the text. -/
def content (quoted : Bool) (text : List Char) : List Char :=
  (text.zipIdx.filter fun (c, i) =>
    c != '"' && (!Text.isBlank c || openAfter quoted (text.take i))).map Prod.fst

/-- The content of a text is that of its first character and of the rest. -/
theorem content_cons (quoted : Bool) (c : Char) (text : List Char) :
    content quoted (c :: text) =
      (if c != '"' && (!Text.isBlank c || quoted) then [c] else []) ++
        content (openAfter quoted [c]) text := by
  have later : ∀ i, openAfter quoted ((c :: text).take (i + 1)) =
      openAfter (openAfter quoted [c]) (text.take i) := by
    intro i
    rw [List.take_succ_cons]
    by_cases quote : c = '"'
    · subst quote
      rw [openAfter_quote, openAfter_quote, openAfter_nil]
    · rw [openAfter_plain quote, openAfter_plain quote, openAfter_nil]
  have rest : ((text.zipIdx 1).filter fun (d, i) =>
        d != '"' && (!Text.isBlank d || openAfter quoted ((c :: text).take i))).map Prod.fst =
      content (openAfter quoted [c]) text := by
    rw [List.zipIdx_succ, List.filter_map, List.map_map, content]
    simp only [Function.comp_def, later]
  rw [content, List.zipIdx_cons, List.filter_cons, ← rest]
  simp only [List.take_zero, openAfter_nil]
  split <;> rfl

/-- The words together hold what was in hand and the content of the text. -/
theorem flatten_cut (quoted : Bool) (word : Option (List Char)) (text : List Char) :
    (cut quoted word text).flatten = (word.getD []).reverse ++ content quoted text := by
  induction text generalizing quoted word with
  | nil => cases word <;> simp [cut, content]
  | cons c text ih =>
    rw [content_cons]
    rcases quote_or_unquoted_or_kept quoted c with rfl | ⟨ends, rfl⟩ | ⟨plain, stays⟩
    · rw [cut_quote, ih, openAfter_quote, openAfter_nil]
      simp
    · rw [cut_unquoted ends, openAfter_plain (ne_quote_of_isBlank ends), openAfter_nil]
      cases word <;> simp [ih, ends]
    · have kept : (c != '"' && (!Text.isBlank c || quoted)) = true := by
        cases blank : Text.isBlank c with
        | false => simp [plain]
        | true => simp [plain, stays blank]
      rw [cut_kept plain stays, ih, openAfter_plain plain, openAfter_nil, if_pos kept]
      simp

/-- No word has a quote in it. -/
theorem not_quote_mem_cut {quoted : Bool} {word : Option (List Char)}
    (clean : '"' ∉ word.getD []) {text token : List Char} (mem : token ∈ cut quoted word text) :
    '"' ∉ token := by
  induction text generalizing quoted word with
  | nil =>
    cases word with
    | none => cases mem
    | some word =>
      obtain rfl : token = word.reverse := by simpa [cut] using mem
      simpa using clean
  | cons c text ih =>
    rcases quote_or_unquoted_or_kept quoted c with rfl | ⟨ends, rfl⟩ | ⟨plain, stays⟩
    · rw [cut_quote] at mem
      exact ih (by simpa using clean) mem
    · rw [cut_unquoted ends] at mem
      rcases List.mem_append.mp mem with ended | later
      · cases word with
        | none => cases ended
        | some word =>
          obtain rfl : token = word.reverse := by simpa using ended
          simpa using clean
      · exact ih List.not_mem_nil later
    · rw [cut_kept plain stays] at mem
      refine ih ?_ mem
      simpa [plain.symm] using clean

/-! ## Words in quotes -/

/-- A word in quotes. -/
def enclose (word : String) : String :=
  "\"" ++ word ++ "\""

/-- Words in quotes with a gap between each and the next. -/
def joinEnclosed : List String → List String → String
  | word :: words, gap :: gaps => enclose word ++ gap ++ joinEnclosed words gaps
  | words, _ => String.join (words.map enclose)

/-- What may stand between two words: blanks, and at least one. -/
def IsGap (gap : String) : Prop :=
  gap ≠ "" ∧ ∀ c ∈ gap.toList, Text.isBlank c = true

/-- Arguments with a gap between them are split on their own. -/
theorem split_append {front gap : String} (even : front.toList.count '"' % 2 = 0)
    (between : IsGap gap) (back : String) :
    split (front ++ gap ++ back) = split front ++ split back := by
  have some : gap.toList ≠ [] := by simpa using between.1
  simp only [split, String.toList_append, cut_append even some between.2, List.map_append]

/-- Between quotes all characters go into the word in hand. -/
theorem cut_enclosed {chars : List Char} (clean : '"' ∉ chars) (word rest : List Char) :
    cut true (some word) (chars ++ '"' :: rest) = cut false (some (chars.reverse ++ word)) rest := by
  induction chars generalizing word with
  | nil => rw [List.nil_append, cut_quote]; rfl
  | cons c chars ih =>
    obtain ⟨first, others⟩ : '"' ≠ c ∧ '"' ∉ chars := by simpa using clean
    rw [List.cons_append, cut_kept first.symm fun _ => rfl, ih others]
    simp

/-- A word in quotes is one argument. -/
theorem split_enclose {word : String} (clean : '"' ∉ word.toList) : split (enclose word) = [word] := by
  have chars : (enclose word).toList = '"' :: (word.toList ++ ['"']) := by simp [enclose]
  rw [split, chars, cut_quote, Option.getD_none, Bool.not_false, cut_enclosed clean]
  simp [cut]

/-- A word in quotes leaves none open. -/
theorem count_enclose {word : String} (clean : '"' ∉ word.toList) :
    (enclose word).toList.count '"' % 2 = 0 := by
  simp [enclose, List.count_eq_zero.mpr clean]

/-- Words in quotes with gaps between them are split into the words. -/
theorem split_joinEnclosed {words gaps : List String} (clean : ∀ word ∈ words, '"' ∉ word.toList)
    (between : ∀ gap ∈ gaps, IsGap gap) (each : gaps.length = words.length - 1) :
    split (joinEnclosed words gaps) = words := by
  induction words generalizing gaps with
  | nil => rfl
  | cons word words ih =>
    have first := clean word List.mem_cons_self
    cases gaps with
    | nil =>
      have alone : words = [] := List.length_eq_zero_iff.mp (by simpa using each.symm)
      subst alone
      simpa [joinEnclosed, String.join] using split_enclose first
    | cons gap gaps =>
      have others : ∀ word ∈ words, '"' ∉ word.toList := fun other mem =>
        clean other (List.mem_cons_of_mem word mem)
      have fewer : gaps.length = words.length - 1 := by
        simp only [List.length_cons] at each
        omega
      have rest := ih others (fun gap mem => between gap (List.mem_cons_of_mem _ mem)) fewer
      rw [joinEnclosed, split_append (count_enclose first) (between gap List.mem_cons_self),
        split_enclose first, rest]
      rfl

/-! ## The laws of splitting -/

/-- Splitting at blanks outside quotes, in two laws and what follows from them. At a run of blanks
with an even number of quotes before it, a text is split into the words of both sides. A text where
an odd number of quotes stands before each blank is one word, or none if it is empty. No word holds
a quote, the words together are the text without its quotes and its blanks outside quotes, and words
without quotes, each put in quotes, come back whatever blanks stand between them. -/
theorem split_laws :
    (∀ front gap back : String, front.toList.count '"' % 2 = 0 → IsGap gap →
      split (front ++ gap ++ back) = split front ++ split back) ∧
    (∀ text : String,
      (∀ i (inside : i < text.toList.length), Text.isBlank text.toList[i] = true →
        (text.toList.take i).count '"' % 2 = 1) →
      split text = if text = "" then [] else [String.ofList (text.toList.filter (· != '"'))]) ∧
    (∀ text : String, (∀ word ∈ split text, '"' ∉ word.toList) ∧
      String.join (split text) = String.ofList (content false text.toList)) ∧
    (∀ words gaps : List String, (∀ word ∈ words, '"' ∉ word.toList) → (∀ gap ∈ gaps, IsGap gap) →
      gaps.length = words.length - 1 → split (joinEnclosed words gaps) = words) := by
  refine ⟨fun front gap back even between => split_append even between back, ?_, ?_,
    fun words gaps => split_joinEnclosed⟩
  · intro text odd
    have inside : BlanksQuoted false text.toList := by
      intro before c after whole blank
      have here := odd before.length (by simp [whole])
      simp only [whole, List.take_left, List.getElem_append_right (Nat.le_refl _), Nat.sub_self,
        List.getElem_cons_zero] at here
      simpa [openAfter] using here blank
    rw [split, cut_of_blanksQuoted inside]
    by_cases empty : text = ""
    · simp [empty]
    · have some : text.toList ≠ [] := by simpa using empty
      rw [if_neg some, if_neg empty]
      rfl
  · intro text
    constructor
    · intro word mem
      obtain ⟨token, among, rfl⟩ := List.mem_map.mp mem
      rw [String.toList_ofList]
      exact not_quote_mem_cut List.not_mem_nil among
    · have joined := flatten_cut false none text.toList
      rw [split, String.ext_iff, String.toList_ofList, String.toList_join, List.flatMap_map]
      simpa using joined

/-- A title in quotes, two blanks of which one is not ASCII, an empty word, a backslash, and a quote
that is never closed. -/
theorem split_laws_mixedText :
    split ("-sTitle=\"A B\"" ++ "\u00a0\t" ++ "\"\" C:\\x\"y z") =
        split "-sTitle=\"A B\"" ++ split "\"\" C:\\x\"y z" ∧
      split "-sTitle=\"A B\"" = ["-sTitle=A B"] ∧
      (∀ word ∈ split "\"\" C:\\x\"y z", '"' ∉ word.toList) ∧
      String.join (split "\"\" C:\\x\"y z") = "C:\\xy z" ∧
      split (joinEnclosed ["", "C:\\", " "] ["\n", "\u2003 "]) = ["", "C:\\", " "] := by
  obtain ⟨cuts, whole, holds, inverts⟩ := split_laws
  have blank : ∀ c ∈ ['\n', '\u2003', ' ', '\u00a0', '\t'], Text.isBlank c = true := by
    simp [Text.isBlank]
  refine ⟨cuts _ _ _ (by decide +kernel) ⟨by simp, ?_⟩, ?_, (holds _).1, ?_, inverts _ _ ?_ ?_ rfl⟩
  · simpa using ⟨blank _ (by simp), blank _ (by simp)⟩
  · exact (whole _ (by decide +kernel)).trans (by decide +kernel)
  · exact (holds _).2.trans (by decide +kernel)
  · simp
  · simpa [IsGap] using ⟨blank '\n' (by simp), blank '\u2003' (by simp), blank ' ' (by simp)⟩

end EngineTokens.Words
