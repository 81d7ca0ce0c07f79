import EngineTokens.Engine.Forwarding
import EngineTokens.Proofs.Engine.Sending
import EngineTokens.Proofs.Text.Lossy

/-!
# Lines hang on the stream alone

A stream is a row of lines that end with a line feed, and a last one that does not
(`lines_induction`). Whatever chunks it arrives in, its lines are the same (`stream_eq_linesOf`).
They are also the lines of the whole stream read as text (`linesOf_eq_textLines`), since lossy text
may be cut at line feeds and carriage returns. Lines that were written with either line end are read
back (`linesOf_written`).
-/

set_option autoImplicit false

namespace EngineTokens.Engine

open Text.Utf8 (encode lossy lossy_append_ascii lossy_eq_nil_iff lossy_encode mem_lossy_iff
  getLast?_lossy_iff)

/-! ## Cutting a stream -/

/-- What holds of bytes without a line feed, and of a line with its line feed and what comes after
if it holds of what comes after, holds of every stream. -/
theorem lines_induction {motive : List UInt8 → Prop}
    (last : ∀ line, lineFeed ∉ line → motive line)
    (more : ∀ line rest, lineFeed ∉ line → motive rest → motive (line ++ lineFeed :: rest))
    (stream : List UInt8) : motive stream := by
  induction size : stream.length using Nat.strongRecOn generalizing stream with
  | ind length ih =>
    by_cases mem : lineFeed ∈ stream
    · obtain ⟨line, rest, rfl, clean⟩ := List.eq_append_cons_of_mem mem
      have shorter : rest.length < length := by
        rw [← size, List.length_append, List.length_cons]
        omega
      exact more line rest clean (ih rest.length shorter rest rfl)
    · exact last stream mem

/-- The lines that are there already come first. -/
theorem cutLinesFrom_eq (line : List UInt8) (lines : List (List UInt8)) (stream : List UInt8) :
    cutLinesFrom line lines stream = lines.reverse ++ cutLinesFrom line [] stream := by
  induction stream generalizing line lines with
  | nil =>
    rw [cutLinesFrom, cutLinesFrom]
    split <;> simp
  | cons b rest ih =>
    rw [cutLinesFrom, cutLinesFrom]
    split
    · rw [ih, ih [] [(b :: line).reverse]]
      simp
    · exact ih (b :: line) lines

/-- A line ends at the first line feed. -/
theorem cutLinesFrom_append {line : List UInt8} (clean : lineFeed ∉ line) (held rest : List UInt8) :
    cutLinesFrom held [] (line ++ lineFeed :: rest) =
      (held.reverse ++ line ++ [lineFeed]) :: cutLines rest := by
  induction line generalizing held with
  | nil =>
    rw [List.nil_append, cutLinesFrom, if_pos rfl, cutLinesFrom_eq]
    simp [cutLines]
  | cons b line ih =>
    obtain ⟨first, others⟩ : lineFeed ≠ b ∧ lineFeed ∉ line := by simpa using clean
    rw [List.cons_append, cutLinesFrom, if_neg first.symm, ih others]
    simp

/-- Without a line feed there is one line, or none. -/
theorem cutLinesFrom_of_not_mem {line : List UInt8} (clean : lineFeed ∉ line) (held : List UInt8) :
    cutLinesFrom held [] line =
      if held.reverse ++ line = [] then [] else [held.reverse ++ line] := by
  induction line generalizing held with
  | nil =>
    rw [cutLinesFrom]
    by_cases nothing : held = [] <;> simp [nothing]
  | cons b line ih =>
    obtain ⟨first, others⟩ : lineFeed ≠ b ∧ lineFeed ∉ line := by simpa using clean
    rw [cutLinesFrom, if_neg first.symm, ih others]
    simp

/-- The lines of a stream are its first line and those of the rest. -/
theorem linesOf_append {line : List UInt8} (clean : lineFeed ∉ line) (rest : List UInt8) :
    linesOf (line ++ lineFeed :: rest) = decodeLine (line ++ [lineFeed]) :: linesOf rest := by
  rw [linesOf, cutLines, cutLinesFrom_append clean]
  rfl

/-- A stream without a line feed is one line, or none. -/
theorem linesOf_of_not_mem {line : List UInt8} (clean : lineFeed ∉ line) :
    linesOf line = if line = [] then [] else [decodeLine line] := by
  rw [linesOf, cutLines, cutLinesFrom_of_not_mem clean, List.reverse_nil, List.nil_append]
  split <;> rfl

/-! ## Chunks -/

namespace Buffer

/-- Bytes that are taken into a buffer complete the lines that they complete in the stream, and the
line in hand stays without a line feed. -/
theorem linesOf_take {buffer : Buffer} (clean : lineFeed ∉ buffer.held) (lines : List String)
    (bytes rest : List UInt8) :
    lineFeed ∉ (buffer.take lines bytes).1.held ∧
      lines ++ linesOf (buffer.held ++ (bytes ++ rest)) =
        (buffer.take lines bytes).2 ++ linesOf ((buffer.take lines bytes).1.held ++ rest) := by
  induction bytes generalizing buffer lines with
  | nil => exact ⟨clean, rfl⟩
  | cons b bytes ih =>
    by_cases ends : b = lineFeed
    · have taken : buffer.take lines (b :: bytes) =
          take {} (lines ++ [decodeLine (buffer.held ++ [b])]) bytes := by
        rw [take, if_pos ends]
      obtain ⟨kept, same⟩ := @ih {} List.not_mem_nil (lines ++ [decodeLine (buffer.held ++ [b])])
      rw [taken]
      refine ⟨kept, same ▸ ?_⟩
      rw [ends, List.cons_append, linesOf_append clean]
      simp
    · have taken : buffer.take lines (b :: bytes) = take ⟨buffer.held ++ [b]⟩ lines bytes := by
        rw [take, if_neg ends]
      have still : lineFeed ∉ buffer.held ++ [b] := by simp [clean, Ne.symm ends]
      obtain ⟨kept, same⟩ := @ih ⟨buffer.held ++ [b]⟩ still lines
      rw [taken]
      refine ⟨kept, same ▸ ?_⟩
      simp

/-- The lines of a chunk come first, and those of the rest go on with the line in hand. -/
theorem linesOf_feed {buffer : Buffer} (clean : lineFeed ∉ buffer.held) (chunk rest : List UInt8) :
    lineFeed ∉ (buffer.feed chunk).1.held ∧
      linesOf (buffer.held ++ (chunk ++ rest)) =
        (buffer.feed chunk).2 ++ linesOf ((buffer.feed chunk).1.held ++ rest) :=
  linesOf_take clean [] chunk rest

/-- The line in hand is the last line of the stream. -/
theorem finish_eq {buffer : Buffer} (clean : lineFeed ∉ buffer.held) :
    buffer.finish = linesOf buffer.held :=
  (linesOf_of_not_mem clean).symm

/-- The lines of a stream do not depend on where its chunks end. -/
theorem stream_eq_linesOf {buffer : Buffer} (clean : lineFeed ∉ buffer.held)
    (chunks : List (List UInt8)) :
    buffer.stream chunks = linesOf (buffer.held ++ chunks.flatten) := by
  induction chunks generalizing buffer with
  | nil => simpa [stream] using finish_eq clean
  | cons chunk chunks ih =>
    obtain ⟨kept, same⟩ := linesOf_feed clean chunk chunks.flatten
    rw [List.flatten_cons, same, ← ih kept]
    rfl

end Buffer

/-! ## The whole stream as text -/

/-- A line without the carriage return at its end, if there is one. -/
def dropReturn (line : List Char) : List Char :=
  if line.getLast? = some '\r' then line.dropLast else line

/-- The lines of a text: the pieces between its line feeds, the last one only if it is not empty,
each without the carriage return at its end. -/
def textLines (text : List Char) : List String :=
  let pieces := text.splitOn '\n'
  let lines := if pieces.getLast? = some [] then pieces.dropLast else pieces
  lines.map fun line => String.ofList (dropReturn line)

/-- The lines of a text are its first line and those of the rest. -/
theorem textLines_append {line : List Char} (clean : '\n' ∉ line) (rest : List Char) :
    textLines (line ++ '\n' :: rest) = String.ofList (dropReturn line) :: textLines rest := by
  have some : rest.splitOn '\n' ≠ [] := List.splitOn_ne_nil '\n' rest
  simp only [textLines, List.splitOn_append_cons_self_of_not_mem clean,
    List.getLast?_cons_of_ne_nil some, List.dropLast_cons_of_ne_nil some]
  split <;> rfl

/-- A text without a line feed is one line, or none. -/
theorem textLines_of_not_mem {line : List Char} (clean : '\n' ∉ line) :
    textLines line = if line = [] then [] else [String.ofList (dropReturn line)] := by
  simp only [textLines, List.splitOn_eq_singleton clean]
  by_cases nothing : line = [] <;> simp [nothing]

/-- The byte of a line feed is its character. -/
theorem ofNat_lineFeed : Char.ofNat lineFeed.toNat = '\n' := by decide

/-- The byte of a carriage return is its character. -/
theorem ofNat_carriageReturn : Char.ofNat carriageReturn.toNat = '\r' := by decide

/-- A line feed stands in a decoded line exactly if its byte stands in the line. -/
theorem newLine_mem_lossy_iff {line : List UInt8} : '\n' ∈ lossy line ↔ lineFeed ∈ line := by
  rw [← ofNat_lineFeed, mem_lossy_iff (by decide) (by decide)]

/-- A decoded line ends with a carriage return exactly if the line ends with its byte. -/
theorem return_ends_lossy_iff {line : List UInt8} :
    (lossy line).getLast? = some '\r' ↔ line.getLast? = some carriageReturn := by
  rw [← ofNat_carriageReturn, getLast?_lossy_iff (by decide) (by decide)]

/-- Reading commutes with dropping a carriage return, also behind an ill-formed beginning of a
character. -/
theorem lossy_dropEnd (line : List UInt8) :
    lossy (dropEnd carriageReturn line) = dropReturn (lossy line) := by
  by_cases ends : line.getLast? = some carriageReturn
  · have reads := return_ends_lossy_iff.mpr ends
    obtain ⟨front, rfl⟩ := List.getLast?_eq_some_iff.mp ends
    rw [dropEnd, if_pos ends, dropReturn, if_pos reads, lossy_append_ascii (by decide),
      lossy_eq_nil_iff.mpr rfl, List.dropLast_concat, List.dropLast_concat]
  · have reads : (lossy line).getLast? ≠ some '\r' := fun last =>
      ends (return_ends_lossy_iff.mp last)
    rw [dropEnd, if_neg ends, dropReturn, if_neg reads]

/-- A line that is ended loses its line feed, and a carriage return before that. -/
theorem decodeLine_ended (line : List UInt8) :
    decodeLine (line ++ [lineFeed]) = String.ofList (dropReturn (lossy line)) := by
  have cut : dropEnd lineFeed (line ++ [lineFeed]) = line := by
    rw [dropEnd, if_pos List.getLast?_concat, List.dropLast_concat]
  rw [decodeLine, cut, lossy_dropEnd]

/-- So does a line at the end of the stream, which has no line feed to lose. -/
theorem decodeLine_open {line : List UInt8} (clean : lineFeed ∉ line) :
    decodeLine line = String.ofList (dropReturn (lossy line)) := by
  have uncut : dropEnd lineFeed line = line :=
    if_neg fun last => clean (List.mem_of_getLast? last)
  rw [decodeLine, uncut, lossy_dropEnd]

/-- The lines of a stream, read one by one, are the lines of the whole stream read as text. -/
theorem linesOf_eq_textLines (stream : List UInt8) : linesOf stream = textLines (lossy stream) := by
  induction stream using lines_induction with
  | last line clean =>
    have silent : '\n' ∉ lossy line := fun mem => clean (newLine_mem_lossy_iff.mp mem)
    rw [linesOf_of_not_mem clean, textLines_of_not_mem silent, decodeLine_open clean]
    simp only [lossy_eq_nil_iff]
  | more line rest clean ih =>
    have silent : '\n' ∉ lossy line := fun mem => clean (newLine_mem_lossy_iff.mp mem)
    rw [linesOf_append clean, lossy_append_ascii (by decide), ofNat_lineFeed,
      textLines_append silent, decodeLine_ended, ih]

/-! ## Lines that were written -/

/-- How a line ends. -/
inductive Ending
  | feed
  | returnFeed
  deriving DecidableEq, Repr

/-- The bytes at the end of a line. -/
def Ending.bytes : Ending → List UInt8
  | feed => [lineFeed]
  | returnFeed => [carriageReturn, lineFeed]

/-- A line that can be told from what ends it. -/
def IsLine (line : String) : Prop :=
  '\n' ∉ line.toList ∧ line.toList.getLast? ≠ some '\r'

/-- The bytes of lines, each with its end, and of a last line without one. -/
def written (lines : List (String × Ending)) (last : String) : List UInt8 :=
  lines.flatMap (fun (line, ending) => encode line.toList ++ ending.bytes) ++ encode last.toList

/-- A line that is written has no line feed inside. -/
theorem lineFeed_not_mem_encode {line : String} (plain : IsLine line) :
    lineFeed ∉ encode line.toList := by
  rw [← newLine_mem_lossy_iff, lossy_encode]
  exact plain.1

/-- A line that is written has no carriage return to lose. -/
theorem dropReturn_of_isLine {line : String} (plain : IsLine line) :
    dropReturn line.toList = line.toList :=
  if_neg plain.2

/-- A written line is read back, and what comes after it is read on its own. -/
theorem linesOf_ended {line : String} (plain : IsLine line) (ending : Ending) (rest : List UInt8) :
    linesOf (encode line.toList ++ ending.bytes ++ rest) = line :: linesOf rest := by
  have clean := lineFeed_not_mem_encode plain
  cases ending with
  | feed =>
    rw [Ending.bytes, List.append_assoc, List.singleton_append, linesOf_append clean,
      decodeLine_ended, lossy_encode, dropReturn_of_isLine plain, String.ofList_toList]
  | returnFeed =>
    have whole : encode line.toList ++ Ending.returnFeed.bytes ++ rest =
        (encode line.toList ++ [carriageReturn]) ++ lineFeed :: rest := by simp [Ending.bytes]
    have still : lineFeed ∉ encode line.toList ++ [carriageReturn] := by
      have apart : lineFeed ≠ carriageReturn := by decide
      simp [clean, apart]
    have bare : dropReturn (line.toList ++ ['\r']) = line.toList := by simp [dropReturn]
    rw [whole, linesOf_append still, decodeLine_ended, lossy_append_ascii (by decide),
      ofNat_carriageReturn, lossy_encode, lossy_eq_nil_iff.mpr rfl, bare, String.ofList_toList]

/-- Lines that are written are read back, whichever way each of them is ended. -/
theorem linesOf_written {lines : List (String × Ending)} {last : String}
    (plain : ∀ line ∈ lines, IsLine line.1) (plainLast : IsLine last) :
    linesOf (written lines last) =
      lines.map Prod.fst ++ if last = "" then [] else [last] := by
  induction lines with
  | nil =>
    have empty : encode last.toList = [] ↔ last = "" := by
      rw [← lossy_eq_nil_iff, lossy_encode, String.toList_eq_nil_iff]
    have clean := lineFeed_not_mem_encode plainLast
    rw [written, List.flatMap_nil, List.nil_append, linesOf_of_not_mem clean, decodeLine_open clean,
      lossy_encode, dropReturn_of_isLine plainLast, String.ofList_toList]
    simp only [empty, List.map_nil, List.nil_append]
  | cons line lines ih =>
    have first := plain line List.mem_cons_self
    have rest := ih fun other mem => plain other (List.mem_cons_of_mem line mem)
    have whole : written (line :: lines) last =
        encode line.1.toList ++ line.2.bytes ++ written lines last := by simp [written]
    rw [whole, linesOf_ended first, rest]
    rfl

/-! ## What is sent -/

/-- What is sent on is the lines of the stream, each as an event. -/
theorem forwardLines_eq (receiver : Receiver) (wrap : String → Event) (chunks : List (List UInt8)) :
    forwardLines receiver wrap chunks = send receiver ((linesOf chunks.flatten).map wrap) := by
  rw [forwardLines, Buffer.stream_eq_linesOf List.not_mem_nil]
  rfl

/-- The lines that are sent of a stream are those of the whole stream read as text, whatever chunks
it arrives in. If the stream was written line by line, each with a line feed or a carriage return
and a line feed at its end, but for a last one that has none, they are the lines that were written. -/
theorem received_forwardLines (wrap : String → Event) (chunks : List (List UInt8)) :
    (forwardLines .stays wrap chunks).received =
        (textLines (lossy chunks.flatten)).map wrap ∧
      (∀ child : Child, ∀ side, chunks.flatten = child.stream side →
        (forwardLines .stays wrap chunks).received = (linesOf (child.stream side)).map wrap) ∧
      (∀ (lines : List (String × Ending)) (last : String), (∀ line ∈ lines, IsLine line.1) →
        IsLine last → chunks.flatten = written lines last →
        (forwardLines .stays wrap chunks).received =
          (lines.map Prod.fst ++ if last = "" then [] else [last]).map wrap) := by
  have sent : (forwardLines .stays wrap chunks).received = (linesOf chunks.flatten).map wrap := by
    rw [forwardLines_eq, send_stays]
  refine ⟨?_, ?_, ?_⟩
  · rw [sent, linesOf_eq_textLines]
  · intro child side arrives
    rw [sent, arrives]
  · intro lines last plain plainLast arrives
    rw [sent, arrives, linesOf_written plain plainLast]

/-- A character cut off before a carriage return, one that two chunks share, and a byte that begins
none at the end; and lines with both ends, read back from one chunk. -/
theorem received_forwardLines_cutCharacter :
    (forwardLines .stays .stderr
        [[0x61, 0xE2], [0x82, 0x0D], [0x0A, 0xC3], [0xA9, 0x0A, 0xFF]]).received =
        [.stderr "a\uFFFD", .stderr "é", .stderr "\uFFFD"] ∧
      (forwardLines .stays .stdout [[0x61], [0x0D, 0x0A]]).received =
        (linesOf (Child.stream ⟨[0x61, 0x0D, 0x0A], [], some 0⟩ .out)).map .stdout ∧
      (forwardLines .stays .stdout [written [("a", .returnFeed), ("", .feed)] "é"]).received =
        [.stdout "a", .stdout "", .stdout "é"] := by
  have text := (received_forwardLines .stderr
    [[0x61, 0xE2], [0x82, 0x0D], [0x0A, 0xC3], [0xA9, 0x0A, 0xFF]]).1
  have lines := (received_forwardLines .stdout [[0x61], [0x0D, 0x0A]]).2.1
  have back := (received_forwardLines .stdout [written [("a", .returnFeed), ("", .feed)] "é"]).2.2
  refine ⟨text.trans (by decide +kernel), lines ⟨[0x61, 0x0D, 0x0A], [], some 0⟩ .out rfl, ?_⟩
  refine (back [("a", .returnFeed), ("", .feed)] "é" ?_ ?_ (by simp)).trans (by simp)
  · simp [IsLine]
  · simp [IsLine]

end EngineTokens.Engine
