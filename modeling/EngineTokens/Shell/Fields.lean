import EngineTokens.Shell.Pattern
import EngineTokens.Shell.State

/-!
# Fields

An expanded word is a list of pieces of text. Pieces that came from a parameter or a command and
were not quoted are cut at the bytes of `IFS`; then each field that holds a wild card is replaced by
the paths that it matches, if there are any.

A blank of `IFS` only parts what stands on both sides of it, while any other byte of `IFS` ends a
field, even an empty one; blanks around it belong to it. Each piece is cut on its own: blanks at the
end of one do not reach into the next.
-/

set_option autoImplicit false

namespace EngineTokens.Shell

/-- A piece of an expanded word. -/
inductive Piece
  /-- A text that stays whole. Quotes make a field even where there is nothing between them. -/
  | text (bytes : ByteText) (quoted : Bool)
  /-- A text that is cut at the bytes of `IFS`, and at the zero bytes that stand between arguments. -/
  | cut (bytes : ByteText)
  /-- Arguments that stay whole, with zero bytes between them. -/
  | apart (bytes : ByteText)
  deriving DecidableEq, Repr

namespace Piece

/-- The bytes of a piece. -/
def bytes : Piece → ByteText
  | .text bytes _ | .cut bytes | .apart bytes => bytes

/-- The pieces as one text. -/
def joined (pieces : List Piece) : ByteText :=
  pieces.flatMap bytes

/-- The pieces as a pattern. -/
def pattern (pieces : List Piece) : List Glyph :=
  pieces.flatMap fun piece =>
    match piece with
    | .text bytes quoted => bytes.map fun c => ⟨c, quoted⟩
    | .cut bytes => bytes.map fun c => ⟨c, false⟩
    | .apart bytes => bytes.map fun c => ⟨c, true⟩

end Piece

/-- Fields in the making. -/
structure Fields where
  /-- Those that are complete, the latest first. -/
  complete : List (List Glyph) := []
  /-- The one in hand, its last byte first. -/
  inHand : List Glyph := []
  /-- Quotes belong to the field in hand. -/
  isMarked : Bool := false
  /-- The last field was ended by a blank, so that a separator after it ends no other. -/
  afterBlank : Bool := false
  /-- The last piece that could be cut was one of arguments that stay whole. -/
  isApart : Bool := false
  /-- How many fields may still be ended, where their number is limited; the last one takes the
  rest. -/
  room : Option Nat := none
  /-- How many bytes of the last field are kept, if those after them are to be dropped. -/
  kept : Option Nat := none

namespace Fields

/-- Adds a byte to the field in hand. -/
def add (fields : Fields) (glyph : Glyph) : Fields :=
  { fields with inHand := glyph :: fields.inHand }

/-- Nothing belongs to the field in hand. -/
def isBare (fields : Fields) : Bool :=
  fields.inHand.isEmpty && !fields.isMarked

/-- Ends the field in hand. -/
def close (fields : Fields) : Fields :=
  { fields with
    complete := fields.inHand.reverse :: fields.complete
    inHand := []
    isMarked := false }

/-- Takes a byte of the field that takes the rest. Separators stay in it, apart from blanks at its
end and one separator there if no other stands before it. -/
def addRest (fields : Fields) (glyph : Glyph) (isSeparator isBlank : Bool) : Fields :=
  if isBlank then
    { fields with kept := some (fields.kept.getD fields.inHand.length) }.add glyph
  else
    { fields with
      kept := if isSeparator && fields.afterBlank then fields.kept else none
      afterBlank := false }.add glyph

/-- Takes a separator that may end the field in hand; `joins` tells that a separator after a blank
belongs to it. -/
def separate (fields : Fields) (glyph : Glyph) (joins isBlank : Bool) : Fields :=
  let fields := { fields with afterBlank := joins && isBlank }
  if fields.isBare && fields.afterBlank then { fields with afterBlank := false }
  else
    match fields.room with
    | some 1 => { fields with room := some 0, kept := some fields.inHand.length }.add glyph
    | room => { fields with room := room.map (· - 1) }.close

/-- Takes a byte of a piece that is cut; `joins` tells that blanks join a separator after them. -/
def addCut (joins : Bool) (isSeparator isBlank : Glyph → Bool) (fields : Fields) (glyph : Glyph) :
    Fields :=
  if fields.room = some 0 then fields.addRest glyph (isSeparator glyph) (isBlank glyph)
  else if fields.afterBlank then
    if isBlank glyph then fields
    else
      let fields := { fields with afterBlank := false }
      if isSeparator glyph then fields else fields.add glyph
  else if isSeparator glyph then fields.separate glyph joins (isBlank glyph)
  else fields.add glyph

/-- Begins a piece that is cut. -/
def begin (fields : Fields) (isApart : Bool) : Fields :=
  { fields with afterBlank := false, isApart }

/-- The byte separates fields. Zero bytes count as blanks. -/
def isSeparator (ifs : ByteText) (glyph : Glyph) : Bool :=
  glyph.byte == '\x00' || ifs.contains glyph.byte

/-- The byte is a blank that separates fields. -/
def isBlank (ifs : ByteText) (glyph : Glyph) : Bool :=
  isSeparator ifs glyph && ['\x00', ' ', '\t', '\n'].contains glyph.byte

/-- Takes a piece. -/
def take (ifs : ByteText) (fields : Fields) : Piece → Fields
  | .text bytes quoted =>
    let fields := bytes.foldl (fun fields c => fields.add ⟨c, quoted⟩) fields
    { fields with isMarked := fields.isMarked || quoted }
  | .cut bytes =>
    let joins := !fields.isApart
    bytes.foldl (fun fields c => fields.addCut joins (isSeparator ifs) (isBlank ifs) ⟨c, false⟩)
      (fields.begin false)
  | .apart bytes =>
    bytes.foldl (fun fields c => fields.addCut false (isSeparator []) (isBlank []) ⟨c, true⟩)
      (fields.begin true)

/-- The fields, with the one in hand if there is one. -/
def finish (fields : Fields) : List (List Glyph) :=
  let last := fields.inHand.reverse
  let last := match fields.kept with
    | some size => last.take size
    | none => last
  if fields.isApart || !last.isEmpty || fields.isMarked then (last :: fields.complete).reverse
  else fields.complete.reverse

/-- The fields of some pieces. -/
def ofPieces (ifs : ByteText) (pieces : List Piece) : List (List Glyph) :=
  (pieces.foldl (take ifs) {}).finish

end Fields

/-! ## Paths that match -/

/-- Bytes between slashes. -/
def components (glyphs : List Glyph) : List (List Glyph) :=
  let (parts, last) := glyphs.foldr (fun g (parts, part) =>
    if g.byte = '/' then (part :: parts, []) else (parts, g :: part)) ([], [])
  last :: parts

/-- The name that glyphs spell; a backslash that is not quoted quotes what follows it. -/
def spelled : List Glyph → ByteText
  | [] => []
  | ⟨'\\', false⟩ :: ⟨c, _⟩ :: rest => c :: spelled rest
  | ⟨c, _⟩ :: rest => c :: spelled rest

/-- The names in a directory that a component matches. -/
def namesMatching (files : Files) (directory : ByteText) (component : List Glyph) :
    List ByteText :=
  let hidden := (spelled (component.take 2)).head? == some '.'
  match files.list (if directory.isEmpty then Path.dot else pathOf directory) with
  | .ok names =>
    let names := names.map ofPath ++ if hidden then ["." , ".."].map String.toList else []
    names.filter fun name => (name.head? == some '.') == hidden && patternMatches component name
  | .error _ => []

/-- The paths that match some components, after the beginning of a path. -/
def pathsMatching (files : Files) (start : ByteText) : List (List Glyph) → List ByteText
  | [] => []
  | [last] =>
    if isWild last then (namesMatching files start last).map (start ++ ·)
    else
      let path := start ++ spelled last
      match files.find false (pathOf path) with
      | .ok (.entry _ _) => [path]
      | _ => []
  | component :: next :: rest =>
    if isWild component then
      (namesMatching files start component).flatMap fun name =>
        let path := start ++ name
        if files.isDirectory (pathOf path) then
          pathsMatching files (path ++ ['/']) (next :: rest)
        else []
    else pathsMatching files (start ++ spelled component ++ ['/']) (next :: rest)

/-- A field as texts: the paths that it matches, in order, or the field itself. -/
def matched (files : Files) (field : List Glyph) : List ByteText :=
  let plain := field.map Glyph.byte
  let components := components field
  if components.any isWild then
    match pathsMatching files [] components with
    | [] => [plain]
    | paths => paths.mergeSort fun a b => !(decide (b < a))
  else [plain]

end EngineTokens.Shell
