/-!
# The one spelling of a path

The engine wants forward slashes and no doubled separators. A path is spelled with `/` for every run
of slashes and backslashes, and without a separator at its end unless it is a root: `/` itself, or
the root of a drive such as `C:/`, where the slash carries meaning.

`parent?` cuts a path that is spelled this way at its last slash; a root keeps its slash.
-/

set_option autoImplicit false

namespace EngineTokens.Path

/-- Both slashes separate. -/
def isSeparator (c : Char) : Bool :=
  c == '/' || c == '\\'

/-- Writes each run of separators as one slash; `inRun` tells whether the character before was a
separator. -/
def collapse (inRun : Bool) : List Char → List Char
  | [] => []
  | c :: rest =>
    if isSeparator c then
      if inRun then collapse true rest else '/' :: collapse true rest
    else c :: collapse false rest

/-- A letter, a colon and a slash. -/
def isDriveRoot : List Char → Bool
  | [letter, ':', '/'] => letter.isAlpha
  | _ => false

/-- The spelling of a path given by its characters. -/
def spell (path : List Char) : List Char :=
  let out := collapse false path
  if 1 < out.length && out.getLast? == some '/' && !isDriveRoot out then out.dropLast else out

/-- The one spelling of a path. -/
def canonicalize (path : String) : String :=
  String.ofList (spell path.toList)

/-- The characters before the last slash, if there is one. -/
def beforeLastSlash? : List Char → Option (List Char)
  | [] => none
  | c :: rest =>
    match beforeLastSlash? rest with
    | some before => some (c :: before)
    | none => if c = '/' then some [] else none

/-- The directory of a path given by its characters. -/
def directory? (path : List Char) : Option (List Char) :=
  (beforeLastSlash? path).map fun before =>
    if before = [] ∨ isDriveRoot (before ++ ['/']) then before ++ ['/'] else before

/-- The directory of a canonical path, if the path has a slash. -/
def directoryOf? (path : String) : Option String :=
  (directory? path.toList).map String.ofList

/-- The maximal non-empty runs of characters between separators; `segment` is the one in hand, its
last character first. -/
def segmentsFrom (segment : List Char) : List Char → List (List Char)
  | [] => if segment = [] then [] else [segment.reverse]
  | c :: rest =>
    if isSeparator c then
      if segment = [] then segmentsFrom [] rest else segment.reverse :: segmentsFrom [] rest
    else segmentsFrom (c :: segment) rest

/-- The segments of a path. -/
def segments (path : List Char) : List (List Char) :=
  segmentsFrom [] path

end EngineTokens.Path
