import EngineTokens.Path.Raw

/-!
# Paths as bytes

Operations on the bytes of a path that ask nothing of the file system: its components, joining,
what stands before its last component, and the names that remain once `.` and `..` are worked out.
-/

set_option autoImplicit false

namespace EngineTokens.Path

/-- The byte between two components. -/
def slash : UInt8 := 0x2F

/-- The component for the directory at hand. -/
def dot : RawName := [0x2E]

/-- The component for the directory above. -/
def dotDot : RawName := [0x2E, 0x2E]

/-- The pieces between slashes, empty ones included; `piece` is the one in hand, its last byte
first. -/
def piecesFrom (piece : RawName) : RawPath → List RawName
  | [] => [piece.reverse]
  | b :: rest =>
    if b = slash then piece.reverse :: piecesFrom [] rest else piecesFrom (b :: piece) rest

/-- The pieces between the slashes of a path, empty ones included. -/
def pieces (path : RawPath) : List RawName :=
  piecesFrom [] path

/-- A path is absolute if it starts with a slash. -/
def isAbsolute (path : RawPath) : Bool :=
  path.head? == some slash

/-- The components of a path, `.` and `..` included. -/
def components (path : RawPath) : List RawName :=
  (pieces path).filter fun piece => piece != []

/-- The path ends with a slash, and so asks for a directory. -/
def endsWithSlash (path : RawPath) : Bool :=
  path.getLast? == some slash

/-- One component put on the names so far, of which the last is on top: `.` is skipped, `..` takes
the last name away, never more than there are. -/
def push (names : List RawName) (component : RawName) : List RawName :=
  if component = dot then names
  else if component = dotDot then names.tail
  else component :: names

/-- The names that remain of a list of components, worked out from the root. -/
def resolve (components : List RawName) : List RawName :=
  (components.foldl push []).reverse

/-- The absolute path of a list of names. -/
def ofNames : List RawName → RawPath
  | [] => [slash]
  | names => names.flatMap fun name => slash :: name

/-- The path of `path` as seen from `base`; an absolute `path` stands for itself. -/
def join (base path : RawPath) : RawPath :=
  if isAbsolute path || base == [] then path
  else if endsWithSlash base then base ++ path
  else base ++ slash :: path

/-- The pieces without the empty and `.` pieces at their end. -/
def trimPieces (pieces : List RawName) : List RawName :=
  (pieces.reverse.dropWhile fun piece => piece == [] || piece == dot).reverse

/-- The part of a path that is never cut: the root, or a `.` that begins a relative path. -/
def anchor (path : RawPath) : RawPath :=
  if isAbsolute path then [slash]
  else if path.takeWhile (· != slash) = dot then dot
  else []

/-- The path without its last component; the root and the empty path have no such part. -/
def parent? (path : RawPath) : Option RawPath :=
  let start := anchor path
  let body := trimPieces (pieces (path.drop start.length))
  match body with
  | [] => if start = dot then some [] else none
  | _ => some (start ++ [slash].intercalate (trimPieces body.dropLast))

end EngineTokens.Path
