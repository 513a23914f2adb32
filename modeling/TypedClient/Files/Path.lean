import TypedClient.Text.Casing
import TypedClient.Text.Letter

set_option autoImplicit false

namespace TypedClient.Path

def slash : Letter := .char '/'

def parts (path : Text) : List Text := path.splitOn slash

def isAbsolute (path : Text) : Bool := path.head? == some slash

/-- Take one part of a path: nothing happens at an empty one or a dot, and two dots lead back. -/
def follow (place : List Text) (part : Text) : List Text :=
  if part == "" || part == "." then place
  else if part == ".." then place.dropLast
  else place ++ [part]

/-- The names in a path, with two dots among them; empty parts and dots are none. -/
def names (path : Text) : List Text := (parts path).filter fun p => p != "" && p != "."

/-- The slashes that a path keeps in front: of exactly two both, of others one. -/
def root (path : Text) : String :=
  match (path.takeWhile (· == slash)).length with
  | 0 => ""
  | 2 => "//"
  | _ => "/"

/-- A path in its plain form: no empty parts and no dots, unless it is a dot. -/
def plain (path : Text) : Text :=
  let text := root path ++ Text.intercalate "/" (names path)
  if text.isEmpty then "." else text

def lastName (path : Text) : Text := (names path).getLast?.getD ""

/-- The extension of a name in lower case, with its dot. A dot at the start or at the end of a name begins
none, and nothing without an encoding is one. -/
def extension (name : Text) : String :=
  let tail := (name.reverse.takeWhile (· != .char '.')).reverse
  if tail.isEmpty || name.length ≤ tail.length + 1 then ""
  else ((Text.string? tail).map fun s => Text.lower ("." ++ s)).getD ""

/-- The names that lead from the root to a path under a directory; an absolute path leaves it. -/
def under (directory : List Text) (path : Text) : List Text :=
  if isAbsolute path then names path else directory ++ names path

def resolve (current : List Text) (path : Text) : List Text :=
  (parts path).foldl follow (if isAbsolute path then [] else current)

def common : List Text → List Text → Nat
  | a :: as, b :: bs => if a == b then common as bs + 1 else 0
  | _, _ => 0

def way (start goal : List Text) : List Text :=
  let shared := common start goal
  List.replicate (start.length - shared) (".." : Text) ++ goal.drop shared

def ofWay (way : List Text) : Text := if way.isEmpty then "." else Text.intercalate "/" way

def relative (current : List Text) (goal start : Text) : Text :=
  ofWay (way (resolve current start) (resolve current goal))

def absolute (place : List Text) : Text := "/" ++ Text.intercalate "/" place

def isLong (path : Text) : Bool := 4095 < path.toUTF8.size

def holdsEnd (place : List Text) : Bool := place.any fun name => name.contains (.char '\x00')

end TypedClient.Path
