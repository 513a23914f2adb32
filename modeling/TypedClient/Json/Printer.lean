import TypedClient.Json.Basic
import TypedClient.Json.Quote
import TypedClient.Decimal.Notation

set_option autoImplicit false

namespace TypedClient.Json

def floatText (x : Float) : String :=
  match Decimal.shown x with
  | "nan" => "NaN"
  | "inf" => "Infinity"
  | "-inf" => "-Infinity"
  | s => s

mutual

def compact (set : Charset) : Json → Text
  | .null => "null"
  | .bool b => if b then "true" else "false"
  | .int n => toString n
  | .float x => floatText x
  | .str s => quoteWith set s
  | .arr items => "[" ++ Text.intercalate "," (compactItems set items) ++ "]"
  | .obj members => "\x7b" ++ Text.intercalate "," (compactMembers set members) ++ "\x7d"

def compactItems (set : Charset) : List Json → List Text
  | [] => []
  | j :: rest => compact set j :: compactItems set rest

def compactMembers (set : Charset) : List (String × Json) → List Text
  | [] => []
  | (name, j) :: rest => (quoteWith set name ++ ":" ++ compact set j) :: compactMembers set rest

end

def newline (depth : Nat) : String := String.ofList ('\n' :: List.replicate depth ' ')

mutual

/-- A value on lines of its own, `step` blanks deeper at each level; `depth` is the present one. -/
def indented (set : Charset) (step depth : Nat) : Json → Text
  | .arr [] => "[]"
  | .arr (j :: rest) =>
    "[" ++ newline (depth + step)
      ++ Text.intercalate ("," ++ newline (depth + step)) (indentedItems set step (depth + step) (j :: rest))
      ++ newline depth ++ "]"
  | .obj [] => "\x7b\x7d"
  | .obj (m :: rest) =>
    "\x7b" ++ newline (depth + step)
      ++ Text.intercalate ("," ++ newline (depth + step))
        (indentedMembers set step (depth + step) (m :: rest))
      ++ newline depth ++ "\x7d"
  | .null => "null"
  | .bool b => if b then "true" else "false"
  | .int n => toString n
  | .float x => floatText x
  | .str s => quoteWith set s

def indentedItems (set : Charset) (step depth : Nat) : List Json → List Text
  | [] => []
  | j :: rest => indented set step depth j :: indentedItems set step depth rest

def indentedMembers (set : Charset) (step depth : Nat) : List (String × Json) → List Text
  | [] => []
  | (name, j) :: rest =>
    (quoteWith set name ++ ": " ++ indented set step depth j) :: indentedMembers set step depth rest

end

end TypedClient.Json
