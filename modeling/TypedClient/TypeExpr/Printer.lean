import TypedClient.Json.Basic
import TypedClient.Json.Quote
import TypedClient.Text.Comment
import TypedClient.Text.Lines
import TypedClient.TypeExpr.Basic

set_option autoImplicit false

namespace TypedClient

def commentAbove : Option Text → Text
  | none | some [] => []
  | some text => Text.docBlock text ++ "\n"

namespace TypeExpr

mutual

def render : TypeExpr → Text
  | .ref name => name
  | .literal value => Json.quote value
  | .null => "null"
  | .never => "never"
  | .list (.ref name) => name ++ "[]"
  | .list item => "Array<" ++ render item ++ ">"
  | .generic name [] => name
  | .generic name (a :: rest) => name ++ "<" ++ Text.intercalate ", " (renderAll (a :: rest)) ++ ">"
  | .union members => Text.intercalate " | " (renderAll members)
  | .object [] _ => "\x7b\x7d"
  | .object (m :: rest) _ =>
    "\x7b\n" ++ Text.indent 2 (Text.joinLines (renderMembers (m :: rest))) ++ "\n\x7d"

def renderAll : List TypeExpr → List Text
  | [] => []
  | t :: rest => render t :: renderAll rest

def renderMembers : List Member → List Text
  | [] => []
  | ⟨name, type, isOptional, comment⟩ :: rest =>
    (commentAbove comment ++ name ++ (if isOptional then "?" else "") ++ ": " ++ render type)
      :: renderMembers rest

end

/-- The names of the members of an object type, each with the text of its type: a repeated name keeps its
first place and takes its last type. -/
def summary (t : TypeExpr) : List (String × Text) :=
  (t.members.map fun m => (m.name, m.type.render)).foldl
    (fun done m => if done.any (·.1 == m.1) then done.map fun d => if d.1 == m.1 then m else d
      else done ++ [m]) []

end TypeExpr

def Member.render (m : Member) : Text :=
  commentAbove m.comment ++ m.name ++ (if m.isOptional then "?" else "") ++ ": " ++ m.type.render

end TypedClient
