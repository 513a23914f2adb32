import TypedClient.Text.Letter

set_option autoImplicit false

namespace TypedClient

inductive Json where
  | null
  | bool (b : Bool)
  | int (n : Int)
  | float (x : Float)
  | str (s : Text)
  | arr (items : List Json)
  | obj (members : List (String × Json))
  deriving Inhabited

namespace Json

/-- Put a member into an object: a name that is there keeps its place and gets the new value. -/
def put (members : List (String × Json)) (name : String) (value : Json) : List (String × Json) :=
  if members.any (·.1 == name) then
    members.map fun m => if m.1 == name then (name, value) else m
  else members ++ [(name, value)]

def get? (j : Json) (name : String) : Option Json :=
  match j with
  | .obj members => members.lookup name
  | _ => none

end Json

end TypedClient
