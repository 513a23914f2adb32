import TypedClient.Data.Calendar
import TypedClient.Decimal.Notation
import TypedClient.Json.Basic
import TypedClient.Text.Letter

set_option autoImplicit false

namespace TypedClient

inductive Scalar where
  | null
  | bool (b : Bool)
  | int (n : Int)
  | float (x : Float)
  | text (s : Text)
  | date (d : Date)
  | moment (m : Moment)
  | bytes (b : List UInt8)
  deriving Inhabited

inductive Data where
  | scalar (value : Scalar)
  | list (items : List Data)
  | map (entries : List (Scalar × Data))
  | set (members : List Scalar)
  /-- How a value that holds itself goes on, beyond the levels that are written out. -/
  | deeper

namespace Scalar

def whole? : Scalar → Option Int
  | .bool b => some (if b then 1 else 0)
  | .int n => some n
  | .float x => Decimal.whole? x
  | _ => none

def sameKey (a b : Scalar) : Bool :=
  match a, b with
  | .null, .null => true
  | .text s, .text t => s == t
  | .date d, .date e => d == e
  | .moment m, .moment n => m.same n
  | .bytes s, .bytes t => s == t
  | .float x, .float y => x == y
  | a, b => match a.whole?, b.whole? with
    | some n, some m => n == m
    | _, _ => false

def isText (s : Scalar) (name : String) : Bool :=
  match s with
  | .text t => t == name
  | _ => false

/-- Whether a scalar is a text in which halves of pairs stand on their own. -/
def isBroken : Scalar → Bool
  | .text t => ! t.isWhole
  | _ => false

end Scalar

namespace Data

instance : Inhabited Data := ⟨.scalar .null⟩

abbrev null : Data := .scalar .null

abbrev text (s : Text) : Data := .scalar (.text s)

/-- Put an entry into a map: a key that is there keeps its place and gets the new value. -/
def put (entries : List (Scalar × Data)) (key : Scalar) (value : Data) : List (Scalar × Data) :=
  if entries.any (·.1.sameKey key) then
    entries.map fun e => if e.1.sameKey key then (e.1, value) else e
  else entries ++ [(key, value)]

def get? (entries : List (Scalar × Data)) (name : String) : Option Data :=
  (entries.find? (·.1.isText name)).map (·.2)

mutual

def ofJson : Json → Data
  | .null => .scalar .null
  | .bool b => .scalar (.bool b)
  | .int n => .scalar (.int n)
  | .float x => .scalar (.float x)
  | .str s => .scalar (.text s)
  | .arr items => .list (ofItems items)
  | .obj members => .map (ofMembers members)

def ofItems : List Json → List Data
  | [] => []
  | j :: rest => ofJson j :: ofItems rest

def ofMembers : List (String × Json) → List (Scalar × Data)
  | [] => []
  | (name, j) :: rest => (.text name, ofJson j) :: ofMembers rest

end

theorem ofItems_eq (items : List Json) : ofItems items = items.map ofJson := by
  induction items with
  | nil => rfl
  | cons j rest ih => rw [ofItems, ih, List.map_cons]

theorem ofMembers_eq (members : List (String × Json)) :
    ofMembers members = members.map fun m => (.text m.1, ofJson m.2) := by
  induction members with
  | nil => rfl
  | cons m rest ih => rw [ofMembers, ih, List.map_cons]

end Data

end TypedClient
