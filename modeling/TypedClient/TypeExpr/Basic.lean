import TypedClient.Text.Letter

set_option autoImplicit false

namespace TypedClient

mutual

inductive TypeExpr where
  | ref (name : String)
  | literal (value : Text)
  | null
  | never
  | list (item : TypeExpr)
  | generic (name : String) (args : List TypeExpr)
  | union (members : List TypeExpr)
  /-- An object, with the name of the record type it was made for. -/
  | object (members : List Member) (name : Option String)

structure Member where
  name : String
  type : TypeExpr
  isOptional : Bool := false
  comment : Option Text := none

end

namespace TypeExpr

instance : Inhabited TypeExpr := ⟨.never⟩

mutual

def same : TypeExpr → TypeExpr → Bool
  | .ref a, .ref b => a == b
  | .literal a, .literal b => a == b
  | .null, .null => true
  | .never, .never => true
  | .list a, .list b => same a b
  | .generic f as, .generic g bs => f == g && sameAll as bs
  | .union as, .union bs => sameAll as bs
  | .object as _, .object bs _ => sameMembers as bs
  | _, _ => false

def sameAll : List TypeExpr → List TypeExpr → Bool
  | [], [] => true
  | a :: as, b :: bs => same a b && sameAll as bs
  | _, _ => false

def sameMembers : List Member → List Member → Bool
  | [], [] => true
  | ⟨n, s, o, c⟩ :: as, ⟨m, t, p, d⟩ :: bs =>
    n == m && same s t && o == p && c == d && sameMembers as bs
  | _, _ => false

end

def isIn (t : TypeExpr) (types : List TypeExpr) : Bool := types.any (same · t)

/-- The members that a type brings into a union: its own, if it is a union. -/
def parts : TypeExpr → List TypeExpr
  | .union members => members
  | t => [t]

def addNew (types : List TypeExpr) (t : TypeExpr) : List TypeExpr :=
  if t.isIn types then types else types ++ [t]

/-- The union of a list of types with distinct members; of a single member that member itself. -/
def ofParts : List TypeExpr → TypeExpr
  | [t] => t
  | members => .union members

/-- The union of types: the parts of each, every one once, in the order of first occurrence. -/
def unionOf (types : List TypeExpr) : TypeExpr := ofParts ((types.flatMap parts).foldl addNew [])

def orNull (t : TypeExpr) : TypeExpr := unionOf [t, .null]

def isNullable : TypeExpr → Bool
  | .union members => TypeExpr.null.isIn members
  | _ => false

def members : TypeExpr → List Member
  | .object members _ => members
  | _ => []

def memberNames (t : TypeExpr) : List String := t.members.map (·.name)

def get? (t : TypeExpr) (name : String) : Option TypeExpr :=
  (t.members.find? (·.name == name)).map (·.type)

end TypeExpr

end TypedClient
