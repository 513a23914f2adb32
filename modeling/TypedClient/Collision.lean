import TypedClient.Distinct
import TypedClient.Naming

set_option autoImplicit false

namespace TypedClient

/-- A derived identifier with what it is derived from. -/
structure Derived where
  entity : String
  role : Role
  deriving DecidableEq, Repr

def Derived.name (d : Derived) : String := identifier d.role d.entity

def derivedFrom (entities : List String) : List Derived :=
  entities.flatMap fun entity => Role.all.map fun role => ⟨entity, role⟩

def Derived.owner (d : Derived) : String :=
  d.entity ++ "/" ++ (d.role.action?.elim "-" Action.label) ++ "/" ++ d.role.word

structure NameUse where
  name : String
  owner : String
  deriving DecidableEq, Repr

/-- Every use of an identifier: the declared names first, then the derived ones. -/
def nameUses (entities reserved : List String) : List NameUse :=
  (reserved.map fun name => ⟨name, "declared type '" ++ name ++ "'"⟩)
    ++ (derivedFrom entities).map fun d => ⟨d.name, d.owner⟩

def ownersOf (uses : List NameUse) (name : String) : List String :=
  (uses.filter (·.name == name)).map (·.owner)

structure Collision where
  name : String
  owners : List String
  deriving DecidableEq, Repr

def collisions (entities reserved : List String) : List Collision :=
  let uses := nameUses entities reserved
  ((distinct (uses.map (·.name))).map fun name => ⟨name, ownersOf uses name⟩).filter
    (1 < ·.owners.length)

end TypedClient
