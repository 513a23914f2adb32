import TypedClient.Declaration.Projection

set_option autoImplicit false

/-!
# Selectors and what they make of a record

A selector says which parts of a record an answer has. The payload of a record type under a selector is the
plain value type, the value type with the included relations put in, or an object of exactly the selected
keys; relations are followed with the selector they carry.
-/

namespace TypedClient

inductive Selector where
  | off
  | undefined
  | on
  | leaf
  | node (entries : List (String × Selector))

namespace Selector

instance : Inhabited Selector := ⟨.undefined⟩

mutual

def ofJson : Json → Selector
  | .bool false => .off
  | .bool true => .on
  | .null => .undefined
  | .obj members => .node (ofMembers members)
  | _ => .leaf

def ofMembers : List (String × Json) → List (String × Selector)
  | [] => []
  | (key, j) :: rest => (key, ofJson j) :: ofMembers rest

end

def isTrue : Selector → Bool
  | .off | .undefined => false
  | _ => true

def entries : Selector → List (String × Selector)
  | .node entries => entries
  | _ => []

def trueKeys (s : Selector) : List String := (s.entries.filter (·.2.isTrue)).map (·.1)

def has (entries : List (String × Selector)) (way : Projection) : Bool :=
  entries.any (·.1 == way.key)

end Selector

inductive SelectorFault where
  | inconsistent (cause : Inconsistency)
  | conflict (entity : String)
  deriving DecidableEq, Repr

def SelectorFault.message : SelectorFault → Text
  | .inconsistent cause => cause.message
  | .conflict entity => "Selector on '" ++ entity ++ "' has both 'select' and 'include'; choose one."

def SelectorFault.lookup {α : Type} : Except Inconsistency α → Except SelectorFault α
  | .ok a => .ok a
  | .error cause => .error (.inconsistent cause)

/-- Put a member into a list: a name that is there keeps its place and gets the new member. -/
def putMember (members : List Member) (m : Member) : List Member :=
  if members.any (·.name == m.name) then members.map fun n => if n.name == m.name then m else n
  else members ++ [m]

structure Projected where
  entity : Entity
  payload : Payload

/-- The value of a key that needs no further selector: a plain field under `select`, or `never` for a key
that is no relation either. -/
def Projected.plain? (p : Projected) (way : Projection) (key : String) : Option TypeExpr :=
  match way with
  | .select => p.entity.valueShape.get? key
  | .include => none

def Projected.initial (p : Projected) : Projection → List Member
  | .select => []
  | .include => p.entity.valueShape.members

/-- Put together what a projection starts with and the members of the true keys. -/
def Projected.assemble (p : Projected) (way : Projection) (found : List Member) : TypeExpr :=
  .object
    (match way with
      | .select => found
      | .include => found.foldl putMember (p.initial .include))
    (some p.entity.name)

namespace Document

def projected (d : Document) (e : Entity) : Except SelectorFault Projected :=
  SelectorFault.lookup ((d.outputType e.name).map fun t => ⟨e, t.payload⟩)

mutual

def resolve (d : Document) (entity : String) : Selector → Except SelectorFault TypeExpr
  | .undefined => do
    let _ ← SelectorFault.lookup (d.entity entity)
    return .never
  | .node entries => do
    let e ← SelectorFault.lookup (d.entity entity)
    match Selector.has entries .select, Selector.has entries .include with
    | true, true => throw (.conflict entity)
    | false, false => return e.valueShape
    | true, false => resolveUnder d (← d.projected e) .select entries
    | false, true => resolveUnder d (← d.projected e) .include entries
  | _ => do
    let e ← SelectorFault.lookup (d.entity entity)
    return e.valueShape

def resolveUnder (d : Document) (p : Projected) (way : Projection) :
    List (String × Selector) → Except SelectorFault TypeExpr
  | [] => return p.assemble way []
  | (key, s) :: rest =>
    if key == way.key then return p.assemble way (← resolveMap d p way s)
    else resolveUnder d p way rest

/-- The members for the true keys of a selection; what is no map has none. -/
def resolveMap (d : Document) (p : Projected) (way : Projection) :
    Selector → Except SelectorFault (List Member)
  | .node entries => resolveKeys d p way entries
  | _ => return []

def resolveKeys (d : Document) (p : Projected) (way : Projection) :
    List (String × Selector) → Except SelectorFault (List Member)
  | [] => return []
  | (key, s) :: rest =>
    if s.isTrue then do
      let type ← match p.plain? way key, p.payload.relation? key with
        | some type, _ => pure type
        | none, none => pure .never
        | none, some branch => branch.wrap <$> resolve d branch.target s
      return ⟨key, type, false, none⟩ :: (← resolveKeys d p way rest)
    else resolveKeys d p way rest

end

end Document

end TypedClient
