import TypedClient.Declaration.Field
import TypedClient.Naming
import TypedClient.Schema.Lookup

set_option autoImplicit false

/-!
# Projections

What `select` and `include` may name, and the conditional type that says what becomes of a record under a
selector. Relations refer to the payload types of their targets by name, so that cycles are no matter.
-/

namespace TypedClient

/-- The two ways to select, of which a selector uses at most one. -/
inductive Projection where
  | select
  | include
  deriving DecidableEq, Repr

def Projection.key : Projection → String
  | .select => "select"
  | .include => "include"

structure Branch where
  name : String
  target : String
  isList : Bool
  isRequired : Bool
  deriving DecidableEq, Repr

namespace Branch

def wrap (b : Branch) (inner : TypeExpr) : TypeExpr :=
  if b.isList then .list inner
  else if b.isRequired then inner
  else inner.orNull

/-- The payload of the target, under the selector that the relation has in a projection. -/
def payloadRef (b : Branch) (p : Projection) : TypeExpr :=
  b.wrap (.generic (payloadName b.target) [.ref ("S['" ++ p.key ++ "'][P]")])

end Branch

def OutputField.branch (f : OutputField) : Branch :=
  ⟨f.name, f.target.type, f.target.isList, f.target.isRequired⟩

def OutputField.argsName (f : OutputField) : String :=
  relationArgsName f.target.type f.target.isList

def OutputField.relationSelector (f : OutputField) : TypeExpr :=
  .unionOf [.ref "boolean", .ref f.argsName]

namespace OutputType

def branches (t : OutputType) : List Branch := t.relations.map (·.branch)

def selectShape (t : OutputType) : TypeExpr :=
  .object (t.fields.map fun f =>
    ⟨f.name, if f.isRelation then f.relationSelector else .ref "boolean", true, none⟩) (some t.name)

def includeShape (t : OutputType) : Option TypeExpr :=
  if t.relations.isEmpty then none
  else some (.object (t.relations.map fun f => ⟨f.name, f.relationSelector, true, none⟩) (some t.name))

def selectText (t : OutputType) : Text :=
  "export type " ++ selectName t.name ++ " = " ++ t.selectShape.render ++ "\n"

/-- The declaration of what `include` may name; nothing without relations. -/
def includeText (t : OutputType) : Text :=
  t.includeShape.elim [] fun shape =>
    "export type " ++ includeName t.name ++ " = " ++ shape.render ++ "\n"

end OutputType

structure Payload where
  entity : String
  relations : List Branch
  deriving DecidableEq, Repr

def OutputType.payload (t : OutputType) : Payload := ⟨t.name, t.branches⟩

namespace Payload

def name (p : Payload) : String := payloadName p.entity

def argsName (p : Payload) : String := TypedClient.argsName p.entity none

def findManyArgsName (p : Payload) : String := TypedClient.argsName p.entity (some .findMany)

def relation? (p : Payload) (name : String) : Option Branch := p.relations.find? (·.name == name)

def guardLine (name : String) : String := ": P extends '" ++ name ++ "'"

def answerLine (answer : TypeExpr) : Text := "? " ++ answer.render

/-- The tests and answers for all relations in order, ending with `never`. -/
def chainLines (p : Payload) (way : Projection) : List Text :=
  p.relations.flatMap (fun b => [(guardLine b.name : Text), answerLine (b.payloadRef way)]) ++ [(": never" : Text)]

def mappedHead (way : Projection) : String := "[P in TrueKeys<S['" ++ way.key ++ "']>]: "

/-- The lines of the mapped type over the true keys. Under `select` the fields of the value type come
before the relations; under `include` the first test stands on the first line. -/
def mappingLines (p : Payload) (way : Projection) : List Text :=
  match way with
  | .select =>
    (mappedHead .select ++ "P extends keyof " ++ p.entity) :: ("  ? " ++ p.entity ++ "[P]")
      :: (p.chainLines .select).map ("  " ++ ·)
  | .include =>
    match p.chainLines .include with
    | [] => []
    | first :: rest =>
      (mappedHead .include ++ first.drop 2) :: rest.map ("  " ++ ·)

/-- The mapped type of a projection; nothing for `include` without relations. -/
def mapping (p : Payload) (way : Projection) : Text :=
  if way = .include && p.relations.isEmpty then []
  else "\x7b\n" ++ Text.indent 2 (Text.joinLines (p.mappingLines way)) ++ "\n\x7d"

def hanging (t : Text) : Text := Text.trimStart (Text.indent 6 t)

def includeType (p : Payload) : Text :=
  let mapped := p.mapping .include
  if mapped.isEmpty then p.entity else p.entity ++ " & " ++ hanging mapped

def text (p : Payload) : Text :=
  "export type " ++ p.name ++ "<\n"
    ++ "  S extends boolean | null | undefined | " ++ p.argsName ++ ",\n"
    ++ "  U = keyof S\n"
    ++ "> = S extends true\n"
    ++ "  ? " ++ p.entity ++ "\n"
    ++ "  : S extends undefined\n"
    ++ "  ? never\n"
    ++ "  : S extends " ++ p.argsName ++ " | " ++ p.findManyArgsName ++ "\n"
    ++ "  ? 'select' extends U\n"
    ++ "    ? 'include' extends U\n"
    ++ "      ? never\n"
    ++ "      : " ++ hanging (p.mapping .select) ++ "\n"
    ++ "    : 'include' extends U\n"
    ++ "    ? " ++ p.includeType ++ "\n"
    ++ "    : " ++ p.entity ++ "\n"
    ++ "  : " ++ p.entity ++ "\n"

end Payload

end TypedClient
