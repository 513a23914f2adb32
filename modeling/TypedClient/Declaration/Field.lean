import TypedClient.Distinct
import TypedClient.Schema.Basic
import TypedClient.TypeExpr.Printer

set_option autoImplicit false

namespace TypedClient

/-- The types that stand for a scalar: results have the first, arguments take all of them. A name that is
no scalar stands for itself. -/
def scalarTargets (type : String) : List String :=
  match type with
  | "String" => ["string"]
  | "Int" => ["number"]
  | "Float" => ["number"]
  | "Boolean" => ["boolean"]
  | "Long" => ["number"]
  | "DateTime" => ["Date", "string"]
  | "ID" => ["string"]
  | "UUID" => ["string"]
  | "Json" => ["JsonValue"]
  | name => [name]

def resultTarget (type : String) : String := (scalarTargets type).headD type

namespace Field

def baseType (f : Field) : TypeExpr :=
  .ref (if f.kind == .scalar then resultTarget f.type else f.type)

def valueType (f : Field) : TypeExpr :=
  if f.isList then .list f.baseType
  else if f.isRequired then f.baseType
  else f.baseType.orNull

def member (f : Field) : Member := ⟨f.name, f.valueType, false, f.documentation⟩

end Field

def valueShape (fields : List Field) (name : String) : TypeExpr :=
  .object ((fields.filter (! ·.isRelation)).map (·.member)) (some name)

def Entity.valueShape (e : Entity) : TypeExpr := TypedClient.valueShape e.fields e.name

namespace Candidate

def targets (c : Candidate) : List String :=
  if c.kind == .scalar then scalarTargets c.type else [c.type]

end Candidate

namespace Argument

def targets (a : Argument) : List String := a.candidates.flatMap (·.targets)

def hasNull (a : Argument) : Bool := a.targets.contains "null"

def targetType (name : String) : TypeExpr := if name == "null" then .null else .ref name

def type (a : Argument) : TypeExpr :=
  let one := TypeExpr.unionOf (a.targets.map targetType)
  let all := if a.isList then .generic "Enumerable" [one] else one
  if !a.isRequired && !a.hasNull && a.isNullable then all.orNull else all

def member (a : Argument) : Member := ⟨a.name, a.type, !a.isRequired, a.comment⟩

end Argument

namespace InputType

def usedFields (t : InputType) : List Argument := uniqueBy (·.name) t.fields

def shape (t : InputType) : TypeExpr := .object (t.usedFields.map (·.member)) (some t.name)

def text (t : InputType) : Text := "export type " ++ t.name ++ " = " ++ t.shape.render

end InputType

end TypedClient
