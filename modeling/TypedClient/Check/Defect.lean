import TypedClient.Check.Finding
import TypedClient.Collision
import TypedClient.Schema.Lookup
import TypedClient.Settings

set_option autoImplicit false

/-!
# Defects of documents

The checks that tie the parts of a document together: record types have output types, relations lead to
record types on both sides, mapped actions are served by root fields, enumerations are declared, and no
identifier is declared twice.
-/

namespace TypedClient

/-- What can be wrong with, or worth saying about, a document. -/
inductive Defect where
  | outputTypeMissing (entity : String)
  | relationTargetUnknown (entity field target : String)
  | relationFieldMissing (entity field : String)
  | duplicateMapping (entity : String)
  | mappingFieldMissing (entity : String) (action : Action) (field : Text)
  | entityUnmapped (entity : String)
  | enumUnknown (entity field type : String)
  | nameCollision (collision : Collision)
  deriving DecidableEq, Repr

namespace Defect

def level : Defect → Level
  | .duplicateMapping .. | .enumUnknown .. => .warning
  | .entityUnmapped .. => .info
  | _ => .error

def code : Defect → String
  | .outputTypeMissing .. => "OUTPUT_TYPE_MISSING"
  | .relationTargetUnknown .. => "RELATION_TARGET_UNKNOWN"
  | .relationFieldMissing .. => "RELATION_FIELD_MISSING"
  | .duplicateMapping .. => "DUPLICATE_MAPPING"
  | .mappingFieldMissing .. => "MAPPING_FIELD_MISSING"
  | .entityUnmapped .. => "ENTITY_UNMAPPED"
  | .enumUnknown .. => "ENUM_UNKNOWN"
  | .nameCollision .. => "NAME_COLLISION"

def message : Defect → Text
  | .outputTypeMissing entity => (Inconsistency.noOutputType entity).message
  | .relationTargetUnknown entity field target =>
    "Output field '" ++ entity ++ "." ++ field ++ "' points at '" ++ target
      ++ "', which is not an entity."
  | .relationFieldMissing entity field =>
    "Relation '" ++ entity ++ "." ++ field ++ "' is not a relation field of output type '" ++ entity
      ++ "'."
  | .duplicateMapping entity =>
    "Entity '" ++ entity ++ "' is mapped more than once; only the first mapping is used."
  | .mappingFieldMissing entity action field => noRootFieldMessage action entity field
  | .entityUnmapped entity =>
    "Entity '" ++ entity ++ "' has no mapping; it gets types but no delegate."
  | .enumUnknown entity field type =>
    "Field '" ++ entity ++ "." ++ field ++ "' references undeclared enum '" ++ type ++ "'."
  | .nameCollision c =>
    "Identifier '" ++ c.name ++ "' would be declared more than once: " ++ ", ".intercalate c.owners
      ++ "."

def context : Defect → List (String × Json)
  | .outputTypeMissing entity | .duplicateMapping entity | .entityUnmapped entity =>
    [("entity", .str entity)]
  | .relationTargetUnknown entity field _ | .relationFieldMissing entity field
  | .enumUnknown entity field _ => [("entity", .str entity), ("field", .str field)]
  | .mappingFieldMissing entity action field =>
    [("entity", .str entity), ("action", .str action.label), ("field", .str field)]
  | .nameCollision c => [("identifier", .str c.name)]

def finding (d : Defect) : Finding := ⟨d.level, d.code, d.message, d.context⟩

end Defect

def fixedIdentifiers : List String :=
  ["BatchPayload", "CheckSelect", "ClientFetcher", "ClientValidationError", "ClientVersion", "DMMF",
    "DMMFClass", "Datasources", "Engine", "EnginePanicError", "Enumerable", "ErrorFormat", "GetEvents",
    "GetLogType", "HasInclude", "HasSelect", "Hooks", "InitializationError", "JsonArray", "JsonObject",
    "JsonValue", "KnownRequestError", "LogDefinition", "LogEvent", "LogLevel", "PromiseReturnType",
    "PromiseType", "QueryEvent", "SelectAndInclude", "Subset", "TrueKeys", "UnknownRequestError"]

namespace Document

/-- Record types without output type, and relations of output types that lead nowhere. -/
def outputTypeDefects (d : Document) : List Defect :=
  d.entities.flatMap fun e => match d.outputType? e.name with
    | none => [.outputTypeMissing e.name]
    | some t => (t.relations.filter fun f => ! d.hasEntity f.target.type).map fun f =>
      .relationTargetUnknown e.name f.name f.target.type

def relationDefects (d : Document) : List Defect :=
  d.entities.flatMap fun e => match d.outputType? e.name with
    | none => []
    | some t =>
      (e.relations.filter fun f => ! (t.field? f.name).any (·.isRelation)).map fun f =>
        .relationFieldMissing e.name f.name

def servedFields (d : Document) : List Text :=
  (d.schema.outputTypes.filter fun t => rootTypeNames.contains t.name).flatMap fun t =>
    t.fields.map fun f => (f.name : Text)

/-- The defects of the mappings, after those of the record types seen so far. -/
def mappingDefectsAfter (d : Document) (seen : List String) : List Mapping → List Defect
  | [] => []
  | m :: rest =>
    if seen.contains m.entity then .duplicateMapping m.entity :: d.mappingDefectsAfter seen rest
    else
      ((m.served.filter fun s => ! d.servedFields.contains s.2).map fun s =>
          .mappingFieldMissing m.entity s.1 s.2)
        ++ d.mappingDefectsAfter (m.entity :: seen) rest

/-- Mapped actions that nothing serves, repeated mappings, and record types without mapping. -/
def mappingDefects (d : Document) : List Defect :=
  d.mappingDefectsAfter [] d.mappings
    ++ (d.entityNames.filter fun name => ! (d.mappings.map (·.entity)).contains name).map
      .entityUnmapped

def enumDefects (d : Document) : List Defect :=
  let declared := d.datamodel.enums.map (·.name) ++ d.schema.enums.map (·.name)
  d.entities.flatMap fun e =>
    (e.fields.filter fun f => f.kind == .enum && ! declared.contains f.type).map fun f =>
      .enumUnknown e.name f.name f.type

/-- The names that a document and the fixed parts declare, and the ones given besides. -/
def reservedNames (d : Document) (extra : List String) : List String :=
  distinct (d.schema.enums.map (·.name) ++ d.datamodel.enums.map (·.name))
    ++ d.schema.inputTypes.map (·.name) ++ fixedIdentifiers ++ extra

/-- Identifiers that would be declared more than once, in ascending order. -/
def identifierDefects (d : Document) (extra : List String) : List Defect :=
  ((collisions d.entityNames (d.reservedNames extra)).mergeSort fun a b => decide (a.name ≤ b.name)).map
    .nameCollision

def clientNames : Option Settings → List String
  | none => []
  | some s => [s.clientName, optionsName s.clientName]

def defects (d : Document) (settings : Option Settings) : List Defect :=
  d.outputTypeDefects ++ d.relationDefects ++ d.mappingDefects ++ d.enumDefects
    ++ d.identifierDefects (clientNames settings)

def findings (d : Document) (settings : Option Settings) : Findings :=
  (d.defects settings).map (·.finding)

/-- The findings of a document without errors; with errors, the findings are the failure. -/
def ensureValid (d : Document) (settings : Option Settings) : Except Findings Findings :=
  let fs := d.findings settings
  if fs.isValid then .ok fs else .error fs

end Document

end TypedClient
