import TypedClient.Distinct
import TypedClient.Schema.Basic

set_option autoImplicit false

/-!
# Looking things up in a document

Of several output types of one name the last counts, of several mappings of one record type and of several
root fields of one name the first. Looking up what is not there is an inconsistency of the document.
-/

namespace TypedClient

inductive Inconsistency where
  | unknownEntity (name : String)
  | noOutputType (name : String)
  /-- An action is served by a field that neither root type has. -/
  | noRootField (action : Action) (entity : String) (field : Text)
  deriving DecidableEq, Repr

def noRootFieldMessage (action : Action) (entity : String) (field : Text) : Text :=
  "Action '" ++ action.label ++ "' of entity '" ++ entity ++ "' maps to '" ++ field
    ++ "', which exists on neither Query nor Mutation."

def Inconsistency.message : Inconsistency → Text
  | .unknownEntity name => "Unknown entity '" ++ name ++ "'."
  | .noOutputType name => "Entity '" ++ name ++ "' has no output type."
  | .noRootField action entity field => noRootFieldMessage action entity field

/-- The names of the root types, in the order in which their fields are looked up. -/
def rootTypeNames : List String := ["Query", "Mutation"]

namespace Document

def hasEntity (d : Document) (name : String) : Bool := d.entityNames.contains name

def entity? (d : Document) (name : String) : Option Entity := d.entities.find? (·.name == name)

def entity (d : Document) (name : String) : Except Inconsistency Entity :=
  match d.entity? name with
  | some e => .ok e
  | none => .error (.unknownEntity name)

def outputType? (d : Document) (name : String) : Option OutputType :=
  d.schema.outputTypes.reverse.find? (·.name == name)

def outputType (d : Document) (name : String) : Except Inconsistency OutputType :=
  match d.outputType? name with
  | some t => .ok t
  | none => .error (.noOutputType name)

def mapping? (d : Document) (entity : String) : Option Mapping :=
  d.mappings.find? (·.entity == entity)

def usedMappings (d : Document) : List Mapping := uniqueBy (·.entity) d.mappings

def rootFields (d : Document) : List OutputField :=
  rootTypeNames.flatMap fun name => match d.outputType? name with
    | some t => t.fields
    | none => []

def rootField? (d : Document) (name : Text) : Option OutputField :=
  d.rootFields.find? (·.name == name)

/-- The root field that serves an action of a record type, if the action is supported; the field has to
be there. -/
def rootField (d : Document) (entity : String) (action : Action) :
    Except Inconsistency (Option OutputField) :=
  match (d.mapping? entity).bind (·.fieldFor action) with
  | none => .ok none
  | some field => match d.rootField? field with
    | some f => .ok (some f)
    | none => .error (.noRootField action entity field)

/-- The enumerations: those of the queries, then the declared ones that are not among them. -/
def enums (d : Document) : List Enumeration :=
  uniqueBy (·.name) (d.schema.enums ++ d.datamodel.enums)

end Document

end TypedClient
