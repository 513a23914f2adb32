import TypedClient.Action
import TypedClient.Reading.Issue

set_option autoImplicit false

namespace TypedClient

structure Enumeration where
  name : String
  values : List Text
  deriving DecidableEq, Repr, Inhabited

/-- A field of a record type. Its type is a scalar, an enumeration or, for a relation, a record type. -/
structure Field where
  name : String
  kind : Kind
  type : String
  isList : Bool := false
  isRequired : Bool := true
  isUnique : Bool := false
  isId : Bool := false
  relationName : Option Text := none
  documentation : Option Text := none
  deriving DecidableEq, Repr, Inhabited

def Field.isRelation (f : Field) : Bool := f.kind == .object

structure Entity where
  name : String
  fields : List Field
  idFields : List Text := []
  uniqueFields : List (List Text) := []
  documentation : Option Text := none
  deriving DecidableEq, Repr, Inhabited

namespace Entity

def relations (e : Entity) : List Field := e.fields.filter (·.isRelation)

def plainFields (e : Entity) : List Field := e.fields.filter (! ·.isRelation)

def hasRelations (e : Entity) : Bool := e.fields.any (·.isRelation)

def field? (e : Entity) (name : String) : Option Field := e.fields.find? (·.name == name)

end Entity

structure Datamodel where
  entities : List Entity := []
  enums : List Enumeration := []
  deriving DecidableEq, Repr, Inhabited

structure Candidate where
  type : String
  kind : Kind := .scalar
  isList : Bool := false
  isRequired : Bool := false
  isNullable : Bool := false
  deriving DecidableEq, Repr, Inhabited

/-- An argument. The first of its candidates decides whether it is required, a list or nullable. -/
structure Argument where
  name : String
  first : Candidate
  others : List Candidate := []
  comment : Option Text := none
  deriving DecidableEq, Repr, Inhabited

namespace Argument

def candidates (a : Argument) : List Candidate := a.first :: a.others

def isRequired (a : Argument) : Bool := a.first.isRequired

def isList (a : Argument) : Bool := a.first.isList

def isNullable (a : Argument) : Bool := a.first.isNullable

end Argument

structure Target where
  type : String
  kind : Kind := .scalar
  isList : Bool := false
  isRequired : Bool := true
  deriving DecidableEq, Repr, Inhabited

/-- A field of an output type, with the arguments it takes. -/
structure OutputField where
  name : String
  target : Target
  args : List Argument := []
  deriving DecidableEq, Repr, Inhabited

def OutputField.isRelation (f : OutputField) : Bool := f.target.kind == .object

structure InputType where
  name : String
  fields : List Argument := []
  deriving DecidableEq, Repr, Inhabited

/-- The full form of a record type, or one of the two root types. -/
structure OutputType where
  name : String
  fields : List OutputField := []
  deriving DecidableEq, Repr, Inhabited

namespace OutputType

def relations (t : OutputType) : List OutputField := t.fields.filter (·.isRelation)

def field? (t : OutputType) (name : String) : Option OutputField := t.fields.find? (·.name == name)

end OutputType

structure QuerySchema where
  inputTypes : List InputType := []
  outputTypes : List OutputType := []
  enums : List Enumeration := []
  deriving DecidableEq, Repr, Inhabited

/-- For one record type, the root field that serves each action; an action without one is unsupported. -/
structure Mapping where
  entity : String
  plural : String
  findOne : Option Text := none
  findMany : Option Text := none
  create : Option Text := none
  update : Option Text := none
  updateMany : Option Text := none
  upsert : Option Text := none
  delete : Option Text := none
  deleteMany : Option Text := none
  aggregate : Option Text := none
  deriving DecidableEq, Repr, Inhabited

namespace Mapping

def entryFor (m : Mapping) : Action → Option Text
  | .findOne => m.findOne
  | .findMany => m.findMany
  | .create => m.create
  | .update => m.update
  | .updateMany => m.updateMany
  | .upsert => m.upsert
  | .delete => m.delete
  | .deleteMany => m.deleteMany
  | .aggregate => m.aggregate

/-- The root field that serves an action; an empty name means that none does. -/
def fieldFor (m : Mapping) (action : Action) : Option Text := (m.entryFor action).filter (! ·.isEmpty)

def served (m : Mapping) : List (Action × Text) :=
  Action.all.filterMap fun a => (m.fieldFor a).map fun f => (a, f)

def actions (m : Mapping) : List Action := m.served.map (·.1)

end Mapping

structure Document where
  datamodel : Datamodel := {}
  schema : QuerySchema := {}
  mappings : List Mapping := []
  deriving DecidableEq, Repr, Inhabited

namespace Document

def entities (d : Document) : List Entity := d.datamodel.entities

def entityNames (d : Document) : List String := d.entities.map (·.name)

end Document

end TypedClient
