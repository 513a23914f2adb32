import TypedClient.Schema.Keys

set_option autoImplicit false

namespace TypedClient

inductive Spelling where
  | usual
  | name
  deriving DecidableEq

def Key.spelled (key : Key) : Spelling → String
  | .usual => key.usual
  | .name => key.name

namespace Json

def keyed (spelling : Spelling) (members : List (Key × Json)) : Json :=
  .obj (members.map fun m => (m.1.spelled spelling, m.2))

def ofText? : Option Text → Json
  | some s => .str s
  | none => .null

def ofTexts (ts : List Text) : Json := .arr (ts.map .str)

end Json

open Json (keyed ofText? ofTexts)

def Enumeration.toJson (s : Spelling) (e : Enumeration) : Json :=
  keyed s [(.ident, .str e.name), (.values, ofTexts e.values)]

def Field.toJson (s : Spelling) (f : Field) : Json :=
  keyed s [(.ident, .str f.name), (.kind, .str f.kind.label), (.type, .str f.type),
    (.isList, .bool f.isList), (.isRequired, .bool f.isRequired), (.isUnique, .bool f.isUnique),
    (.isId, .bool f.isId), (.relationName, ofText? f.relationName),
    (.documentation, ofText? f.documentation)]

def Entity.toJson (s : Spelling) (e : Entity) : Json :=
  keyed s [(.ident, .str e.name), (.fields, .arr (e.fields.map (·.toJson s))),
    (.idFields, ofTexts e.idFields), (.uniqueFields, .arr (e.uniqueFields.map ofTexts)),
    (.documentation, ofText? e.documentation)]

def Datamodel.toJson (s : Spelling) (d : Datamodel) : Json :=
  keyed s [(.models, .arr (d.entities.map (·.toJson s))), (.enums, .arr (d.enums.map (·.toJson s)))]

def Candidate.toJson (s : Spelling) (c : Candidate) : Json :=
  keyed s [(.type, .str c.type), (.kind, .str c.kind.label), (.isList, .bool c.isList),
    (.isRequired, .bool c.isRequired), (.isNullable, .bool c.isNullable)]

def Argument.toJson (s : Spelling) (a : Argument) : Json :=
  keyed s [(.ident, .str a.name), (.inputType, .arr (a.candidates.map (·.toJson s))),
    (.comment, ofText? a.comment)]

def Target.toJson (s : Spelling) (t : Target) : Json :=
  keyed s [(.type, .str t.type), (.kind, .str t.kind.label), (.isList, .bool t.isList),
    (.isRequired, .bool t.isRequired)]

def OutputField.toJson (s : Spelling) (f : OutputField) : Json :=
  keyed s [(.ident, .str f.name), (.outputType, f.target.toJson s),
    (.args, .arr (f.args.map (·.toJson s)))]

def InputType.toJson (s : Spelling) (t : InputType) : Json :=
  keyed s [(.ident, .str t.name), (.fields, .arr (t.fields.map (·.toJson s)))]

def OutputType.toJson (s : Spelling) (t : OutputType) : Json :=
  keyed s [(.ident, .str t.name), (.fields, .arr (t.fields.map (·.toJson s)))]

def QuerySchema.toJson (s : Spelling) (q : QuerySchema) : Json :=
  keyed s [(.inputTypes, .arr (q.inputTypes.map (·.toJson s))),
    (.outputTypes, .arr (q.outputTypes.map (·.toJson s))), (.enums, .arr (q.enums.map (·.toJson s)))]

def Mapping.toJson (s : Spelling) (m : Mapping) : Json :=
  keyed s <| [(.model, .str m.entity), (.plural, .str m.plural)]
    ++ Action.all.map fun a => (.ofAction a, ofText? (m.entryFor a))

def Document.toJson (s : Spelling) (d : Document) : Json :=
  keyed s [(.datamodel, d.datamodel.toJson s), (.querySchema, d.schema.toJson s),
    (.mappings, .arr (d.mappings.map (·.toJson s)))]

end TypedClient
