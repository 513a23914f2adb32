import TypedClient.Schema.Basic

set_option autoImplicit false

namespace TypedClient

def Enumeration.shown (e : Enumeration) : String :=
  "<Enum " ++ e.name ++ " (" ++ toString e.values.length ++ " values)>"

/-- A field in a few words: brackets mark a list, a question mark what may be left empty. -/
def Field.shown (f : Field) : String :=
  "<Field " ++ f.name ++ ": " ++ f.type
    ++ (if f.isList then "[]" else if f.isRequired then "" else "?") ++ " (" ++ f.kind.label ++ ")>"

def Entity.shown (e : Entity) : String :=
  "<Entity " ++ e.name ++ " (" ++ toString e.fields.length ++ " fields)>"

def Argument.shown (a : Argument) : String :=
  "<Arg " ++ a.name ++ ": " ++ " | ".intercalate (a.candidates.map (·.type)) ++ ">"

def Mapping.shown (m : Mapping) : String := "<Mapping " ++ m.entity ++ ">"

def Document.shown (d : Document) : String :=
  "<SchemaDocument " ++ toString d.entities.length ++ " entities, "
    ++ toString d.schema.inputTypes.length ++ " input types, " ++ toString d.mappings.length
    ++ " mappings>"

def Document.indexShown (d : Document) : String :=
  "<SchemaIndex " ++ toString d.entities.length ++ " entities>"

end TypedClient
