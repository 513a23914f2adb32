import TypedClient.Reading.Basic
import TypedClient.Schema.Basic
import TypedClient.Text.Words

set_option autoImplicit false

namespace TypedClient.Key

def ident : Key := .plain "name"
def values : Key := .plain "values"
def kind : Key := .plain "kind"
def type : Key := .plain "type"
def isList : Key := ⟨"isList", "is_list"⟩
def isRequired : Key := ⟨"isRequired", "is_required"⟩
def isUnique : Key := ⟨"isUnique", "is_unique"⟩
def isId : Key := ⟨"isId", "is_id"⟩
def isNullable : Key := ⟨"isNullable", "is_nullable"⟩
def relationName : Key := ⟨"relationName", "relation_name"⟩
def documentation : Key := .plain "documentation"
def fields : Key := .plain "fields"
def idFields : Key := ⟨"idFields", "id_fields"⟩
def uniqueFields : Key := ⟨"uniqueFields", "unique_fields"⟩
def models : Key := .plain "models"
def enums : Key := .plain "enums"
def inputType : Key := ⟨"inputType", "input_type"⟩
def outputType : Key := ⟨"outputType", "output_type"⟩
def comment : Key := .plain "comment"
def args : Key := .plain "args"
def inputTypes : Key := ⟨"inputTypes", "input_types"⟩
def outputTypes : Key := ⟨"outputTypes", "output_types"⟩
def model : Key := .plain "model"
def plural : Key := .plain "plural"
def datamodel : Key := .plain "datamodel"
def querySchema : Key := ⟨"schema", "query_schema"⟩
def mappings : Key := .plain "mappings"

def ofAction : Action → Key
  | .findOne => ⟨"findOne", "find_one"⟩
  | .findMany => ⟨"findMany", "find_many"⟩
  | .create => .plain "create"
  | .update => .plain "update"
  | .updateMany => ⟨"updateMany", "update_many"⟩
  | .upsert => .plain "upsert"
  | .delete => .plain "delete"
  | .deleteMany => ⟨"deleteMany", "delete_many"⟩
  | .aggregate => .plain "aggregate"

end TypedClient.Key

/-- What a mapping says about an action whose name is given as a word, if there is such an action; words in
mixed case and with hyphens are the same as words with low lines. -/
def TypedClient.Mapping.entryForWord? (m : Mapping) (word : String) : Option (Option Text) :=
  (Action.all.find? fun a => (Key.ofAction a).name == Text.snakeCase word).map m.entryFor
