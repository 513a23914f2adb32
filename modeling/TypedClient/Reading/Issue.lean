import TypedClient.Text.Quoted

set_option autoImplicit false

namespace TypedClient

inductive Step where
  | key (name : String)
  | index (n : Int)
  deriving DecidableEq, Repr

inductive Kind where
  | scalar
  | enum
  | object
  deriving DecidableEq, Repr, Inhabited

namespace Kind

def all : List Kind := [.scalar, .enum, .object]

def label : Kind → String
  | .scalar => "scalar"
  | .enum => "enum"
  | .object => "object"

def ofLabel? (label : String) : Option Kind := all.find? (·.label == label)

end Kind

/-- A rule of the format that a well-typed value can break. -/
inductive Breach where
  | namelessValue
  | repeatedValues (values : List Text)
  | relationOnPlain (field : String) (kind : Kind)
  | repeatedFields (entity : String) (fields : List String)
  | unknownKeyFields (entity : String) (fields : List Text)
  | repeatedEntities (names : List String)
  | danglingRelation (entity field target : String)
  | danglingMapping (entity : String)
  | sameFile (name : String)
  deriving DecidableEq, Repr

def Breach.message : Breach → String
  | .namelessValue => "enum value mapping requires 'name'"
  | .repeatedValues values => "Duplicate enum values detected: " ++ Text.quotedList values
  | .relationOnPlain field kind =>
    "Field '" ++ field ++ "' has relationName but is of kind '" ++ kind.label ++ "'."
  | .repeatedFields entity fields =>
    "Entity '" ++ entity ++ "' has duplicate fields: " ++ Text.quotedList (fields.map Text.ofString)
  | .unknownKeyFields entity fields =>
    "Entity '" ++ entity ++ "' composite key references non-existent fields: "
      ++ Text.quotedList fields
  | .repeatedEntities names => "Duplicate entity names: " ++ Text.quotedList (names.map Text.ofString)
  | .danglingRelation entity field target =>
    "Entity '" ++ entity ++ "' has relation '" ++ field ++ "' to '" ++ target
      ++ "' which is not defined in the schema."
  | .danglingMapping entity =>
    "Mapping references entity '" ++ entity ++ "' which is not defined in the schema."
  | .sameFile name => "ts_filename and js_filename must differ (both '" ++ name ++ "')."

inductive Cause where
  | missing
  | notText
  /-- Halves of pairs stand on their own in a text, or bytes encode none. -/
  | notUnicode
  | emptyText
  | notName
  | notBool
  | unreadableBool
  | notKind
  | notList
  | emptyList
  | notObject (sort : String)
  | unknownKey
  | oddKey
  | notInt
  | unreadableInt
  | fractionalInt
  | infiniteInt
  | hugeInt
  | negative
  | breach (rule : Breach)
  | frozen
  | noField (name : String)
  deriving DecidableEq, Repr

namespace Cause

def code : Cause → String
  | .missing => "missing"
  | .notText => "string_type"
  | .notUnicode => "string_unicode"
  | .emptyText => "string_too_short"
  | .notName => "string_pattern_mismatch"
  | .notBool => "bool_type"
  | .unreadableBool => "bool_parsing"
  | .notKind => "enum"
  | .notList => "list_type"
  | .emptyList => "too_short"
  | .notObject _ => "model_type"
  | .unknownKey => "extra_forbidden"
  | .oddKey => "invalid_key"
  | .notInt => "int_type"
  | .unreadableInt => "int_parsing"
  | .fractionalInt => "int_from_float"
  | .infiniteInt => "finite_number"
  | .hugeInt => "int_parsing_size"
  | .negative => "greater_than_equal"
  | .breach _ => "value_error"
  | .frozen => "frozen_instance"
  | .noField _ => "no_such_attribute"

def message : Cause → String
  | .missing => "Field required"
  | .notText => "Input should be a valid string"
  | .notUnicode => "Input should be a valid string, unable to parse raw data as a unicode string"
  | .emptyText => "String should have at least 1 character"
  | .notName => "String should match pattern '^[A-Za-z_$][A-Za-z0-9_$]*$'"
  | .notBool => "Input should be a valid boolean"
  | .unreadableBool => "Input should be a valid boolean, unable to interpret input"
  | .notKind => "Input should be 'scalar', 'enum' or 'object'"
  | .notList => "Input should be a valid list"
  | .emptyList => "List should have at least 1 item after validation, not 0"
  | .notObject sort => "Input should be a valid dictionary or instance of " ++ sort
  | .unknownKey => "Extra inputs are not permitted"
  | .oddKey => "Keys should be strings"
  | .notInt => "Input should be a valid integer"
  | .unreadableInt => "Input should be a valid integer, unable to parse string as an integer"
  | .fractionalInt => "Input should be a valid integer, got a number with a fractional part"
  | .infiniteInt => "Input should be a finite number"
  | .hugeInt => "Unable to parse input string as an integer, exceeded maximum size"
  | .negative => "Input should be greater than or equal to 0"
  | .breach rule => "Value error, " ++ rule.message
  | .frozen => "Instance is frozen"
  | .noField name => "Object has no attribute '" ++ name ++ "'"

end Cause

structure Issue where
  path : List Step
  cause : Cause
  deriving DecidableEq, Repr

def Step.text : Step → String
  | .key name => name
  | .index n => toString n

def issueReport (sort : String) (issues : List Issue) : String :=
  "\n".intercalate
    ((toString issues.length ++ " validation error" ++ (if issues.length = 1 then "" else "s")
        ++ " for " ++ sort)
      :: issues.flatMap fun i =>
        [".".intercalate (i.path.map Step.text),
          "  " ++ i.cause.message ++ " [type=" ++ i.cause.code ++ "]"])

end TypedClient
