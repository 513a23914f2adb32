import TypedClient.Declaration.Field
import TypedClient.Naming
import TypedClient.Schema.Lookup
import TypedClient.Text.Plural

set_option autoImplicit false

namespace TypedClient

/-- What is said of an argument of an action, where something is; the names are those of one record and of
several. -/
def argumentNote (one many : String) : Action → String → Option String
  | .findOne, "where" => some ("Filter, which " ++ one ++ " to fetch.")
  | .findMany, "where" => some ("Filter, which " ++ many ++ " to fetch.")
  | .findMany, "orderBy" => some ("Determine the order of the " ++ many ++ " to fetch.")
  | .findMany, "skip" => some ("Skip the first `n` " ++ many ++ ".")
  | .findMany, "cursor" => some ("Sets the position for listing " ++ many ++ ".")
  | .findMany, "take" =>
    some ("Get all " ++ many ++ " that come after or before the " ++ one
      ++ " you provide with the current order.")
  | .create, "data" => some ("The data needed to create a " ++ one ++ ".")
  | .update, "data" => some ("The data needed to update a " ++ one ++ ".")
  | .update, "where" => some ("Choose, which " ++ one ++ " to update.")
  | .upsert, "where" =>
    some ("The filter to search for the " ++ one ++ " to update in case it exists.")
  | .upsert, "create" =>
    some ("In case the " ++ one ++ " found by the `where` argument doesn't exist, create a new " ++ one
      ++ " with this data.")
  | .upsert, "update" =>
    some ("In case the " ++ one ++ " was found with the provided `where` argument, update it with this "
      ++ "data.")
  | .delete, "where" => some ("Filter which " ++ one ++ " to delete.")
  | _, _ => none

def describeArgument (entity : String) (action : Option Action) (arg : String) : Option String :=
  action.bind fun a => argumentNote entity (Text.plural entity) a arg

def selectorArgument (name type comment : String) : Argument :=
  ⟨name, { type := type, kind := .object, isNullable := true }, [], some comment⟩

def selectArgument (entity : String) : Argument :=
  selectorArgument "select" (selectName entity) ("Select specific fields to fetch from the " ++ entity)

def includeArgument (entity : String) : Argument :=
  selectorArgument "include" (includeName entity) "Choose, which related nodes to fetch as well."

structure ArgsDeclaration where
  entity : String
  action : Option Action
  args : List Argument
  deriving DecidableEq, Repr

namespace ArgsDeclaration

def name (d : ArgsDeclaration) : String := argsName d.entity d.action

def argNames (d : ArgsDeclaration) : List String := d.args.map (·.name)

def shape (d : ArgsDeclaration) : TypeExpr := .object (d.args.map (·.member)) (some d.entity)

def text (d : ArgsDeclaration) : Text :=
  Text.docBlock (d.entity ++ " " ++ d.action.elim "without action" (·.label)) ++ "\nexport type "
    ++ d.name ++ " = " ++ d.shape.render ++ "\n"

end ArgsDeclaration

def Argument.described (entity : String) (action : Option Action) (a : Argument) : Argument :=
  match describeArgument entity action a.name with
  | some note => { a with comment := some note }
  | none => a

/-- The argument type of an action, or the bare one, with the arguments of its root field. -/
def Entity.argsDeclaration (e : Entity) (action : Option Action) (declared : List Argument) :
    ArgsDeclaration :=
  if action.any (·.isBulk) then ⟨e.name, action, declared⟩
  else
    ⟨e.name, action,
      selectArgument e.name
        :: ((if e.hasRelations then [includeArgument e.name] else [])
          ++ declared.map (·.described e.name action))⟩

def Document.servedArgs (d : Document) (e : Entity) :
    List (Action × Text) → Except Inconsistency (List ArgsDeclaration)
  | [] => .ok []
  | (action, field) :: rest =>
    match d.rootField? field with
    | none => .error (.noRootField action e.name field)
    | some root => (d.servedArgs e rest).map fun ds => e.argsDeclaration (some action) root.args :: ds

/-- Every argument type of a record type: those of the supported actions in order, then the bare one. -/
def Document.entityArgs (d : Document) (e : Entity) : Except Inconsistency (List ArgsDeclaration) :=
  (d.servedArgs e ((d.mapping? e.name).elim [] (·.served))).map fun ds =>
    ds ++ [e.argsDeclaration none []]

end TypedClient
