import TypedClient.Action

set_option autoImplicit false

/-!
# Names of declarations

Every declaration made for a record type is named by putting a fixed text before and after the name of
the type. A role says which declaration it is; role and type name together give the identifier.
-/

namespace TypedClient

inductive Role where
  | value
  | payload
  | select
  | include
  | delegate
  | client
  /-- The argument type of an action, or the bare one that bounds relation arguments. -/
  | args (action : Option Action)
  deriving DecidableEq, Repr

namespace Role

/-- What stands before and after the type name in the argument type of an action. -/
def argsAffixes : Option Action → String × String
  | none => ("", "Args")
  | some .findOne => ("FindOne", "Args")
  | some .findMany => ("FindMany", "Args")
  | some .create => ("", "CreateArgs")
  | some .update => ("", "UpdateArgs")
  | some .updateMany => ("", "UpdateManyArgs")
  | some .upsert => ("", "UpsertArgs")
  | some .delete => ("", "DeleteArgs")
  | some .deleteMany => ("", "DeleteManyArgs")
  | some .aggregate => ("Aggregate", "Args")

def affixes : Role → String × String
  | .value => ("", "")
  | .payload => ("", "GetPayload")
  | .select => ("", "Select")
  | .include => ("", "Include")
  | .delegate => ("", "Delegate")
  | .client => ("", "Client")
  | .args action => argsAffixes action

def action? : Role → Option Action
  | .args action => action
  | _ => none

def word : Role → String
  | .value => "model"
  | .payload => "payload"
  | .select => "select"
  | .include => "include"
  | .delegate => "delegate"
  | .client => "client"
  | .args _ => "args"

def all : List Role :=
  [.value, .payload, .select, .include, .delegate, .client, .args none]
    ++ Action.all.map fun a => .args (some a)

end Role

def identifier (role : Role) (entity : String) : String :=
  role.affixes.1 ++ entity ++ role.affixes.2

def payloadName (entity : String) : String := identifier .payload entity

def selectName (entity : String) : String := identifier .select entity

def includeName (entity : String) : String := identifier .include entity

def delegateName (entity : String) : String := identifier .delegate entity

def clientName (entity : String) : String := identifier .client entity

/-- The argument type of an action on a record type, or the bare argument type. -/
def argsName (entity : String) (action : Option Action) : String := identifier (.args action) entity

/-- The argument type that a relation to a record type takes: that of listing when it leads to many. -/
def relationArgsName (target : String) (isList : Bool) : String :=
  argsName target (if isList then some .findMany else none)

/-- Whether an action may find nothing, where the caller does not say: only looking up one record may. -/
def Action.mayMiss (action : Action) : Bool := action == .findOne

/-- The type that the method of an action on a record type returns. A selector in the call chooses the
projected form and its absence the plain one; bulk actions return a count. -/
def returnType (entity : String) (action : Action) (nullable : Option Bool) : String :=
  if action.isBulk then "Promise<BatchPayload>"
  else
    let orNull := if nullable.getD action.mayMiss then " | null" else ""
    let plain := entity ++ orNull
    let projected := payloadName entity ++ "<T>" ++ orNull
    if action = .findMany then
      "CheckSelect<T, Promise<Array<" ++ plain ++ ">>, Promise<Array<" ++ projected ++ ">>>"
    else
      "CheckSelect<T, " ++ clientName entity ++ "<" ++ plain ++ ">, "
        ++ clientName entity ++ "<" ++ projected ++ ">>"

end TypedClient
