set_option autoImplicit false

namespace TypedClient

inductive Action where
  | findOne
  | findMany
  | create
  | update
  | updateMany
  | upsert
  | delete
  | deleteMany
  | aggregate
  deriving DecidableEq, Repr, Inhabited

namespace Action

def all : List Action :=
  [.findOne, .findMany, .create, .update, .updateMany, .upsert, .delete, .deleteMany, .aggregate]

theorem mem_all (a : Action) : a ∈ all := by cases a <;> decide

theorem nodup_all : all.Nodup := by decide

def label : Action → String
  | .findOne => "findOne"
  | .findMany => "findMany"
  | .create => "create"
  | .update => "update"
  | .updateMany => "updateMany"
  | .upsert => "upsert"
  | .delete => "delete"
  | .deleteMany => "deleteMany"
  | .aggregate => "aggregate"

def ofLabel? (label : String) : Option Action := all.find? (·.label == label)

def isBulk : Action → Bool
  | .updateMany | .deleteMany => true
  | _ => false

def missingFrom (table asked : List Action) : List Action := asked.filter (! table.contains ·)

end Action

end TypedClient
