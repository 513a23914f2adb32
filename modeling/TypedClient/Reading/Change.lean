import TypedClient.Reading.Basic

set_option autoImplicit false

namespace TypedClient

inductive Refusal where
  | issues (issues : List Issue)
  | computed (sort field : String)

def Refusal.computedMessage (sort field : String) : String :=
  "property '" ++ field ++ "' of '" ++ sort ++ "' object has no setter"

/-- Put the outcome of reading a new value for a field into place; a failure keeps the old value. -/
def Reading.assigned {α : Type} (field : String) (old : α) : Reading α → α × Option Refusal
  | .ok new => (new, none)
  | .bad issues => (old, some (.issues (issues.map fun i => ⟨.key field :: i.path, i.cause⟩)))

/-- What every value tells of itself: the fields that were given, and what was given beside them. -/
def ownFields : List String := ["model_extra", "model_fields_set", "__fields_set__", "__fields__"]

/-- The refusal to change a field that a value of a sort does not have. What a value tells of itself is
computed, and other names with a low line in front are passed over. -/
def noField {α : Type} (sort field : String) (old : α) : α × Option Refusal :=
  (old, if ownFields.contains field then some (.computed sort field)
    else if field.startsWith "_" then none
    else some (.issues [⟨[.key field], .noField field⟩]))

/-- A value that cannot be changed refuses every field, also what it tells of itself under a plain name. -/
def frozenField (sort field : String) : Option Refusal :=
  if field.startsWith "_" then
    if ownFields.contains field then some (.computed sort field) else none
  else some (.issues [⟨[.key field], .frozen⟩])

end TypedClient
