import TypedClient.Schema.Keys

set_option autoImplicit false

namespace TypedClient

namespace Data

def part? (key : Key) : Data → Option Data
  | .map entries => (get? entries key.usual).or (get? entries key.name)
  | _ => none

def inner (key : Key) (d : Data) : Data := (d.part? key).getD (.map [])

def text? : Data → Option Text
  | .scalar (.text s) => some s
  | _ => none

def textAt (key : Key) (d : Data) : Text := ((d.part? key).bind text?).getD []

def itemsAt (key : Key) (d : Data) : List Data :=
  match d.part? key with
  | some (.list ds) => ds
  | _ => []

def texts : Data → List Text
  | .list ds => ds.filterMap text?
  | _ => []

/-! ## Kinds of values -/

def isText (d : Data) : Bool := d.text?.isSome

/-- Whether a value is a text with characters in it, all of which have an encoding. -/
def isName (d : Data) : Bool := (d.text?.bind Text.string?).any (! ·.isEmpty)

def isKind (d : Data) : Bool := ((d.text?.bind Text.string?).bind Kind.ofLabel?).isSome

def isBool : Data → Bool
  | .scalar (.bool _) => true
  | _ => false

def isTextOrNull : Data → Bool
  | .scalar .null => true
  | d => d.isText

def isMap : Data → Bool
  | .map _ => true
  | _ => false

def isListOf (p : Data → Bool) : Data → Bool
  | .list ds => ds.all p
  | _ => false

def has (key : Key) (p : Data → Bool) (d : Data) : Bool := (d.part? key).any p

def mayHave (key : Key) (p : Data → Bool) (d : Data) : Bool := (d.part? key).all p

end Data

open Data

/-! ## Kinds of documents and of their parts -/

def Enumeration.typedValue (d : Data) : Bool := d.isText || d.has .ident isText

def Enumeration.typed (d : Data) : Bool := d.has .ident isName && d.has .values (isListOf typedValue)

def Field.typed (d : Data) : Bool :=
  d.has .ident isName && d.has .kind isKind && d.has .type isName && d.mayHave .isList isBool
    && d.mayHave .isRequired isBool && d.mayHave .isUnique isBool && d.mayHave .isId isBool
    && d.mayHave .relationName isTextOrNull && d.mayHave .documentation isTextOrNull

def Entity.typed (d : Data) : Bool :=
  d.has .ident isName && d.has .fields (isListOf Field.typed) && d.mayHave .idFields (isListOf isText)
    && d.mayHave .uniqueFields (isListOf (isListOf isText)) && d.mayHave .documentation isTextOrNull

def Datamodel.typed (d : Data) : Bool :=
  d.isMap && d.mayHave .models (isListOf Entity.typed) && d.mayHave .enums (isListOf Enumeration.typed)

def Candidate.typed (d : Data) : Bool :=
  d.has .type isName && d.mayHave .kind isKind && d.mayHave .isList isBool && d.mayHave .isRequired isBool
    && d.mayHave .isNullable isBool

def Argument.typed (d : Data) : Bool :=
  d.has .ident isName && d.has .inputType (fun c => Candidate.typed c || c.isListOf Candidate.typed)
    && d.mayHave .comment isTextOrNull

def Target.typed (d : Data) : Bool :=
  d.has .type isName && d.mayHave .kind isKind && d.mayHave .isList isBool && d.mayHave .isRequired isBool

def OutputField.typed (d : Data) : Bool :=
  d.has .ident isName && d.has .outputType Target.typed && d.mayHave .args (isListOf Argument.typed)

def InputType.typed (d : Data) : Bool := d.has .ident isName && d.mayHave .fields (isListOf Argument.typed)

def OutputType.typed (d : Data) : Bool := d.has .ident isName && d.mayHave .fields (isListOf OutputField.typed)

def QuerySchema.typed (d : Data) : Bool :=
  d.isMap && d.mayHave .inputTypes (isListOf InputType.typed)
    && d.mayHave .outputTypes (isListOf OutputType.typed) && d.mayHave .enums (isListOf Enumeration.typed)

def Mapping.typed (d : Data) : Bool :=
  d.has .model isName && d.has .plural isName && Action.all.all fun a => d.mayHave (.ofAction a) isTextOrNull

/-- Every key that a document and its parts have to have is there, and every value is of its kind. -/
def Document.typed (d : Data) : Bool :=
  d.isMap && d.mayHave .datamodel Datamodel.typed && d.mayHave .querySchema QuerySchema.typed
    && d.mayHave .mappings (isListOf Mapping.typed)

/-! ## The parts of a document -/

namespace Data

def entities (d : Data) : List Data := (d.inner .datamodel).itemsAt .models

def entityNames (d : Data) : List Text := d.entities.map (·.textAt .ident)

def fields (d : Data) : List Data := d.itemsAt .fields

def fieldNames (d : Data) : List Text := d.fields.map (·.textAt .ident)

/-- The composite keys of a record type, the primary one and the unique ones. -/
def keyGroups (d : Data) : List (List Text) :=
  (d.itemsAt .idFields).filterMap text? :: (d.itemsAt .uniqueFields).map texts

def enums (d : Data) : List Data := (d.inner .datamodel).itemsAt .enums ++ (d.inner .querySchema).itemsAt .enums

def valueText (d : Data) : Text := d.text?.getD (d.textAt .ident)

def arguments (d : Data) : List Data :=
  ((d.inner .querySchema).itemsAt .inputTypes).flatMap fields
    ++ ((d.inner .querySchema).itemsAt .outputTypes).flatMap fun t => t.fields.flatMap (·.itemsAt .args)

end Data

structure Document.Lawful (d : Data) : Prop where
  entityNames : d.entityNames.Nodup
  fields : ∀ e ∈ d.entities, e.fields ≠ []
  fieldNames : ∀ e ∈ d.entities, e.fieldNames.Nodup
  relationNames : ∀ e ∈ d.entities, ∀ f ∈ e.fields, f.has .relationName isText → f.textAt .kind = "object"
  keyGroups : ∀ e ∈ d.entities, ∀ group ∈ e.keyGroups, ∀ name ∈ group, name ∈ e.fieldNames
  values : ∀ e ∈ d.enums, e.itemsAt .values ≠ []
  valueTexts : ∀ e ∈ d.enums, ((e.itemsAt .values).map valueText).Nodup
  candidates : ∀ a ∈ d.arguments, a.part? .inputType ≠ some (.list [])
  relations : ∀ e ∈ d.entities, ∀ f ∈ e.fields, f.textAt .kind = "object" → f.textAt .type ∈ d.entityNames
  mappings : ∀ m ∈ d.itemsAt .mappings, m.textAt .model ∈ d.entityNames

end TypedClient
