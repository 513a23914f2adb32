import TypedClient.Distinct
import TypedClient.Schema.Keys

set_option autoImplicit false

namespace TypedClient

open Reading

section Repetition

variable {α : Type} [DecidableEq α]

/-- The items that are there more than once, each of them once and in order. -/
def repeated (le : α → α → Bool) (items : List α) : List α :=
  (distinct (items.filter fun x => 1 < items.count x)).mergeSort le

def repeatBreach? (le : α → α → Bool) (items : List α) (breach : List α → Breach) : Option Breach :=
  match repeated le items with
  | [] => none
  | dupes => some (breach dupes)

end Repetition

def nameLe (a b : String) : Bool := decide (a ≤ b)

namespace Enumeration

def plainValue : Data → Option Data
  | .map entries => Data.get? entries "name"
  | d => some d

def plainValues : Data → Option Data
  | .list ds => (ds.mapM plainValue).map .list
  | d => some d

/-- Read the values: each a text or, in a list, an object with a name, all different. -/
def readValues (d : Data) : Reading (List Text) :=
  match plainValues d with
  | some d => guarded (fun values => repeatBreach? Text.le values .repeatedValues) (nonEmptyList text d)
  | none => fail (.breach .namelessValue)

def read : Data → Reading Enumeration :=
  object "EnumDefinition" fun entries =>
    Enumeration.mk <$> required .ident nonEmptyText entries <*> required .values readValues entries

end Enumeration

namespace Field

def breach? (f : Field) : Option Breach :=
  if f.relationName.isSome && f.kind ≠ .object then some (.relationOnPlain f.name f.kind) else none

def read : Data → Reading Field :=
  object "EntityField" fun entries => guarded breach? <|
    Field.mk <$> required .ident nonEmptyText entries
      <*> required .kind Reading.kind entries
      <*> required .type nonEmptyText entries
      <*> optional .isList false bool entries
      <*> optional .isRequired true bool entries
      <*> optional .isUnique false bool entries
      <*> optional .isId false bool entries
      <*> optional .relationName none (orNull text) entries
      <*> optional .documentation none (orNull text) entries

end Field

namespace Entity

def unknownIn (e : Entity) (group : List Text) : List Text :=
  group.filter fun name => ! e.fields.any (·.name == name)

/-- Field names are distinct, and composite keys are made of fields that are there. -/
def breach? (e : Entity) : Option Breach :=
  (repeatBreach? nameLe (e.fields.map (·.name)) (.repeatedFields e.name)).or <|
    (e.idFields :: e.uniqueFields).findSome? fun group => match e.unknownIn group with
      | [] => none
      | unknown => some (.unknownKeyFields e.name unknown)

def read : Data → Reading Entity :=
  object "Entity" fun entries => guarded breach? <|
    Entity.mk <$> required .ident nonEmptyText entries
      <*> required .fields (nonEmptyList Field.read) entries
      <*> optional .idFields [] (list text) entries
      <*> optional .uniqueFields [] (list (list text)) entries
      <*> optional .documentation none (orNull text) entries

end Entity

def Datamodel.read : Data → Reading Datamodel :=
  object "Datamodel" fun entries =>
    Datamodel.mk <$> optional .models [] (list Entity.read) entries
      <*> optional .enums [] (list Enumeration.read) entries

def Candidate.read : Data → Reading Candidate :=
  object "InputTypeRef" fun entries =>
    Candidate.mk <$> required .type nonEmptyText entries
      <*> optional .kind .scalar Reading.kind entries
      <*> optional .isList false bool entries
      <*> optional .isRequired false bool entries
      <*> optional .isNullable false bool entries

namespace Argument

def listed : Data → Data
  | .map entries => .list [.map entries]
  | d => d

/-- Read the candidates: a list with at least one of them, or a single one. -/
def readCandidates (d : Data) : Reading (Candidate × List Candidate) :=
  match list Candidate.read (listed d) with
  | .ok (c :: rest) => .ok (c, rest)
  | .ok [] => fail .emptyList
  | .bad issues => .bad issues

def read : Data → Reading Argument :=
  object "SchemaArg" fun entries =>
    (fun name candidates comment => ⟨name, candidates.1, candidates.2, comment⟩)
      <$> required .ident nonEmptyText entries
      <*> required .inputType readCandidates entries
      <*> optional .comment none (orNull text) entries

end Argument

def Target.read : Data → Reading Target :=
  object "OutputTypeRef" fun entries =>
    Target.mk <$> required .type nonEmptyText entries
      <*> optional .kind .scalar Reading.kind entries
      <*> optional .isList false bool entries
      <*> optional .isRequired true bool entries

def OutputField.read : Data → Reading OutputField :=
  object "SchemaField" fun entries =>
    OutputField.mk <$> required .ident nonEmptyText entries
      <*> required .outputType Target.read entries
      <*> optional .args [] (list Argument.read) entries

def InputType.read : Data → Reading InputType :=
  object "InputType" fun entries =>
    InputType.mk <$> required .ident nonEmptyText entries
      <*> optional .fields [] (list Argument.read) entries

def OutputType.read : Data → Reading OutputType :=
  object "OutputType" fun entries =>
    OutputType.mk <$> required .ident nonEmptyText entries
      <*> optional .fields [] (list OutputField.read) entries

def QuerySchema.read : Data → Reading QuerySchema :=
  object "QuerySchema" fun entries =>
    QuerySchema.mk <$> optional .inputTypes [] (list InputType.read) entries
      <*> optional .outputTypes [] (list OutputType.read) entries
      <*> optional .enums [] (list Enumeration.read) entries

def Mapping.read : Data → Reading Mapping :=
  object "ActionMapping" fun entries =>
    let served (action : Action) := optional (.ofAction action) none (orNull text) entries
    Mapping.mk <$> required .model nonEmptyText entries
      <*> required .plural nonEmptyText entries
      <*> served .findOne <*> served .findMany <*> served .create <*> served .update
      <*> served .updateMany <*> served .upsert <*> served .delete <*> served .deleteMany
      <*> served .aggregate

namespace Document

def danglingRelation? (d : Document) : Option Breach :=
  d.entities.findSome? fun e =>
    (e.relations.find? fun f => ! d.entityNames.contains f.type).map fun f =>
      .danglingRelation e.name f.name f.type

def danglingMapping? (d : Document) : Option Breach :=
  (d.mappings.find? fun m => ! d.entityNames.contains m.entity).map fun m => .danglingMapping m.entity

/-- Record types have distinct names, and relations and mappings name record types that are there. -/
def breach? (d : Document) : Option Breach :=
  (repeatBreach? nameLe d.entityNames .repeatedEntities).or (d.danglingRelation?.or d.danglingMapping?)

def read : Data → Reading Document :=
  object "SchemaDocument" fun entries => guarded breach? <|
    Document.mk <$> optional .datamodel {} Datamodel.read entries
      <*> optional .querySchema {} QuerySchema.read entries
      <*> optional .mappings [] (list Mapping.read) entries

end Document

end TypedClient
