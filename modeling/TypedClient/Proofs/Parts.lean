import TypedClient.Proofs.Loading
import TypedClient.Proofs.Traversal

set_option autoImplicit false

namespace TypedClient

namespace Data

theorem get?_append (l r : List (Scalar × Data)) (name : String) :
    get? (l ++ r) name = (get? l name).or (get? r name) := by
  rw [get?, List.find?_append, Option.map_or, get?, get?]

theorem get?_cons (e : Scalar × Data) (entries : List (Scalar × Data)) (name : String) :
    get? (e :: entries) name = if e.1.isText name then some e.2 else get? entries name := by
  by_cases h : e.1.isText name <;> simp [get?, h]

theorem get?_cons_text (k : Text) (d : Data) (entries : List (Scalar × Data)) (name : String) :
    get? ((.text k, d) :: entries) name = if k = name then some d else get? entries name := by
  simp only [get?_cons, Scalar.isText, beq_iff_eq]

end Data

namespace Reading

variable {α β : Type}

theorem map_eq_ok_iff (g : α → β) (r : Reading α) (b : β) :
    g <$> r = .ok b ↔ ∃ a, r = .ok a ∧ g a = b := by
  change apply (.ok g) r = .ok b ↔ _
  cases r <;> simp [apply]

theorem seq_eq_ok_iff (f : Reading (α → β)) (r : Reading α) (b : β) :
    f <*> r = .ok b ↔ ∃ g a, f = .ok g ∧ r = .ok a ∧ g a = b := by
  change apply f r = .ok b ↔ _
  cases f <;> cases r <;> simp [apply]

theorem within_eq_ok_iff (step : Step) (r : Reading α) (a : α) : within step r = .ok a ↔ r = .ok a := by
  cases r <;> simp [within]

/-! ## Texts and kinds -/

theorem textOf_text_eq_ok_iff (t : Text) (s : String) : textOf (.text t) = .ok s ↔ t = s := by
  rw [← Text.string?_eq_some_iff, textOf]
  cases t.string? <;> simp

theorem nonEmptyText_eq_ok_iff (d : Data) (s : String) :
    nonEmptyText d = .ok s ↔ textOf d = .ok s ∧ s.isEmpty = false := by
  unfold nonEmptyText ruledText
  cases textOf d with
  | error cause => simp [fail]
  | ok t => cases ht : t.isEmpty <;> grind [fail]

theorem nonEmptyText_text_eq_ok_iff (t : Text) (s : String) :
    nonEmptyText (.text t) = .ok s ↔ t = s ∧ s.isEmpty = false := by
  rw [nonEmptyText_eq_ok_iff, textOf_text_eq_ok_iff]

theorem kind_label (k : Kind) : kind (.text k.label) = .ok k := by
  cases k <;> rfl

/-! ## Lists -/

theorem items_eq_ok_iff (read : Data → Reading α) (n : Nat) (ds : List Data) (as : List α) :
    items read n ds = .ok as ↔ List.Forall₂ (fun d a => read d = .ok a) ds as := by
  induction ds generalizing n as with
  | nil => simp [items, eq_comm]
  | cons d ds ih =>
    simp only [items, seq_eq_ok_iff, map_eq_ok_iff, within_eq_ok_iff, ih, List.forall₂_cons_left_iff]
    constructor
    · rintro ⟨g, rest, ⟨a, ha, rfl⟩, hrest, rfl⟩
      exact ⟨a, rest, ha, hrest, rfl⟩
    · rintro ⟨a, rest, ha, hrest, rfl⟩
      exact ⟨_, rest, ⟨a, ha, rfl⟩, hrest, rfl⟩

theorem list_eq_ok_iff (read : Data → Reading α) (ds : List Data) (as : List α) :
    list read (.list ds) = .ok as ↔ List.Forall₂ (fun d a => read d = .ok a) ds as :=
  items_eq_ok_iff read 0 ds as

theorem nonEmptyList_eq_ok_iff (read : Data → Reading α) (d : Data) (as : List α) :
    nonEmptyList read d = .ok as ↔ list read d = .ok as ∧ as ≠ [] := by
  rw [nonEmptyList]
  split
  · next h => grind [fail]
  · next h =>
    constructor
    · intro hr
      refine ⟨hr, ?_⟩
      rintro rfl
      exact h hr
    · exact And.left

theorem exists_of_mem_list {read : Data → Reading α} {d : Data} {as : List α} (h : list read d = .ok as)
    {a : α} (ha : a ∈ as) : ∃ x, read x = .ok a := by
  have among {ds : List Data} (hds : items read 0 ds = .ok as) : ∃ x, read x = .ok a := by
    obtain ⟨x, -, hx⟩ := forall₂_exists_left ((items_eq_ok_iff read 0 ds as).mp hds) ha
    exact ⟨x, hx⟩
  cases d with
  | list ds => exact among h
  | set members => exact among h
  | _ => cases h

/-! ## Parts under keys -/

def value? (entries : List (Scalar × Data)) (key : Key) : Option Data :=
  entry? entries key |>.map (·.2)

theorem value?_eq (entries : List (Scalar × Data)) (key : Key) :
    value? entries key = (Data.get? entries key.usual).or (Data.get? entries key.name) := by
  unfold value? entry?
  cases Data.get? entries key.usual <;> simp [Function.comp_def]

theorem required_eq_ok_iff (key : Key) (read : Data → Reading α) (entries : List (Scalar × Data)) (a : α) :
    required key read entries = .ok a ↔ ∃ d, value? entries key = some d ∧ read d = .ok a := by
  unfold required value?
  cases entry? entries key with
  | none => simp [fail, within]
  | some e => simp [within_eq_ok_iff]

theorem optional_eq_ok_iff (key : Key) (default : α) (read : Data → Reading α)
    (entries : List (Scalar × Data)) (a : α) :
    optional key default read entries = .ok a ↔
      (value? entries key = none ∧ default = a) ∨ ∃ d, value? entries key = some d ∧ read d = .ok a := by
  unfold optional value?
  cases entry? entries key with
  | none => simp
  | some e => simp [within_eq_ok_iff]

theorem exists_of_optional {read : Data → Reading α} {entries : List (Scalar × Data)} {key : Key}
    {default a : α} (hdefault : ∃ x, read x = .ok default) (h : optional key default read entries = .ok a) :
    ∃ x, read x = .ok a := by
  obtain ⟨-, rfl⟩ | ⟨value, -, hvalue⟩ := (optional_eq_ok_iff _ _ _ _ _).mp h
  · exact hdefault
  · exact ⟨value, hvalue⟩

theorem exists_of_mem_optional {read : Data → Reading α} {entries : List (Scalar × Data)} {key : Key} {a : α}
    {as : List α} (h : optional key [] (list read) entries = .ok as) (ha : a ∈ as) : ∃ x, read x = .ok a := by
  obtain ⟨x, hx⟩ : ∃ x, list read x = .ok as := exists_of_optional ⟨.list [], rfl⟩ h
  exact exists_of_mem_list hx ha

end Reading

open Reading

variable (entries : List (Scalar × Data))

/-! ## Record types and enumerations -/

theorem Enumeration.read_eq_ok_iff (e : Enumeration) :
    Enumeration.read (.map entries) = .ok e ↔
      required .ident nonEmptyText entries = .ok e.name ∧ required .values readValues entries = .ok e.values := by
  obtain ⟨name, values⟩ := e
  simp only [Enumeration.read, object, seq_eq_ok_iff, map_eq_ok_iff, ↓existsAndEq, and_true, exists_and_left,
    Enumeration.mk.injEq]

theorem Field.read_eq_ok_iff (f : Field) :
    Field.read (.map entries) = .ok f ↔
      (required .ident nonEmptyText entries = .ok f.name ∧
        required .kind Reading.kind entries = .ok f.kind ∧
        required .type nonEmptyText entries = .ok f.type ∧
        optional .isList false bool entries = .ok f.isList ∧
        optional .isRequired true bool entries = .ok f.isRequired ∧
        optional .isUnique false bool entries = .ok f.isUnique ∧
        optional .isId false bool entries = .ok f.isId ∧
        optional .relationName none (orNull text) entries = .ok f.relationName ∧
        optional .documentation none (orNull text) entries = .ok f.documentation) ∧
      f.breach? = none := by
  obtain ⟨name, kind, type, isList, isRequired, isUnique, isId, relationName, documentation⟩ := f
  simp only [Field.read, object, guarded_eq_ok_iff, seq_eq_ok_iff, map_eq_ok_iff, ↓existsAndEq, and_true,
    exists_and_left, Field.mk.injEq, and_assoc]

theorem Entity.read_eq_ok_iff (e : Entity) :
    Entity.read (.map entries) = .ok e ↔
      (required .ident nonEmptyText entries = .ok e.name ∧
        required .fields (nonEmptyList Field.read) entries = .ok e.fields ∧
        optional .idFields [] (list text) entries = .ok e.idFields ∧
        optional .uniqueFields [] (list (list text)) entries = .ok e.uniqueFields ∧
        optional .documentation none (orNull text) entries = .ok e.documentation) ∧
      e.breach? = none := by
  obtain ⟨name, fields, idFields, uniqueFields, documentation⟩ := e
  simp only [Entity.read, object, guarded_eq_ok_iff, seq_eq_ok_iff, map_eq_ok_iff, ↓existsAndEq, and_true,
    exists_and_left, Entity.mk.injEq, and_assoc]

theorem Datamodel.read_eq_ok_iff (d : Datamodel) :
    Datamodel.read (.map entries) = .ok d ↔
      optional .models [] (list Entity.read) entries = .ok d.entities ∧
        optional .enums [] (list Enumeration.read) entries = .ok d.enums := by
  obtain ⟨entities, enums⟩ := d
  simp only [Datamodel.read, object, seq_eq_ok_iff, map_eq_ok_iff, ↓existsAndEq, and_true, exists_and_left,
    Datamodel.mk.injEq]

/-! ## Arguments and the types of the queries -/

theorem Candidate.read_eq_ok_iff (c : Candidate) :
    Candidate.read (.map entries) = .ok c ↔
      required .type nonEmptyText entries = .ok c.type ∧
        optional .kind .scalar Reading.kind entries = .ok c.kind ∧
        optional .isList false bool entries = .ok c.isList ∧
        optional .isRequired false bool entries = .ok c.isRequired ∧
        optional .isNullable false bool entries = .ok c.isNullable := by
  obtain ⟨type, kind, isList, isRequired, isNullable⟩ := c
  simp only [Candidate.read, object, seq_eq_ok_iff, map_eq_ok_iff, ↓existsAndEq, and_true, exists_and_left,
    Candidate.mk.injEq, and_assoc]

theorem Argument.readCandidates_eq_ok_iff (d : Data) (first : Candidate) (others : List Candidate) :
    readCandidates d = .ok (first, others) ↔ list Candidate.read (listed d) = .ok (first :: others) := by
  rw [readCandidates]
  cases list Candidate.read (listed d) with
  | ok candidates => cases candidates <;> simp [fail]
  | bad issues => simp

theorem Argument.read_eq_ok_iff (a : Argument) :
    Argument.read (.map entries) = .ok a ↔
      required .ident nonEmptyText entries = .ok a.name ∧
        required .inputType readCandidates entries = .ok (a.first, a.others) ∧
        optional .comment none (orNull text) entries = .ok a.comment := by
  obtain ⟨name, first, others, comment⟩ := a
  simp only [Argument.read, object, seq_eq_ok_iff, map_eq_ok_iff, ↓existsAndEq, and_true, exists_and_left,
    Argument.mk.injEq, and_assoc]
  constructor
  · rintro ⟨hname, ⟨_, _⟩, hcandidates, hcomment, -, rfl, rfl⟩
    exact ⟨hname, hcandidates, hcomment⟩
  · rintro ⟨hname, hcandidates, hcomment⟩
    exact ⟨hname, _, hcandidates, hcomment, trivial, rfl, rfl⟩

theorem Target.read_eq_ok_iff (t : Target) :
    Target.read (.map entries) = .ok t ↔
      required .type nonEmptyText entries = .ok t.type ∧
        optional .kind .scalar Reading.kind entries = .ok t.kind ∧
        optional .isList false bool entries = .ok t.isList ∧
        optional .isRequired true bool entries = .ok t.isRequired := by
  obtain ⟨type, kind, isList, isRequired⟩ := t
  simp only [Target.read, object, seq_eq_ok_iff, map_eq_ok_iff, ↓existsAndEq, and_true, exists_and_left,
    Target.mk.injEq, and_assoc]

theorem OutputField.read_eq_ok_iff (f : OutputField) :
    OutputField.read (.map entries) = .ok f ↔
      required .ident nonEmptyText entries = .ok f.name ∧
        required .outputType Target.read entries = .ok f.target ∧
        optional .args [] (list Argument.read) entries = .ok f.args := by
  obtain ⟨name, target, args⟩ := f
  simp only [OutputField.read, object, seq_eq_ok_iff, map_eq_ok_iff, ↓existsAndEq, and_true, exists_and_left,
    OutputField.mk.injEq, and_assoc]

theorem InputType.read_eq_ok_iff (t : InputType) :
    InputType.read (.map entries) = .ok t ↔
      required .ident nonEmptyText entries = .ok t.name ∧
        optional .fields [] (list Argument.read) entries = .ok t.fields := by
  obtain ⟨name, fields⟩ := t
  simp only [InputType.read, object, seq_eq_ok_iff, map_eq_ok_iff, ↓existsAndEq, and_true, exists_and_left,
    InputType.mk.injEq]

theorem OutputType.read_eq_ok_iff (t : OutputType) :
    OutputType.read (.map entries) = .ok t ↔
      required .ident nonEmptyText entries = .ok t.name ∧
        optional .fields [] (list OutputField.read) entries = .ok t.fields := by
  obtain ⟨name, fields⟩ := t
  simp only [OutputType.read, object, seq_eq_ok_iff, map_eq_ok_iff, ↓existsAndEq, and_true, exists_and_left,
    OutputType.mk.injEq]

theorem QuerySchema.read_eq_ok_iff (q : QuerySchema) :
    QuerySchema.read (.map entries) = .ok q ↔
      optional .inputTypes [] (list InputType.read) entries = .ok q.inputTypes ∧
        optional .outputTypes [] (list OutputType.read) entries = .ok q.outputTypes ∧
        optional .enums [] (list Enumeration.read) entries = .ok q.enums := by
  obtain ⟨inputTypes, outputTypes, enums⟩ := q
  simp only [QuerySchema.read, object, seq_eq_ok_iff, map_eq_ok_iff, ↓existsAndEq, and_true, exists_and_left,
    QuerySchema.mk.injEq, and_assoc]

/-! ## Mappings and documents -/

theorem Action.forall_iff (p : Action → Prop) :
    (∀ a, p a) ↔ p .findOne ∧ p .findMany ∧ p .create ∧ p .update ∧ p .updateMany ∧ p .upsert ∧ p .delete ∧
      p .deleteMany ∧ p .aggregate := by
  constructor
  · intro h
    exact ⟨h _, h _, h _, h _, h _, h _, h _, h _, h _⟩
  · rintro ⟨h₁, h₂, h₃, h₄, h₅, h₆, h₇, h₈, h₉⟩ a
    cases a <;> assumption

theorem Mapping.read_eq_ok_iff (m : Mapping) :
    Mapping.read (.map entries) = .ok m ↔
      required .model nonEmptyText entries = .ok m.entity ∧
        required .plural nonEmptyText entries = .ok m.plural ∧
        ∀ a, optional (.ofAction a) none (orNull text) entries = .ok (m.entryFor a) := by
  obtain ⟨entity, plural, findOne, findMany, create, update, updateMany, upsert, delete, deleteMany, aggregate⟩ := m
  rw [Action.forall_iff]
  simp only [Mapping.read, object, seq_eq_ok_iff, map_eq_ok_iff, ↓existsAndEq, and_true, exists_and_left,
    Mapping.mk.injEq, and_assoc, Mapping.entryFor]

theorem Document.read_eq_ok_iff (d : Document) :
    Document.read (.map entries) = .ok d ↔
      (optional .datamodel {} Datamodel.read entries = .ok d.datamodel ∧
        optional .querySchema {} QuerySchema.read entries = .ok d.schema ∧
        optional .mappings [] (list Mapping.read) entries = .ok d.mappings) ∧
      d.WellFormed := by
  obtain ⟨datamodel, schema, mappings⟩ := d
  rw [← Document.breach?_eq_none_iff]
  simp only [Document.read, object, guarded_eq_ok_iff, seq_eq_ok_iff, map_eq_ok_iff, ↓existsAndEq, and_true,
    exists_and_left, Document.mk.injEq, and_assoc]

namespace Document

variable {raw : Data} {d : Document}

theorem exists_parts_of_read (h : Document.read raw = .ok d) :
    (∃ x, Datamodel.read x = .ok d.datamodel) ∧ (∃ x, QuerySchema.read x = .ok d.schema) ∧
      ∃ x, Reading.list Mapping.read x = .ok d.mappings := by
  obtain ⟨entries, rfl, -⟩ := Reading.object_eq_ok h
  obtain ⟨⟨hmodel, hschema, hmappings⟩, -⟩ := (Document.read_eq_ok_iff entries d).mp h
  exact ⟨exists_of_optional ⟨.map [], rfl⟩ hmodel, exists_of_optional ⟨.map [], rfl⟩ hschema,
    exists_of_optional ⟨.list [], rfl⟩ hmappings⟩

theorem exists_read_of_mem_entities (h : Document.read raw = .ok d) {e : Entity} (he : e ∈ d.entities) :
    ∃ x, Entity.read x = .ok e := by
  obtain ⟨⟨model, hmodel⟩, -, -⟩ := exists_parts_of_read h
  obtain ⟨entries, rfl, -⟩ := Reading.object_eq_ok hmodel
  exact exists_of_mem_optional ((Datamodel.read_eq_ok_iff entries _).mp hmodel).1 he

end Document

end TypedClient
