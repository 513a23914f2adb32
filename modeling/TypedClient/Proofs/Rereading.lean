import TypedClient.Proofs.Parts
import TypedClient.Schema.Write

set_option autoImplicit false

namespace TypedClient

open Json (keyed ofText? ofTexts)

/-! ## Finding what was written under a key -/

def Key.Apart (k l : Key) : Prop :=
  (k.usual ≠ l.usual ∧ k.usual ≠ l.name) ∧ k.name ≠ l.usual ∧ k.name ≠ l.name

instance : DecidableRel Key.Apart := fun _ _ => instDecidableAnd

theorem Key.Apart.spelled_ne {k l : Key} (h : k.Apart l) (s : Spelling) :
    k.spelled s ≠ l.usual ∧ k.spelled s ≠ l.name := by
  cases s with
  | usual => exact h.1
  | name => exact h.2

def Json.entries (s : Spelling) (members : List (Key × Json)) : List (Scalar × Data) :=
  members.map fun m => (.text (m.1.spelled s), Data.ofJson m.2)

namespace Json

theorem ofJson_keyed (s : Spelling) (members : List (Key × Json)) :
    Data.ofJson (keyed s members) = .map (entries s members) := by
  rw [keyed, Data.ofJson, Data.ofMembers_eq, List.map_map]
  rfl

theorem ofJson_arr_map {α : Type} (f : α → Json) (items : List α) :
    Data.ofJson (.arr (items.map f)) = .list (items.map fun x => Data.ofJson (f x)) := by
  rw [Data.ofJson, Data.ofItems_eq, List.map_map]
  rfl

variable {s : Spelling}

theorem value?_entries_of_apart {k key : Key} (h : k.Apart key) (j : Json) (rest : List (Key × Json)) :
    Reading.value? (entries s ((k, j) :: rest)) key = Reading.value? (entries s rest) key := by
  obtain ⟨husual, hname⟩ := h.spelled_ne s
  rw [Reading.value?_eq, Reading.value?_eq, entries, List.map_cons, Data.get?_cons_text, Data.get?_cons_text,
    if_neg (mt Text.ofString_inj.mp husual), if_neg (mt Text.ofString_inj.mp hname)]
  rfl

theorem value?_entries_self {key : Key} {rest : List (Key × Json)} (h : ∀ m ∈ rest, key.Apart m.1) (j : Json) :
    Reading.value? (entries s ((key, j) :: rest)) key = some (Data.ofJson j) := by
  -- under its second spelling the key is found only because nothing has the first one
  have hrest : Data.get? (entries s rest) key.usual = none := by
    induction rest with
    | nil => rfl
    | cons m rest ih =>
      obtain ⟨⟨hu, hn⟩, -⟩ := h m (by simp)
      have hne : m.1.spelled s ≠ key.usual := by cases s <;> exact Ne.symm ‹_›
      rw [entries, List.map_cons, Data.get?_cons_text, if_neg (mt Text.ofString_inj.mp hne)]
      exact ih fun m hm => h m (List.mem_cons_of_mem _ hm)
  rw [Reading.value?_eq]
  change (Data.get? (_ :: entries s rest) _).or (Data.get? (_ :: entries s rest) _) = _
  rw [Data.get?_cons_text, Data.get?_cons_text, hrest]
  cases s with
  | usual => simp [Key.spelled]
  | name =>
    by_cases he : key.name = key.usual
    · simp [Key.spelled, he]
    · simp [Key.spelled, he]

theorem value?_entries {members : List (Key × Json)} (hkeys : (members.map (·.1)).Pairwise Key.Apart) {i : ℕ}
    {key : Key} {j : Json} (h : members[i]? = some (key, j)) :
    Reading.value? (entries s members) key = some (Data.ofJson j) := by
  induction members generalizing i with
  | nil => simp at h
  | cons m rest ih =>
    obtain ⟨hhead, htail⟩ := List.pairwise_cons.mp hkeys
    cases i with
    | zero =>
      obtain rfl : m = (key, j) := by simpa using h
      exact value?_entries_self (fun m hm => hhead _ (List.mem_map_of_mem hm)) j
    | succ i =>
      have hi : rest[i]? = some (key, j) := by simpa using h
      have hmem := List.mem_map_of_mem (f := (·.1)) (List.mem_of_getElem? hi)
      exact (value?_entries_of_apart (hhead _ hmem) m.2 rest).trans (ih htail hi)

end Json

namespace Reading

open Json (value?_entries)

variable {α : Type} {read : Data → Reading α} {write : α → Json} {key : Key} {a default : α}

section Members

variable {s : Spelling} {members : List (Key × Json)} (hkeys : (members.map (·.1)).Pairwise Key.Apart)

include hkeys

theorem required_entries (i : ℕ) {j : Json} (hi : members[i]? = some (key, j))
    (h : read (Data.ofJson j) = .ok a) : required key read (Json.entries s members) = .ok a :=
  (required_eq_ok_iff _ _ _ _).mpr ⟨_, value?_entries hkeys hi, h⟩

theorem optional_entries (i : ℕ) {j : Json} (hi : members[i]? = some (key, j))
    (h : read (Data.ofJson j) = .ok a) : optional key default read (Json.entries s members) = .ok a :=
  (optional_eq_ok_iff _ _ _ _ _).mpr (.inr ⟨_, value?_entries hkeys hi, h⟩)

end Members

/-! ## Reading again -/

/-- What is read with `read` and written with `write` is read again as it was. -/
def Rereads (read : Data → Reading α) (write : α → Json) : Prop :=
  ∀ d a, read d = .ok a → read (Data.ofJson (write a)) = .ok a

theorem rereads_text : Rereads text .str := fun _ _ _ => rfl

theorem rereads_bool : Rereads bool .bool := fun _ _ _ => rfl

theorem rereads_kind : Rereads kind fun k => .str k.label := fun _ k _ => kind_label k

theorem rereads_nonEmptyText : Rereads nonEmptyText fun s => .str s := by
  intro d s h
  obtain ⟨hs, he⟩ := (nonEmptyText_eq_ok_iff d s).mp h
  exact (nonEmptyText_text_eq_ok_iff s s).mpr ⟨rfl, he⟩

theorem rereads_text? : Rereads (orNull text) ofText? := by
  intro _ o _
  cases o <;> rfl

theorem Rereads.list (h : Rereads read write) : Rereads (list read) fun as => .arr (as.map write) := by
  intro d as has
  rw [Json.ofJson_arr_map, list_eq_ok_iff, List.forall₂_map_left_iff, List.forall₂_same]
  intro a ha
  obtain ⟨x, hx⟩ := exists_of_mem_list has ha
  exact h x a hx

theorem Rereads.nonEmptyList (h : Rereads read write) :
    Rereads (nonEmptyList read) fun as => .arr (as.map write) := by
  intro d as has
  obtain ⟨hlist, hne⟩ := (nonEmptyList_eq_ok_iff _ _ _).mp has
  exact (nonEmptyList_eq_ok_iff _ _ _).mpr ⟨h.list d as hlist, hne⟩

theorem Rereads.of_required (h : Rereads read write) {entries : List (Scalar × Data)}
    (ha : required key read entries = .ok a) : read (Data.ofJson (write a)) = .ok a := by
  obtain ⟨d, -, hd⟩ := (required_eq_ok_iff _ _ _ _).mp ha
  exact h d a hd

theorem Rereads.of_optional (h : Rereads read write) {entries : List (Scalar × Data)}
    (hdefault : read (Data.ofJson (write default)) = .ok default)
    (ha : optional key default read entries = .ok a) : read (Data.ofJson (write a)) = .ok a := by
  obtain ⟨-, rfl⟩ | ⟨d, -, hd⟩ := (optional_eq_ok_iff _ _ _ _ _).mp ha
  · exact hdefault
  · exact h d a hd

end Reading

open Reading

/-! ## Record types and enumerations -/

theorem Enumeration.plainValues_ofTexts (values : List Text) :
    plainValues (Data.ofJson (ofTexts values)) = some (Data.ofJson (ofTexts values)) := by
  have hvalues : (values.map Data.text).mapM plainValue = some (values.map Data.text) := by
    induction values with
    | nil => rfl
    | cons v rest ih => simp [ih, plainValue]
  rw [ofTexts, Json.ofJson_arr_map]
  change ((values.map Data.text).mapM plainValue).map Data.list = _
  rw [hvalues]
  rfl

theorem Enumeration.rereads_values : Rereads readValues ofTexts := by
  intro d values h
  have hread : guarded (fun values => repeatBreach? Text.le values .repeatedValues)
      (nonEmptyList text (Data.ofJson (ofTexts values))) = .ok values := by
    unfold readValues at h
    split at h
    · obtain ⟨hlist, hrule⟩ := (guarded_eq_ok_iff _ _ _).mp h
      exact (guarded_eq_ok_iff _ _ _).mpr ⟨rereads_text.nonEmptyList _ _ hlist, hrule⟩
    · cases h
  rw [readValues, plainValues_ofTexts]
  exact hread

variable (s : Spelling)

theorem Enumeration.rereads : Rereads Enumeration.read (Enumeration.toJson s) := by
  intro d e h
  obtain ⟨entries, rfl, -⟩ := object_eq_ok h
  obtain ⟨hname, hvalues⟩ := (Enumeration.read_eq_ok_iff entries e).mp h
  have hkeys : List.Pairwise Key.Apart [.ident, .values] := by decide
  rw [Enumeration.toJson, Json.ofJson_keyed, Enumeration.read_eq_ok_iff]
  exact ⟨required_entries hkeys 0 rfl (rereads_nonEmptyText.of_required hname),
    required_entries hkeys 1 rfl (rereads_values.of_required hvalues)⟩

theorem Field.rereads : Rereads Field.read (Field.toJson s) := by
  intro d f h
  obtain ⟨entries, rfl, -⟩ := object_eq_ok h
  obtain ⟨⟨hname, hkind, htype, hlist, hrequired, hunique, hid, hrelation, hdocumentation⟩, hrule⟩ :=
    (Field.read_eq_ok_iff entries f).mp h
  have hkeys : List.Pairwise Key.Apart [.ident, .kind, .type, .isList, .isRequired, .isUnique, .isId,
      .relationName, .documentation] := by decide
  rw [Field.toJson, Json.ofJson_keyed, Field.read_eq_ok_iff]
  refine ⟨⟨?_, ?_, ?_, ?_, ?_, ?_, ?_, ?_, ?_⟩, hrule⟩
  · exact required_entries hkeys 0 rfl (rereads_nonEmptyText.of_required hname)
  · exact required_entries hkeys 1 rfl (rereads_kind.of_required hkind)
  · exact required_entries hkeys 2 rfl (rereads_nonEmptyText.of_required htype)
  · exact optional_entries hkeys 3 rfl (rereads_bool.of_optional rfl hlist)
  · exact optional_entries hkeys 4 rfl (rereads_bool.of_optional rfl hrequired)
  · exact optional_entries hkeys 5 rfl (rereads_bool.of_optional rfl hunique)
  · exact optional_entries hkeys 6 rfl (rereads_bool.of_optional rfl hid)
  · exact optional_entries hkeys 7 rfl (rereads_text?.of_optional rfl hrelation)
  · exact optional_entries hkeys 8 rfl (rereads_text?.of_optional rfl hdocumentation)

theorem Entity.rereads : Rereads Entity.read (Entity.toJson s) := by
  intro d e h
  obtain ⟨entries, rfl, -⟩ := object_eq_ok h
  obtain ⟨⟨hname, hfields, hid, hunique, hdocumentation⟩, hrule⟩ := (Entity.read_eq_ok_iff entries e).mp h
  have hkeys : List.Pairwise Key.Apart [.ident, .fields, .idFields, .uniqueFields, .documentation] := by decide
  rw [Entity.toJson, Json.ofJson_keyed, Entity.read_eq_ok_iff]
  refine ⟨⟨?_, ?_, ?_, ?_, ?_⟩, hrule⟩
  · exact required_entries hkeys 0 rfl (rereads_nonEmptyText.of_required hname)
  · exact required_entries hkeys 1 rfl ((Field.rereads s).nonEmptyList.of_required hfields)
  · exact optional_entries hkeys 2 rfl (rereads_text.list.of_optional rfl hid)
  · exact optional_entries hkeys 3 rfl (rereads_text.list.list.of_optional rfl hunique)
  · exact optional_entries hkeys 4 rfl (rereads_text?.of_optional rfl hdocumentation)

theorem Datamodel.rereads : Rereads Datamodel.read (Datamodel.toJson s) := by
  intro d m h
  obtain ⟨entries, rfl, -⟩ := object_eq_ok h
  obtain ⟨hentities, henums⟩ := (Datamodel.read_eq_ok_iff entries m).mp h
  have hkeys : List.Pairwise Key.Apart [.models, .enums] := by decide
  rw [Datamodel.toJson, Json.ofJson_keyed, Datamodel.read_eq_ok_iff]
  exact ⟨optional_entries hkeys 0 rfl ((Entity.rereads s).list.of_optional rfl hentities),
    optional_entries hkeys 1 rfl ((Enumeration.rereads s).list.of_optional rfl henums)⟩

/-! ## Arguments and the types of the queries -/

theorem Candidate.rereads : Rereads Candidate.read (Candidate.toJson s) := by
  intro d c h
  obtain ⟨entries, rfl, -⟩ := object_eq_ok h
  obtain ⟨htype, hkind, hlist, hrequired, hnullable⟩ := (Candidate.read_eq_ok_iff entries c).mp h
  have hkeys : List.Pairwise Key.Apart [.type, .kind, .isList, .isRequired, .isNullable] := by decide
  rw [Candidate.toJson, Json.ofJson_keyed, Candidate.read_eq_ok_iff]
  refine ⟨?_, ?_, ?_, ?_, ?_⟩
  · exact required_entries hkeys 0 rfl (rereads_nonEmptyText.of_required htype)
  · exact optional_entries hkeys 1 rfl (rereads_kind.of_optional rfl hkind)
  · exact optional_entries hkeys 2 rfl (rereads_bool.of_optional rfl hlist)
  · exact optional_entries hkeys 3 rfl (rereads_bool.of_optional rfl hrequired)
  · exact optional_entries hkeys 4 rfl (rereads_bool.of_optional rfl hnullable)

theorem Argument.rereads_candidates {a : Argument} {d : Data} (h : readCandidates d = .ok (a.first, a.others)) :
    readCandidates (Data.ofJson (.arr (a.candidates.map fun c => c.toJson s))) = .ok (a.first, a.others) := by
  have hread := (readCandidates_eq_ok_iff _ _ _).mp h
  have hwritten := (Candidate.rereads s).list _ _ hread
  rw [Json.ofJson_arr_map] at hwritten ⊢
  exact (readCandidates_eq_ok_iff _ _ _).mpr hwritten

theorem Argument.rereads : Rereads Argument.read (Argument.toJson s) := by
  intro d a h
  obtain ⟨entries, rfl, -⟩ := object_eq_ok h
  obtain ⟨hname, hcandidates, hcomment⟩ := (Argument.read_eq_ok_iff entries a).mp h
  have hkeys : List.Pairwise Key.Apart [.ident, .inputType, .comment] := by decide
  rw [Argument.toJson, Json.ofJson_keyed, Argument.read_eq_ok_iff]
  refine ⟨?_, ?_, ?_⟩
  · exact required_entries hkeys 0 rfl (rereads_nonEmptyText.of_required hname)
  · obtain ⟨d, -, hd⟩ := (required_eq_ok_iff _ _ _ _).mp hcandidates
    exact required_entries hkeys 1 rfl (rereads_candidates s hd)
  · exact optional_entries hkeys 2 rfl (rereads_text?.of_optional rfl hcomment)

theorem Target.rereads : Rereads Target.read (Target.toJson s) := by
  intro d t h
  obtain ⟨entries, rfl, -⟩ := object_eq_ok h
  obtain ⟨htype, hkind, hlist, hrequired⟩ := (Target.read_eq_ok_iff entries t).mp h
  have hkeys : List.Pairwise Key.Apart [.type, .kind, .isList, .isRequired] := by decide
  rw [Target.toJson, Json.ofJson_keyed, Target.read_eq_ok_iff]
  refine ⟨?_, ?_, ?_, ?_⟩
  · exact required_entries hkeys 0 rfl (rereads_nonEmptyText.of_required htype)
  · exact optional_entries hkeys 1 rfl (rereads_kind.of_optional rfl hkind)
  · exact optional_entries hkeys 2 rfl (rereads_bool.of_optional rfl hlist)
  · exact optional_entries hkeys 3 rfl (rereads_bool.of_optional rfl hrequired)

theorem OutputField.rereads : Rereads OutputField.read (OutputField.toJson s) := by
  intro d f h
  obtain ⟨entries, rfl, -⟩ := object_eq_ok h
  obtain ⟨hname, htarget, hargs⟩ := (OutputField.read_eq_ok_iff entries f).mp h
  have hkeys : List.Pairwise Key.Apart [.ident, .outputType, .args] := by decide
  rw [OutputField.toJson, Json.ofJson_keyed, OutputField.read_eq_ok_iff]
  refine ⟨?_, ?_, ?_⟩
  · exact required_entries hkeys 0 rfl (rereads_nonEmptyText.of_required hname)
  · exact required_entries hkeys 1 rfl ((Target.rereads s).of_required htarget)
  · exact optional_entries hkeys 2 rfl ((Argument.rereads s).list.of_optional rfl hargs)

theorem InputType.rereads : Rereads InputType.read (InputType.toJson s) := by
  intro d t h
  obtain ⟨entries, rfl, -⟩ := object_eq_ok h
  obtain ⟨hname, hfields⟩ := (InputType.read_eq_ok_iff entries t).mp h
  have hkeys : List.Pairwise Key.Apart [.ident, .fields] := by decide
  rw [InputType.toJson, Json.ofJson_keyed, InputType.read_eq_ok_iff]
  exact ⟨required_entries hkeys 0 rfl (rereads_nonEmptyText.of_required hname),
    optional_entries hkeys 1 rfl ((Argument.rereads s).list.of_optional rfl hfields)⟩

theorem OutputType.rereads : Rereads OutputType.read (OutputType.toJson s) := by
  intro d t h
  obtain ⟨entries, rfl, -⟩ := object_eq_ok h
  obtain ⟨hname, hfields⟩ := (OutputType.read_eq_ok_iff entries t).mp h
  have hkeys : List.Pairwise Key.Apart [.ident, .fields] := by decide
  rw [OutputType.toJson, Json.ofJson_keyed, OutputType.read_eq_ok_iff]
  exact ⟨required_entries hkeys 0 rfl (rereads_nonEmptyText.of_required hname),
    optional_entries hkeys 1 rfl ((OutputField.rereads s).list.of_optional rfl hfields)⟩

theorem QuerySchema.rereads : Rereads QuerySchema.read (QuerySchema.toJson s) := by
  intro d q h
  obtain ⟨entries, rfl, -⟩ := object_eq_ok h
  obtain ⟨hinputs, houtputs, henums⟩ := (QuerySchema.read_eq_ok_iff entries q).mp h
  have hkeys : List.Pairwise Key.Apart [.inputTypes, .outputTypes, .enums] := by decide
  rw [QuerySchema.toJson, Json.ofJson_keyed, QuerySchema.read_eq_ok_iff]
  refine ⟨?_, ?_, ?_⟩
  · exact optional_entries hkeys 0 rfl ((InputType.rereads s).list.of_optional rfl hinputs)
  · exact optional_entries hkeys 1 rfl ((OutputType.rereads s).list.of_optional rfl houtputs)
  · exact optional_entries hkeys 2 rfl ((Enumeration.rereads s).list.of_optional rfl henums)

/-! ## Mappings and documents -/

theorem Mapping.rereads : Rereads Mapping.read (Mapping.toJson s) := by
  intro d m h
  obtain ⟨entries, rfl, -⟩ := object_eq_ok h
  obtain ⟨hentity, hplural, hserved⟩ := (Mapping.read_eq_ok_iff entries m).mp h
  have hkeys : List.Pairwise Key.Apart ([.model, .plural] ++ Action.all.map .ofAction) := by decide
  rw [Mapping.toJson, Json.ofJson_keyed, Mapping.read_eq_ok_iff]
  refine ⟨?_, ?_, fun a => ?_⟩
  · exact required_entries hkeys 0 rfl (rereads_nonEmptyText.of_required hentity)
  · exact required_entries hkeys 1 rfl (rereads_nonEmptyText.of_required hplural)
  · obtain ⟨i, hi⟩ := List.getElem?_of_mem (List.mem_map_of_mem (Action.mem_all a))
    exact optional_entries hkeys (i + 2) hi (rereads_text?.of_optional rfl (hserved a))

namespace Document

theorem rereads : Rereads Document.read (Document.toJson s) := by
  intro raw d h
  obtain ⟨entries, rfl, -⟩ := object_eq_ok h
  obtain ⟨⟨hdatamodel, hschema, hmappings⟩, hrule⟩ := (Document.read_eq_ok_iff entries d).mp h
  have hkeys : List.Pairwise Key.Apart [.datamodel, .querySchema, .mappings] := by decide
  rw [Document.toJson, Json.ofJson_keyed, Document.read_eq_ok_iff]
  refine ⟨⟨?_, ?_, ?_⟩, hrule⟩
  · have hdefault := Datamodel.rereads s (.map []) {} rfl
    exact optional_entries hkeys 0 rfl ((Datamodel.rereads s).of_optional hdefault hdatamodel)
  · have hdefault := QuerySchema.rereads s (.map []) {} rfl
    exact optional_entries hkeys 1 rfl ((QuerySchema.rereads s).of_optional hdefault hschema)
  · exact optional_entries hkeys 2 rfl ((Mapping.rereads s).list.of_optional rfl hmappings)

/-- A document that was read is read again from its JSON form, in either spelling of the keys, and what it is
read as has the same JSON form. -/
theorem read_toJson_of_read (raw : Data) (d : Document) (h : Document.read raw = .ok d) (s : Spelling) :
    Document.read (Data.ofJson (d.toJson s)) = .ok d ∧
      ∀ again, Document.read (Data.ofJson (d.toJson s)) = .ok again → again.toJson .usual = d.toJson .usual := by
  have hread := rereads s raw d h
  refine ⟨hread, fun again hagain => ?_⟩
  cases hread.symm.trans hagain
  rfl

/-- A document in other words than those it is written in: values as objects, a single candidate, words for
truth values and keys with low lines. -/
def looseRole : Data :=
  .map [(.text "datamodel", .map [(.text "enums", .list [.map [(.text "name", .text "Role"),
      (.text "values", .list [.map [(.text "name", .text "ADMIN")], .text "GUEST"])]])]),
    (.text "query_schema", .map [(.text "input_types", .list [.map [(.text "name", .text "RoleFilter"),
      (.text "fields", .list [.map [(.text "name", .text "equals"),
        (.text "input_type", .map [(.text "type", .text "Role"), (.text "is_list", .text "no")])]])]])])]

def role : Document where
  datamodel.enums := [⟨"Role", ["ADMIN", "GUEST"]⟩]
  schema.inputTypes := [⟨"RoleFilter", [⟨"equals", { type := "Role" }, [], none⟩]⟩]

theorem looseRole_reread :
    Document.read looseRole = .ok role ∧ Document.read (Data.ofJson (role.toJson .name)) = .ok role := by
  have hread : Document.read looseRole = .ok role := (Reading.toOption_eq_some_iff _ _).mp (by decide +kernel)
  exact ⟨hread, (read_toJson_of_read looseRole role hread .name).1⟩

end Document

end TypedClient
