import TypedClient.Proofs.Conflict

set_option autoImplicit false

namespace TypedClient

/-! ## Types that are not `never` -/

theorem TypeExpr.orNull_ne_never (t : TypeExpr) : t.orNull ≠ .never := by
  rw [orNull, unionOf, List.flatMap_cons, List.foldl_append]
  generalize t.parts.foldl addNew [] = types
  change ofParts (addNew types .null) ≠ .never
  have hmem : ∃ u ∈ addNew types .null, same u .null = true := by
    unfold addNew
    split
    · next h => exact List.any_eq_true.mp h
    · exact ⟨.null, by simp, rfl⟩
  generalize addNew types .null = parts at hmem ⊢
  obtain ⟨u, hu, hsame⟩ := hmem
  unfold ofParts
  split
  · -- a single part is the one that counts as `null`
    rintro rfl
    rw [List.mem_singleton.mp hu] at hsame
    cases hsame
  · exact fun h => nomatch h

theorem Field.valueType_ne_never (f : Field) : f.valueType ≠ .never := by
  unfold valueType
  split
  · exact fun h => nomatch h
  · split
    · exact fun h => nomatch h
    · exact f.baseType.orNull_ne_never

theorem Branch.wrap_ne_never (b : Branch) {inner : TypeExpr} (h : inner ≠ .never) :
    b.wrap inner ≠ .never := by
  unfold wrap
  split
  · exact fun h => nomatch h
  · split
    · exact h
    · exact inner.orNull_ne_never

/-! ## Where keys are found -/

theorem Entity.get?_valueShape_isSome_iff (e : Entity) (key : String) :
    (e.valueShape.get? key).isSome ↔ key ∈ e.plainFields.map (·.name) := by
  change (((e.fields.filter (! ·.isRelation)).map (·.member)).find? (·.name == key)
    |>.map (·.type)).isSome ↔ _
  rw [Option.isSome_map, List.find?_isSome]
  simp [plainFields, Field.member]

theorem Entity.get?_valueShape_ne_never {e : Entity} {key : String} {type : TypeExpr}
    (h : e.valueShape.get? key = some type) : type ≠ .never := by
  obtain ⟨m, hm, rfl⟩ := Option.map_eq_some_iff.mp h
  obtain ⟨f, -, rfl⟩ := List.mem_map.mp (List.mem_of_find?_eq_some hm)
  exact f.valueType_ne_never

theorem OutputType.relation?_isSome_iff (t : OutputType) (key : String) :
    (t.payload.relation? key).isSome ↔ key ∈ t.relations.map (·.name) := by
  change ((t.relations.map (·.branch)).find? (·.name == key)).isSome ↔ _
  rw [List.find?_isSome]
  simp [OutputField.branch]

theorem OutputType.memberNames_selectShape (t : OutputType) :
    t.selectShape.memberNames = t.fields.map (·.name) := by
  simp [selectShape, TypeExpr.memberNames, TypeExpr.members, Function.comp_def]

def Selector.selecting (key : String) : Selector := .node [("select", .node [(key, .on)])]

namespace Document

variable {d : Document} {name key : String} {p : Projected}

theorem resolve_selecting (hp : d.projected? name = some p) (key : String) :
    d.resolve name (.selecting key) =
      (d.keyType p .select key .on).map fun type =>
        .object [⟨key, type, false, none⟩] (some p.entity.name) := by
  have hunder : (Selector.selecting key).under? .select = some (.node [(key, .on)]) := rfl
  rw [resolve_of_under? hp hunder rfl]
  change ([(key, Selector.on)].mapM (d.keyMember p .select)).map (p.assemble .select) = _
  rw [List.mapM_cons, keyMember]
  cases d.keyType p .select key .on <;> rfl

theorem HasOutputs.keyType_on (hd : d.HasOutputs)
    (htargets : ∀ b ∈ p.payload.relations, b.target ∈ d.entityNames) (key : String) :
    ∃ type, d.keyType p .select key .on = .ok type ∧
      (type ≠ .never ↔
        (p.entity.valueShape.get? key).isSome ∨ (p.payload.relation? key).isSome) := by
  cases hplain : p.plain? .select key with
  | some type =>
    have hget : p.entity.valueShape.get? key = some type := hplain
    refine ⟨type, keyType_of_plain hplain, ?_⟩
    simp [hget, Entity.get?_valueShape_ne_never hget]
  | none =>
    have hget : p.entity.valueShape.get? key = none := hplain
    cases hrel : p.payload.relation? key with
    | none => exact ⟨.never, keyType_of_unknown hplain hrel, by simp [hget]⟩
    | some b =>
      obtain ⟨q, hq, -⟩ := hd.exists_projected (htargets b (List.mem_of_find?_eq_some hrel))
      have hvalue : d.resolve b.target .on = .ok q.entity.valueShape :=
        resolve_of_unselective hq fun way => by cases way <;> rfl
      refine ⟨b.wrap q.entity.valueShape, ?_, ?_⟩
      · rw [keyType_of_relation hplain hrel, hvalue]
        rfl
      · have hne : q.entity.valueShape ≠ .never := fun h => nomatch h
        simp [b.wrap_ne_never hne]

/-- In an accepted document, selecting one key gives an object of that key alone. The key has a use there
exactly when it is a plain field of the record type or a relation of its output type, while `select` admits the
fields of the output type. So the two agree for every relation, and for any other key exactly when it is
both a plain field of the record type and a field of the output type, or neither. -/
theorem select_admits_usable (d : Document) (checked : Option Settings) (fs : Findings)
    (h : d.ensureValid checked = .ok fs) (e : Entity) (he : e ∈ d.entities) (key : String) :
    ∃ t type, d.outputType? e.name = some t ∧
      d.resolve e.name (.selecting key) = .ok (.object [⟨key, type, false, none⟩] (some e.name)) ∧
      (type ≠ .never ↔ key ∈ e.plainFields.map (·.name) ∨ key ∈ t.relations.map (·.name)) ∧
      (key ∈ t.selectShape.memberNames ↔ key ∈ t.fields.map (·.name)) ∧
      ((key ∈ t.selectShape.memberNames ↔ type ≠ .never) ↔
        key ∈ t.relations.map (·.name) ∨
          (key ∈ e.plainFields.map (·.name) ↔ key ∈ t.fields.map (·.name))) := by
  have hv := (ensureValid_isOk_iff checked).mp ⟨fs, h⟩
  have hd : d.HasOutputs := hv.outputs
  obtain ⟨t, ht, htargets⟩ := hd e he
  have hp : d.projected? e.name = some ⟨e, t.payload⟩ :=
    projected?_eq_some_iff.mpr ⟨t, hv.entity?_of_mem he, ht, rfl⟩
  have hbranches : ∀ b ∈ t.payload.relations, b.target ∈ d.entityNames := fun b hb => by
    obtain ⟨f, hf, rfl⟩ := List.mem_map.mp hb
    exact htargets f hf
  obtain ⟨type, htype, huse⟩ := hd.keyType_on (p := ⟨e, t.payload⟩) hbranches key
  rw [e.get?_valueShape_isSome_iff, t.relation?_isSome_iff] at huse
  have hadmits : key ∈ t.selectShape.memberNames ↔ key ∈ t.fields.map (·.name) := by
    rw [t.memberNames_selectShape]
  refine ⟨t, type, ht, ?_, huse, hadmits, ?_⟩
  · rw [resolve_selecting hp, htype]
    rfl
  · rw [hadmits, huse]
    -- a relation of the output type is one of its fields
    have hfield : key ∈ t.relations.map (·.name) → key ∈ t.fields.map (·.name) := fun hr =>
      (List.filter_sublist.map _).subset hr
    by_cases hr : key ∈ t.relations.map (·.name)
    · simp [hr, hfield hr]
    · simp only [hr, or_false, false_or]
      exact ⟨Iff.symm, Iff.symm⟩

/-- A record type and its output type that have one plain field in common, and each another one besides. -/
def notedTag : Entity :=
  ⟨"Tag", [{ name := "id", kind := .scalar, type := "Int" },
    { name := "note", kind := .scalar, type := "String" }], [], [], none⟩

def labelledTag : OutputType :=
  ⟨"Tag", [{ name := "id", target := { type := "Int" } },
    { name := "label", target := { type := "String" } }]⟩

def twoTags : Document where
  datamodel.entities := [notedTag]
  schema.outputTypes := [labelledTag]

theorem twoTags_accepted : ∃ fs, twoTags.ensureValid (some {}) = .ok fs :=
  ensureValid_isOk_of_numbers (by decide +kernel)

/-- The document is read and accepted. One key is admitted and has no use, the other has a use and is not
admitted. -/
theorem twoTags_disagree :
    Document.read (.ofJson (twoTags.toJson .usual)) = .ok twoTags ∧
      (∃ fs, twoTags.ensureValid (some {}) = .ok fs) ∧ twoTags.outputType? "Tag" = some labelledTag ∧
      ("label" ∈ labelledTag.selectShape.memberNames ∧
        twoTags.resolve "Tag" (.selecting "label") =
          .ok (.object [⟨"label", .never, false, none⟩] (some "Tag"))) ∧
      ("note" ∉ labelledTag.selectShape.memberNames ∧
        twoTags.resolve "Tag" (.selecting "note") =
          .ok (.object [⟨"note", .ref "string", false, none⟩] (some "Tag"))) :=
  ⟨(Reading.toOption_eq_some_iff _ _).mp (by decide +kernel), twoTags_accepted, rfl,
    ⟨by decide, rfl⟩, by decide, rfl⟩

theorem twoTags_admits :
    (∃ fs, twoTags.ensureValid (some {}) = .ok fs) ∧ notedTag ∈ twoTags.entities ∧
      ∃ t type, twoTags.outputType? "Tag" = some t ∧
        twoTags.resolve "Tag" (.selecting "label") =
          .ok (.object [⟨"label", type, false, none⟩] (some "Tag")) ∧
        "label" ∈ t.selectShape.memberNames ∧ type = .never := by
  obtain ⟨fs, hok⟩ := twoTags_accepted
  have hmem : notedTag ∈ twoTags.entities := by decide
  obtain ⟨t, type, ht, hresolve, huse, hadmits, -⟩ :=
    select_admits_usable twoTags (some {}) fs hok notedTag hmem "label"
  cases ht.symm.trans (show twoTags.outputType? "Tag" = some labelledTag from rfl)
  refine ⟨⟨fs, hok⟩, hmem, labelledTag, type, rfl, hresolve, hadmits.mpr (by decide), ?_⟩
  exact Classical.not_not.mp fun hne => absurd (huse.mp hne) (by decide)

end Document

end TypedClient
