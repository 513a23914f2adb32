import TypedClient.Proofs.Rendering
import TypedClient.Proofs.Reports

set_option autoImplicit false

namespace TypedClient.Document

variable {d : Document} {entity : String} {field : Text} {action : Action}

/-! ## What the checks report -/

theorem mappingFieldMissing_mem_mappingDefectsAfter_iff (seen : List String) (ms : List Mapping) :
    .mappingFieldMissing entity action field ∈ d.mappingDefectsAfter seen ms ↔
      entity ∉ seen ∧ ∃ m, ms.find? (·.entity == entity) = some m ∧ m.fieldFor action = some field ∧
        field ∉ d.servedFields := by
  induction ms generalizing seen with
  | nil => simp [mappingDefectsAfter]
  | cons m rest ih =>
    rw [mappingDefectsAfter]
    by_cases hm : m.entity ∈ seen
    · -- a mapping that is skipped is not the one looked for, unless the record type was seen
      have hskip (hs : entity ∉ seen) :
          (m :: rest).find? (·.entity == entity) = rest.find? (·.entity == entity) :=
        List.find?_cons_of_neg fun he => hs (eq_of_beq he ▸ hm)
      rw [if_pos (List.contains_iff_mem.mpr hm), List.mem_cons, ih]
      simp only [reduceCtorEq, false_or]
      exact and_congr_right fun hs => by rw [hskip hs]
    · rw [if_neg (by simpa using hm), List.mem_append, ih, List.mem_map]
      simp only [List.mem_filter, Defect.mappingFieldMissing.injEq, List.mem_cons, not_or]
      by_cases he : m.entity = entity
      · subst he
        rw [List.find?_cons_of_pos (by simp)]
        simp only [not_true_eq_false, false_and, or_false, hm, not_false_eq_true, true_and, Option.some.injEq,
          exists_eq_left', Prod.exists]
        constructor
        · rintro ⟨_, _, ⟨hs, hfree⟩, rfl, rfl⟩
          exact ⟨(m.mem_served_iff _ _).mp hs, by simpa using hfree⟩
        · rintro ⟨hs, hfree⟩
          exact ⟨action, field, ⟨(m.mem_served_iff _ _).mpr hs, by simpa using hfree⟩, rfl, rfl⟩
      · rw [List.find?_cons_of_neg (by simpa using he)]
        simp [he, Ne.symm he]

theorem mappingFieldMissing_mem_mappingDefects_iff :
    .mappingFieldMissing entity action field ∈ d.mappingDefects ↔
      ∃ m, d.mapping? entity = some m ∧ m.fieldFor action = some field ∧ field ∉ d.servedFields := by
  rw [mappingDefects, List.mem_append, mappingFieldMissing_mem_mappingDefectsAfter_iff, mapping?]
  simp

theorem outputTypeMissing_mem_outputTypeDefects_iff :
    .outputTypeMissing entity ∈ d.outputTypeDefects ↔ entity ∈ d.entityNames ∧ d.outputType? entity = none := by
  rw [outputTypeDefects, List.mem_flatMap, entityNames, List.mem_map]
  constructor
  · rintro ⟨e, he, hdefect⟩
    cases ho : d.outputType? e.name with
    | none =>
      rw [ho, List.mem_singleton, Defect.outputTypeMissing.injEq] at hdefect
      subst hdefect
      exact ⟨⟨e, he, rfl⟩, ho⟩
    | some t => simp [ho] at hdefect
  · rintro ⟨⟨e, he, rfl⟩, ho⟩
    exact ⟨e, he, by simp [ho]⟩

/-! ## When lookups fail -/

theorem outputType_eq_error_iff {cause : Inconsistency} :
    d.outputType entity = .error cause ↔ d.outputType? entity = none ∧ cause = .noOutputType entity := by
  unfold outputType
  cases d.outputType? entity <;> simp [eq_comm]

theorem rootField_eq_error_iff {cause : Inconsistency} :
    d.rootField entity action = .error cause ↔
      ∃ m field, d.mapping? entity = some m ∧ m.fieldFor action = some field ∧ d.rootField? field = none ∧
        cause = .noRootField action entity field := by
  unfold rootField
  cases hm : d.mapping? entity with
  | none => simp
  | some m =>
    cases hf : m.fieldFor action with
    | none => simp [hf]
    | some field => cases hr : d.rootField? field <;> simp [hf, hr, eq_comm]

theorem mem_servedFields_iff_of_nodup (hn : (d.schema.outputTypes.map (·.name)).Nodup) :
    field ∈ d.servedFields ↔ (d.rootField? field).isSome := by
  rw [mem_servedFields_iff, rootField?_isSome_iff]
  constructor
  · rintro ⟨t, ht, hr, hf⟩
    exact ⟨t.name, hr, t, outputType?_of_mem hn ht, hf⟩
  · rintro ⟨root, hr, t, ht, hf⟩
    obtain ⟨hmem, rfl⟩ := outputType?_eq_some ht
    exact ⟨t, hmem, hr, hf⟩

/-- In a document whose output types have distinct names, looking up the root field of an action fails exactly
when the check reports this record type and this action, for the field that the lookup names; looking up the
output type of a record type fails exactly when the check reports that it has none. Both are errors, told by their
codes and by what they are about. Of several mappings of a record type both look at the first alone: other mappings
with the same first one change neither answer. -/
theorem lookups_fail_iff_reported (d : Document) (hn : (d.schema.outputTypes.map (·.name)).Nodup)
    (e : Entity) (he : e ∈ d.entities) (action : Action) :
    (∀ cause, d.rootField e.name action = .error cause ↔ ∃ field, cause = .noRootField action e.name field ∧
        .mappingFieldMissing e.name action field ∈ d.mappingDefects) ∧
      (∀ cause, d.outputType e.name = .error cause ↔ cause = .noOutputType e.name ∧
        .outputTypeMissing e.name ∈ d.outputTypeDefects) ∧
      (∀ field, .mappingFieldMissing e.name action field ∈ d.mappingDefects ↔
        Defect.Reported d.mappingDefects .error "MAPPING_FIELD_MISSING"
          [("entity", .str e.name), ("action", .str action.label), ("field", .str field)]) ∧
      (.outputTypeMissing e.name ∈ d.outputTypeDefects ↔
        Defect.Reported d.outputTypeDefects .error "OUTPUT_TYPE_MISSING" [("entity", .str e.name)]) ∧
      ∀ ms : List Mapping, ms.find? (·.entity == e.name) = d.mappings.find? (·.entity == e.name) →
        ({ d with mappings := ms } : Document).rootField e.name action = d.rootField e.name action ∧
          ∀ field, .mappingFieldMissing e.name action field ∈ ({ d with mappings := ms } : Document).mappingDefects ↔
            .mappingFieldMissing e.name action field ∈ d.mappingDefects := by
  refine ⟨fun cause => ?_, fun cause => ?_,
    fun field => (Defect.reported_mappingFieldMissing_iff _ e.name action field).symm,
    (Defect.reported_outputTypeMissing_iff _ e.name).symm, fun ms hfirst => ⟨?_, fun field => ?_⟩⟩
  · rw [rootField_eq_error_iff]
    simp only [mappingFieldMissing_mem_mappingDefects_iff, mem_servedFields_iff_of_nodup hn,
      Option.not_isSome_iff_eq_none]
    constructor
    · rintro ⟨m, field, hm, hf, hr, rfl⟩
      exact ⟨field, rfl, m, hm, hf, hr⟩
    · rintro ⟨field, rfl, m, hm, hf, hr⟩
      exact ⟨m, field, hm, hf, hr, rfl⟩
  · have hname : e.name ∈ d.entityNames := List.mem_map_of_mem he
    rw [outputType_eq_error_iff, outputTypeMissing_mem_outputTypeDefects_iff, and_comm]
    simp only [hname, true_and]
  · have hmapping : ({ d with mappings := ms } : Document).mapping? e.name = d.mapping? e.name := hfirst
    rw [rootField, hmapping]
    rfl
  · have hmapping : ({ d with mappings := ms } : Document).mapping? e.name = d.mapping? e.name := hfirst
    simp only [mappingFieldMissing_mem_mappingDefects_iff, hmapping]
    rfl

/-- A record type with two mappings, of which the first sends one action to a field that is not there and leaves
another out with an empty name; the second maps a third action, likewise to nothing. A further record type has no
output type. -/
def misdirected : Document where
  datamodel.entities := [tag, { tag with name := "Note" }]
  schema.outputTypes :=
    [tagOutput,
      ⟨"Mutation", [{ name := "findManyTag", target := { type := "Tag", kind := .object, isList := true } }]⟩]
  mappings :=
    [{ entity := "Tag", plural := "tags", findMany := some "findManyTag", delete := some "removeTag",
        create := some "" },
      { entity := "Tag", plural := "tags", update := some "changeTag" }]

theorem misdirected_reported :
    (misdirected.schema.outputTypes.map (·.name)).Nodup ∧ tag ∈ misdirected.entities ∧
      .mappingFieldMissing "Tag" .delete "removeTag" ∈ misdirected.mappingDefects ∧
      (∀ action ∈ [Action.create, .update], ∀ field,
        .mappingFieldMissing "Tag" action field ∉ misdirected.mappingDefects) ∧
      .outputTypeMissing "Note" ∈ misdirected.outputTypeDefects ∧
      Defect.Reported misdirected.mappingDefects .error "MAPPING_FIELD_MISSING"
        [("entity", .str "Tag"), ("action", .str "delete"), ("field", .str "removeTag")] := by
  have hn : (misdirected.schema.outputTypes.map (·.name)).Nodup := by decide
  have htag : tag ∈ misdirected.entities := by decide
  have hfields (action : Action) := (lookups_fail_iff_reported misdirected hn tag htag action).1
  have houtput := (lookups_fail_iff_reported misdirected hn { tag with name := "Note" } (by decide) .delete).2.1
  have hdelete : .mappingFieldMissing "Tag" .delete "removeTag" ∈ misdirected.mappingDefects := by
    obtain ⟨field, hcause, hreported⟩ := (hfields .delete (.noRootField .delete "Tag" "removeTag")).mp rfl
    cases hcause
    exact hreported
  have htold := (lookups_fail_iff_reported misdirected hn tag htag .delete).2.2.1 "removeTag"
  refine ⟨hn, htag, hdelete, fun action haction field hreported => ?_, ((houtput _).mp rfl).2, htold.mp hdelete⟩
  have hfails := (hfields action (.noRootField action "Tag" field)).mpr ⟨field, rfl, hreported⟩
  simp only [List.mem_cons, List.not_mem_nil, or_false] at haction
  rcases haction with rfl | rfl <;> cases hfails

end TypedClient.Document
