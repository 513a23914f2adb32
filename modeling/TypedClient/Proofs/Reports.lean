import TypedClient.Check.Defect

set_option autoImplicit false

namespace TypedClient

theorem Action.label_injective : Function.Injective Action.label := by
  intro a b h
  cases a <;> cases b <;> first | rfl | simp [label] at h

namespace Defect

/-- Among defects is one that is reported at a level, under a code and with what it is about. -/
def Reported (defects : List Defect) (level : Level) (code : String) (context : List (String × Json)) : Prop :=
  ∃ f ∈ defects.map finding, f.level = level ∧ f.code = code ∧ f.context = context

theorem reported_iff {defects : List Defect} {level : Level} {code : String} {context : List (String × Json)} :
    Reported defects level code context ↔
      ∃ x ∈ defects, x.level = level ∧ x.code = code ∧ x.context = context := by
  constructor
  · rintro ⟨f, hf, hreported⟩
    obtain ⟨x, hx, rfl⟩ := List.mem_map.mp hf
    exact ⟨x, hx, hreported⟩
  · rintro ⟨x, hx, hreported⟩
    exact ⟨x.finding, List.mem_map_of_mem hx, hreported⟩

theorem reported_mappingFieldMissing_iff (defects : List Defect) (entity : String) (action : Action) (field : Text) :
    Reported defects .error "MAPPING_FIELD_MISSING"
        [("entity", .str entity), ("action", .str action.label), ("field", .str field)] ↔
      .mappingFieldMissing entity action field ∈ defects := by
  rw [reported_iff]
  constructor
  · rintro ⟨x, hx, -, hcode, hcontext⟩
    cases x <;> simp only [code, String.reduceEq] at hcode
    simp only [context, List.cons.injEq, Prod.mk.injEq, Json.str.injEq, Text.ofString_inj, true_and, and_true]
      at hcontext
    obtain ⟨rfl, hlabel, rfl⟩ := hcontext
    exact Action.label_injective hlabel ▸ hx
  · exact fun hmem => ⟨_, hmem, rfl, rfl, rfl⟩

theorem reported_outputTypeMissing_iff (defects : List Defect) (entity : String) :
    Reported defects .error "OUTPUT_TYPE_MISSING" [("entity", .str entity)] ↔ .outputTypeMissing entity ∈ defects := by
  rw [reported_iff]
  constructor
  · rintro ⟨x, hx, -, hcode, hcontext⟩
    cases x <;> simp only [code, String.reduceEq] at hcode
    simp only [context, List.cons.injEq, Prod.mk.injEq, Json.str.injEq, Text.ofString_inj, true_and, and_true]
      at hcontext
    exact hcontext ▸ hx
  · exact fun hmem => ⟨_, hmem, rfl, rfl, rfl⟩

theorem reported_enumUnknown_iff (defects : List Defect) (entity field : String) :
    Reported defects .warning "ENUM_UNKNOWN" [("entity", .str entity), ("field", .str field)] ↔
      ∃ type, .enumUnknown entity field type ∈ defects := by
  rw [reported_iff]
  constructor
  · rintro ⟨x, hx, -, hcode, hcontext⟩
    cases x <;> simp only [code, String.reduceEq] at hcode
    simp only [context, List.cons.injEq, Prod.mk.injEq, Json.str.injEq, Text.ofString_inj, true_and, and_true]
      at hcontext
    obtain ⟨rfl, rfl⟩ := hcontext
    exact ⟨_, hx⟩
  · rintro ⟨type, hmem⟩
    exact ⟨_, hmem, rfl, rfl, rfl⟩

end Defect

end TypedClient
