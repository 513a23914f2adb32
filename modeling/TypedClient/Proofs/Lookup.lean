import TypedClient.Proofs.Distinct
import TypedClient.Schema.Lookup

set_option autoImplicit false

namespace TypedClient

theorem Mapping.mem_served_iff (m : Mapping) (action : Action) (field : Text) :
    (action, field) ∈ m.served ↔ m.fieldFor action = some field := by
  simp only [Mapping.served, List.mem_filterMap, Option.map_eq_some_iff, Prod.mk.injEq]
  constructor
  · rintro ⟨_, _, _, h, rfl, rfl⟩
    exact h
  · intro h
    exact ⟨action, Action.mem_all action, field, h, rfl, rfl⟩

theorem Mapping.actions_eq (m : Mapping) :
    m.actions = Action.all.filter fun a => (m.fieldFor a).isSome := by
  rw [Mapping.actions, Mapping.served, List.map_filterMap, ← List.filterMap_eq_filter]
  congr 1
  funext a
  cases h : m.fieldFor a <;> simp [Option.guard, h]

theorem Mapping.mem_actions_iff (m : Mapping) (action : Action) :
    action ∈ m.actions ↔ (m.fieldFor action).isSome := by
  simp [Mapping.actions_eq, Action.mem_all]

namespace Document

variable {d : Document} {name : String}

theorem entity?_of_mem (h : d.entityNames.Nodup) {e : Entity} (he : e ∈ d.entities) :
    d.entity? e.name = some e := by
  cases hfound : d.entity? e.name with
  | none => exact absurd (by simp) (List.find?_eq_none.mp hfound e he)
  | some f =>
    have hname : f.name = e.name := by simpa using List.find?_some hfound
    rw [List.inj_on_of_nodup_map h (List.mem_of_find?_eq_some hfound) he hname]

theorem outputType?_eq_some {t : OutputType} (h : d.outputType? name = some t) :
    t ∈ d.schema.outputTypes ∧ t.name = name := by
  rw [outputType?] at h
  exact ⟨List.mem_reverse.mp (List.mem_of_find?_eq_some h), by simpa using List.find?_some h⟩

theorem outputType?_of_mem (h : (d.schema.outputTypes.map (·.name)).Nodup) {t : OutputType}
    (ht : t ∈ d.schema.outputTypes) : d.outputType? t.name = some t := by
  cases hfound : d.outputType? t.name with
  | none => exact absurd (by simp) (List.find?_eq_none.mp hfound t (List.mem_reverse.mpr ht))
  | some u =>
    obtain ⟨hu, hname⟩ := outputType?_eq_some hfound
    rw [List.inj_on_of_nodup_map h hu ht hname]

theorem outputType_eq_ok_iff {t : OutputType} :
    d.outputType name = .ok t ↔ d.outputType? name = some t := by
  unfold outputType
  cases d.outputType? name <;> simp

theorem mapping?_eq_some {m : Mapping} (h : d.mapping? name = some m) :
    m ∈ d.mappings ∧ m.entity = name :=
  ⟨List.mem_of_find?_eq_some h, by simpa using List.find?_some h⟩

theorem mem_usedMappings_iff {m : Mapping} :
    m ∈ d.usedMappings ↔ d.mapping? m.entity = some m :=
  mem_uniqueBy_iff Mapping.entity m d.mappings

theorem mem_of_mem_usedMappings {m : Mapping} (h : m ∈ d.usedMappings) : m ∈ d.mappings :=
  (mapping?_eq_some (mem_usedMappings_iff.mp h)).1

theorem mem_rootFields_iff {f : OutputField} :
    f ∈ d.rootFields ↔ ∃ root ∈ rootTypeNames, ∃ t, d.outputType? root = some t ∧ f ∈ t.fields := by
  rw [rootFields, List.mem_flatMap]
  refine exists_congr fun root => and_congr_right fun _ => ?_
  cases d.outputType? root <;> simp

theorem rootField?_isSome_iff {field : Text} :
    (d.rootField? field).isSome ↔
      ∃ root ∈ rootTypeNames, ∃ t, d.outputType? root = some t ∧ ∃ f ∈ t.fields, f.name = field := by
  rw [rootField?, List.find?_isSome]
  simp only [mem_rootFields_iff, beq_iff_eq]
  constructor
  · rintro ⟨f, ⟨root, hr, t, ht, hf⟩, hn⟩
    exact ⟨root, hr, t, ht, f, hf, hn⟩
  · rintro ⟨root, hr, t, ht, f, hf, hn⟩
    exact ⟨f, ⟨root, hr, t, ht, hf⟩, hn⟩

theorem map_name_enums :
    d.enums.map (·.name) = distinct (d.schema.enums.map (·.name) ++ d.datamodel.enums.map (·.name)) := by
  rw [enums, map_uniqueBy, List.map_append]

theorem mem_map_name_enums_iff (n : String) :
    n ∈ d.enums.map (·.name) ↔ n ∈ d.datamodel.enums.map (·.name) ∨ n ∈ d.schema.enums.map (·.name) := by
  rw [map_name_enums, mem_distinct_iff, List.mem_append]
  exact or_comm

end Document

end TypedClient
