import TypedClient.Check.Defect
import TypedClient.Declaration.Field
import TypedClient.Proofs.Lookup
import TypedClient.Proofs.Reports

set_option autoImplicit false

namespace TypedClient

section Keeping

variable {α β : Type} [DecidableEq β] (key : α → β)

def keepNew (kept : List α) (x : α) : List α := if key x ∈ kept.map key then kept else kept ++ [x]

theorem keepNew_uniqueBy (seen : List α) (x : α) :
    keepNew key (uniqueBy key seen) x = uniqueBy key (seen ++ [x]) := by
  simp only [keepNew, mem_map_uniqueBy_iff, uniqueBy_concat]

theorem foldl_keepNew (seen xs : List α) :
    xs.foldl (keepNew key) (uniqueBy key seen) = uniqueBy key (seen ++ xs) := by
  induction xs generalizing seen with
  | nil => rw [List.foldl_nil, List.append_nil]
  | cons x xs ih => rw [List.foldl_cons, keepNew_uniqueBy, ih, List.append_assoc, List.singleton_append]

/-- Of a list, the first item of every key is kept and nothing else, in the order of the list. -/
structure KeepsFirst (xs kept : List α) : Prop where
  sublist : kept.Sublist xs
  nodup : (kept.map key).Nodup
  first : ∀ k, kept.find? (key · == k) = xs.find? (key · == k)

theorem keepsFirst_uniqueBy (xs : List α) : KeepsFirst key xs (uniqueBy key xs) :=
  ⟨sublist_uniqueBy key xs, nodup_map_uniqueBy key xs, fun k => find?_uniqueBy key k xs⟩

end Keeping

namespace InputType

theorem members_shape (t : InputType) :
    t.shape.members = uniqueBy (·.name) (t.fields.map (·.member)) := by
  rw [uniqueBy_map]
  rfl

end InputType

namespace Document

variable (d : Document)

theorem mem_enumDefects_iff (x : Defect) :
    x ∈ d.enumDefects ↔ ∃ e ∈ d.entities, ∃ f ∈ e.fields,
      f.kind = .enum ∧ f.type ∉ d.enums.map (·.name) ∧ x = .enumUnknown e.name f.name f.type := by
  have hdeclared (t : String) :
      t ∈ d.datamodel.enums.map (·.name) ++ d.schema.enums.map (·.name) ↔ t ∈ d.enums.map (·.name) := by
    rw [List.mem_append, mem_map_name_enums_iff]
  have htest (f : Field) :
      (f.kind == .enum &&
          ! (d.datamodel.enums.map (·.name) ++ d.schema.enums.map (·.name)).contains f.type) = true ↔
        f.kind = .enum ∧ f.type ∉ d.enums.map (·.name) := by
    rw [Bool.and_eq_true, beq_iff_eq, Bool.not_eq_true', List.contains_eq_mem, decide_eq_false_iff_not, hdeclared]
  rw [enumDefects, List.mem_flatMap]
  refine exists_congr fun e => and_congr_right fun _ => ?_
  rw [List.mem_map]
  refine exists_congr fun f => ?_
  rw [List.mem_filter, htest, and_assoc, and_assoc, eq_comm (a := x)]

/-- What is kept of a list is what one pass keeps: the first item of every key. So the enumerations of a document are
the ones whose names are reserved, in the same order and each once, the definition of the queries before that of the
declared types; a field of an enumeration is warned about exactly when its type is none of them; and an input type
has one member for each name among its fields, the first one of that name. -/
theorem first_occurrences_agree {α β : Type} [DecidableEq β] (key : α → β) (xs : List α) (extra : List String) :
    (KeepsFirst key xs (uniqueBy key xs) ∧ uniqueBy key (uniqueBy key xs) = uniqueBy key xs ∧
        xs.foldl (keepNew key) [] = uniqueBy key xs) ∧
      d.reservedNames extra =
        d.enums.map (·.name) ++ d.schema.inputTypes.map (·.name) ++ fixedIdentifiers ++ extra ∧
      KeepsFirst (·.name) (d.schema.enums ++ d.datamodel.enums) d.enums ∧
      (∀ n, d.enums.find? (·.name == n) =
        (d.schema.enums.find? (·.name == n)).or (d.datamodel.enums.find? (·.name == n))) ∧
      (∀ x, x ∈ d.enumDefects ↔ ∃ e ∈ d.entities, ∃ f ∈ e.fields,
        f.kind = .enum ∧ f.type ∉ d.enums.map (·.name) ∧ x = .enumUnknown e.name f.name f.type) ∧
      (∀ x ∈ d.enumDefects, x.level = .warning) ∧
      (∀ entity field : String, Defect.Reported d.enumDefects .warning "ENUM_UNKNOWN"
          [("entity", .str entity), ("field", .str field)] ↔
        ∃ e ∈ d.entities, e.name = entity ∧ ∃ f ∈ e.fields, f.name = field ∧ f.kind = .enum ∧
          f.type ∉ d.enums.map (·.name)) ∧
      ∀ t ∈ d.schema.inputTypes, KeepsFirst (·.name) (t.fields.map (·.member)) t.shape.members := by
  have henums : KeepsFirst (·.name) (d.schema.enums ++ d.datamodel.enums) d.enums := keepsFirst_uniqueBy _ _
  refine ⟨⟨keepsFirst_uniqueBy key xs, uniqueBy_uniqueBy key xs, foldl_keepNew key [] xs⟩, ?_, henums, ?_,
    d.mem_enumDefects_iff, ?_, ?_, ?_⟩
  · rw [map_name_enums]
    rfl
  · intro n
    rw [henums.first, List.find?_append]
  · intro x hx
    obtain ⟨e, -, f, -, -, -, rfl⟩ := (d.mem_enumDefects_iff x).mp hx
    rfl
  · intro entity field
    simp only [Defect.reported_enumUnknown_iff, d.mem_enumDefects_iff, Defect.enumUnknown.injEq]
    constructor
    · rintro ⟨type, e, he, f, hf, hkind, hnew, rfl, rfl, -⟩
      exact ⟨e, he, rfl, f, hf, rfl, hkind, hnew⟩
    · rintro ⟨e, he, rfl, f, hf, rfl, hkind, hnew⟩
      exact ⟨f.type, e, he, f, hf, hkind, hnew, rfl, rfl, rfl⟩
  · intro t _
    rw [t.members_shape]
    exact keepsFirst_uniqueBy _ _

end Document

end TypedClient
