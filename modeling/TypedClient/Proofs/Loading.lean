import TypedClient.Proofs.Distinct
import TypedClient.Schema.Read

set_option autoImplicit false

namespace TypedClient

namespace Reading

variable {α : Type}

theorem guarded_eq_ok_iff (rule : α → Option Breach) (r : Reading α) (a : α) :
    guarded rule r = .ok a ↔ r = .ok a ∧ rule a = none := by
  cases r with
  | bad issues => simp [guarded]
  | ok b =>
    rw [guarded]
    split
    · next hb =>
      constructor
      · intro h
        cases h
        exact ⟨rfl, hb⟩
      · exact And.left
    · next breach hb =>
      constructor
      · intro h
        cases h
      · rintro ⟨h, hnone⟩
        cases h
        simp [hb] at hnone

theorem object_eq_ok {sort : String} {read : List (Scalar × Data) → Reading α} {d : Data} {a : α}
    (h : object sort read d = .ok a) : ∃ entries, d = .map entries ∧ read entries = .ok a := by
  cases d with
  | map entries => exact ⟨entries, rfl, h⟩
  | _ => cases h

theorem toOption_eq_some_iff (r : Reading α) (a : α) : r.toOption = some a ↔ r = .ok a := by
  cases r <;> simp [toOption]

end Reading

section Repeated

variable {α : Type} [DecidableEq α] (le : α → α → Bool)

theorem repeated_eq_nil_iff (items : List α) : repeated le items = [] ↔ items.Nodup := by
  rw [repeated, List.nodup_iff_count_le_one, ← List.length_eq_zero_iff, List.length_mergeSort,
    List.length_eq_zero_iff, List.eq_nil_iff_forall_not_mem]
  simp only [mem_distinct_iff, List.mem_filter, decide_eq_true_eq, not_and, Nat.not_lt]
  constructor
  · intro h x
    by_cases hx : x ∈ items
    · exact h x hx
    · simp [List.count_eq_zero_of_not_mem hx]
  · exact fun h x _ => h x

theorem repeatBreach?_eq_none_iff (items : List α) (breach : List α → Breach) :
    repeatBreach? le items breach = none ↔ items.Nodup := by
  rw [← repeated_eq_nil_iff le, repeatBreach?]
  split
  · next h => simp [h]
  · next h => simpa using h

end Repeated

namespace Document

variable {d : Document}

/-- What the rules of the format say of a whole document. -/
structure WellFormed (d : Document) : Prop where
  entities : d.entityNames.Nodup
  relations : ∀ e ∈ d.entities, ∀ f ∈ e.relations, f.type ∈ d.entityNames
  mappings : ∀ m ∈ d.mappings, m.entity ∈ d.entityNames

theorem breach?_eq_none_iff : d.breach? = none ↔ d.WellFormed := by
  rw [breach?, Option.or_eq_none_iff, Option.or_eq_none_iff, repeatBreach?_eq_none_iff,
    danglingRelation?, danglingMapping?, List.findSome?_eq_none_iff]
  simp only [Option.map_eq_none_iff, List.find?_eq_none, Bool.not_eq_true', Bool.not_eq_false,
    List.contains_iff_mem]
  constructor
  · rintro ⟨he, hr, hm⟩
    exact ⟨he, hr, hm⟩
  · rintro ⟨he, hr, hm⟩
    exact ⟨he, hr, hm⟩

theorem wellFormed_of_read {raw : Data} (h : Document.read raw = .ok d) : d.WellFormed := by
  obtain ⟨entries, -, hd⟩ := Reading.object_eq_ok h
  exact breach?_eq_none_iff.mp ((Reading.guarded_eq_ok_iff _ _ _).mp hd).2

end Document

end TypedClient
