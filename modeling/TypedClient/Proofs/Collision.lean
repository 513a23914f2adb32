import TypedClient.Collision
import TypedClient.Proofs.Distinct

set_option autoImplicit false

namespace TypedClient

theorem map_name_nameUses (entities reserved : List String) :
    (nameUses entities reserved).map (·.name) =
      reserved ++ (derivedFrom entities).map (·.name) := by
  simp [nameUses, Function.comp_def]

theorem length_ownersOf (uses : List NameUse) (name : String) :
    (ownersOf uses name).length = (uses.map (·.name)).count name := by
  rw [ownersOf, List.length_map, ← List.countP_eq_length_filter, List.count, List.countP_map]
  rfl

theorem mem_collisions_iff (entities reserved : List String) (c : Collision) :
    c ∈ collisions entities reserved ↔
      c.owners = ownersOf (nameUses entities reserved) c.name ∧
        1 < (reserved ++ (derivedFrom entities).map (·.name)).count c.name := by
  cases c with
  | mk name owners =>
    simp only [collisions, List.mem_filter, List.mem_map, mem_distinct_iff, Collision.mk.injEq,
      decide_eq_true_eq, ← map_name_nameUses]
    constructor
    · rintro ⟨⟨_, _, rfl, rfl⟩, h⟩
      exact ⟨rfl, by simpa only [length_ownersOf] using h⟩
    · rintro ⟨rfl, h⟩
      have hm := List.count_pos_iff.mp (Nat.zero_lt_of_lt h)
      exact ⟨⟨name, List.mem_map.mp hm, rfl, rfl⟩, by simpa only [length_ownersOf] using h⟩

theorem collisions_eq_nil_iff (entities reserved : List String) :
    collisions entities reserved = [] ↔
      (reserved ++ (derivedFrom entities).map (·.name)).Nodup := by
  rw [List.nodup_iff_count_le_one]
  constructor
  · intro h name
    refine Nat.le_of_not_lt fun hn => ?_
    have hm := (mem_collisions_iff entities reserved
      ⟨name, ownersOf (nameUses entities reserved) name⟩).mpr ⟨rfl, hn⟩
    simp [h] at hm
  · intro h
    refine List.eq_nil_iff_forall_not_mem.mpr fun c hm => ?_
    exact Nat.not_lt_of_le (h c.name) ((mem_collisions_iff entities reserved c).mp hm).2

theorem mem_derivedFrom_iff (d : Derived) (entities : List String) :
    d ∈ derivedFrom entities ↔ d.entity ∈ entities ∧ d.role ∈ Role.all := by
  cases d
  simp [derivedFrom, and_comm]

theorem Role.mem_all (role : Role) : role ∈ Role.all := by
  cases role with
  | args action =>
    cases action with
    | none => decide
    | some a => exact List.mem_append_right _ (List.mem_map_of_mem (Action.mem_all a))
  | _ => decide

theorem Role.nodup_all : Role.all.Nodup := by decide

theorem nodup_derivedFrom {entities : List String} (h : entities.Nodup) : (derivedFrom entities).Nodup := by
  refine List.nodup_flatMap.mpr ⟨fun e _ => Role.nodup_all.map fun r q hr => (Derived.mk.inj hr).2, ?_⟩
  refine h.imp fun {e f} hne => List.disjoint_left.mpr fun d he hf => ?_
  obtain ⟨r, -, rfl⟩ := List.mem_map.mp he
  obtain ⟨q, -, hq⟩ := List.mem_map.mp hf
  exact hne (Derived.mk.inj hq).1.symm

theorem identifier_value (entity : String) : identifier .value entity = entity := by
  simp [identifier, Role.affixes]

theorem append_ne_of_not_suffix {stem suffix n : String} (h : ¬ suffix.toList <:+ n.toList) :
    stem ++ suffix ≠ n := by
  rintro rfl
  exact h ⟨stem.toList, String.toList_append.symm⟩

theorem identifier_inj {entities reserved : List String}
    (h : (reserved ++ (derivedFrom entities).map (·.name)).Nodup) {r q : Role} {e f : String}
    (he : e ∈ entities) (hf : f ∈ entities) (heq : identifier r e = identifier q f) :
    r = q ∧ e = f := by
  have hd := (List.nodup_append.mp h).2.1
  have hr : (⟨e, r⟩ : Derived) ∈ derivedFrom entities :=
    (mem_derivedFrom_iff _ _).mpr ⟨he, r.mem_all⟩
  have hq : (⟨f, q⟩ : Derived) ∈ derivedFrom entities :=
    (mem_derivedFrom_iff _ _).mpr ⟨hf, q.mem_all⟩
  have := List.inj_on_of_nodup_map hd hr hq heq
  simp only [Derived.mk.injEq] at this
  exact ⟨this.2, this.1⟩

theorem nodup_of_nodup_names {entities reserved : List String}
    (h : (reserved ++ (derivedFrom entities).map (·.name)).Nodup) : entities.Nodup := by
  have hd : (derivedFrom entities).Nodup := (List.nodup_append.mp h).2.1.of_map
  refine (List.nodup_flatMap.mp hd).2.imp fun {e f} hdisjoint heq => ?_
  subst heq
  exact hdisjoint (List.mem_map_of_mem (Role.mem_all .value)) (List.mem_map_of_mem (Role.mem_all .value))

end TypedClient
