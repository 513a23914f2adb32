import TypedClient.Declaration.Field
import TypedClient.Proofs.Constituents
import TypedClient.Proofs.Unions

set_option autoImplicit false

namespace TypedClient.Argument

open TypeExpr (same reduce unionOf)

theorem targetType_cases (name : String) :
    (name = "null" ∧ targetType name = .null) ∨ (name ≠ "null" ∧ targetType name = .ref name) := by
  by_cases h : name = "null" <;> simp [targetType, h]

theorem targetType_injective : Function.Injective targetType := by
  intro m n heq
  obtain ⟨hm, hm'⟩ | ⟨-, hm'⟩ := targetType_cases m <;> obtain ⟨hn, hn'⟩ | ⟨-, hn'⟩ := targetType_cases n <;>
    rw [hm', hn'] at heq
  · rw [hm, hn]
  · cases heq
  · cases heq
  · exact TypeExpr.ref.inj heq

theorem reduce_targetType (f : Text → Text) (name : String) : (targetType name).reduce f = targetType name := by
  obtain ⟨-, h⟩ | ⟨-, h⟩ := targetType_cases name <;> rw [h, reduce]

theorem isUnion_targetType (name : String) : (targetType name).isUnion = false := by
  obtain ⟨-, h⟩ | ⟨-, h⟩ := targetType_cases name <;> rw [h] <;> rfl

theorem constituents_targetType (name : String) : (targetType name).constituents = [targetType name] := by
  obtain ⟨-, h⟩ | ⟨-, h⟩ := targetType_cases name <;> rw [h, TypeExpr.constituents]

theorem isFlat_targetType (name : String) : (targetType name).IsFlat := by
  rw [TypeExpr.IsFlat, TypeExpr.parts_of_not_isUnion (isUnion_targetType name), List.forall_mem_singleton]
  exact isUnion_targetType name

theorem eraseDupsBy_targetTypes (names : List String) :
    (names.map targetType).eraseDupsBy same = (distinct names).map targetType := by
  classical
  have hkey : reduce id ∘ targetType = targetType := funext fun name => reduce_targetType id name
  rw [TypeExpr.eraseDupsBy_same, uniqueBy_map, hkey, uniqueBy_eq_distinct targetType_injective]

theorem constituents_unionOf_targetTypes (names : List String) :
    (unionOf (names.map targetType)).constituents = (distinct names).map targetType := by
  have hparts : (names.map targetType).flatMap TypeExpr.parts = names.map targetType := by
    induction names with
    | nil => rfl
    | cons name names ih =>
      rw [List.map_cons, List.flatMap_cons, ih, TypeExpr.parts_of_not_isUnion (isUnion_targetType name)]
      rfl
  rw [TypeExpr.unionOf_eq, hparts, eraseDupsBy_targetTypes, TypeExpr.constituents_ofParts, List.flatMap_map]
  simp only [constituents_targetType]
  rw [← List.map_eq_flatMap]

def addsNull (a : Argument) : Bool := !a.isRequired && !a.hasNull && a.isNullable

/-- The names that the type of an argument is written with, null being one of them. -/
def admitted (a : Argument) : List String := if a.addsNull then a.targets ++ ["null"] else a.targets

def single (a : Argument) : TypeExpr := unionOf (a.targets.map targetType)

theorem type_eq (a : Argument) :
    a.type = if a.isList then
        if a.addsNull then .union [.generic "Enumerable" [a.single], .null] else .generic "Enumerable" [a.single]
      else unionOf (a.admitted.map targetType) := by
  change (if a.addsNull then
    (if a.isList then TypeExpr.generic "Enumerable" [a.single] else a.single).orNull
    else if a.isList then .generic "Enumerable" [a.single] else a.single) = _
  have hflat : ∀ t ∈ a.targets.map targetType, t.IsFlat := List.forall_mem_map.mpr fun n _ => isFlat_targetType n
  have hsingle : a.single.orNull = unionOf ((a.targets ++ ["null"]).map targetType) := by
    rw [List.map_append]
    exact TypeExpr.unionOf_append_unionOf [] [.null] hflat
  unfold admitted
  cases a.isList <;> cases a.addsNull
  · rfl
  · exact hsingle
  · rfl
  · rfl

theorem constituents_type (a : Argument) :
    a.type.constituents =
      (if a.isList then [.generic "Enumerable" [a.single]] else []) ++ (distinct a.admitted).map targetType := by
  rw [type_eq]
  cases hlist : a.isList with
  | false => simpa using constituents_unionOf_targetTypes a.admitted
  | true =>
    have hsingle : a.single.constituents = (distinct a.targets).map targetType :=
      constituents_unionOf_targetTypes a.targets
    unfold admitted
    cases hadds : a.addsNull with
    | false => simp [TypeExpr.constituents, TypeExpr.constituentsAll, hsingle]
    | true =>
      have hnew : "null" ∉ a.targets := by
        simp [addsNull, hasNull] at hadds
        exact hadds.1.2
      simp [TypeExpr.constituents, TypeExpr.constituentsAll, hsingle, distinct_concat, hnew]
      rfl

theorem null_mem_targets_iff (c : Candidate) : "null" ∈ c.targets ↔ c.type = "null" := by
  have hscalar : "null" ∈ scalarTargets c.type ↔ c.type = "null" := by
    generalize c.type = type
    unfold scalarTargets
    split
    case h_10 => rw [List.mem_singleton, eq_comm]
    all_goals decide
  unfold Candidate.targets
  split
  · exact hscalar
  · rw [List.mem_singleton, eq_comm]

theorem null_mem_all_targets_iff (a : Argument) : "null" ∈ a.targets ↔ ∃ c ∈ a.candidates, c.type = "null" := by
  simp only [targets, List.mem_flatMap, null_mem_targets_iff]

theorem addsNull_iff (a : Argument) :
    a.addsNull = true ↔
      (∀ c ∈ a.candidates, c.type ≠ "null") ∧ a.first.isRequired = false ∧ a.first.isNullable = true := by
  have hnull : a.hasNull = false ↔ ∀ c ∈ a.candidates, c.type ≠ "null" := by
    rw [hasNull, ← Bool.not_eq_true, List.contains_iff_mem, null_mem_all_targets_iff]
    simp
  rw [← hnull, addsNull, isRequired, isNullable]
  cases a.first.isRequired <;> cases a.hasNull <;> simp

theorem null_mem_admitted_iff (a : Argument) :
    "null" ∈ a.admitted ↔
      (∃ c ∈ a.candidates, c.type = "null") ∨ (a.first.isRequired = false ∧ a.first.isNullable = true) := by
  rw [← null_mem_all_targets_iff, admitted]
  by_cases hadds : a.addsNull = true
  · rw [if_pos hadds]
    exact iff_of_true (List.mem_append_right _ List.mem_cons_self) (.inr ((addsNull_iff a).mp hadds).2)
  · rw [if_neg hadds]
    refine ⟨.inl, fun h => h.elim id fun hrule => ?_⟩
    by_contra hnull
    have hnone : ∀ c ∈ a.candidates, c.type ≠ "null" := by simpa [null_mem_all_targets_iff] using hnull
    exact hadds ((addsNull_iff a).mpr ⟨hnone, hrule⟩)

theorem filter_admitted (a : Argument) :
    a.admitted.filter (· ≠ "null") = a.targets.filter (· ≠ "null") := by
  unfold admitted
  split
  · simp
  · rfl

theorem countP_isNull_targetTypes (names : List String) :
    ((distinct names).map targetType).countP (·.isNull) = if "null" ∈ names then 1 else 0 := by
  have hnull : (·.isNull) ∘ targetType = (· == "null") := by
    funext name
    obtain ⟨h, h'⟩ | ⟨h, h'⟩ := targetType_cases name <;> rw [Function.comp_apply, h'] <;> simp [TypeExpr.isNull, h]
  rw [List.countP_map, hnull]
  change (distinct names).count "null" = _
  rw [(nodup_distinct names).count]
  simp only [mem_distinct_iff]

theorem filterMap_refName?_targetTypes (names : List String) :
    ((distinct names).map targetType).filterMap (·.refName?) = distinct (names.filter (· ≠ "null")) := by
  have hname : (·.refName?) ∘ targetType = Option.guard (fun name => decide (name ≠ "null")) := by
    funext name
    obtain ⟨h, h'⟩ | ⟨h, h'⟩ := targetType_cases name <;> rw [Function.comp_apply, h'] <;>
      simp [TypeExpr.refName?, Option.guard, h]
  rw [List.filterMap_map, hname, List.filterMap_eq_filter]
  exact (uniqueBy_filter id (fun name => decide (name ≠ "null")) names).symm

theorem countP_applies_targetTypes (names : List String) :
    (names.map targetType).countP (·.applies "Enumerable") = 0 := by
  rw [List.countP_eq_zero, List.forall_mem_map]
  intro name _
  obtain ⟨-, h⟩ | ⟨-, h⟩ := targetType_cases name <;> rw [h] <;> simp [TypeExpr.applies]

/-- The type of an argument is written with null once, if a candidate is null or the argument is optional and
nullable, and never otherwise; with the names that its candidates stand for, each once in the order of first
occurrence; and with one application of `Enumerable`, if the argument takes several values, and none otherwise. Inside
of that application null stands only for a candidate, any other null outside of it. -/
theorem type_contents (a : Argument) :
    a.type.constituents.countP (·.isNull) =
        (if (∃ c ∈ a.candidates, c.type = "null") ∨ (a.first.isRequired = false ∧ a.first.isNullable = true) then 1
          else 0) ∧
      a.type.constituents.filterMap (·.refName?) =
        distinct ((a.candidates.flatMap (·.targets)).filter (· ≠ "null")) ∧
      a.type.constituents.countP (·.applies "Enumerable") = (if a.first.isList then 1 else 0) ∧
      (a.first.isList = true → ∃ inner,
        inner.constituents.countP (·.isNull) = (if ∃ c ∈ a.candidates, c.type = "null" then 1 else 0) ∧
          a.type = if (∀ c ∈ a.candidates, c.type ≠ "null") ∧ a.first.isRequired = false ∧ a.first.isNullable = true
            then .union [.generic "Enumerable" [inner], .null] else .generic "Enumerable" [inner]) := by
  refine ⟨?_, ?_, ?_, fun hlist => ⟨a.single, ?_, ?_⟩⟩
  · rw [constituents_type, List.countP_append, countP_isNull_targetTypes, ← if_congr (null_mem_admitted_iff a) rfl rfl]
    cases a.isList <;> simp [TypeExpr.isNull]
  · rw [constituents_type, List.filterMap_append, filterMap_refName?_targetTypes, filter_admitted]
    cases a.isList <;> rfl
  · rw [constituents_type, List.countP_append, countP_applies_targetTypes, Nat.add_zero, isList]
    cases a.first.isList <;> rfl
  · rw [single, constituents_unionOf_targetTypes, countP_isNull_targetTypes]
    exact if_congr (null_mem_all_targets_iff a) rfl rfl
  · rw [type_eq, isList, hlist, if_pos rfl]
    exact if_congr (addsNull_iff a) rfl rfl

end TypedClient.Argument
