import Mathlib.Tactic.Tauto
import TypedClient.Declaration.Args
import TypedClient.Declaration.EntityClient
import TypedClient.Proofs.Collision
import TypedClient.Proofs.Sameness
import TypedClient.TypeExpr.Printer

set_option autoImplicit false

namespace TypedClient

namespace TypeExpr

mutual

def names : TypeExpr → List String
  | .ref name => [name]
  | .literal _ | .null | .never => []
  | .list item => names item
  | .generic name args => name :: namesAll args
  | .union members => namesAll members
  | .object members _ => namesMembers members

def namesAll : List TypeExpr → List String
  | [] => []
  | t :: rest => names t ++ namesAll rest

def namesMembers : List Member → List String
  | [] => []
  | ⟨_, type, _, _⟩ :: rest => names type ++ namesMembers rest

end

theorem namesAll_eq (ts : List TypeExpr) : namesAll ts = ts.flatMap names := by
  induction ts with
  | nil => rfl
  | cons t ts ih => rw [namesAll, ih, List.flatMap_cons]

theorem namesMembers_eq (ms : List Member) : namesMembers ms = ms.flatMap (·.type.names) := by
  induction ms with
  | nil => rfl
  | cons m ms ih =>
    cases m
    rw [namesMembers, ih, List.flatMap_cons]

theorem mem_namesAll_iff (n : String) (ts : List TypeExpr) :
    n ∈ namesAll ts ↔ ∃ t ∈ ts, n ∈ t.names := by
  rw [namesAll_eq, List.mem_flatMap]

theorem mem_namesMembers_iff (n : String) (ms : List Member) :
    n ∈ namesMembers ms ↔ ∃ m ∈ ms, n ∈ m.type.names := by
  rw [namesMembers_eq, List.mem_flatMap]

theorem names_reduce (f : Text → Text) (t : TypeExpr) : (t.reduce f).names = t.names := by
  induction t with
  | ref name => rw [reduce]
  | literal value => rw [reduce, names, names]
  | null => rw [reduce]
  | never => rw [reduce]
  | list item ih => rw [reduce, names, names, ih]
  | generic name args ih =>
    rw [reduce, names, names, reduceAll_eq, namesAll_eq, namesAll_eq, List.flatMap_map, List.flatMap_congr ih]
  | union members ih =>
    rw [reduce, names, names, reduceAll_eq, namesAll_eq, namesAll_eq, List.flatMap_map, List.flatMap_congr ih]
  | object members name ih =>
    rw [reduce, names, names, reduceMembers_eq, namesMembers_eq, namesMembers_eq, List.flatMap_map,
      List.flatMap_congr ih]

theorem names_eq_of_same (s t : TypeExpr) (h : same s t = true) : s.names = t.names := by
  rw [← names_reduce id s, (same_iff s t).mp h, names_reduce]

theorem mem_namesAll_addNew_iff (n : String) (ts : List TypeExpr) (t : TypeExpr) :
    n ∈ namesAll (addNew ts t) ↔ n ∈ namesAll ts ∨ n ∈ t.names := by
  unfold addNew
  split
  · next h =>
    obtain ⟨s, hs, hsame⟩ := List.any_eq_true.mp h
    rw [← names_eq_of_same s t hsame]
    refine ⟨.inl, fun hn => hn.elim id fun hn => ?_⟩
    exact (mem_namesAll_iff n ts).mpr ⟨s, hs, hn⟩
  · simp only [mem_namesAll_iff, List.mem_append, List.mem_singleton]
    constructor
    · rintro ⟨s, hs | rfl, hn⟩
      · exact .inl ⟨s, hs, hn⟩
      · exact .inr hn
    · rintro (⟨s, hs, hn⟩ | hn)
      · exact ⟨s, .inl hs, hn⟩
      · exact ⟨t, .inr rfl, hn⟩

theorem mem_namesAll_foldl_addNew_iff (n : String) (ts acc : List TypeExpr) :
    n ∈ namesAll (ts.foldl addNew acc) ↔ n ∈ namesAll acc ∨ n ∈ namesAll ts := by
  induction ts generalizing acc with
  | nil => simp [namesAll]
  | cons t ts ih => rw [List.foldl_cons, ih, mem_namesAll_addNew_iff, namesAll, List.mem_append, or_assoc]

theorem mem_namesAll_parts_iff (n : String) (t : TypeExpr) : n ∈ namesAll t.parts ↔ n ∈ t.names := by
  unfold parts
  split <;> simp [names, namesAll]

theorem mem_names_unionOf_iff (n : String) (ts : List TypeExpr) :
    n ∈ (unionOf ts).names ↔ ∃ t ∈ ts, n ∈ t.names := by
  have hparts : ∀ ps, (ofParts ps).names = namesAll ps := by
    intro ps
    unfold ofParts
    split <;> simp [names, namesAll]
  rw [unionOf, hparts, mem_namesAll_foldl_addNew_iff]
  simp only [namesAll, List.not_mem_nil, false_or, mem_namesAll_iff, List.mem_flatMap]
  constructor
  · rintro ⟨s, ⟨t, ht, hs⟩, hn⟩
    exact ⟨t, ht, (mem_namesAll_parts_iff n t).mp ((mem_namesAll_iff n _).mpr ⟨s, hs, hn⟩)⟩
  · rintro ⟨t, ht, hn⟩
    obtain ⟨s, hs, hn⟩ := (mem_namesAll_iff n _).mp ((mem_namesAll_parts_iff n t).mpr hn)
    exact ⟨s, ⟨t, ht, hs⟩, hn⟩

end TypeExpr

def nullableShape (isNullable : Bool) (t : TypeExpr) : TypeExpr :=
  if isNullable then .union [t, .null] else t

def returnShape (entity : String) (action : Action) (nullable : Option Bool) : TypeExpr :=
  if action.isBulk then .generic "Promise" [.ref "BatchPayload"]
  else
    let isNullable := nullable.getD action.mayMiss
    let plain := nullableShape isNullable (.ref entity)
    let projected := nullableShape isNullable (.generic (payloadName entity) [.ref "T"])
    if action = .findMany then
      .generic "CheckSelect"
        [.ref "T", .generic "Promise" [.generic "Array" [plain]],
          .generic "Promise" [.generic "Array" [projected]]]
    else
      .generic "CheckSelect"
        [.ref "T", .generic (clientName entity) [plain], .generic (clientName entity) [projected]]

theorem render_nullableShape (isNullable : Bool) (t : TypeExpr) :
    (nullableShape isNullable t).render = t.render ++ if isNullable then " | null" else "" := by
  cases isNullable with
  | true =>
    simp only [nullableShape, TypeExpr.render, TypeExpr.renderAll, if_true, Text.intercalate,
      List.intercalate_cons_cons, List.intercalate_singleton, List.append_assoc]
    rfl
  | false => simp [nullableShape, Text.ofString_empty]

theorem render_returnShape (entity : String) (action : Action) (nullable : Option Bool) :
    (returnShape entity action nullable).render = returnType entity action nullable := by
  unfold returnShape returnType
  by_cases hbulk : action.isBulk
  · rw [if_pos hbulk, if_pos hbulk]
    rfl
  · rw [if_neg hbulk, if_neg hbulk]
    by_cases hmany : action = .findMany
    · simp only [if_pos hmany]
      simp [TypeExpr.render, TypeExpr.renderAll, render_nullableShape, Text.ofString]
    · simp only [if_neg hmany]
      simp [TypeExpr.render, TypeExpr.renderAll, render_nullableShape, Text.ofString]

def returnHelpers : List String := ["CheckSelect", "T", "Promise", "Array", "BatchPayload"]

def returnRoles : List Role := [.value, .payload, .client]

theorem mem_names_nullableShape_iff (n : String) (isNullable : Bool) (t : TypeExpr) :
    n ∈ (nullableShape isNullable t).names ↔ n ∈ t.names := by
  cases isNullable <;> simp [nullableShape, TypeExpr.names, TypeExpr.namesAll]

theorem mem_names_returnShape {n entity : String} {action : Action} {nullable : Option Bool}
    (h : n ∈ (returnShape entity action nullable).names) :
    n ∈ returnHelpers ∨ ∃ role ∈ returnRoles, n = identifier role entity := by
  have hnames : n ∈ returnHelpers ∨ n = entity ∨ n = payloadName entity ∨ n = clientName entity := by
    unfold returnShape at h
    split at h
    · simp only [TypeExpr.names, TypeExpr.namesAll, List.mem_cons, List.append_nil, List.not_mem_nil,
        or_false] at h
      rcases h with rfl | rfl
      · exact .inl (by decide)
      · exact .inl (by decide)
    · dsimp only at h
      split at h <;>
        simp only [TypeExpr.names, TypeExpr.namesAll, List.mem_cons, List.mem_append, List.append_nil,
          List.not_mem_nil, mem_names_nullableShape_iff, or_false] at h <;>
        simp only [returnHelpers, List.mem_cons] <;> tauto
  rcases hnames with hn | rfl | rfl | rfl
  · exact .inl hn
  · exact .inr ⟨.value, by decide, (identifier_value _).symm⟩
  · exact .inr ⟨.payload, by decide, rfl⟩
  · exact .inr ⟨.client, by decide, rfl⟩

namespace OutputField

def accessorShape (f : OutputField) : TypeExpr :=
  if f.target.isList then returnShape f.target.type .findMany none
  else returnShape f.target.type .findOne (some (! f.target.isRequired))

theorem render_accessorShape (f : OutputField) : f.accessorShape.render = f.accessorReturn := by
  unfold accessorShape accessorReturn
  split
  · exact render_returnShape _ _ _
  · exact render_returnShape _ _ _

theorem mem_names_accessorShape {f : OutputField} {n : String} (h : n ∈ f.accessorShape.names) :
    n ∈ returnHelpers ∨ ∃ role ∈ returnRoles, n = identifier role f.target.type := by
  unfold accessorShape at h
  split at h
  · exact mem_names_returnShape h
  · exact mem_names_returnShape h

theorem mem_names_relationSelector_iff (f : OutputField) (n : String) :
    n ∈ f.relationSelector.names ↔ n = "boolean" ∨ n = f.argsName := by
  simp [relationSelector, TypeExpr.mem_names_unionOf_iff, TypeExpr.names]

end OutputField

theorem Branch.mem_names_payloadRef_iff (b : Branch) (way : Projection) (n : String) :
    n ∈ (b.payloadRef way).names ↔ n = payloadName b.target ∨ n = "S['" ++ way.key ++ "'][P]" := by
  unfold payloadRef wrap
  split
  · simp [TypeExpr.names, TypeExpr.namesAll]
  · split
    · simp [TypeExpr.names, TypeExpr.namesAll]
    · simp [TypeExpr.orNull, TypeExpr.mem_names_unionOf_iff, TypeExpr.names, TypeExpr.namesAll]

theorem type_selectorArgument (name comment : String) {type : String} (h : type ≠ "null") :
    (selectorArgument name type comment).type = .union [.ref type, .null] := by
  have htargets : (selectorArgument name type comment).targets = [type] := rfl
  have hnull : ("null" == type) = false := by simpa using h.symm
  have htype : Argument.targetType type = .ref type := by simp [Argument.targetType, h]
  simp only [Argument.type, Argument.hasNull, htargets, List.map_singleton, htype, List.contains_cons, hnull]
  rfl

theorem type_selectArgument (entity : String) :
    (selectArgument entity).type = .union [.ref (selectName entity), .null] :=
  type_selectorArgument _ _ (append_ne_of_not_suffix (by decide))

theorem type_includeArgument (entity : String) :
    (includeArgument entity).type = .union [.ref (includeName entity), .null] :=
  type_selectorArgument _ _ (append_ne_of_not_suffix (by decide))

end TypedClient
