import TypedClient.Proofs.Emission
import TypedClient.Proofs.References

set_option autoImplicit false

namespace TypedClient

namespace OutputType

def selectArgs (t : OutputType) : List String := t.selectShape.names.filter (· ≠ "boolean")

def includeArgs (t : OutputType) : List String :=
  (t.includeShape.elim [] (·.names)).filter (· ≠ "boolean")

def accessorArgs (t : OutputType) : List String := t.relations.map (·.argsName)

theorem mem_selectArgs {t : OutputType} {n : String} (h : n ∈ t.selectArgs) : n ∈ t.accessorArgs := by
  obtain ⟨hn, hne⟩ := List.mem_filter.mp h
  rw [selectShape, TypeExpr.names, TypeExpr.mem_namesMembers_iff] at hn
  obtain ⟨_, hm, hn⟩ := hn
  obtain ⟨f, hf, rfl⟩ := List.mem_map.mp hm
  dsimp only at hn
  split at hn
  · next hr =>
    rcases (f.mem_names_relationSelector_iff n).mp hn with rfl | rfl
    · simp at hne
    · exact List.mem_map.mpr ⟨f, List.mem_filter.mpr ⟨hf, hr⟩, rfl⟩
  · simp [TypeExpr.names] at hn
    simp [hn] at hne

theorem mem_includeArgs {t : OutputType} {n : String} (h : n ∈ t.includeArgs) :
    n ∈ t.accessorArgs := by
  obtain ⟨hn, hne⟩ := List.mem_filter.mp h
  unfold includeShape at hn
  split at hn
  · simp at hn
  · rw [Option.elim_some, TypeExpr.names, TypeExpr.mem_namesMembers_iff] at hn
    obtain ⟨_, hm, hn⟩ := hn
    obtain ⟨f, hf, rfl⟩ := List.mem_map.mp hm
    rcases (f.mem_names_relationSelector_iff n).mp hn with rfl | rfl
    · simp at hne
    · exact List.mem_map.mpr ⟨f, hf, rfl⟩

end OutputType

def Payload.boundArgs (p : Payload) : List String := [p.argsName, p.findManyArgsName]

def Delegate.methodArgs (del : Delegate) : List String :=
  del.methods.map (·.argsName) ++ [del.countArgs]

namespace Document

variable {d : Document}

def argsReferences (d : Document) (e : Entity) : List String :=
  (match d.outputType? e.name with
    | none => []
    | some t => t.selectArgs ++ t.includeArgs ++ t.accessorArgs ++ t.payload.boundArgs)
    ++ (match d.delegate e with
      | .ok (some del) => del.methodArgs
      | _ => [])

def DeclaresArgs (d : Document) (name : String) : Prop :=
  ∃ e ∈ d.entities, ∃ as, d.entityArgs e = .ok as ∧ name ∈ as.map (·.name)

theorem Valid.declaresArgs_iff {extra : List String} (hv : d.Valid extra) {entity : String}
    (he : entity ∈ d.entityNames) (action : Option Action) :
    d.DeclaresArgs (argsName entity action) ↔
      d.Resolves entity ∧ ∀ a ∈ action, a ∈ d.mappedActions entity := by
  constructor
  · rintro ⟨e, hmem, as, has, hn⟩
    have hname : e.name ∈ d.entityNames := List.mem_map.mpr ⟨e, hmem, rfl⟩
    have hres := entityArgs_isOk_iff.mp ⟨as, has⟩
    rcases (argsName_mem_entityArgs_iff has _).mp hn with heq | ⟨a, ha, heq⟩
    · obtain ⟨hrole, rfl⟩ := identifier_inj hv.names he hname heq
      cases hrole
      exact ⟨hres, by simp⟩
    · obtain ⟨hrole, rfl⟩ := identifier_inj hv.names he hname heq
      cases hrole
      exact ⟨hres, by simpa using ha⟩
  · rintro ⟨hres, ha⟩
    obtain ⟨e, hmem, rfl⟩ := List.mem_map.mp he
    obtain ⟨as, has⟩ := entityArgs_isOk_iff.mpr hres
    refine ⟨e, hmem, as, has, (argsName_mem_entityArgs_iff has _).mpr ?_⟩
    cases action with
    | none => exact .inl rfl
    | some a => exact .inr ⟨a, ha a rfl, rfl⟩

theorem mem_methodArgs {e : Entity} {del : Delegate} (h : d.delegate e = .ok (some del)) {n : String}
    (hn : n ∈ del.methodArgs) :
    ∃ action, n = argsName e.name action ∧ ∀ a ∈ action, a ∈ d.mappedActions e.name := by
  obtain ⟨m, hm, rfl⟩ := exists_mapping_of_delegate h
  have hmapped : d.mappedActions e.name = m.actions := by rw [mappedActions, hm, Option.elim_some]
  rw [hmapped]
  rcases List.mem_append.mp hn with hn | hn
  · rw [List.map_map] at hn
    obtain ⟨a, ha, rfl⟩ := List.mem_map.mp hn
    exact ⟨some a, rfl, by simpa using List.mem_of_mem_filter ha⟩
  · refine ⟨_, List.mem_singleton.mp hn, fun a ha => ?_⟩
    split at ha
    · next hmany =>
      cases ha
      exact (m.mem_actions_iff _).mpr hmany
    · cases ha

theorem mem_argsReferences_iff {e : Entity} {t : OutputType} (ht : d.outputType? e.name = some t)
    {n : String} :
    n ∈ d.argsReferences e ↔ n ∈ t.accessorArgs ∨ n ∈ t.payload.boundArgs ∨
      ∃ del, d.delegate e = .ok (some del) ∧ n ∈ del.methodArgs := by
  have hdel : (n ∈ (match d.delegate e with
      | .ok (some del) => del.methodArgs
      | _ => [])) ↔ ∃ del, d.delegate e = .ok (some del) ∧ n ∈ del.methodArgs := by
    rcases d.delegate e with _ | _ | del <;> simp
  simp only [argsReferences, ht, List.mem_append, hdel]
  constructor
  · rintro ((((hn | hn) | hn) | hn) | hn)
    · exact .inl (OutputType.mem_selectArgs hn)
    · exact .inl (OutputType.mem_includeArgs hn)
    · exact .inl hn
    · exact .inr (.inl hn)
    · exact .inr (.inr hn)
  · rintro (hn | hn | hn)
    · exact .inl (.inl (.inr hn))
    · exact .inl (.inr hn)
    · exact .inr hn

/-- Listing is mapped for a record type, and its argument types can be made. -/
def Lists (d : Document) (entity : String) : Prop :=
  d.Resolves entity ∧ Action.findMany ∈ d.mappedActions entity

theorem Valid.declares_boundArgs_iff {extra : List String} (hv : d.Valid extra) {p : Payload}
    (hp : p.entity ∈ d.entityNames) :
    (∀ n ∈ p.boundArgs, d.DeclaresArgs n) ↔ d.Lists p.entity := by
  simp only [Payload.boundArgs, List.forall_mem_cons, Payload.argsName, Payload.findManyArgsName,
    hv.declaresArgs_iff hp, Lists]
  simp

theorem Valid.declares_accessorArgs_iff {extra : List String} (hv : d.Valid extra) {t : OutputType}
    (ht : ∀ f ∈ t.relations, f.target.type ∈ d.entityNames) :
    (∀ n ∈ t.accessorArgs, d.DeclaresArgs n) ↔ ∀ f ∈ t.relations,
      if f.target.isList then d.Lists f.target.type else d.Resolves f.target.type := by
  rw [OutputType.accessorArgs, List.forall_mem_map]
  refine forall_congr' fun f => forall_congr' fun hf => ?_
  rw [OutputField.argsName, relationArgsName, hv.declaresArgs_iff (ht f hf)]
  split
  · simp [Lists]
  · simp

/-- In an accepted document, the argument types that the declarations of a record type refer to are all
declared exactly when its records and those of every relation to many can be listed, and the argument types
for every other relation can be made. -/
theorem argsReferences_of_ensureValid (d : Document) (checked : Option Settings) (fs : Findings)
    (h : d.ensureValid checked = .ok fs) (e : Entity) (he : e ∈ d.entities) :
    (∀ n ∈ d.argsReferences e, d.DeclaresArgs n) ↔
      d.Lists e.name ∧ ∀ t, d.outputType? e.name = some t → ∀ f ∈ t.relations,
        if f.target.isList then d.Lists f.target.type else d.Resolves f.target.type := by
  have hv := (ensureValid_isOk_iff checked).mp ⟨fs, h⟩
  obtain ⟨t, ht, htargets⟩ := hv.outputs e he
  have hname : t.payload.entity = e.name := (outputType?_eq_some ht).2
  have hmem : e.name ∈ d.entityNames := List.mem_map_of_mem he
  have hbound := hv.declares_boundArgs_iff (p := t.payload) (hname ▸ hmem)
  rw [hname] at hbound
  simp only [mem_argsReferences_iff ht, ht, Option.some.injEq, forall_eq']
  rw [← hv.declares_accessorArgs_iff htargets, ← hbound]
  constructor
  · intro hall
    exact ⟨fun n hn => hall n (.inr (.inl hn)), fun n hn => hall n (.inl hn)⟩
  -- The delegate adds nothing: its methods are those of mapped actions, and counting has a fallback.
  · rintro ⟨hb, ha⟩ n (hn | hn | ⟨del, hdel, hn⟩)
    · exact ha n hn
    · exact hb n hn
    · obtain ⟨action, rfl, hmapped⟩ := mem_methodArgs hdel hn
      exact (hv.declaresArgs_iff hmem action).mpr ⟨(hbound.mp hb).1, hmapped⟩

def unmapped : Document where
  datamodel.entities := [tag]
  schema.outputTypes := [tagOutput]

theorem unmapped_accepted : ∃ fs, unmapped.ensureValid (some {}) = .ok fs :=
  ensureValid_isOk_of_numbers (by decide +kernel)

/-- The document without mappings is read and accepted. Its payload refers to an argument type that no record
type has. -/
theorem unmapped_undeclared :
    Document.read (.ofJson (unmapped.toJson .usual)) = .ok unmapped ∧
      (∃ fs, unmapped.ensureValid (some {}) = .ok fs) ∧
      tag ∈ unmapped.entities ∧ "FindManyTagArgs" ∈ unmapped.argsReferences tag ∧
      ¬ unmapped.DeclaresArgs "FindManyTagArgs" := by
  refine ⟨(Reading.toOption_eq_some_iff _ _).mp (by decide +kernel), unmapped_accepted, by decide,
    by decide +kernel, ?_⟩
  rintro ⟨e, he, as, has, hn⟩
  obtain rfl : e = tag := List.mem_singleton.mp he
  cases has.symm.trans (show unmapped.entityArgs tag = .ok [tag.argsDeclaration none []] from rfl)
  revert hn
  decide

theorem unmapped_references :
    (∃ fs, unmapped.ensureValid (some {}) = .ok fs) ∧
      tag ∈ unmapped.entities ∧ ¬ ∀ n ∈ unmapped.argsReferences tag, unmapped.DeclaresArgs n := by
  obtain ⟨fs, hok⟩ := unmapped_accepted
  have hmem : tag ∈ unmapped.entities := by decide
  refine ⟨⟨fs, hok⟩, hmem, fun hall => ?_⟩
  have hlists := (argsReferences_of_ensureValid unmapped (some {}) fs hok tag hmem).mp hall
  exact absurd hlists.1.2 (by decide)

end Document

end TypedClient
