import TypedClient.Check.Defect
import TypedClient.Proofs.Collision
import TypedClient.Proofs.Loading
import TypedClient.Proofs.Lookup
import TypedClient.Schema.Write

set_option autoImplicit false

namespace TypedClient

/-- What a document without errors satisfies; `extra` holds the names that the settings add. -/
structure Document.Valid (d : Document) (extra : List String) : Prop where
  /-- Every record type has an output type whose relations lead to record types. -/
  outputs : ∀ e ∈ d.entities, ∃ t, d.outputType? e.name = some t ∧
    ∀ f ∈ t.relations, f.target.type ∈ d.entityNames
  /-- Every relation of a record type is a relation of its output type. -/
  relations : ∀ e ∈ d.entities, ∀ t, d.outputType? e.name = some t →
    ∀ f ∈ e.relations, ∃ g, t.field? f.name = some g ∧ g.isRelation
  /-- Every action of a mapping in use is served by a field of some root type. -/
  served : ∀ m ∈ d.usedMappings, ∀ s ∈ m.served, s.2 ∈ d.servedFields
  /-- The declared names and the derived identifiers are all different. -/
  names : (d.reservedNames extra ++ (derivedFrom d.entityNames).map (·.name)).Nodup

namespace Defect

def Harmless (ds : List Defect) : Prop := ∀ x ∈ ds, x.level ≠ .error

instance (ds : List Defect) : Decidable (Harmless ds) := inferInstanceAs (Decidable (∀ x ∈ ds, x.level ≠ .error))

@[simp] theorem harmless_nil : Harmless [] := by simp [Harmless]

@[simp] theorem harmless_cons (x : Defect) (ds : List Defect) :
    Harmless (x :: ds) ↔ x.level ≠ .error ∧ Harmless ds := List.forall_mem_cons

@[simp] theorem harmless_append (ds es : List Defect) :
    Harmless (ds ++ es) ↔ Harmless ds ∧ Harmless es := List.forall_mem_append

theorem harmless_flatMap {α : Type} (xs : List α) (f : α → List Defect) :
    Harmless (xs.flatMap f) ↔ ∀ x ∈ xs, Harmless (f x) := by
  simp only [Harmless, List.mem_flatMap, forall_exists_index, and_imp]
  exact ⟨fun h x hx y hy => h y x hx hy, fun h y x hx hy => h x hx y hy⟩

theorem harmless_map_filter {α : Type} (xs : List α) (test : α → Bool) (f : α → Defect)
    (herror : ∀ x, (f x).level = .error) :
    Harmless ((xs.filter test).map f) ↔ ∀ x ∈ xs, test x = false := by
  simp only [Harmless, List.forall_mem_map, herror, List.mem_filter]
  simp

theorem harmless_map {α : Type} (xs : List α) (f : α → Defect) (hlow : ∀ x, (f x).level ≠ .error) :
    Harmless (xs.map f) :=
  List.forall_mem_map.mpr fun x _ => hlow x

end Defect

namespace Document

open Defect

variable {d : Document}

theorem mem_servedFields_iff {field : Text} :
    field ∈ d.servedFields ↔
      ∃ t ∈ d.schema.outputTypes, t.name ∈ rootTypeNames ∧ ∃ f ∈ t.fields, f.name = field := by
  simp only [servedFields, List.mem_flatMap, List.mem_filter, List.contains_iff_mem, List.mem_map, and_assoc]

theorem harmless_outputTypeDefects_iff :
    Harmless d.outputTypeDefects ↔
      ∀ e ∈ d.entities, ∃ t, d.outputType? e.name = some t ∧
        ∀ f ∈ t.relations, f.target.type ∈ d.entityNames := by
  rw [outputTypeDefects, harmless_flatMap]
  refine forall_congr' fun e => forall_congr' fun _ => ?_
  cases h : d.outputType? e.name with
  | none => simp [Defect.level]
  | some t =>
    dsimp only
    rw [harmless_map_filter _ _ _ fun _ => rfl]
    simp [hasEntity]

theorem harmless_relationDefects_iff :
    Harmless d.relationDefects ↔
      ∀ e ∈ d.entities, ∀ t, d.outputType? e.name = some t →
        ∀ f ∈ e.relations, ∃ g, t.field? f.name = some g ∧ g.isRelation := by
  rw [relationDefects, harmless_flatMap]
  refine forall_congr' fun e => forall_congr' fun _ => ?_
  cases h : d.outputType? e.name with
  | none => simp
  | some t =>
    dsimp only
    rw [harmless_map_filter _ _ _ fun _ => rfl]
    simp [Option.any_eq_true]

theorem harmless_mappingDefectsAfter_iff (seen : List String) (ms : List Mapping) :
    Harmless (d.mappingDefectsAfter seen ms) ↔
      ∀ m ∈ uniqueBy Mapping.entity ms, m.entity ∉ seen →
        ∀ s ∈ m.served, s.2 ∈ d.servedFields := by
  -- The record types seen so far are those that first occurrences may no longer have.
  induction ms generalizing seen with
  | nil => simp [mappingDefectsAfter, uniqueBy]
  | cons m rest ih =>
    rw [mappingDefectsAfter, uniqueBy_cons]
    by_cases hm : m.entity ∈ seen
    · have hne : ∀ n : Mapping, n.entity ∉ seen → n.entity ≠ m.entity :=
        fun n hn he => hn (he ▸ hm)
      simp only [List.contains_iff_mem, hm, if_true, harmless_cons, ih, List.mem_cons,
        List.mem_filter, decide_eq_true_eq, Defect.level]
      constructor
      · rintro ⟨-, h⟩ n (rfl | ⟨hn, -⟩) hs
        · exact absurd hm hs
        · exact h n hn hs
      · intro h
        exact ⟨by simp, fun n hn hs => h n (.inr ⟨hn, hne n hs⟩) hs⟩
    · simp only [List.contains_iff_mem, hm, if_false, harmless_append, ih]
      rw [harmless_map_filter _ _ _ fun _ => rfl]
      simp only [List.mem_cons, List.mem_filter, decide_eq_true_eq, not_or, Bool.not_eq_false',
        List.contains_iff_mem]
      constructor
      · rintro ⟨hs, h⟩ n (rfl | ⟨hn, hne⟩) hseen
        · exact hs
        · exact h n hn ⟨hne, hseen⟩
      · intro h
        exact ⟨h m (.inl rfl) hm, fun n hn hs => h n (.inr ⟨hn, hs.1⟩) hs.2⟩

theorem harmless_mappingDefects_iff :
    Harmless d.mappingDefects ↔ ∀ m ∈ d.usedMappings, ∀ s ∈ m.served, s.2 ∈ d.servedFields := by
  rw [mappingDefects, harmless_append, harmless_mappingDefectsAfter_iff]
  simp only [List.not_mem_nil, not_false_eq_true, true_imp_iff]
  exact and_iff_left (harmless_map _ _ fun _ => by simp [Defect.level])

theorem harmless_enumDefects : Harmless d.enumDefects := by
  rw [enumDefects, harmless_flatMap]
  exact fun e _ => harmless_map _ _ fun _ => by simp [Defect.level]

theorem harmless_identifierDefects_iff (extra : List String) :
    Harmless (d.identifierDefects extra) ↔
      (d.reservedNames extra ++ (derivedFrom d.entityNames).map (·.name)).Nodup := by
  rw [← collisions_eq_nil_iff, List.eq_nil_iff_forall_not_mem]
  simp [Harmless, identifierDefects, Defect.level, List.mem_mergeSort]

theorem isValid_findings_iff (settings : Option Settings) :
    (d.findings settings).isValid = true ↔ Harmless (d.defects settings) := by
  simp [Findings.isValid, findings, Harmless, finding]

theorem ensureValid_isOk_iff_isValid (settings : Option Settings) :
    (∃ fs, d.ensureValid settings = .ok fs) ↔ (d.findings settings).isValid = true := by
  unfold ensureValid
  cases h : (d.findings settings).isValid <;> simp [h]

def numberOf (text : String) : Nat := text.toByteArray.data.toList.foldl (fun n byte => n * 0x100 + byte.toNat) 0

/-- A given document is seen to be accepted by evaluation: no check but that of the names reports an error, and the
names have different numbers, which takes less time to see than that they are different. -/
theorem ensureValid_isOk_of_numbers {settings : Option Settings}
    (h : Harmless (d.outputTypeDefects ++ d.relationDefects ++ d.mappingDefects) ∧
      ((d.reservedNames (clientNames settings) ++ (derivedFrom d.entityNames).map (·.name)).map numberOf).Nodup) :
    ∃ fs, d.ensureValid settings = .ok fs := by
  rw [ensureValid_isOk_iff_isValid, isValid_findings_iff, defects]
  simp only [harmless_append, harmless_identifierDefects_iff, harmless_enumDefects, and_true] at h ⊢
  exact ⟨h.1, h.2.of_map⟩

theorem ensureValid_isOk_iff (settings : Option Settings) :
    (∃ fs, d.ensureValid settings = .ok fs) ↔ d.Valid (clientNames settings) := by
  rw [ensureValid_isOk_iff_isValid, isValid_findings_iff, defects]
  simp only [harmless_append, harmless_outputTypeDefects_iff, harmless_relationDefects_iff,
    harmless_mappingDefects_iff, harmless_identifierDefects_iff, harmless_enumDefects, and_true]
  constructor
  · rintro ⟨⟨⟨ho, hr⟩, hs⟩, hn⟩
    exact ⟨ho, hr, hs, hn⟩
  · rintro ⟨ho, hr, hs, hn⟩
    exact ⟨⟨⟨ho, hr⟩, hs⟩, hn⟩

theorem Valid.entity?_of_mem {extra : List String} (hv : d.Valid extra) {e : Entity} (he : e ∈ d.entities) :
    d.entity? e.name = some e :=
  Document.entity?_of_mem (nodup_of_nodup_names hv.names) he

theorem Valid.entityName_notMem_reservedNames {extra : List String} (hv : d.Valid extra) {n : String}
    (hn : n ∈ d.entityNames) : n ∉ d.reservedNames extra := by
  intro hreserved
  have hderived : n ∈ (derivedFrom d.entityNames).map (·.name) :=
    List.mem_map.mpr ⟨⟨n, .value⟩, (mem_derivedFrom_iff _ _).mpr ⟨hn, Role.mem_all _⟩, identifier_value n⟩
  exact (List.nodup_append.mp hv.names).2.2 n hreserved n hderived rfl

theorem WellFormed.entity_mem_of_used (hw : d.WellFormed) {m : Mapping} (hm : m ∈ d.usedMappings) :
    m.entity ∈ d.entityNames :=
  hw.mappings m (mem_of_mem_usedMappings hm)

def tag : Entity := ⟨"Tag", [{ name := "id", kind := .scalar, type := "Int" }], [], [], none⟩

def tagOutput : OutputType := ⟨"Tag", [{ name := "id", target := { type := "Int" } }]⟩

/-- Two record types with a relation between them, both of which can be listed. -/
def blog : Document where
  datamodel.entities :=
    [⟨"User", [{ name := "id", kind := .scalar, type := "Int" },
        { name := "posts", kind := .object, type := "Post", isList := true }], [], [], none⟩,
      ⟨"Post", [{ name := "author", kind := .object, type := "User" }], [], [], none⟩]
  schema.outputTypes :=
    [⟨"User", [{ name := "id", target := { type := "Int" } },
        { name := "posts", target := { type := "Post", kind := .object, isList := true } }]⟩,
      ⟨"Post", [{ name := "author", target := { type := "User", kind := .object } }]⟩,
      ⟨"Query", [{ name := "users", target := { type := "User", kind := .object, isList := true } },
        { name := "posts", target := { type := "Post", kind := .object, isList := true } }]⟩]
  mappings :=
    [{ entity := "User", plural := "users", findMany := some "users" },
      { entity := "Post", plural := "posts", findMany := some "posts" }]

theorem blog_read : Document.read (.ofJson (blog.toJson .usual)) = .ok blog :=
  (Reading.toOption_eq_some_iff _ _).mp (by decide +kernel)

theorem blog_accepted : ∃ fs, blog.ensureValid (some {}) = .ok fs :=
  ensureValid_isOk_of_numbers (by decide +kernel)

end Document

end TypedClient
