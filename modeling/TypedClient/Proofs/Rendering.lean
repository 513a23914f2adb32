import TypedClient.Proofs.Traversal
import TypedClient.Proofs.Validity
import TypedClient.Rendition.Types

set_option autoImplicit false

namespace TypedClient.Document

variable {d : Document}

def servingField (d : Document) (entity : String) (s : Action × Text) :
    Except Inconsistency OutputField :=
  match d.rootField? s.2 with
  | some f => .ok f
  | none => .error (.noRootField s.1 entity s.2)

theorem servingField_eq_ok_iff {entity : String} {s : Action × Text} {f : OutputField} :
    d.servingField entity s = .ok f ↔ d.rootField? s.2 = some f := by
  unfold servingField
  cases d.rootField? s.2 <;> simp

theorem servingField_eq_error_iff {entity : String} {s : Action × Text} {cause : Inconsistency} :
    d.servingField entity s = .error cause ↔
      d.rootField? s.2 = none ∧ cause = .noRootField s.1 entity s.2 := by
  unfold servingField
  cases d.rootField? s.2 <;> simp [eq_comm]

theorem servedArgs_eq (e : Entity) (ss : List (Action × Text)) :
    d.servedArgs e ss = ss.mapM fun s =>
      (d.servingField e.name s).map fun root => e.argsDeclaration (some s.1) root.args := by
  induction ss with
  | nil => rfl
  | cons s ss ih =>
    rw [servedArgs, List.mapM_cons, ← ih, servingField]
    cases d.rootField? s.2 with
    | none => rfl
    | some root => cases d.servedArgs e ss <;> rfl

theorem delegateMethods_eq (e : Entity) (m : Mapping) (ss : List (Action × Text)) :
    d.delegateMethods e m ss = ss.mapM fun s =>
      (d.servingField e.name s).map fun _ => e.delegateMethod m s.1 := by
  induction ss with
  | nil => rfl
  | cons s ss ih =>
    rw [delegateMethods, List.mapM_cons, ← ih, servingField]
    cases d.rootField? s.2 with
    | none => rfl
    | some root => cases d.delegateMethods e m ss <;> rfl

theorem allDeclarations_eq (es : List Entity) :
    d.allDeclarations es = es.mapM d.entityDeclarations := by
  induction es with
  | nil => rfl
  | cons e es ih =>
    rw [allDeclarations, List.mapM_cons, ih]

/-- Every action that is mapped for a record type is served by a field that lookups find: one of the last
output type of a root type's name. -/
def Resolves (d : Document) (entity : String) : Prop :=
  ∀ m, d.mapping? entity = some m → ∀ s ∈ m.served,
    ∃ root ∈ rootTypeNames, ∃ t, d.outputType? root = some t ∧ s.2 ∈ t.fields.map (·.name)

theorem resolves_iff {entity : String} :
    d.Resolves entity ↔
      ∀ s ∈ (d.mapping? entity).elim [] (·.served), (d.rootField? s.2).isSome := by
  simp only [Resolves, rootField?_isSome_iff]
  cases d.mapping? entity <;> simp

section Served

variable {β : Type} (entity : String) (make : Action × Text → OutputField → β)
  (ss : List (Action × Text))

theorem mapM_servingField_isOk_iff :
    (∃ ys, ss.mapM (fun s => (d.servingField entity s).map (make s)) = .ok ys) ↔
      ∀ s ∈ ss, (d.rootField? s.2).isSome := by
  rw [mapM_isOk_iff]
  refine forall_congr' fun s => forall_congr' fun _ => ?_
  simp only [except_map_eq_ok_iff, servingField_eq_ok_iff, Option.isSome_iff_exists]
  constructor
  · rintro ⟨_, f, hf, _⟩
    exact ⟨f, hf⟩
  · rintro ⟨f, hf⟩
    exact ⟨make s f, f, hf, rfl⟩

theorem mapM_servingField_error {cause : Inconsistency}
    (h : ss.mapM (fun s => (d.servingField entity s).map (make s)) = .error cause) :
    ∃ s ∈ ss, d.rootField? s.2 = none ∧ cause = .noRootField s.1 entity s.2 := by
  obtain ⟨s, hs, hc⟩ := mapM_eq_error h
  exact ⟨s, hs, servingField_eq_error_iff.mp ((except_map_eq_error_iff _ _ _).mp hc)⟩

end Served

/-- A lookup that fails for a record type: one of an action that is mapped for it. -/
def Misses (d : Document) (e : Entity) (cause : Inconsistency) : Prop :=
  ∃ m, d.mapping? e.name = some m ∧
    ∃ s ∈ m.served, d.rootField? s.2 = none ∧ cause = .noRootField s.1 e.name s.2

theorem entityArgs_isOk_iff {e : Entity} :
    (∃ as, d.entityArgs e = .ok as) ↔ d.Resolves e.name := by
  rw [resolves_iff, ← mapM_servingField_isOk_iff e.name fun s root =>
    e.argsDeclaration (some s.1) root.args, ← servedArgs_eq]
  simp only [entityArgs, except_map_eq_ok_iff]
  constructor
  · rintro ⟨_, as, h, _⟩
    exact ⟨as, h⟩
  · rintro ⟨as, h⟩
    exact ⟨_, as, h, rfl⟩

theorem entityArgs_error {e : Entity} {cause : Inconsistency} (h : d.entityArgs e = .error cause) :
    d.Misses e cause := by
  rw [entityArgs, except_map_eq_error_iff, servedArgs_eq] at h
  obtain ⟨s, hs, hc⟩ := mapM_servingField_error _ _ _ h
  cases hm : d.mapping? e.name with
  | none => simp [hm] at hs
  | some m => exact ⟨m, hm, s, by simpa [hm] using hs, hc⟩

theorem delegate_isOk {e : Entity} (h : d.Resolves e.name) : ∃ r, d.delegate e = .ok r := by
  rw [resolves_iff] at h
  unfold delegate
  cases hm : d.mapping? e.name with
  | none => exact ⟨none, rfl⟩
  | some m =>
    rw [hm] at h
    by_cases hs : m.served.isEmpty
    · exact ⟨none, by simp [hs]⟩
    · obtain ⟨ms, hms⟩ := (mapM_servingField_isOk_iff e.name (fun s _ => e.delegateMethod m s.1)
        (m.served.filter (·.1.isMethod))).mpr fun s hf => h s (List.mem_of_mem_filter hf)
      rw [← delegateMethods_eq] at hms
      exact ⟨some ⟨e.name, ms, e.countArgs m⟩, by simp [hs, hms, Except.map]⟩

theorem delegate_error {e : Entity} {cause : Inconsistency} (h : d.delegate e = .error cause) :
    d.Misses e cause := by
  unfold delegate at h
  cases hm : d.mapping? e.name with
  | none => simp [hm] at h
  | some m =>
    by_cases hs : m.served.isEmpty
    · simp [hm, hs] at h
    · simp only [hm, hs, Bool.false_eq_true, if_false, except_map_eq_error_iff,
        delegateMethods_eq] at h
      obtain ⟨s, hf, hc⟩ := mapM_servingField_error _ _ _ h
      exact ⟨m, hm, s, List.mem_of_mem_filter hf, hc⟩

theorem entityDeclarations_eq_ok_iff {e : Entity} {x : EntityDeclarations} :
    d.entityDeclarations e = .ok x ↔
      x.entity = e ∧ d.outputType? e.name = some x.outputType ∧ d.delegate e = .ok x.delegate ∧
        d.entityArgs e = .ok x.args := by
  simp only [entityDeclarations, except_bind_eq_ok_iff, outputType_eq_ok_iff, pure, Except.pure,
    Except.ok.injEq]
  constructor
  · rintro ⟨t, ht, r, hr, as, has, rfl⟩
    exact ⟨rfl, ht, hr, has⟩
  · rintro ⟨rfl, ht, hr, has⟩
    exact ⟨_, ht, _, hr, _, has, rfl⟩

theorem entityDeclarations_isOk_iff {e : Entity} :
    (∃ x, d.entityDeclarations e = .ok x) ↔
      (∃ t, d.outputType? e.name = some t) ∧ d.Resolves e.name := by
  simp only [entityDeclarations_eq_ok_iff]
  constructor
  · rintro ⟨x, -, ht, -, has⟩
    exact ⟨⟨_, ht⟩, entityArgs_isOk_iff.mp ⟨_, has⟩⟩
  · rintro ⟨⟨t, ht⟩, hres⟩
    obtain ⟨r, hr⟩ := delegate_isOk hres
    obtain ⟨as, has⟩ := entityArgs_isOk_iff.mpr hres
    exact ⟨⟨e, t, r, as⟩, rfl, ht, hr, has⟩

theorem entityDeclarations_error {e : Entity} {cause : Inconsistency}
    (h : d.entityDeclarations e = .error cause) :
    (d.outputType? e.name = none ∧ cause = .noOutputType e.name) ∨ d.Misses e cause := by
  simp only [entityDeclarations, except_bind_eq_error_iff, pure, Except.pure] at h
  rcases h with ht | ⟨_, _, hr | ⟨_, _, has | ⟨_, _, hnever⟩⟩⟩
  · refine .inl ?_
    unfold outputType at ht
    cases ho : d.outputType? e.name <;> simp [ho, eq_comm] at ht ⊢
    exact ht
  · exact .inr (delegate_error hr)
  · exact .inr (entityArgs_error has)
  · cases hnever

theorem tsText_eq_ok_iff {s : Settings} {text : Text} :
    d.tsText s = .ok text ↔
      ∃ xs, d.allDeclarations d.entities = .ok xs ∧ Passage.joined (d.tsPassagesWith s xs) = text := by
  simp only [tsText, tsPassages, except_map_eq_ok_iff]
  constructor
  · rintro ⟨_, ⟨xs, hxs, rfl⟩, h⟩
    exact ⟨xs, hxs, h⟩
  · rintro ⟨xs, hxs, h⟩
    exact ⟨_, ⟨xs, hxs, rfl⟩, h⟩

theorem allDeclarations_isOk_iff :
    (∃ xs, d.allDeclarations d.entities = .ok xs) ↔
      ∀ e ∈ d.entities, (∃ t, d.outputType? e.name = some t) ∧ d.Resolves e.name := by
  rw [allDeclarations_eq, mapM_isOk_iff]
  exact forall_congr' fun e => forall_congr' fun _ => entityDeclarations_isOk_iff

theorem tsText_isOk_iff (s : Settings) :
    (∃ text, d.tsText s = .ok text) ↔
      ∀ e ∈ d.entities, (∃ t, d.outputType? e.name = some t) ∧ d.Resolves e.name := by
  rw [← allDeclarations_isOk_iff]
  simp only [tsText_eq_ok_iff]
  constructor
  · rintro ⟨_, xs, hxs, _⟩
    exact ⟨xs, hxs⟩
  · rintro ⟨xs, hxs⟩
    exact ⟨_, xs, hxs, rfl⟩

theorem tsText_error {s : Settings} {cause : Inconsistency} (h : d.tsText s = .error cause) :
    ∃ e ∈ d.entities,
      (d.outputType? e.name = none ∧ cause = .noOutputType e.name) ∨ d.Misses e cause := by
  rw [tsText, except_map_eq_error_iff, tsPassages, except_map_eq_error_iff, allDeclarations_eq] at h
  obtain ⟨e, he, hc⟩ := mapM_eq_error h
  exact ⟨e, he, entityDeclarations_error hc⟩

/-- A field that passes for served though lookups do not find it belongs to an output type of a root type's
name that a later one of the same name replaces. -/
theorem exists_replaced_of_served {field : Text} (h : field ∈ d.servedFields)
    (hf : d.rootField? field = none) :
    ∃ t ∈ d.schema.outputTypes, t.name ∈ rootTypeNames ∧ field ∈ t.fields.map (·.name) ∧
      d.outputType? t.name ≠ some t := by
  obtain ⟨t, ht, hr, hm⟩ := mem_servedFields_iff.mp h
  refine ⟨t, ht, hr, List.mem_map.mpr hm, fun ho => ?_⟩
  have := rootField?_isSome_iff.mpr ⟨t.name, hr, t, ho, hm⟩
  simp [hf] at this

theorem Valid.mem_servedFields {extra : List String} (hv : d.Valid extra) {entity : String} {m : Mapping}
    (hm : d.mapping? entity = some m) {s : Action × Text} (hs : s ∈ m.served) :
    s.2 ∈ d.servedFields := by
  refine hv.served m (mem_usedMappings_iff.mpr ?_) s hs
  rw [(mapping?_eq_some hm).2, hm]

theorem Valid.tsText_isOk_iff {extra : List String} (hv : d.Valid extra) (s : Settings) :
    (∃ text, d.tsText s = .ok text) ↔ ∀ e ∈ d.entities, d.Resolves e.name := by
  rw [Document.tsText_isOk_iff]
  refine forall_congr' fun e => forall_congr' fun he => and_iff_right ?_
  obtain ⟨t, ht, -⟩ := hv.outputs e he
  exact ⟨t, ht⟩

theorem Valid.misses {extra : List String} (hv : d.Valid extra) {s : Settings} {cause : Inconsistency}
    (h : d.tsText s = .error cause) : ∃ e ∈ d.entities, d.Misses e cause := by
  obtain ⟨e, he, ⟨hnone, -⟩ | hmiss⟩ := tsText_error h
  · obtain ⟨t, ht, -⟩ := hv.outputs e he
    simp [hnone] at ht
  · exact ⟨e, he, hmiss⟩

/-- The type declarations of an accepted document are made exactly when every mapped action is served by a
field that lookups find. When they are not, a mapped action was not found: its field belongs to an output
type of a root type's name that a later one of that name replaces, and to none that lookups see. -/
theorem tsText_of_ensureValid (d : Document) (checked : Option Settings) (fs : Findings) (s : Settings)
    (h : d.ensureValid checked = .ok fs) :
    ((∃ text, d.tsText s = .ok text) ↔ ∀ e ∈ d.entities, d.Resolves e.name) ∧
      ∀ cause, d.tsText s = .error cause → ∃ e ∈ d.entities, ∃ m, d.mapping? e.name = some m ∧
        ∃ action field, m.fieldFor action = some field ∧ cause = .noRootField action e.name field ∧
          (∃ t ∈ d.schema.outputTypes, t.name ∈ rootTypeNames ∧ field ∈ t.fields.map (·.name) ∧
            d.outputType? t.name ≠ some t) ∧
          ∀ root ∈ rootTypeNames, ∀ t, d.outputType? root = some t →
            field ∉ t.fields.map (·.name) := by
  have hv := (ensureValid_isOk_iff checked).mp ⟨fs, h⟩
  refine ⟨hv.tsText_isOk_iff s, fun cause hc => ?_⟩
  obtain ⟨e, he, m, hm, ⟨action, field⟩, hs, hf, rfl⟩ := hv.misses hc
  refine ⟨e, he, m, hm, action, field, (m.mem_served_iff action field).mp hs, rfl, ?_, ?_⟩
  · exact exists_replaced_of_served (hv.mem_servedFields hm hs) hf
  · intro root hr t ht hmem
    have := rootField?_isSome_iff.mpr ⟨root, hr, t, ht, List.mem_map.mp hmem⟩
    simp [hf] at this

/-- Two output types have the name of one root type, and only the first of them has the mapped field. -/
def replacedRoot : Document where
  datamodel.entities := [tag]
  schema.outputTypes :=
    [tagOutput,
      ⟨"Query", [{ name := "findManyTag", target := { type := "Tag", kind := .object, isList := true } }]⟩,
      ⟨"Query", [{ name := "version", target := { type := "String" } }]⟩]
  mappings := [{ entity := "Tag", plural := "tags", findMany := some "findManyTag" }]

theorem replacedRoot_accepted : ∃ fs, replacedRoot.ensureValid (some {}) = .ok fs :=
  ensureValid_isOk_of_numbers (by decide +kernel)

/-- The document with the replaced root type is read and accepted, and then a lookup fails. -/
theorem replacedRoot_not_rendered :
    Document.read (.ofJson (replacedRoot.toJson .usual)) = .ok replacedRoot ∧
      (∃ fs, replacedRoot.ensureValid (some {}) = .ok fs) ∧
      replacedRoot.tsText {} = .error (.noRootField .findMany "Tag" "findManyTag") :=
  ⟨(Reading.toOption_eq_some_iff _ _).mp (by decide +kernel), replacedRoot_accepted, rfl⟩

theorem replacedRoot_unresolved :
    (∃ fs, replacedRoot.ensureValid (some {}) = .ok fs) ∧
      ¬ ∀ e ∈ replacedRoot.entities, replacedRoot.Resolves e.name := by
  have herror : replacedRoot.tsText {} = .error (.noRootField .findMany "Tag" "findManyTag") := rfl
  obtain ⟨fs, hok⟩ := replacedRoot_accepted
  refine ⟨⟨fs, hok⟩, fun hres => ?_⟩
  obtain ⟨text, ht⟩ := (tsText_of_ensureValid replacedRoot (some {}) fs {} hok).1.mpr hres
  cases herror.symm.trans ht

end TypedClient.Document
