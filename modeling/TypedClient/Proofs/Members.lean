import TypedClient.Proofs.Acceptance
import TypedClient.Proofs.Closure
import TypedClient.Proofs.SelectKeys

set_option autoImplicit false

namespace TypedClient

/-! ## The names in each kind of object type -/

theorem Entity.memberNames_valueShape (e : Entity) : e.valueShape.memberNames = e.plainFields.map (·.name) := by
  change ((e.fields.filter (! ·.isRelation)).map (·.member)).map (·.name) = _
  rw [List.map_map]
  rfl

theorem Entity.nodup_memberNames_valueShape {raw : Data} {e : Entity} (h : Entity.read raw = .ok e) :
    e.valueShape.memberNames.Nodup := by
  obtain ⟨entries, rfl, -⟩ := Reading.object_eq_ok h
  have hfields := ((Entity.breach?_eq_none_iff e).mp ((Entity.read_eq_ok_iff entries e).mp h).2).1
  rw [e.memberNames_valueShape]
  exact hfields.sublist (List.filter_sublist.map _)

theorem OutputType.memberNames_includeShape {t : OutputType} {shape : TypeExpr} (h : t.includeShape = some shape) :
    shape.memberNames = t.relations.map (·.name) := by
  unfold includeShape at h
  split at h
  · cases h
  · cases h
    simp [TypeExpr.memberNames, TypeExpr.members, Function.comp_def]

theorem InputType.nodup_memberNames_shape (t : InputType) : t.shape.memberNames.Nodup := by
  change ((t.usedFields.map (·.member)).map (·.name)).Nodup
  rw [List.map_map]
  exact nodup_map_uniqueBy (·.name) t.fields

theorem ArgsDeclaration.memberNames_shape (a : ArgsDeclaration) : a.shape.memberNames = a.argNames := by
  change (a.args.map (·.member)).map (·.name) = _
  rw [List.map_map]
  rfl

/-! ## The names in argument types -/

namespace Entity

variable {e : Entity} {action : Action} {declared : List Argument}

theorem argNames_argsDeclaration (e : Entity) (action : Option Action) (declared : List Argument) :
    (e.argsDeclaration action declared).argNames =
      (e.selectors action).map (·.name) ++ declared.map (·.name) := by
  unfold argsDeclaration selectors
  split
  · rfl
  · simp [ArgsDeclaration.argNames, Argument.described_name, Function.comp_def]

theorem map_name_selectors (e : Entity) (action : Option Action) :
    (e.selectors action).map (·.name) =
      if action.any (·.isBulk) then [] else "select" :: if e.hasRelations then ["include"] else [] := by
  unfold selectors
  split_ifs <;> rfl

theorem nodup_selectors (e : Entity) (action : Option Action) : ((e.selectors action).map (·.name)).Nodup := by
  rw [map_name_selectors]
  split_ifs <;> decide

theorem mem_map_name_selectors_iff {n : String} :
    n ∈ (e.selectors (some action)).map (·.name) ↔
      action.isBulk = false ∧ (n = "select" ∨ n = "include" ∧ e.hasRelations) := by
  rw [map_name_selectors, Option.any_some]
  cases action.isBulk <;> cases e.hasRelations <;> simp

/-- The arguments of a root field have names of their own, and where selectors come before them none has the name
of one. -/
def TellsApart (e : Entity) (action : Action) (declared : List Argument) : Prop :=
  (declared.map (·.name)).Nodup ∧
    (action.isBulk = false →
      "select" ∉ declared.map (·.name) ∧ (e.hasRelations → "include" ∉ declared.map (·.name)))

theorem nodup_argNames_iff :
    (e.argsDeclaration (some action) declared).argNames.Nodup ↔ e.TellsApart action declared := by
  rw [argNames_argsDeclaration, List.nodup_append', List.disjoint_left]
  simp only [e.nodup_selectors, true_and, mem_map_name_selectors_iff, TellsApart]
  refine and_congr_right fun _ => ?_
  constructor
  · intro h hbulk
    exact ⟨h ⟨hbulk, .inl rfl⟩, fun hr => h ⟨hbulk, .inr ⟨rfl, hr⟩⟩⟩
  · rintro h n ⟨hbulk, rfl | ⟨rfl, hr⟩⟩
    · exact (h hbulk).1
    · exact (h hbulk).2 hr

end Entity

namespace Document

variable {d : Document}

/-- The names in an argument type are told apart exactly when those of its root field are; the bare one has
selectors only. -/
theorem nodup_memberNames_args_iff {e : Entity} {as : List ArgsDeclaration} (h : d.entityArgs e = .ok as)
    {a : ArgsDeclaration} (ha : a ∈ as) :
    a.shape.memberNames.Nodup ↔ ∀ action root, a.action = some action →
      d.rootField e.name action = .ok (some root) → e.TellsApart action root.args := by
  rw [a.memberNames_shape]
  rcases (mem_entityArgs_iff h).mp ha with rfl | ⟨m, hm, ⟨action, field⟩, ht, root, hroot, rfl⟩
  · rw [Entity.argNames_argsDeclaration, List.map_nil, List.append_nil, Entity.argsDeclaration_action]
    simp [e.nodup_selectors]
  · rw [Entity.nodup_argNames_iff, Entity.argsDeclaration_action]
    have hserves := rootField_of_served hm ht hroot
    constructor
    · rintro hapart _ _ ⟨⟩ hfound
      cases hserves.symm.trans hfound
      exact hapart
    · exact fun hall => hall action root rfl hserves

/-- In a document that is read and accepted, the members of every value type and of every argument group have
distinct names. Those of `select` and `include` have exactly when the fields, or the relations, of the output type
do. Those of an argument type have exactly when the arguments of the root field that serves the action are named
apart from each other and from the selectors. -/
theorem memberNames_of_ensureValid (raw : Data) (d : Document) (checked : Option Settings) (fs : Findings)
    (hread : Document.read raw = .ok d) (hvalid : d.ensureValid checked = .ok fs) :
    (∀ t ∈ d.schema.inputTypes, t.shape.memberNames.Nodup) ∧
      ∀ e ∈ d.entities, e.valueShape.memberNames.Nodup ∧
        (∃ t, d.outputType? e.name = some t ∧
          (t.selectShape.memberNames.Nodup ↔ (t.fields.map (·.name)).Nodup) ∧
          ∀ shape, t.includeShape = some shape →
            (shape.memberNames.Nodup ↔ (t.relations.map (·.name)).Nodup)) ∧
        ∀ as, d.entityArgs e = .ok as → ∀ a ∈ as,
          (a.shape.memberNames.Nodup ↔ ∀ action root, a.action = some action →
            d.rootField e.name action = .ok (some root) → e.TellsApart action root.args) := by
  have hv := (ensureValid_isOk_iff checked).mp ⟨fs, hvalid⟩
  refine ⟨fun t _ => t.nodup_memberNames_shape, fun e he => ⟨?_, ?_, ?_⟩⟩
  · obtain ⟨x, hx⟩ := exists_read_of_mem_entities hread he
    exact Entity.nodup_memberNames_valueShape hx
  · obtain ⟨t, ht, -⟩ := hv.outputs e he
    refine ⟨t, ht, by rw [t.memberNames_selectShape], fun shape hshape => ?_⟩
    rw [t.memberNames_includeShape hshape]
  · exact fun as has a ha => nodup_memberNames_args_iff has ha

/-- An output type that has a field twice, and a root field with an argument that is named like a selector. -/
def repeatedMembers : Document where
  datamodel.entities := [tag]
  schema.outputTypes :=
    [⟨"Tag", [{ name := "id", target := { type := "Int" } }, { name := "id", target := { type := "Int" } }]⟩,
      ⟨"Query",
        [{ name := "findManyTag", target := { type := "Tag", kind := .object, isList := true },
            args := [{ name := "select", first := { type := "String" } }] }]⟩]
  mappings := [{ entity := "Tag", plural := "tags", findMany := some "findManyTag" }]

theorem repeatedMembers_loaded : Document.read (.ofJson (repeatedMembers.toJson .usual)) = .ok repeatedMembers ∧
    ∃ fs, repeatedMembers.ensureValid (some {}) = .ok fs :=
  ⟨(Reading.toOption_eq_some_iff _ _).mp (by decide +kernel), ensureValid_isOk_of_numbers (by decide +kernel)⟩

/-- The document is read and accepted. One name is twice among the members of `select`, and another twice among
those of an argument type. -/
theorem repeatedMembers_repeat :
    Document.read (.ofJson (repeatedMembers.toJson .usual)) = .ok repeatedMembers ∧
      (∃ fs, repeatedMembers.ensureValid (some {}) = .ok fs) ∧ tag ∈ repeatedMembers.entities ∧
      (∃ t, repeatedMembers.outputType? tag.name = some t ∧ ¬ t.selectShape.memberNames.Nodup) ∧
      ∃ as, repeatedMembers.entityArgs tag = .ok as ∧ ∃ a ∈ as, ¬ a.shape.memberNames.Nodup := by
  obtain ⟨hread, haccepted⟩ := repeatedMembers_loaded
  refine ⟨hread, haccepted, by decide, ⟨_, rfl, ?_⟩, _, rfl, _, List.mem_cons_self, ?_⟩
  · change ¬ ["id", "id"].Nodup
    decide
  · change ¬ ["select", "select"].Nodup
    decide

theorem repeatedMembers_untold :
    Document.read (.ofJson (repeatedMembers.toJson .usual)) = .ok repeatedMembers ∧
      (∃ fs, repeatedMembers.ensureValid (some {}) = .ok fs) ∧ tag.valueShape.memberNames.Nodup ∧
      ∃ as, repeatedMembers.entityArgs tag = .ok as ∧ ∃ a ∈ as, ¬ a.shape.memberNames.Nodup := by
  obtain ⟨hread, fs, hok⟩ := repeatedMembers_loaded
  obtain ⟨hvalue, -, hargs⟩ := (memberNames_of_ensureValid _ repeatedMembers (some {}) fs hread hok).2 tag (by decide)
  refine ⟨hread, ⟨fs, hok⟩, hvalue, _, rfl, _, List.mem_cons_self, fun hnodup => ?_⟩
  have hapart := (hargs _ rfl _ List.mem_cons_self).mp hnodup .findMany _ rfl rfl
  exact (hapart.2 rfl).1 (by decide)

end Document

end TypedClient
