import TypedClient.Proofs.Collision
import TypedClient.Proofs.Rendering

set_option autoImplicit false

namespace TypedClient

theorem Entity.argsDeclaration_entity (e : Entity) (action : Option Action) (declared : List Argument) :
    (e.argsDeclaration action declared).entity = e.name := by
  unfold Entity.argsDeclaration
  split <;> rfl

theorem Entity.argsDeclaration_action (e : Entity) (action : Option Action) (declared : List Argument) :
    (e.argsDeclaration action declared).action = action := by
  unfold Entity.argsDeclaration
  split <;> rfl

namespace Document

variable {d : Document}

def mappedActions (d : Document) (entity : String) : List Action :=
  (d.mapping? entity).elim [] (·.actions)

theorem mappedActions_eq (entity : String) :
    d.mappedActions entity = ((d.mapping? entity).elim [] (·.served)).map (·.1) := by
  unfold mappedActions
  cases d.mapping? entity <;> rfl

theorem nodup_mappedActions (entity : String) : (d.mappedActions entity).Nodup := by
  unfold mappedActions
  cases d.mapping? entity with
  | none => exact .nil
  | some m => exact (m.actions_eq ▸ Action.nodup_all.filter _ : m.actions.Nodup)

/-- An argument type is declared for every mapped action, with the arguments of the action's root field, and
one besides. -/
theorem mem_entityArgs_iff {e : Entity} {as : List ArgsDeclaration} (h : d.entityArgs e = .ok as)
    {a : ArgsDeclaration} :
    a ∈ as ↔ a = e.argsDeclaration none [] ∨
      ∃ m, d.mapping? e.name = some m ∧ ∃ s ∈ m.served, ∃ root, d.rootField? s.2 = some root ∧
        a = e.argsDeclaration (some s.1) root.args := by
  simp only [entityArgs, except_map_eq_ok_iff, servedArgs_eq, mapM_eq_ok_iff,
    servingField_eq_ok_iff] at h
  obtain ⟨bs, hbs, rfl⟩ := h
  rw [List.mem_append, List.mem_singleton, or_comm]
  refine or_congr_right ?_
  constructor
  · intro ha
    obtain ⟨s, hs, root, hroot, rfl⟩ := forall₂_exists_left hbs ha
    cases hm : d.mapping? e.name with
    | none => simp [hm] at hs
    | some m => exact ⟨m, rfl, s, by simpa [hm] using hs, root, hroot, rfl⟩
  · rintro ⟨m, hm, s, hs, root, hroot, rfl⟩
    obtain ⟨b, hb, root', hroot', rfl⟩ := forall₂_exists_right hbs (x := s) (by simpa [hm] using hs)
    cases hroot.symm.trans hroot'
    exact hb

theorem map_action_entityArgs {e : Entity} {as : List ArgsDeclaration} (h : d.entityArgs e = .ok as) :
    as.map (·.action) = (d.mappedActions e.name).map some ++ [none] := by
  simp only [entityArgs, except_map_eq_ok_iff, servedArgs_eq, mapM_eq_ok_iff] at h
  obtain ⟨bs, hbs, rfl⟩ := h
  rw [List.map_append, List.map_singleton, Entity.argsDeclaration_action, mappedActions_eq,
    List.map_map]
  refine congrArg (· ++ [none]) (map_eq_of_forall₂ hbs ?_)
  rintro s a ⟨root, -, rfl⟩
  exact Entity.argsDeclaration_action _ _ _

theorem entity_of_mem_entityArgs {e : Entity} {as : List ArgsDeclaration} (h : d.entityArgs e = .ok as)
    {a : ArgsDeclaration} (ha : a ∈ as) : a.entity = e.name := by
  obtain rfl | ⟨_, _, _, _, _, _, rfl⟩ := (mem_entityArgs_iff h).mp ha
  · exact Entity.argsDeclaration_entity _ _ _
  · exact Entity.argsDeclaration_entity _ _ _

theorem name_of_mem_entityArgs {e : Entity} {as : List ArgsDeclaration} (h : d.entityArgs e = .ok as)
    {a : ArgsDeclaration} (ha : a ∈ as) : a.name = argsName e.name a.action := by
  rw [ArgsDeclaration.name, entity_of_mem_entityArgs h ha]

theorem argsName_mem_entityArgs_iff {e : Entity} {as : List ArgsDeclaration} (h : d.entityArgs e = .ok as)
    (name : String) :
    name ∈ as.map (·.name) ↔ name = argsName e.name none ∨
      ∃ action ∈ d.mappedActions e.name, name = argsName e.name (some action) := by
  have hnames : as.map (·.name) = (as.map (·.action)).map (argsName e.name) := by
    rw [List.map_map]
    exact List.map_congr_left fun a ha => name_of_mem_entityArgs h ha
  rw [hnames, map_action_entityArgs h]
  simp [or_comm, eq_comm]

theorem delegateMethods_ok {e : Entity} {m : Mapping} {ss : List (Action × Text)}
    {ms : List DelegateMethod} (h : d.delegateMethods e m ss = .ok ms) :
    ms = ss.map fun s => e.delegateMethod m s.1 := by
  rw [delegateMethods_eq, mapM_eq_ok_iff] at h
  have := map_eq_of_forall₂ (f := fun s => e.delegateMethod m s.1) (g := id) h ?_
  · simpa using this
  · intro s y hy
    obtain ⟨_, _, rfl⟩ := (except_map_eq_ok_iff _ _ _).mp hy
    rfl

/-- A record type has a delegate exactly when some action is mapped for it; its methods are those of the
mapped actions that are methods. -/
theorem delegate_ok {e : Entity} {r : Option Delegate} (h : d.delegate e = .ok r) :
    r = (d.mapping? e.name).bind fun m =>
      if m.served.isEmpty then none
      else some ⟨e.name, (m.actions.filter (·.isMethod)).map (e.delegateMethod m), e.countArgs m⟩ := by
  unfold delegate at h
  cases hm : d.mapping? e.name with
  | none =>
    rw [hm] at h
    cases h
    rfl
  | some m =>
    simp only [hm] at h
    rw [Option.bind_some]
    split at h
    · next hs =>
      rw [if_pos hs]
      cases h
      rfl
    · next hs =>
      rw [if_neg hs]
      obtain ⟨ms, hms, rfl⟩ := (except_map_eq_ok_iff _ _ _).mp h
      rw [delegateMethods_ok hms]
      simp [Mapping.actions, List.filter_map, Function.comp_def]

theorem exists_mapping_of_delegate {e : Entity} {del : Delegate} (h : d.delegate e = .ok (some del)) :
    ∃ m, d.mapping? e.name = some m ∧
      del = ⟨e.name, (m.actions.filter (·.isMethod)).map (e.delegateMethod m), e.countArgs m⟩ := by
  obtain ⟨m, hm, hdel⟩ := Option.bind_eq_some_iff.mp (delegate_ok h).symm
  split at hdel
  · cases hdel
  · exact ⟨m, hm, (Option.some.inj hdel).symm⟩

end Document

namespace EntityDeclarations

def roles (x : EntityDeclarations) : List Role :=
  [.value, .select] ++ (if x.outputType.includeShape.isSome then [.include] else []) ++ [.payload]
    ++ (if x.delegate.isSome then [.delegate] else []) ++ [.client] ++ x.args.map (.args ·.action)

theorem names_eq {d : Document} {e : Entity} {x : EntityDeclarations}
    (h : d.entityDeclarations e = .ok x) : x.names = x.roles.map fun r => identifier r e.name := by
  obtain ⟨rfl, ht, hr, has⟩ := Document.entityDeclarations_eq_ok_iff.mp h
  have hname := (Document.outputType?_eq_some ht).2
  have hargs : x.args.map (·.name) = x.args.map fun a => identifier (.args a.action) x.entity.name :=
    List.map_congr_left fun a ha => Document.name_of_mem_entityArgs has ha
  have hdelegate : (x.delegate.elim [] fun del => [del.name]) =
      (if x.delegate.isSome then [Role.delegate] else []).map fun r => identifier r x.entity.name := by
    cases hdel : x.delegate with
    | none => rfl
    | some del =>
      rw [hdel] at hr
      obtain ⟨m, -, rfl⟩ := Document.exists_mapping_of_delegate hr
      rfl
  simp only [names, roles, List.map_append, hname, hargs, hdelegate, List.map_map, apply_ite (List.map _)]
  simp [identifier_value, selectName, includeName, payloadName, clientName, OutputType.payload, Payload.name,
    hname, Function.comp_def]

theorem nodup_roles {d : Document} {e : Entity} {x : EntityDeclarations}
    (h : d.entityDeclarations e = .ok x) : x.roles.Nodup := by
  obtain ⟨rfl, -, -, has⟩ := Document.entityDeclarations_eq_ok_iff.mp h
  have hargs : (x.args.map (Role.args ·.action)).Nodup := by
    rw [show x.args.map (Role.args ·.action) = (x.args.map (·.action)).map Role.args by simp,
      Document.map_action_entityArgs has]
    refine List.Nodup.map (fun _ _ => Role.args.inj) (List.nodup_append.mpr ⟨?_, by simp, by simp⟩)
    exact (Document.nodup_mappedActions _).map fun _ _ => Option.some.inj
  unfold roles
  refine List.nodup_append.mpr ⟨?_, hargs, ?_⟩
  · split_ifs <;> decide
  · intro r hr q hq
    obtain ⟨a, -, rfl⟩ := List.mem_map.mp hq
    rintro rfl
    split_ifs at hr <;> simp at hr

end EntityDeclarations

end TypedClient
