import TypedClient.Proofs.Affixes
import TypedClient.Proofs.ArgumentReferences
import TypedClient.Proofs.Closure

set_option autoImplicit false

namespace TypedClient

namespace Document

variable {d : Document}

/-- Whether an action is mapped for a record type: the first mapping of the type names a root field for it. -/
def maps (d : Document) (entity : String) (action : Action) : Bool :=
  ((d.mapping? entity).bind (·.entryFor action)).any (! ·.isEmpty)

theorem mappedActions_eq_filter (d : Document) (entity : String) :
    d.mappedActions entity = Action.all.filter (d.maps entity) := by
  unfold mappedActions
  cases hm : d.mapping? entity with
  | none =>
    have hnone : d.maps entity = fun _ => false := by
      funext action
      rw [maps, hm]
      rfl
    rw [hnone, List.filter_false]
    rfl
  | some m =>
    have hsome : d.maps entity = fun action => (m.fieldFor action).isSome := by
      funext action
      rw [maps, hm, Option.bind_some, Mapping.fieldFor, Option.isSome_filter]
    rw [hsome, Option.elim_some, Mapping.actions_eq]

theorem mem_mappedActions_iff {entity : String} {action : Action} :
    action ∈ d.mappedActions entity ↔ d.maps entity action = true := by
  simp [mappedActions_eq_filter, Action.mem_all]

theorem delegate_isSome_iff {e : Entity} {r : Option Delegate} (h : d.delegate e = .ok r) :
    r.isSome = true ↔ ∃ action, d.maps e.name action = true := by
  have hmapped : (∃ action, d.maps e.name action = true) ↔ d.mappedActions e.name ≠ [] := by
    simp [← mem_mappedActions_iff, List.eq_nil_iff_forall_not_mem]
  rw [hmapped, delegate_ok h, mappedActions_eq]
  cases d.mapping? e.name with
  | none => simp
  | some m => cases hs : m.served <;> simp [hs]

theorem map_action_methods {e : Entity} {del : Delegate} (h : d.delegate e = .ok (some del)) :
    del.methods.map (·.action) = (d.mappedActions e.name).filter (·.isMethod) := by
  obtain ⟨m, hm, rfl⟩ := exists_mapping_of_delegate h
  rw [mappedActions, hm, Option.elim_some, List.map_map]
  exact List.map_id _

theorem argsName_of_mem_methods {e : Entity} {del : Delegate} (h : d.delegate e = .ok (some del))
    {method : DelegateMethod} (hmethod : method ∈ del.methods) :
    method.argsName = argsName e.name (some method.action) := by
  obtain ⟨m, -, rfl⟩ := exists_mapping_of_delegate h
  obtain ⟨action, -, rfl⟩ := List.mem_map.mp hmethod
  rfl

theorem argsName_inj {entity : String} : Function.Injective (argsName entity) := fun _ _ heq =>
  Role.args.inj (role_eq_of_identifier_eq heq)

theorem mem_entityArgs_of_mem_methodArgs {e : Entity} {as : List ArgsDeclaration} {del : Delegate}
    (hargs : d.entityArgs e = .ok as) (hdelegate : d.delegate e = .ok (some del)) {n : String}
    (hn : n ∈ del.methodArgs) : n ∈ as.map (·.name) := by
  obtain ⟨action, rfl, hmapped⟩ := mem_methodArgs hdelegate hn
  rw [argsName_mem_entityArgs_iff hargs]
  cases action with
  | none => exact .inl rfl
  | some a => exact .inr ⟨a, hmapped a rfl, rfl⟩

theorem map_action_name_entityArgs {e : Entity} {as : List ArgsDeclaration} (h : d.entityArgs e = .ok as) :
    as.map (fun a => (a.action, a.name)) =
      ((d.mappedActions e.name).map some ++ [none]).map fun action => (action, argsName e.name action) := by
  rw [← map_action_entityArgs h, List.map_map]
  exact List.map_congr_left fun a ha => congrArg (a.action, ·) (name_of_mem_entityArgs h ha)

theorem nodup_map_name_entityArgs {e : Entity} {as : List ArgsDeclaration} (h : d.entityArgs e = .ok as) :
    (as.map (·.name)).Nodup := by
  have hactions : ((d.mappedActions e.name).map some ++ [none]).Nodup := by
    refine List.nodup_append.mpr ⟨(nodup_mappedActions _).map fun _ _ => Option.some.inj, by simp, ?_⟩
    simp
  have hnames := congrArg (List.map Prod.snd) (map_action_name_entityArgs h)
  rw [List.map_map, List.map_map] at hnames
  change as.map (·.name) = _ at hnames
  rw [hnames]
  exact hactions.map argsName_inj

end Document

/-- An argument type holds declared arguments: a bulk action takes them as they are, any other action takes them
behind the selectors, with nothing but comments changed. A selector may be null, and otherwise is of the type that is
made for it. -/
def ArgsDeclaration.Holds (a : ArgsDeclaration) (e : Entity) (declared : List Argument) : Prop :=
  if a.action.any (·.isBulk) then a.args = declared
  else ∃ taken : List Argument,
    taken.map (fun x => (x.name, x.candidates)) = declared.map (fun x => (x.name, x.candidates)) ∧
      a.args = selectArgument e.name :: ((if e.hasRelations then [includeArgument e.name] else []) ++ taken) ∧
      a.args.map (fun x => (x.name, x.type)) =
        ("select", .union [.ref (e.name ++ "Select"), .null]) ::
          ((if e.hasRelations then [("include", .union [.ref (e.name ++ "Include"), .null])] else []) ++
            declared.map fun x => (x.name, x.type))

theorem Argument.described_candidates (entity : String) (action : Option Action) (a : Argument) :
    (a.described entity action).candidates = a.candidates := by
  unfold Argument.described
  split <;> rfl

theorem Entity.holds_argsDeclaration (e : Entity) (action : Option Action) (declared : List Argument) :
    (e.argsDeclaration action declared).Holds e declared := by
  rw [ArgsDeclaration.Holds, argsDeclaration_action]
  unfold argsDeclaration
  split
  · rfl
  · have hcandidates : (declared.map (·.described e.name action)).map (fun x => (x.name, x.candidates)) =
        declared.map fun x => (x.name, x.candidates) :=
      Argument.map_described (fun x => by rw [x.described_name, x.described_candidates]) declared
    have htypes : (declared.map (·.described e.name action)).map (fun x => (x.name, x.type)) =
        declared.map fun x => (x.name, x.type) :=
      Argument.map_described (fun x => by rw [x.described_name, x.described_type]) declared
    have hselect : selectName e.name = e.name ++ "Select" := congrArg (· ++ "Select") String.empty_append
    have hinclude : includeName e.name = e.name ++ "Include" := congrArg (· ++ "Include") String.empty_append
    refine ⟨declared.map (·.described e.name action), hcandidates, rfl, ?_⟩
    rw [List.map_cons, List.map_append, htypes, type_selectArgument, hselect]
    refine congrArg (_ :: · ++ _) ?_
    split
    · rw [List.map_singleton, type_includeArgument, hinclude]
      rfl
    · rfl

namespace Document

theorem holds_of_mem_entityArgs {d : Document} {e : Entity} {as : List ArgsDeclaration} (h : d.entityArgs e = .ok as)
    {a : ArgsDeclaration} (ha : a ∈ as) :
    (a.action = none ∧ a.Holds e []) ∨
      ∃ action root, a.action = some action ∧ d.rootField e.name action = .ok (some root) ∧ a.Holds e root.args := by
  obtain rfl | ⟨m, hm, s, hs, root, hroot, rfl⟩ := (mem_entityArgs_iff h).mp ha
  · exact .inl ⟨e.argsDeclaration_action none [], e.holds_argsDeclaration none []⟩
  · refine .inr ⟨s.1, root, e.argsDeclaration_action _ _, ?_, e.holds_argsDeclaration _ _⟩
    exact rootField_of_served hm hs hroot

/-- Where the argument types and the delegate of a record type are made, they describe the same operations. There is
a delegate exactly when some action is mapped, and its methods are the mapped actions but the aggregating one, in
order. The argument types are those of the mapped actions in order and the bare one, all with names of their own, and
the methods and the count take some of them. Each holds what the root field of its action declares, the bare one
nothing. -/
theorem operations_agree (d : Document) (e : Entity) (as : List ArgsDeclaration) (r : Option Delegate)
    (hargs : d.entityArgs e = .ok as) (hdelegate : d.delegate e = .ok r) :
    (r.isSome = true ↔ ∃ action, d.maps e.name action = true) ∧
      (∀ del, r = some del →
        del.methods.map (·.action) = (Action.all.filter (d.maps e.name)).filter (· ≠ .aggregate) ∧
          (∀ method ∈ del.methods, method.argsName = argsName e.name (some method.action) ∧
            method.argsName ∈ as.map (·.name)) ∧
          del.countArgs ∈ as.map (·.name)) ∧
      as.map (fun a => (a.action, a.name)) =
        ((Action.all.filter (d.maps e.name)).map some ++ [none]).map (fun action => (action, argsName e.name action)) ∧
      (as.map (·.name)).Nodup ∧
      ∀ a ∈ as, (a.action = none ∧ a.Holds e []) ∨
        ∃ action root, a.action = some action ∧ d.rootField e.name action = .ok (some root) ∧
          a.Holds e root.args := by
  rw [← mappedActions_eq_filter]
  refine ⟨delegate_isSome_iff hdelegate, ?_, map_action_name_entityArgs hargs, nodup_map_name_entityArgs hargs,
    fun a => holds_of_mem_entityArgs hargs⟩
  rintro del rfl
  refine ⟨?_, fun method hmethod => ⟨argsName_of_mem_methods hdelegate hmethod, ?_⟩, ?_⟩
  · rw [map_action_methods hdelegate]
    exact List.filter_congr fun action _ => by cases action <;> rfl
  · exact mem_entityArgs_of_mem_methodArgs hargs hdelegate (List.mem_append_left _ (List.mem_map_of_mem hmethod))
  · exact mem_entityArgs_of_mem_methodArgs hargs hdelegate (List.mem_append_right _ List.mem_cons_self)

/-- A record type whose mapping names an empty field for listing, and a second mapping that is not in use. -/
def unlisted : Document where
  datamodel.entities :=
    [⟨"Tag", [{ name := "id", kind := .scalar, type := "Int" },
      { name := "parent", kind := .object, type := "Tag" }], [], [], none⟩]
  schema.outputTypes :=
    [⟨"Query",
        [{ name := "tag", target := { type := "Tag", kind := .object },
            args := [{ name := "where", first := { type := "TagFilter", kind := .object } }] },
          { name := "statistics", target := { type := "Statistics", kind := .object } }]⟩,
      ⟨"Mutation",
        [{ name := "updateTags", target := { type := "Int" },
            args := [{ name := "data", first := { type := "TagChange", kind := .object } },
              { name := "where", first := { type := "TagFilter", kind := .object } }] }]⟩]
  mappings :=
    [{ entity := "Tag", plural := "tags", findOne := some "tag", findMany := some "", updateMany := some "updateTags",
        aggregate := some "statistics" },
      { entity := "Tag", plural := "tags", delete := some "tag" }]

theorem unlisted_agrees :
    ∃ e ∈ unlisted.entities, ∃ as del, unlisted.entityArgs e = .ok as ∧ unlisted.delegate e = .ok (some del) ∧
      del.methods.map (·.action) = [.findOne, .updateMany] ∧ del.countArgs ∈ as.map (·.name) ∧
      as.map (·.name) = ["FindOneTagArgs", "TagUpdateManyArgs", "AggregateTagArgs", "TagArgs"] ∧
      ∀ a ∈ as, a.action = none → a.args.map (fun x => (x.name, x.type)) =
        [("select", .union [.ref "TagSelect", .null]), ("include", .union [.ref "TagInclude", .null])] := by
  have hargs := (rfl : unlisted.entityArgs unlisted.entities.head! = .ok _)
  have hdelegate := (rfl : unlisted.delegate unlisted.entities.head! = .ok (some _))
  obtain ⟨-, hmethods, hnames, -, hholds⟩ := operations_agree unlisted _ _ _ hargs hdelegate
  obtain ⟨hactions, -, hcount⟩ := hmethods _ rfl
  refine ⟨_, List.mem_cons_self, _, _, hargs, hdelegate, ?_, hcount, ?_, fun a ha hbare => ?_⟩
  · rw [hactions]
    decide
  · have hsecond := congrArg (List.map Prod.snd) hnames
    rw [List.map_map] at hsecond
    exact hsecond
  · obtain ⟨-, hbareHolds⟩ | ⟨action, root, haction, -⟩ := hholds a ha
    · rw [ArgsDeclaration.Holds, hbare] at hbareHolds
      obtain ⟨taken, -, -, hmembers⟩ := hbareHolds
      exact hmembers
    · cases hbare.symm.trans haction

end Document

end TypedClient
