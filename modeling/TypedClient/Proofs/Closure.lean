import TypedClient.Proofs.DeclaringLines
import TypedClient.Proofs.Layout
import TypedClient.Proofs.Loading
import TypedClient.Proofs.References

set_option autoImplicit false

/-!
# References that lead somewhere

Declarations refer to the declarations of their own record type and of those that relations lead to. In an
accepted document every such reference leads to a declaration that is made, where it is no argument type.

The keys of `include` are asked for by the record type and declared by its output type, so that the two have
to agree on relations. The getters of the client class are those of the mappings in use, and the delegates
are made by lookup of the record type's mapping; they agree because both take the first mapping.
-/

namespace TypedClient

def Entity.selectors (e : Entity) (action : Option Action) : List Argument :=
  if action.any (·.isBulk) then []
  else selectArgument e.name :: if e.hasRelations then [includeArgument e.name] else []

theorem Argument.described_name (entity : String) (action : Option Action) (a : Argument) :
    (a.described entity action).name = a.name := by
  unfold Argument.described
  split <;> rfl

theorem Argument.described_type (entity : String) (action : Option Action) (a : Argument) :
    (a.described entity action).type = a.type := by
  unfold Argument.described
  split <;> rfl

theorem Argument.map_described {α : Type} {f : Argument → α} {entity : String} {action : Option Action}
    (h : ∀ a, f (a.described entity action) = f a) (as : List Argument) :
    (as.map (·.described entity action)).map f = as.map f := by
  rw [List.map_map]
  exact List.map_congr_left fun a _ => h a

theorem Entity.exists_taken (e : Entity) (action : Option Action) (declared : List Argument) :
    ∃ taken, (e.argsDeclaration action declared).args = e.selectors action ++ taken ∧
      taken.map (fun x => (x.name, x.type)) = declared.map fun x => (x.name, x.type) := by
  unfold argsDeclaration selectors
  split
  · exact ⟨declared, rfl, rfl⟩
  · refine ⟨declared.map (·.described e.name action), rfl, Argument.map_described (fun x => ?_) declared⟩
    rw [x.described_name, x.described_type]

theorem Entity.mem_selectors {e : Entity} {action : Option Action} {arg : Argument}
    (h : arg ∈ e.selectors action) :
    arg = selectArgument e.name ∨ (arg = includeArgument e.name ∧ e.hasRelations) := by
  unfold Entity.selectors at h
  split at h
  · cases h
  · rcases List.mem_cons.mp h with rfl | h
    · exact .inl rfl
    · split at h
      · next hr => exact .inr ⟨List.mem_singleton.mp h, hr⟩
      · cases h

namespace Document

variable {d : Document}

/-- A line of the type declarations begins the declaration in a role for a record type of the document. -/
def Emits (d : Document) (text : Text) (role : Role) (entity : String) : Prop :=
  entity ∈ d.entityNames ∧ Text.LineBegins (role.opening entity) text

/-- The references of a record type's declarations lead to declarations that are made. -/
structure Closed (d : Document) (text : Text) (x : EntityDeclarations) : Prop where
  stand : ∀ declaration ∈ x.outputType.payload.text :: x.outputType.clientText ::
      ((x.delegate.elim [] fun del => [del.text]) ++ x.args.map (·.text)), declaration <:+: text
  /-- The members of an argument type are the selectors, each of the type that is declared for it, and then those
  that the root field of the action declares. -/
  arguments : ∀ a ∈ x.args, ∃ taken, a.args = x.entity.selectors a.action ++ taken ∧
    (∀ arg ∈ x.entity.selectors a.action, ∃ role ∈ [Role.select, Role.include], arg.name = role.word ∧
      (∀ n, n ∈ arg.type.names ↔ n = identifier role x.entity.name) ∧ d.Emits text role x.entity.name) ∧
    (taken = [] ∨ ∃ action root, a.action = some action ∧ d.rootField x.entity.name action = .ok (some root) ∧
      taken.map (fun arg => (arg.name, arg.type)) = root.args.map fun arg => (arg.name, arg.type))
  /-- The payload is made of the value type and, for its relations, of their payloads. -/
  payload : d.Emits text .value x.outputType.payload.entity ∧
    ∀ b ∈ x.outputType.payload.relations, ∀ way, ∀ n ∈ (b.payloadRef way).names,
      n = "S['" ++ way.key ++ "'][P]" ∨
        ∃ role ∈ returnRoles, n = identifier role b.target ∧ d.Emits text role b.target
  accessors : ∀ f ∈ x.outputType.relations, f.accessorReturn = f.accessorShape.render ∧
    ∀ n ∈ f.accessorShape.names, n ∈ returnHelpers ∨
      ∃ role ∈ returnRoles, n = identifier role f.target.type ∧ d.Emits text role f.target.type
  /-- The methods of the delegate return types of the record type. -/
  methods : ∀ del, x.delegate = some del → ∀ m ∈ del.methods,
    m.returnType = (returnShape x.entity.name m.action none).render ∧
      ∀ n ∈ (returnShape x.entity.name m.action none).names, n ∈ returnHelpers ∨
        ∃ role ∈ returnRoles, n = identifier role x.entity.name ∧ d.Emits text role x.entity.name

section Emission

variable {s : Settings} {xs : List EntityDeclarations}

theorem exists_declarations (h : d.allDeclarations d.entities = .ok xs) {e : Entity}
    (he : e ∈ d.entities) : ∃ x ∈ xs, d.entityDeclarations e = .ok x := by
  rw [allDeclarations_eq, mapM_eq_ok_iff] at h
  exact forall₂_exists_right h he

theorem passage_mem {x : EntityDeclarations} (hx : x ∈ xs) : x.passage ∈ d.tsPassagesWith s xs := by
  simp only [tsPassagesWith, List.mem_append]
  exact .inl (.inl (.inl (.inr (List.mem_map_of_mem hx))))

theorem infix_of_mem_blocks {x : EntityDeclarations} (hx : x ∈ xs) {block : Text} (hblock : block ∈ x.blocks) :
    block <:+: Passage.joined (d.tsPassagesWith s xs) := by
  refine List.IsInfix.trans ?_ (Passage.infix_joined (passage_mem hx))
  rw [x.text_passage]
  exact Text.infix_intercalate hblock

theorem emits_of_mem_roles {e : Entity} (he : e ∈ d.entities) {x : EntityDeclarations} (hx : x ∈ xs)
    (hxe : d.entityDeclarations e = .ok x) {role : Role} (hrole : role ∈ x.roles) :
    d.Emits (Passage.joined (d.tsPassagesWith s xs)) role e.name :=
  ⟨List.mem_map_of_mem he, Passage.lineBegins_joined (passage_mem hx) (x.lineBegins_passage hxe hrole)⟩

theorem emits_of_mem_returnRoles (h : d.allDeclarations d.entities = .ok xs) {entity : String}
    (he : entity ∈ d.entityNames) {role : Role} (hrole : role ∈ returnRoles) :
    d.Emits (Passage.joined (d.tsPassagesWith s xs)) role entity := by
  obtain ⟨e, hmem, rfl⟩ := List.mem_map.mp he
  obtain ⟨x, hx, hxe⟩ := exists_declarations h hmem
  refine emits_of_mem_roles hmem hx hxe ?_
  simp only [returnRoles, List.mem_cons, List.not_mem_nil, or_false] at hrole
  rcases hrole with rfl | rfl | rfl <;> simp [EntityDeclarations.roles]

theorem Valid.include_mem_roles {extra : List String} (hv : d.Valid extra) {e : Entity}
    (he : e ∈ d.entities) (hr : e.hasRelations) {x : EntityDeclarations}
    (hxe : d.entityDeclarations e = .ok x) : Role.include ∈ x.roles := by
  obtain ⟨rfl, ht, -, -⟩ := entityDeclarations_eq_ok_iff.mp hxe
  obtain ⟨f, hf, hfr⟩ := List.any_eq_true.mp hr
  obtain ⟨g, hg, hgr⟩ := hv.relations _ he _ ht f (List.mem_filter.mpr ⟨hf, hfr⟩)
  have hmem : g ∈ x.outputType.relations :=
    List.mem_filter.mpr ⟨List.mem_of_find?_eq_some hg, hgr⟩
  have hsome : x.outputType.includeShape.isSome := by
    rw [OutputType.includeShape, if_neg (by simpa using List.ne_nil_of_mem hmem)]
    rfl
  simp [EntityDeclarations.roles, hsome]

theorem rootField_of_served {entity : String} {m : Mapping} (hm : d.mapping? entity = some m)
    {t : Action × Text} (ht : t ∈ m.served) {root : OutputField} (hroot : d.rootField? t.2 = some root) :
    d.rootField entity t.1 = .ok (some root) := by
  have hfield : m.fieldFor t.1 = some t.2 := (m.mem_served_iff t.1 t.2).mp ht
  simp [rootField, hm, hfield, hroot]

variable {e : Entity} {x : EntityDeclarations}

theorem selector_closed {extra : List String} (hv : d.Valid extra) (he : e ∈ d.entities) (hx : x ∈ xs)
    (hxe : d.entityDeclarations e = .ok x) {action : Option Action} {arg : Argument}
    (harg : arg ∈ e.selectors action) :
    ∃ role ∈ [Role.select, Role.include], arg.name = role.word ∧
      (∀ n, n ∈ arg.type.names ↔ n = identifier role e.name) ∧
      d.Emits (Passage.joined (d.tsPassagesWith s xs)) role e.name := by
  have hnames (n name : String) : n ∈ (TypeExpr.union [.ref name, .null]).names ↔ n = name := by
    simp [TypeExpr.names, TypeExpr.namesAll]
  rcases Entity.mem_selectors harg with rfl | ⟨rfl, hr⟩
  · refine ⟨.select, by simp, rfl, fun n => ?_, emits_of_mem_roles he hx hxe (by simp [EntityDeclarations.roles])⟩
    rw [type_selectArgument]
    exact hnames n _
  · refine ⟨.include, by simp, rfl, fun n => ?_, emits_of_mem_roles he hx hxe (hv.include_mem_roles he hr hxe)⟩
    rw [type_includeArgument]
    exact hnames n _

theorem arguments_closed {extra : List String} (hv : d.Valid extra) (he : e ∈ d.entities) (hx : x ∈ xs)
    (hxe : d.entityDeclarations e = .ok x) {a : ArgsDeclaration} (ha : a ∈ x.args) :
    ∃ taken, a.args = e.selectors a.action ++ taken ∧
      (∀ arg ∈ e.selectors a.action, ∃ role ∈ [Role.select, Role.include], arg.name = role.word ∧
        (∀ n, n ∈ arg.type.names ↔ n = identifier role e.name) ∧
        d.Emits (Passage.joined (d.tsPassagesWith s xs)) role e.name) ∧
      (taken = [] ∨ ∃ action root, a.action = some action ∧ d.rootField e.name action = .ok (some root) ∧
        taken.map (fun arg => (arg.name, arg.type)) = root.args.map fun arg => (arg.name, arg.type)) := by
  obtain ⟨-, -, -, has⟩ := entityDeclarations_eq_ok_iff.mp hxe
  rcases (mem_entityArgs_iff has).mp ha with rfl | ⟨m, hm, t, ht, root, hroot, rfl⟩
  · rw [e.argsDeclaration_action]
    obtain ⟨taken, hargs, htaken⟩ := e.exists_taken none []
    exact ⟨taken, hargs, fun arg => selector_closed hv he hx hxe, .inl (List.map_eq_nil_iff.mp htaken)⟩
  · rw [e.argsDeclaration_action]
    obtain ⟨taken, hargs, htaken⟩ := e.exists_taken (some t.1) root.args
    exact ⟨taken, hargs, fun arg => selector_closed hv he hx hxe,
      .inr ⟨t.1, root, rfl, rootField_of_served hm ht hroot, htaken⟩⟩

theorem branch_closed (h : d.allDeclarations d.entities = .ok xs) {b : Branch}
    (hb : b.target ∈ d.entityNames) (way : Projection) {n : String} (hn : n ∈ (b.payloadRef way).names) :
    n = "S['" ++ way.key ++ "'][P]" ∨
      ∃ role ∈ returnRoles, n = identifier role b.target ∧
        d.Emits (Passage.joined (d.tsPassagesWith s xs)) role b.target := by
  rcases (b.mem_names_payloadRef_iff way n).mp hn with rfl | rfl
  · exact .inr ⟨.payload, by decide, rfl, emits_of_mem_returnRoles h hb (by decide)⟩
  · exact .inl rfl

theorem return_closed (h : d.allDeclarations d.entities = .ok xs) {entity : String}
    (he : entity ∈ d.entityNames) {n : String}
    (hn : n ∈ returnHelpers ∨ ∃ role ∈ returnRoles, n = identifier role entity) :
    n ∈ returnHelpers ∨ ∃ role ∈ returnRoles, n = identifier role entity ∧
      d.Emits (Passage.joined (d.tsPassagesWith s xs)) role entity := by
  rcases hn with hn | ⟨role, hrole, rfl⟩
  · exact .inl hn
  · exact .inr ⟨role, hrole, rfl, emits_of_mem_returnRoles h he hrole⟩

theorem returnType_of_mem_methods {del : Delegate} (h : d.delegate e = .ok (some del)) {m : DelegateMethod}
    (hm : m ∈ del.methods) : m.returnType = returnType e.name m.action none := by
  obtain ⟨mapping, -, rfl⟩ := exists_mapping_of_delegate h
  obtain ⟨action, -, rfl⟩ := List.mem_map.mp hm
  rfl

theorem Valid.closed {extra : List String} (hv : d.Valid extra)
    (h : d.allDeclarations d.entities = .ok xs) (he : e ∈ d.entities) (hx : x ∈ xs)
    (hxe : d.entityDeclarations e = .ok x) : d.Closed (Passage.joined (d.tsPassagesWith s xs)) x := by
  obtain ⟨rfl, ht, hr, -⟩ := entityDeclarations_eq_ok_iff.mp hxe
  have hname : x.entity.name ∈ d.entityNames := List.mem_map_of_mem he
  have htargets : ∀ f ∈ x.outputType.relations, f.target.type ∈ d.entityNames := by
    obtain ⟨t, ht', htargets⟩ := hv.outputs _ he
    cases ht.symm.trans ht'
    exact htargets
  constructor
  case stand =>
    intro declaration hdeclaration
    exact infix_of_mem_blocks hx (x.referring_subset_blocks hdeclaration)
  case arguments =>
    intro a ha
    exact arguments_closed hv he hx hxe ha
  case payload =>
    constructor
    · have hpayload : x.outputType.payload.entity = x.entity.name := (outputType?_eq_some ht).2
      rw [hpayload]
      exact emits_of_mem_returnRoles h hname (by decide)
    · intro b hb way n hn
      obtain ⟨f, hf, rfl⟩ := List.mem_map.mp hb
      exact branch_closed h (htargets f hf) way hn
  case accessors =>
    intro f hf
    refine ⟨f.render_accessorShape.symm, fun n hn => ?_⟩
    exact return_closed h (htargets f hf) (OutputField.mem_names_accessorShape hn)
  case methods =>
    intro del hdel m hm
    rw [hdel] at hr
    refine ⟨?_, fun n hn => return_closed h hname (mem_names_returnShape hn)⟩
    rw [render_returnShape]
    exact congrArg Text.ofString (returnType_of_mem_methods hr hm)

theorem WellFormed.emits_delegate (hw : d.WellFormed) (h : d.allDeclarations d.entities = .ok xs)
    {m : Mapping} (hm : m ∈ d.listable) : d.Emits (Passage.joined (d.tsPassagesWith s xs)) .delegate m.entity := by
  obtain ⟨hused, hmany⟩ := List.mem_filter.mp hm
  have hfound := mem_usedMappings_iff.mp hused
  obtain ⟨e, he, hname⟩ := List.mem_map.mp (hw.entity_mem_of_used hused)
  obtain ⟨x, hx, hxe⟩ := exists_declarations h he
  obtain ⟨-, -, hr, -⟩ := entityDeclarations_eq_ok_iff.mp hxe
  have hdelegate := delegate_ok hr
  obtain ⟨field, hfield⟩ := Option.isSome_iff_exists.mp hmany
  have hserved : ¬ m.served.isEmpty := by
    simpa using List.ne_nil_of_mem ((m.mem_served_iff .findMany field).mpr hfield)
  rw [hname, hfound, Option.bind_some, if_neg hserved] at hdelegate
  rw [← hname]
  exact emits_of_mem_roles he hx hxe (by simp [EntityDeclarations.roles, hdelegate])

theorem infix_clientText : d.clientText s <:+: Passage.joined (d.tsPassagesWith s xs) := by
  refine Passage.infix_joined (p := { declares := [s.clientName], text := d.clientText s }) ?_
  simp [tsPassagesWith]

theorem infix_getter {m : Mapping} (hm : m ∈ d.listable) :
    Text.indent 2 m.getter.text <:+: Passage.joined (d.tsPassagesWith s xs) := by
  have hmember : m.getter ∈ d.clientMembers s := List.mem_append_right _ (List.mem_map_of_mem hm)
  have hbody : Text.indent 2 m.getter.text <:+: Text.indent 2 (Text.joinLines ((d.clientMembers s).map (·.text))) := by
    rw [Text.indent_joinLines]
    exact Text.infix_intercalate (List.mem_map_of_mem (List.mem_map_of_mem hmember))
  refine hbody.trans (List.IsInfix.trans ?_ infix_clientText)
  unfold clientText
  exact List.infix_append _ _ _

end Emission

theorem lineBegins_getter (m : Mapping) :
    Text.LineBegins ("get " ++ m.getterName ++ "(): " ++ delegateName m.entity ++ ";") m.getter.text :=
  Text.LineBegins.joinLines (.inl List.prefix_rfl) (by simp)

/-- In a document that is read and accepted, and whose type declarations can be made, the declarations of every
record type are closed, and every getter of the client class names a delegate that is made. -/
theorem closed_of_ensureValid (raw : Data) (d : Document) (s : Settings) (fs : Findings) (text : Text)
    (hread : Document.read raw = .ok d) (hvalid : d.ensureValid (some s) = .ok fs)
    (htext : d.tsText s = .ok text) :
    (∀ e ∈ d.entities, ∃ x, d.entityDeclarations e = .ok x ∧ d.Closed text x) ∧
      ∀ m ∈ d.listable, Text.indent 2 m.getter.text <:+: text ∧
        Text.LineBegins ("get " ++ m.getterName ++ "(): " ++ delegateName m.entity ++ ";") m.getter.text ∧
          d.Emits text .delegate m.entity := by
  have hv := (ensureValid_isOk_iff (some s)).mp ⟨fs, hvalid⟩
  obtain ⟨xs, hxs, rfl⟩ := tsText_eq_ok_iff.mp htext
  refine ⟨fun e he => ?_, fun m hm => ⟨infix_getter hm, lineBegins_getter m, ?_⟩⟩
  · obtain ⟨x, hx, hxe⟩ := exists_declarations hxs he
    exact ⟨x, hxe, hv.closed hxs he hx hxe⟩
  · exact (wellFormed_of_read hread).emits_delegate hxs hm

theorem blog_closed :
    Document.read (.ofJson (blog.toJson .usual)) = .ok blog ∧
      (∃ fs, blog.ensureValid (some {}) = .ok fs) ∧
      ∃ text, blog.tsText {} = .ok text ∧ blog.Emits text .delegate "Post" ∧
        ∀ e ∈ blog.entities, ∃ x, blog.entityDeclarations e = .ok x ∧ blog.Closed text x := by
  obtain ⟨fs, hok⟩ := blog_accepted
  obtain ⟨text, htext⟩ : ∃ text, blog.tsText {} = .ok text := ⟨_, rfl⟩
  obtain ⟨hclosed, hgetters⟩ := closed_of_ensureValid _ blog {} fs text blog_read hok htext
  have hpost : blog.mappings[1] ∈ blog.listable := by decide +kernel
  exact ⟨blog_read, ⟨fs, hok⟩, text, htext, (hgetters _ hpost).2.2, hclosed⟩

/-- A root field declares an argument that has the name of a selector, and its record type has no relations. -/
def including : Document where
  datamodel.entities := [tag]
  schema.outputTypes :=
    [tagOutput,
      ⟨"Query",
        [{ name := "findManyTag", target := { type := "Tag", kind := .object, isList := true },
            args := [{ name := "include", first := { type := "String" } }] }]⟩]
  mappings := [{ entity := "Tag", plural := "tags", findMany := some "findManyTag" }]

theorem including_accepted : ∃ fs, including.ensureValid (some {}) = .ok fs :=
  ensureValid_isOk_of_numbers (by decide +kernel)

/-- The document is read and accepted, and its type declarations are made. An argument type has a member of that name,
and none of the declarations of its record type is for the keys of `include`. -/
theorem including_not_closed :
    Document.read (.ofJson (including.toJson .usual)) = .ok including ∧
      (∃ fs, including.ensureValid (some {}) = .ok fs) ∧ (∃ text, including.tsText {} = .ok text) ∧
      ∃ e ∈ including.entities, ∃ x, including.entityDeclarations e = .ok x ∧
        (∃ a ∈ x.args, "include" ∈ a.argNames) ∧ x.outputType.includeShape = none ∧ includeName e.name ∉ x.names := by
  refine ⟨(Reading.toOption_eq_some_iff _ _).mp (by decide +kernel), including_accepted, ⟨_, rfl⟩, tag,
    by decide, _, rfl, ⟨_, List.mem_cons_self, by decide⟩, rfl, ?_⟩
  decide +kernel

end Document

end TypedClient
