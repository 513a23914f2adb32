import TypedClient.Declaration.RootClient
import TypedClient.Proofs.Casing
import TypedClient.Proofs.Loading
import TypedClient.Proofs.Validity

set_option autoImplicit false

namespace TypedClient

def fixedMemberNames : List String :=
  ["fetcher", "dmmf", "engine", "errorFormat", "on", "connect", "disconnect", "raw"]

/-- The record types whose getters are named like a fixed member. `Engine` and `ErrorFormat` would be two more, but
the checks know these names as declared. -/
def memberLikeEntities : List String :=
  fixedMemberNames ++ ["Fetcher", "Dmmf", "On", "Connect", "Disconnect", "Raw"]

theorem filterMap_name_fixedMembers (doc : Text) : (fixedMembers doc).filterMap (·.name) = fixedMemberNames := rfl

theorem isPlainSmall_fixedMemberNames :
    ∀ n ∈ fixedMemberNames, ∃ x xs, n.toList = x :: xs ∧ Text.isPlainSmall x = true := by
  simp only [fixedMemberNames, List.forall_mem_cons]
  exact ⟨⟨_, _, rfl, rfl⟩, ⟨_, _, rfl, rfl⟩, ⟨_, _, rfl, rfl⟩, ⟨_, _, rfl, rfl⟩, ⟨_, _, rfl, rfl⟩, ⟨_, _, rfl, rfl⟩,
    ⟨_, _, rfl, rfl⟩, ⟨_, _, rfl, rfl⟩, List.forall_mem_nil _⟩

theorem map_capitalize_fixedMemberNames :
    fixedMemberNames.map Text.capitalize =
      ["Fetcher", "Dmmf", "Engine", "ErrorFormat", "On", "Connect", "Disconnect", "Raw"] := by
  decide

namespace Mapping

theorem getterName_mem_fixedMemberNames_iff (m : Mapping) :
    m.getterName ∈ fixedMemberNames ↔
      m.entity ∈ fixedMemberNames ∨ m.entity ∈ fixedMemberNames.map Text.capitalize := by
  constructor
  · intro h
    obtain ⟨x, xs, hcons, hx⟩ := isPlainSmall_fixedMemberNames _ h
    rcases (Text.uncapitalize_eq_iff hx hcons).mp rfl with heq | heq
    · exact .inl (heq ▸ h)
    · exact .inr (List.mem_map.mpr ⟨_, h, heq.symm⟩)
  · intro h
    obtain ⟨n, hn, heq⟩ : ∃ n ∈ fixedMemberNames, m.entity = n ∨ m.entity = Text.capitalize n := by
      rcases h with h | h
      · exact ⟨_, h, .inl rfl⟩
      · obtain ⟨n, hn, heq⟩ := List.mem_map.mp h
        exact ⟨n, hn, .inr heq.symm⟩
    obtain ⟨x, xs, hcons, hx⟩ := isPlainSmall_fixedMemberNames n hn
    have hname : m.getterName = n := (Text.uncapitalize_eq_iff hx hcons).mpr heq
    exact hname ▸ hn

end Mapping

namespace Document

variable {d : Document}

/-- The names of the members of the client class; its constructor has none. -/
def clientMemberNames (d : Document) (s : Settings) : List String := (d.clientMembers s).filterMap (·.name)

theorem clientMemberNames_eq (s : Settings) :
    d.clientMemberNames s = fixedMemberNames ++ d.listable.map (·.getterName) := by
  rw [clientMemberNames, clientMembers, List.filterMap_append, filterMap_name_fixedMembers, List.filterMap_map]
  exact congrArg (fixedMemberNames ++ ·) (congrFun List.filterMap_eq_map _)

theorem nodup_map_entity_listable : (d.listable.map (·.entity)).Nodup :=
  (nodup_map_uniqueBy Mapping.entity d.mappings).sublist (List.filter_sublist.map _)

theorem nodup_map_getterName_iff :
    (d.listable.map (·.getterName)).Nodup ↔
      ∀ m ∈ d.listable, ∀ n ∈ d.listable,
        Text.uncapitalize m.entity = Text.uncapitalize n.entity → m.entity = n.entity := by
  rw [List.nodup_map_iff_inj_on nodup_map_entity_listable.of_map]
  refine forall₂_congr fun m hm => forall₂_congr fun n hn => forall_congr' fun _ => ?_
  constructor
  · rintro rfl
    rfl
  · exact List.inj_on_of_nodup_map nodup_map_entity_listable hm hn

theorem Valid.getterName_mem_fixedMemberNames_iff {extra : List String} (hv : d.Valid extra) (hw : d.WellFormed)
    {m : Mapping} (hm : m ∈ d.listable) : m.getterName ∈ fixedMemberNames ↔ m.entity ∈ memberLikeEntities := by
  have hfree : ∀ n ∈ fixedIdentifiers, m.entity ≠ n := by
    rintro n hn rfl
    refine hv.entityName_notMem_reservedNames (hw.entity_mem_of_used (List.mem_filter.mp hm).1) ?_
    exact List.mem_append_left _ (List.mem_append_right _ hn)
  have hengine : m.entity ≠ "Engine" := hfree _ (by decide)
  have hformat : m.entity ≠ "ErrorFormat" := hfree _ (by decide)
  rw [m.getterName_mem_fixedMemberNames_iff, map_capitalize_fixedMemberNames, memberLikeEntities, List.mem_append]
  simp only [List.mem_cons, hengine, hformat, false_or]

/-- In a document that is read and accepted, the members of the client class have distinct names exactly when no
record type that is listed has one of the fourteen names whose getters are named like a fixed member, and no two of
them have one name but for the case of the first letter. -/
theorem clientMemberNames_of_ensureValid (raw : Data) (d : Document) (s : Settings) (fs : Findings)
    (hread : Document.read raw = .ok d) (hvalid : d.ensureValid (some s) = .ok fs) :
    (d.clientMemberNames s).Nodup ↔
      (∀ m ∈ d.listable, m.entity ∉ memberLikeEntities) ∧
        ∀ m ∈ d.listable, ∀ n ∈ d.listable,
          Text.uncapitalize m.entity = Text.uncapitalize n.entity → m.entity = n.entity := by
  have hv := (ensureValid_isOk_iff (some s)).mp ⟨fs, hvalid⟩
  have hw := wellFormed_of_read hread
  have hfixed : fixedMemberNames.Nodup := by decide
  rw [clientMemberNames_eq, List.nodup_append', nodup_map_getterName_iff, List.disjoint_right, List.forall_mem_map]
  simp only [hfixed, true_and, and_comm (a := ∀ m ∈ d.listable, ∀ n ∈ d.listable, _)]
  refine and_congr_left fun _ => forall₂_congr fun m hm => ?_
  rw [hv.getterName_mem_fixedMemberNames_iff hw hm]

/-- Two record types that differ in their first letter alone. Their getters are named alike, and like a member that
every client class has. -/
def namesakes : Document where
  datamodel.entities := [{ tag with name := "On" }, { tag with name := "on" }]
  schema.outputTypes :=
    [{ tagOutput with name := "On" }, { tagOutput with name := "on" },
      ⟨"Query",
        [{ name := "lit", target := { type := "On", kind := .object, isList := true } },
          { name := "unlit", target := { type := "on", kind := .object, isList := true } }]⟩]
  mappings :=
    [{ entity := "On", plural := "lit", findMany := some "lit" },
      { entity := "on", plural := "unlit", findMany := some "unlit" }]

theorem namesakes_loaded : Document.read (.ofJson (namesakes.toJson .usual)) = .ok namesakes ∧
    ∃ fs, namesakes.ensureValid (some {}) = .ok fs :=
  ⟨(Reading.toOption_eq_some_iff _ _).mp (by decide +kernel), ensureValid_isOk_of_numbers (by decide +kernel)⟩

/-- The document is read and accepted. Both getters have the name of a fixed member. -/
theorem namesakes_repeat :
    Document.read (.ofJson (namesakes.toJson .usual)) = .ok namesakes ∧
      (∃ fs, namesakes.ensureValid (some {}) = .ok fs) ∧
      namesakes.clientMemberNames {} = fixedMemberNames ++ ["on", "on"] ∧
      ¬ (namesakes.clientMemberNames {}).Nodup := by
  have hnames : namesakes.clientMemberNames {} = fixedMemberNames ++ ["on", "on"] := by decide
  refine ⟨namesakes_loaded.1, namesakes_loaded.2, hnames, ?_⟩
  rw [hnames]
  decide

theorem namesakes_clash :
    Document.read (.ofJson (namesakes.toJson .usual)) = .ok namesakes ∧
      (∃ fs, namesakes.ensureValid (some {}) = .ok fs) ∧ ¬ (namesakes.clientMemberNames {}).Nodup := by
  obtain ⟨hread, fs, hok⟩ := namesakes_loaded
  refine ⟨hread, ⟨fs, hok⟩, fun hnodup => ?_⟩
  have hfree := (clientMemberNames_of_ensureValid _ namesakes {} fs hread hok).mp hnodup
  exact hfree.1 namesakes.mappings[0] (by decide) (by decide)

end Document

end TypedClient
