import Mathlib.Data.List.Perm.Subperm
import TypedClient.Proofs.DeclaringLines

set_option autoImplicit false

namespace TypedClient

/-- The names that the fixed parts declare without the checks knowing of it. -/
def unreservedNames : List String :=
  ["sql", "empty", "join", "raw", "clientVersion", "getLogLevel", "dmmf"]

/-- What stands after the type name in every role but that of the value type, and after the client name in the
name of its options. -/
def derivedSuffixes : List String :=
  "Options" :: (Role.all.filter (· ≠ .value)).map (·.affixes.2)

theorem not_suffix_unreserved :
    ∀ suffix ∈ derivedSuffixes, ∀ n ∈ unreservedNames, ¬ suffix.toList <:+ n.toList := by
  decide

theorem optionsName_notMem_unreserved (client : String) : optionsName client ∉ unreservedNames := by
  intro hn
  exact append_ne_of_not_suffix (not_suffix_unreserved "Options" (by simp [derivedSuffixes]) _ hn) rfl

theorem eq_of_identifier_mem_unreserved {role : Role} {entity : String}
    (h : identifier role entity ∈ unreservedNames) : identifier role entity = entity := by
  by_cases hr : role = .value
  · rw [hr, identifier_value]
  · have hs : role.affixes.2 ∈ derivedSuffixes :=
      List.mem_cons_of_mem _
        (List.mem_map.mpr ⟨role, List.mem_filter.mpr ⟨role.mem_all, by simpa using hr⟩, rfl⟩)
    exact absurd rfl (append_ne_of_not_suffix (not_suffix_unreserved _ hs _ h))

theorem derivedFrom_cons (entity : String) (entities : List String) :
    derivedFrom (entity :: entities) =
      (Role.all.map fun role => ⟨entity, role⟩) ++ derivedFrom entities := rfl

theorem EntityDeclarations.names_subperm {d : Document} {e : Entity} {x : EntityDeclarations}
    (h : d.entityDeclarations e = .ok x) :
    x.names.Subperm (Role.all.map fun role => identifier role e.name) := by
  rw [names_eq h]
  obtain ⟨rs, hperm, hsub⟩ := (nodup_roles h).subperm fun r _ => r.mem_all
  exact ⟨_, hperm.map _, hsub.map _⟩

namespace Document

variable {d : Document}

theorem allNames_subperm {es : List Entity} {xs : List EntityDeclarations}
    (h : d.allDeclarations es = .ok xs) :
    (xs.flatMap (·.names)).Subperm ((derivedFrom (es.map (·.name))).map (·.name)) := by
  rw [allDeclarations_eq, mapM_eq_ok_iff] at h
  induction h with
  | nil => exact List.Subperm.refl _
  | @cons e x es xs hx _ ih =>
    rw [List.flatMap_cons, List.map_cons, derivedFrom_cons, List.map_append, List.map_map]
    exact (x.names_subperm hx).append ih

def chosenNames (d : Document) (s : Settings) : List String :=
  s.clientName :: (d.enums.map (·.name) ++ d.entityNames ++ d.schema.inputTypes.map (·.name))

theorem declared_tsPassagesWith (s : Settings) (xs : List EntityDeclarations) :
    Passage.declared (d.tsPassagesWith s xs) =
      Passage.declared (headPassages s) ++ ["Datasources"]
        ++ Passage.declared (optionPassages s.clientName) ++ [s.clientName] ++ d.enums.map (·.name)
        ++ xs.flatMap (·.names) ++ d.schema.inputTypes.map (·.name) ++ ["BatchPayload", "dmmf"] := by
  simp [Passage.declared, tsPassagesWith, List.flatMap_append, List.flatMap_map, Passage.ofLines,
    Enumeration.tsPassage, EntityDeclarations.passage, InputType.passage, batchPassage, schemaPassage]
  simp only [List.map_eq_flatMap]

theorem Passage.declares_ofLines (declares lines : List String) :
    (Passage.ofLines declares lines).declares = declares := rfl

theorem declared_headPassages (s : Settings) :
    Passage.declared (headPassages s) = Passage.declared (headPassages {}) := by
  simp only [Passage.declared, headPassages, importPassage, reexportPassages, versionPassages,
    utilityPassages, List.flatMap_cons, List.flatMap_append, List.flatMap_nil, Passage.declares_ofLines]

theorem declared_optionPassages (client : String) :
    Passage.declared (optionPassages client) =
      ["ErrorFormat"] ++ [optionsName client] ++ (Passage.declared (optionPassages "")).drop 2 := by
  simp only [Passage.declared, optionPassages, List.flatMap_cons, List.flatMap_nil,
    Passage.declares_ofLines, List.cons_append, List.nil_append, List.drop_succ_cons, List.drop_zero]

theorem fixed_perm :
    (Passage.declared (headPassages {}) ++ "Datasources" :: "ErrorFormat" ::
        (Passage.declared (optionPassages "")).drop 2 ++ ["BatchPayload", "dmmf"]).Perm
      (unreservedNames ++ fixedIdentifiers) := by
  decide

theorem declared_perm (s : Settings) (xs : List EntityDeclarations) :
    (Passage.declared (d.tsPassagesWith s xs)).Perm
      (unreservedNames ++ (d.reservedNames (clientNames (some s)) ++ xs.flatMap (·.names))) := by
  rw [List.perm_iff_count]
  intro n
  have hfixed := fixed_perm.count_eq n
  rw [declared_tsPassagesWith, declared_headPassages, declared_optionPassages, map_name_enums,
    reservedNames, clientNames]
  simp only [List.count_append, List.count_cons, List.count_nil] at hfixed ⊢
  omega

theorem Valid.nodup_scope {s : Settings} (hv : d.Valid (clientNames (some s)))
    {xs : List EntityDeclarations} (h : d.allDeclarations d.entities = .ok xs) :
    (d.reservedNames (clientNames (some s)) ++ xs.flatMap (·.names)).Nodup := by
  rw [List.nodup_iff_count_le_one]
  intro n
  have hderived := (allNames_subperm h).count_le n
  have hnames := List.nodup_iff_count_le_one.mp hv.names n
  rw [List.count_append] at hnames ⊢
  change _ ≤ ((derivedFrom d.entityNames).map (·.name)).count n at hderived
  omega

theorem mem_allNames_iff {xs : List EntityDeclarations} (h : d.allDeclarations d.entities = .ok xs)
    {n : String} (hn : n ∈ unreservedNames) : n ∈ xs.flatMap (·.names) ↔ n ∈ d.entityNames := by
  rw [allDeclarations_eq, mapM_eq_ok_iff] at h
  rw [List.mem_flatMap, entityNames, List.mem_map]
  constructor
  · rintro ⟨x, hx, hmem⟩
    obtain ⟨e, he, hxe⟩ := forall₂_exists_left h hx
    rw [x.names_eq hxe] at hmem
    obtain ⟨r, -, rfl⟩ := List.mem_map.mp hmem
    exact ⟨e, he, (eq_of_identifier_mem_unreserved hn).symm⟩
  · rintro ⟨e, he, rfl⟩
    obtain ⟨x, hx, hxe⟩ := forall₂_exists_right h he
    obtain ⟨rfl, -⟩ := entityDeclarations_eq_ok_iff.mp hxe
    exact ⟨x, hx, by simp [EntityDeclarations.names]⟩

theorem mem_scope_iff {s : Settings} {xs : List EntityDeclarations}
    (h : d.allDeclarations d.entities = .ok xs) {n : String} (hn : n ∈ unreservedNames) :
    n ∈ d.reservedNames (clientNames (some s)) ++ xs.flatMap (·.names) ↔ n ∈ d.chosenNames s := by
  have hfixed : n ∉ fixedIdentifiers := by
    revert n
    decide
  have hoptions : n ≠ optionsName s.clientName := by
    rintro rfl
    exact optionsName_notMem_unreserved _ hn
  simp only [reservedNames, chosenNames, clientNames, map_name_enums, List.mem_append, List.mem_cons,
    List.not_mem_nil, hfixed, hoptions, mem_allNames_iff h hn, or_false]
  tauto

theorem Valid.one_lt_count_declared_iff {s : Settings} (hv : d.Valid (clientNames (some s)))
    {xs : List EntityDeclarations} (h : d.allDeclarations d.entities = .ok xs) (n : String) :
    1 < (Passage.declared (d.tsPassagesWith s xs)).count n ↔
      n ∈ unreservedNames ∧ n ∈ d.chosenNames s := by
  have hunreserved : unreservedNames.Nodup := by decide
  rw [(declared_perm s xs).count_eq, one_lt_count_append_iff hunreserved (hv.nodup_scope h)]
  exact and_congr_right (mem_scope_iff h)

/-- In the scope of an accepted document a name is declared twice exactly when it is one of those that the
checks do not know and the document or the settings choose it. The names are those that lines of the text declare. -/
theorem declared_of_ensureValid (d : Document) (s : Settings) (fs : Findings) (ps : List Passage)
    (h : d.ensureValid (some s) = .ok fs) (hps : d.tsPassages s = .ok ps) :
    ((Passage.declared ps).Nodup ↔ ∀ n ∈ unreservedNames, n ∉ d.chosenNames s) ∧
      (∀ n, 1 < (Passage.declared ps).count n ↔ n ∈ unreservedNames ∧ n ∈ d.chosenNames s) ∧
      ∀ p ∈ ps, Text.Declares typeForms p.text p.declares := by
  have hv := (ensureValid_isOk_iff (some s)).mp ⟨fs, h⟩
  obtain ⟨xs, hxs, rfl⟩ := (except_map_eq_ok_iff _ _ _).mp hps
  refine ⟨?_, hv.one_lt_count_declared_iff hxs, declares_tsPassagesWith hxs⟩
  rw [List.nodup_iff_count_le_one]
  constructor
  · intro hle n hn hchosen
    exact Nat.not_lt_of_le (hle n) ((hv.one_lt_count_declared_iff hxs n).mpr ⟨hn, hchosen⟩)
  · intro hfree n
    refine Nat.le_of_not_lt fun hlt => ?_
    obtain ⟨hn, hchosen⟩ := (hv.one_lt_count_declared_iff hxs n).mp hlt
    exact hfree n hn hchosen

def schemaNameChosen : Document where
  datamodel.entities := [tag]
  datamodel.enums := [⟨"dmmf", ["A"]⟩]
  schema.outputTypes :=
    [tagOutput,
      ⟨"Query", [{ name := "findManyTag", target := { type := "Tag", kind := .object, isList := true } }]⟩]
  mappings := [{ entity := "Tag", plural := "tags", findMany := some "findManyTag" }]

theorem schemaNameChosen_accepted : ∃ fs, schemaNameChosen.ensureValid (some {}) = .ok fs :=
  ensureValid_isOk_of_numbers (by decide +kernel)

/-- The document is read and accepted, and then the name is declared twice. -/
theorem schemaNameChosen_repeated :
    Document.read (.ofJson (schemaNameChosen.toJson .usual)) = .ok schemaNameChosen ∧
      (∃ fs, schemaNameChosen.ensureValid (some {}) = .ok fs) ∧
      ∃ ps, schemaNameChosen.tsPassages {} = .ok ps ∧ ¬ (Passage.declared ps).Nodup := by
  refine ⟨(Reading.toOption_eq_some_iff _ _).mp (by decide +kernel), schemaNameChosen_accepted, _, rfl, ?_⟩
  decide +kernel

theorem schemaNameChosen_declared :
    (∃ fs, schemaNameChosen.ensureValid (some {}) = .ok fs) ∧
      ∃ ps, schemaNameChosen.tsPassages {} = .ok ps ∧ 1 < (Passage.declared ps).count "dmmf" := by
  obtain ⟨fs, hok⟩ := schemaNameChosen_accepted
  have hdeclared := declared_of_ensureValid schemaNameChosen {} fs _ hok rfl
  exact ⟨⟨fs, hok⟩, _, rfl, (hdeclared.2.1 "dmmf").mpr ⟨by decide, by decide⟩⟩

end Document

end TypedClient
