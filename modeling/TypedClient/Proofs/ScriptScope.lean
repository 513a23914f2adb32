import TypedClient.Proofs.Scope
import TypedClient.Rendition.Script

set_option autoImplicit false

namespace TypedClient

/-- The names that the fixed parts of the script declare besides the error classes. -/
def scriptLocals : List String :=
  runtimeFunctions ++ ["path", "debug", "makeEnum", "dmmfString", "dmmf", "config"]

/-- The keys that the fixed parts of the script assign besides the error classes. -/
def scriptExports : List String := "clientVersion" :: sqlHelpers ++ ["dmmf"]

namespace Document

variable {d : Document} {s : Settings}

/-- The names that the settings and the document give to what is exported. -/
def exportedNames (d : Document) (s : Settings) : List String := s.clientName :: d.enums.map (·.name)

theorem declared_jsPassagesWith (config : Json) :
    Passage.declared (d.jsPassagesWith s config) = runtimeErrors ++ scriptLocals ++ [s.clientName] := by
  have henums : d.enums.flatMap (fun e => e.jsPassage.declares) = [] := by simp [Enumeration.jsPassage]
  simp only [Passage.declared, jsPassagesWith, List.flatMap_append, List.flatMap_map, henums]
  rfl

theorem exports_jsPassagesWith (config : Json) :
    Passage.exports (d.jsPassagesWith s config) =
      "clientVersion" :: runtimeErrors ++ sqlHelpers ++ d.enums.map (·.name) ++ ["dmmf", s.clientName] := by
  have henums : d.enums.flatMap (fun e => e.jsPassage.exported) = d.enums.map (·.name) := by
    simp [Enumeration.jsPassage, List.map_eq_flatMap]
  simp only [Passage.exports, jsPassagesWith, List.flatMap_append, List.flatMap_map, henums]
  rfl

theorem exports_perm (config : Json) :
    (Passage.exports (d.jsPassagesWith s config)).Perm (scriptExports ++ (runtimeErrors ++ d.exportedNames s)) := by
  rw [List.perm_iff_count]
  intro n
  rw [exports_jsPassagesWith]
  simp only [scriptExports, exportedNames, List.count_append, List.count_cons, List.count_nil]
  omega

theorem Valid.nodup_exported (hv : d.Valid (clientNames (some s))) : (runtimeErrors ++ d.exportedNames s).Nodup := by
  have herrors : runtimeErrors.Subperm fixedIdentifiers :=
    List.subperm_of_subset (by decide) (by decide)
  have hreserved := (List.nodup_append.mp hv.names).1
  rw [List.nodup_iff_count_le_one] at hreserved ⊢
  intro n
  have hle := hreserved n
  have herror := herrors.count_le n
  simp only [reservedNames, clientNames, exportedNames, map_name_enums, List.count_append, List.count_cons,
    List.count_nil] at hle ⊢
  omega

theorem Valid.clientName_notMem_runtimeErrors (hv : d.Valid (clientNames (some s))) : s.clientName ∉ runtimeErrors :=
  fun h => List.disjoint_of_nodup_append hv.nodup_exported h List.mem_cons_self

theorem Valid.nodup_declared_iff (hv : d.Valid (clientNames (some s))) (config : Json) :
    (Passage.declared (d.jsPassagesWith s config)).Nodup ↔ s.clientName ∉ scriptLocals := by
  have hfixed : (runtimeErrors ++ scriptLocals).Nodup := by decide
  rw [declared_jsPassagesWith, List.nodup_append', List.disjoint_singleton, List.mem_append]
  simp only [hfixed, List.nodup_singleton, hv.clientName_notMem_runtimeErrors, true_and, false_or]

theorem Valid.one_lt_count_scriptNames_iff (hv : d.Valid (clientNames (some s))) (config : Json) (n : String) :
    1 < (Passage.declared (d.jsPassagesWith s config)).count n ↔ n ∈ scriptLocals ∧ n = s.clientName := by
  have hfixed : (runtimeErrors ++ scriptLocals).Nodup := by decide
  rw [declared_jsPassagesWith, one_lt_count_append_iff hfixed (List.nodup_singleton _), List.mem_singleton,
    List.mem_append]
  refine and_congr_left ?_
  rintro rfl
  exact or_iff_right hv.clientName_notMem_runtimeErrors

theorem nodup_scriptExports : scriptExports.Nodup ∧ ∀ n ∈ scriptExports, n ∉ runtimeErrors := by
  decide

theorem Valid.nodup_exports_iff (hv : d.Valid (clientNames (some s))) (config : Json) :
    (Passage.exports (d.jsPassagesWith s config)).Nodup ↔ ∀ n ∈ scriptExports, n ∉ d.exportedNames s := by
  rw [(exports_perm config).nodup_iff, List.nodup_append', List.disjoint_left]
  simp only [nodup_scriptExports.1, hv.nodup_exported, true_and, List.mem_append, not_or]
  exact forall₂_congr fun n hn => and_iff_right (nodup_scriptExports.2 n hn)

theorem Valid.one_lt_count_exports_iff (hv : d.Valid (clientNames (some s))) (config : Json) (n : String) :
    1 < (Passage.exports (d.jsPassagesWith s config)).count n ↔ n ∈ scriptExports ∧ n ∈ d.exportedNames s := by
  rw [(exports_perm config).count_eq, one_lt_count_append_iff nodup_scriptExports.1 hv.nodup_exported,
    List.mem_append]
  exact and_congr_right fun hn => or_iff_right (nodup_scriptExports.2 n hn)

/-- In the script of an accepted document a name is declared twice exactly when the client class has it and it is
that of another local, and a key is assigned twice exactly when it is one of the fixed keys that the checks do not
know and the client class or an enumeration has its name. Lines of the text declare the names and assign the keys. -/
theorem bound_of_ensureValid (d : Document) (s : Settings) (current : List String) (fs : Findings)
    (ps : List Passage) (hvalid : d.ensureValid (some s) = .ok fs) (hps : d.jsPassages s current = .ok ps) :
    ((Passage.declared ps).Nodup ↔ s.clientName ∉ scriptLocals) ∧
      (∀ n, 1 < (Passage.declared ps).count n ↔ n ∈ scriptLocals ∧ n = s.clientName) ∧
      ((Passage.exports ps).Nodup ↔ ∀ n ∈ scriptExports, n ∉ d.exportedNames s) ∧
      (∀ n, 1 < (Passage.exports ps).count n ↔ n ∈ scriptExports ∧ n ∈ d.exportedNames s) ∧
      ∀ p ∈ ps, Text.Declares scriptForms p.text p.declares ∧ Text.Declares exportForms p.text p.exported := by
  have hv := (ensureValid_isOk_iff (some s)).mp ⟨fs, hvalid⟩
  obtain ⟨config, -, rfl⟩ := (except_map_eq_ok_iff _ _ _).mp hps
  exact ⟨hv.nodup_declared_iff config, hv.one_lt_count_scriptNames_iff config, hv.nodup_exports_iff config,
    hv.one_lt_count_exports_iff config, tellsNames_jsPassagesWith d s config⟩

/-- A client class that has the name of a local of the script, and an enumeration that has that of a helper for raw
queries. -/
def configClient : Settings := { clientName := "config" }

def helperChosen : Document where
  datamodel.enums := [⟨"sql", ["A"]⟩]

theorem helperChosen_loaded : Document.read (.ofJson (helperChosen.toJson .usual)) = .ok helperChosen ∧
    Settings.read (.ofJson configClient.toJson) = .ok configClient ∧
    ∃ fs, helperChosen.ensureValid (some configClient) = .ok fs :=
  ⟨(Reading.toOption_eq_some_iff _ _).mp (by decide +kernel),
    (Reading.toOption_eq_some_iff _ _).mp (by decide +kernel), ensureValid_isOk_of_numbers (by decide +kernel)⟩

/-- The document and the settings are read and accepted. A name is declared twice in the script, and a key is
assigned twice. -/
theorem helperChosen_repeated :
    Document.read (.ofJson (helperChosen.toJson .usual)) = .ok helperChosen ∧
      Settings.read (.ofJson configClient.toJson) = .ok configClient ∧
      (∃ fs, helperChosen.ensureValid (some configClient) = .ok fs) ∧
      ∃ ps, helperChosen.jsPassages configClient [] = .ok ps ∧ ¬ (Passage.declared ps).Nodup ∧
        ¬ (Passage.exports ps).Nodup := by
  obtain ⟨hread, hsettings, haccepted⟩ := helperChosen_loaded
  refine ⟨hread, hsettings, haccepted, _, rfl, ?_, ?_⟩
  · rw [declared_jsPassagesWith]
    decide
  · rw [exports_jsPassagesWith]
    decide

theorem helperChosen_bound :
    (∃ fs, helperChosen.ensureValid (some configClient) = .ok fs) ∧
      ∃ ps, helperChosen.jsPassages configClient [] = .ok ps ∧ 1 < (Passage.declared ps).count "config" ∧
        1 < (Passage.exports ps).count "sql" := by
  obtain ⟨-, -, fs, hok⟩ := helperChosen_loaded
  obtain ⟨-, hdeclared, -, hexports, -⟩ := bound_of_ensureValid helperChosen configClient [] fs _ hok rfl
  exact ⟨⟨fs, hok⟩, _, rfl, (hdeclared "config").mpr ⟨by decide, rfl⟩, (hexports "sql").mpr ⟨by decide, by decide⟩⟩

end Document

end TypedClient
