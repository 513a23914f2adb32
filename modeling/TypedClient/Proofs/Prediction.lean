import TypedClient.Proofs.ExitCodes
import TypedClient.Proofs.Flags

set_option autoImplicit false

/-!
# What a check alone predicts

The same command line may ask for a check alone or for a run that writes nothing. Both load the same file; how far
the first tells how the second ends follows from what each of them demands.
-/

namespace TypedClient

theorem Findings.isValid_iff {fs : Findings} : fs.isValid = true ↔ fs.errors = [] := by
  simp [isValid, errors]

namespace Run

def schemaPlace (at' : Surroundings) (path : Text) : Text :=
  Path.absolute (Path.resolve at'.current path).dropLast

theorem schemaPlace_ne_empty (at' : Surroundings) (path : Text) : schemaPlace at' path ≠ "" := by
  unfold schemaPlace Path.absolute
  exact List.append_ne_nil_of_left_ne_nil (by decide) _

/-- Settings from outside that leave the directory of the schema file as it is. -/
def Placeless (overrides : List (Scalar × Data)) : Prop :=
  ∀ e ∈ overrides, ∃ key, e.1 = .text key ∧ "schema_dir" ≠ key

variable {overrides : List (Scalar × Data)}

theorem overlay_placeSettings (h : Placeless overrides) (at' : Surroundings) (path : Text)
    (entries : List (Scalar × Data)) :
    Source.overlay entries (placeSettings at' path none overrides) =
      Data.put (Source.overlay entries overrides) (.text "schema_dir") (.text (schemaPlace at' path)) := by
  have hnew : overrides.any (·.1.isText "schema_dir") = false := by
    rw [List.any_eq_false]
    intro e he
    obtain ⟨key, hkey, hne⟩ := h e he
    rw [hkey, Scalar.isText_text, beq_iff_eq]
    exact hne.symm
  simp only [placeSettings, hnew, Bool.false_eq_true, if_false, Option.elim_none, Source.overlay, List.foldl_append]
  rfl

def ownPlace (raw : List (Scalar × Data)) : Reading Text :=
  Reading.optional (.plain "schema_dir") "." Reading.text (Source.rawSettings raw)

theorem read_placed_iff (h : Placeless overrides) (at' : Surroundings) (path : Text) (raw : List (Scalar × Data))
    (d : Document) (s : Settings) :
    Source.read raw overrides = .ok ⟨d, s⟩ ↔
      Source.read raw (placeSettings at' path none overrides) =
          .ok ⟨d, { s with schemaDir := schemaPlace at' path }⟩ ∧
        ownPlace raw = .ok s.schemaDir := by
  -- The settings from outside do not touch the entry, so it may be read below them.
  have hown : Reading.optional (.plain "schema_dir") ("." : Text) Reading.text
      (Source.overlay (Source.rawSettings raw) overrides) = ownPlace raw := by
    unfold ownPlace Reading.optional Reading.entry?
    simp only [Key.plain, Data.get?_overlay_of_notMem h]
  rw [Source.read_eq_ok_iff, Source.read_eq_ok_iff, overlay_placeSettings h,
    Settings.read_iff_placed _ (schemaPlace at' path), hown, and_assoc]

theorem schemaDir_of_read_placed (h : Placeless overrides) {raw : List (Scalar × Data)} {at' : Surroundings}
    {path : Text} {source : Source}
    (hread : Source.read raw (placeSettings at' path none overrides) = .ok source) :
    source.settings.schemaDir = schemaPlace at' path := by
  obtain ⟨-, hsettings⟩ := Source.read_eq_ok_iff.mp hread
  rw [overlay_placeSettings h, Settings.read_eq_ok_iff] at hsettings
  obtain ⟨⟨-, -, -, -, -, -, -, -, -, -, -, hplace⟩, -⟩ := hsettings
  rw [Reading.optional_put, if_pos rfl, Reading.within_eq_ok_iff] at hplace
  exact (Reading.ok.inj hplace).symm

end Run

namespace CommandLine

open Files Run

theorem Options.placeless_overrides (o : Options) : Placeless o.overrides := by
  have hgiven (key : String) (hkey : "schema_dir" ≠ key) (value : Option String) :
      Placeless (value.elim [] fun v => [(Scalar.text key, Data.text v)]) := by
    cases value with
    | none => exact List.forall_mem_nil _
    | some v => exact List.forall_mem_singleton.mpr ⟨key, rfl, mt Text.ofString_inj.mp hkey⟩
  have hscript : Placeless (if o.noJs then [(Scalar.text "emit_js", Data.scalar (.bool false))] else []) := by
    split
    · exact List.forall_mem_singleton.mpr ⟨"emit_js", rfl, by decide⟩
    · exact List.forall_mem_nil _
  have hnames := hgiven "client_name" (by decide) o.clientName
  have hruntime := hgiven "runtime_path" (by decide) o.runtimePath
  have hclient := hgiven "client_version" (by decide) o.clientVersion
  have hengine := hgiven "engine_version" (by decide) o.engineVersion
  simp only [overrides, Placeless, List.forall_mem_append]
  exact ⟨⟨⟨⟨hnames, hruntime⟩, hclient⟩, hengine⟩, hscript⟩

/-! ## How the two calls end -/

namespace Invocation

/-- The schema file of a call is there and holds a map. -/
structure Opens (call : Invocation) (given : String) (raw : SchemaFile.Entries) : Prop where
  askable : given.toList.contains '\x00' = false
  found : ∃ content, SchemaFile.lookAt call.disk [] (call.schemaPath given) = .ok (some (.file content))
  loaded : (SchemaFile.load call.disk call.current (call.schemaPath given)).1 = .ok raw

variable {call : Invocation} {o : Options} {given : String}

theorem start_exits_iff (h : o.validateOnly = true ∨ o.dryRun = true) :
    (call.start o given).ending = .exit 0 ↔ given.toList.contains '\x00' = false ∧
      (∃ content, SchemaFile.lookAt call.disk [] (call.schemaPath given) = .ok (some (.file content))) ∧
      (if o.validateOnly then call.check o (call.schemaPath given)
        else call.generate o (call.schemaPath given) none).ending = .exit 0 := by
  have hpath : Path.absolute (Path.resolve call.current given) = call.schemaPath given := rfl
  simp only [start, hpath]
  cases given.toList.contains '\x00' with
  | true => simp [unaskable]
  | false =>
    rcases SchemaFile.lookAt call.disk [] (call.schemaPath given) with f | _ | _ | content
    · simp
    · simp [ended, ExitCode.number]
    · simp [ended, ExitCode.number]
    · cases hmode : o.validateOnly with
      | true => simp
      | false => simp [h.resolve_left (by simp [hmode])]

theorem check_exits_iff (call : Invocation) (o : Options) (path : Text) :
    (call.check o path).ending = .exit 0 ↔ ∃ raw, (SchemaFile.load call.disk call.current path).1 = .ok raw ∧
      ∃ source, Source.read raw o.overrides = .ok source ∧
        (source.document.findings (some source.settings)).errors = [] := by
  unfold check
  rcases SchemaFile.load call.disk call.current path with ⟨f | raw, remarks⟩
  · dsimp only
    split
    · simp [ended, ExitCode.number]
    · simp
  · cases hread : Source.read raw o.overrides with
    | error f => simp [hread, ended, ExitCode.number]
    | ok source =>
      cases hvalid : (source.document.findings (some source.settings)).isValid with
      | true => simp [hread, hvalid, ended, ExitCode.number, Findings.isValid_iff.mp hvalid]
      | false =>
        have herrors : (source.document.findings (some source.settings)).errors ≠ [] := by
          rw [Ne, ← Findings.isValid_iff, hvalid]
          decide
        simp [hread, hvalid, ended, ExitCode.number, herrors]

theorem number_ofReport_eq_zero_iff (r : Report) : (ExitCode.ofReport r).number = 0 ↔ r.success = true := by
  unfold ExitCode.ofReport
  split_ifs with hsuccess
  · simp [hsuccess, ExitCode.number]
  all_goals simp [hsuccess, ExitCode.number]

theorem generate_exits_iff (call : Invocation) (o : Options) (path : Text) (goal : Option (List Text)) :
    (call.generate o path goal).ending = .exit 0 ↔
      ∃ outcome, (file (call.surroundings o) path goal o.overrides call.disk).1 = .ok outcome ∧
        outcome.report.success = true := by
  rw [ending_generate]
  cases (file (call.surroundings o) path goal o.overrides call.disk).1 with
  | error cause => simp
  | ok outcome => simp [number_ofReport_eq_zero_iff]

theorem generate_dry_exits_iff (call : Invocation) (o : Options) (path : Text) :
    (call.generate o path none).ending = .exit 0 ↔
      ∃ source, Loads (call.surroundings o) path none o.overrides call.disk source ∧
        ¬ Stops o.failOnWarnings (source.document.findings (some source.settings)) ∧
          ∃ ts, source.document.tsText source.settings = .ok ts ∧ Text.isWhole ts = true := by
  have hsucceeds {source : Source} (h : Loads (call.surroundings o) path none o.overrides call.disk source) :
      (call.generate o path none).ending = .exit 0 ↔
        ¬ Stops o.failOnWarnings (source.document.findings (some source.settings)) ∧
          ∃ ts, source.document.tsText source.settings = .ok ts ∧ Text.isWhole ts = true := by
    obtain ⟨raw, -, -, hread⟩ := id h
    have hpath : source.settings.schemaDir ≠ "" := by
      rw [schemaDir_of_read_placed o.placeless_overrides hread]
      exact schemaPlace_ne_empty _ _
    have hmade := exists_coded_iff (d := source.document) hpath call.current
    rw [generate_exits_iff, file_of_loads h, exists_success_iff rfl]
    exact and_congr_right' hmade
  constructor
  · intro hexit
    by_cases hloads : ∃ source, Loads (call.surroundings o) path none o.overrides call.disk source
    · obtain ⟨source, hsource⟩ := hloads
      exact ⟨source, hsource, (hsucceeds hsource).mp hexit⟩
    · obtain ⟨outcome, hfile, hsuccess⟩ := (generate_exits_iff call o path none).mp hexit
      obtain ⟨text, htext⟩ | ⟨f, hf⟩ := file_of_not_loads (not_exists.mp hloads)
      · cases hfile.symm.trans htext
        cases hsuccess
      · cases hfile.symm.trans hf
  · rintro ⟨source, hsource, hdemands⟩
    exact (hsucceeds hsource).mpr hdemands

theorem validate_only_exits_iff (call : Invocation) {words : List String}
    (hwords : Options.ofWords words = .ok (o, given)) :
    (call.run ("--validate-only" :: words)).ending = .exit 0 ↔
      ∃ raw, call.Opens given raw ∧ ∃ source, Source.read raw o.overrides = .ok source ∧
        (source.document.findings (some source.settings)).errors = [] := by
  rw [run, Options.ofWords_validateOnly hwords]
  dsimp only
  rw [start_exits_iff (.inl rfl), if_pos rfl, check_exits_iff]
  constructor
  · rintro ⟨haskable, hfound, raw, hload, hvalid⟩
    exact ⟨raw, ⟨haskable, hfound, hload⟩, hvalid⟩
  · rintro ⟨raw, ⟨haskable, hfound, hload⟩, hvalid⟩
    exact ⟨haskable, hfound, raw, hload, hvalid⟩

/-- A run that writes nothing succeeds if its file can be read, its check lets it pass, and the declarations can be
made and have an encoding. -/
theorem dry_run_exits_iff (call : Invocation) {words : List String}
    (hwords : Options.ofWords words = .ok (o, given)) (hmode : o.validateOnly = false) :
    (call.run ("--dry-run" :: words)).ending = .exit 0 ↔
      ∃ raw, call.Opens given raw ∧ ∃ source,
        Source.read raw (placeSettings (call.surroundings o) (call.schemaPath given) none o.overrides) =
            .ok source ∧
          ¬ Stops o.failOnWarnings (source.document.findings (some source.settings)) ∧
            ∃ ts, source.document.tsText source.settings = .ok ts ∧ Text.isWhole ts = true := by
  rw [run, Options.ofWords_dryRun hwords]
  dsimp only
  rw [start_exits_iff (.inr rfl), if_neg (by simp [hmode]), generate_dry_exits_iff]
  constructor
  · rintro ⟨haskable, hfound, source, ⟨raw, hload, -, hread⟩, hdemands⟩
    exact ⟨raw, ⟨haskable, hfound, hload⟩, source, hread, hdemands⟩
  · rintro ⟨raw, ⟨haskable, hfound, hload⟩, source, hread, hdemands⟩
    exact ⟨haskable, hfound, source, ⟨raw, hload, rfl, hread⟩, hdemands⟩

/-- The file of a call can be read, and its document has no errors. -/
structure Sound (call : Invocation) (o : Options) (given : String) (raw : SchemaFile.Entries) (source : Source) :
    Prop where
  opens : call.Opens given raw
  read : Source.read raw (placeSettings (call.surroundings o) (call.schemaPath given) none o.overrides) = .ok source
  errors : (source.document.findings (some source.settings)).errors = []

theorem Opens.unique {raw other : SchemaFile.Entries} (h : call.Opens given raw) (hother : call.Opens given other) :
    raw = other :=
  Except.ok.inj (h.loaded.symm.trans hother.loaded)

theorem exists_sound_of_validate_only {raw : SchemaFile.Entries} {s : Source} (hopens : call.Opens given raw)
    (hread : Source.read raw o.overrides = .ok s) (herrors : (s.document.findings (some s.settings)).errors = []) :
    ∃ source, call.Sound o given raw source ∧ ownPlace raw = .ok s.settings.schemaDir := by
  obtain ⟨d, s⟩ := s
  obtain ⟨hplaced, hown⟩ :=
    (read_placed_iff o.placeless_overrides (call.surroundings o) (call.schemaPath given) raw d s).mp hread
  exact ⟨_, ⟨hopens, hplaced, herrors⟩, hown⟩

theorem Sound.validate_only_exits_iff {words : List String} {raw : SchemaFile.Entries} {source : Source}
    (h : call.Sound o given raw source) (hwords : Options.ofWords words = .ok (o, given)) :
    (call.run ("--validate-only" :: words)).ending = .exit 0 ↔ ∃ place, ownPlace raw = .ok place := by
  rw [Invocation.validate_only_exits_iff call hwords]
  constructor
  · rintro ⟨raw', hopens, s, hread, herrors⟩
    cases h.opens.unique hopens
    obtain ⟨-, -, hown⟩ := exists_sound_of_validate_only hopens hread herrors
    exact ⟨_, hown⟩
  · rintro ⟨place, hown⟩
    obtain ⟨d, s⟩ := source
    have hplace : s.schemaDir = schemaPlace (call.surroundings o) (call.schemaPath given) :=
      schemaDir_of_read_placed o.placeless_overrides h.read
    have hread : Source.read raw o.overrides = .ok ⟨d, { s with schemaDir := place }⟩ := by
      rw [read_placed_iff o.placeless_overrides (call.surroundings o) (call.schemaPath given), ← hplace]
      exact ⟨h.read, hown⟩
    exact ⟨raw, h.opens, _, hread, h.errors⟩

theorem Sound.dry_run_exits_iff {words : List String} {raw : SchemaFile.Entries} {source : Source}
    (h : call.Sound o given raw source) (hwords : Options.ofWords words = .ok (o, given))
    (hmode : o.validateOnly = false) : (call.run ("--dry-run" :: words)).ending = .exit 0 ↔
      (o.failOnWarnings = true → (source.document.findings (some source.settings)).warnings = []) ∧
        ∃ ts, source.document.tsText source.settings = .ok ts ∧ Text.isWhole ts = true := by
  rw [Invocation.dry_run_exits_iff call hwords hmode]
  constructor
  · rintro ⟨raw', hopens, other, hread, hpasses, hts⟩
    cases h.opens.unique hopens
    cases h.read.symm.trans hread
    exact ⟨(not_stops_iff.mp hpasses).2, hts⟩
  · rintro ⟨hwarnings, hts⟩
    exact ⟨raw, h.opens, source, h.read, not_stops_iff.mpr ⟨h.errors, hwarnings⟩, hts⟩

/-- A check alone and a run that writes nothing succeed on the same file exactly when their demands agree: the run
lets the warnings pass and can declare the document in an encoding, and the check can read the directory that the
file gives for itself. -/
theorem check_predicts_dry_run_iff (call : Invocation) (words : List String) (o : Options) (given : String)
    (hwords : Options.ofWords words = .ok (o, given)) (hmode : o.validateOnly = false) :
    ((call.run ("--validate-only" :: words)).ending = .exit 0 ↔
        (call.run ("--dry-run" :: words)).ending = .exit 0) ↔
      ∀ raw source, call.Sound o given raw source →
        ((∃ place, ownPlace raw = .ok place) ↔
          (o.failOnWarnings = true → (source.document.findings (some source.settings)).warnings = []) ∧
            ∃ ts, source.document.tsText source.settings = .ok ts ∧ Text.isWhole ts = true) := by
  constructor
  · intro hagree raw source hsound
    rw [← hsound.validate_only_exits_iff hwords, hagree, hsound.dry_run_exits_iff hwords hmode]
  · intro hdemands
    by_cases hsound : ∃ raw source, call.Sound o given raw source
    · obtain ⟨raw, source, hsound⟩ := hsound
      rw [hsound.validate_only_exits_iff hwords, hsound.dry_run_exits_iff hwords hmode]
      exact hdemands raw source hsound
    · -- Whatever succeeds has a sound file, so here neither does.
      refine iff_of_false (fun hcheck => ?_) fun hdry => ?_
      · obtain ⟨raw, hopens, s, hread, herrors⟩ := (validate_only_exits_iff call hwords).mp hcheck
        obtain ⟨source, h, -⟩ := exists_sound_of_validate_only hopens hread herrors
        exact hsound ⟨raw, source, h⟩
      · obtain ⟨raw, hopens, source, hread, hpasses, -⟩ := (dry_run_exits_iff call hwords hmode).mp hdry
        exact hsound ⟨raw, source, hopens, hread, (not_stops_iff.mp hpasses).1⟩

/-- The words of a call on the file with a warning, and what they ask for. -/
def asking (strict : Bool) : List String := ["-s", "schema.json"] ++ if strict then ["--fail-on-warnings"] else []

def asked (strict : Bool) : Options := { schema := "schema.json", failOnWarnings := strict }

theorem ofWords_asking (strict : Bool) : Options.ofWords (asking strict) = .ok (asked strict, "schema.json") := by
  cases strict <;> rfl

theorem warned_sound (strict : Bool) : ∃ raw,
    warnedCall.Sound (asked strict) "schema.json" raw ⟨warned, { schemaDir := "/" }⟩ ∧ ownPlace raw = .ok "." := by
  obtain ⟨raw, hload, hdocument, hsettings⟩ := warnedDisk_load
  have hpath : warnedCall.schemaPath "schema.json" = "/schema.json" := by decide +kernel
  have hread : Settings.read (.map (Source.overlay [] (placeSettings (plainly strict) "/schema.json" none []))) =
      .ok { schemaDir := "/" } := (Reading.toOption_eq_some_iff _ _).mp (by cases strict <;> decide +kernel)
  refine ⟨raw, ⟨⟨by decide, ⟨warnedText.toUTF8, ?_⟩, ?_⟩, ?_, warned_warns.1⟩, ?_⟩
  · rw [hpath]
    rfl
  · rw [hpath]
    exact hload
  · rw [hpath, Source.read_eq_ok_iff, hsettings]
    exact ⟨hdocument, hread⟩
  · rw [ownPlace, hsettings]
    rfl

/-- Where warnings are failures, the check alone still lets them pass, and the run ends at them. -/
theorem warned_checked_unlike_run :
    (warnedCall.run ("--validate-only" :: asking true)).ending = .exit 0 ∧
      (warnedCall.run ("--dry-run" :: asking true)).ending ≠ .exit 0 := by
  obtain ⟨raw, hsound, hown⟩ := warned_sound true
  have hwords := ofWords_asking true
  refine ⟨(hsound.validate_only_exits_iff hwords).mpr ⟨_, hown⟩, fun hdry => ?_⟩
  exact warned_warns.2 (((hsound.dry_run_exits_iff hwords rfl).mp hdry).1 rfl)

theorem warned_checked_like_run :
    (warnedCall.run ("--validate-only" :: asking false)).ending = .exit 0 ↔
      (warnedCall.run ("--dry-run" :: asking false)).ending = .exit 0 := by
  obtain ⟨raw, hsound, hown⟩ := warned_sound false
  refine (check_predicts_dry_run_iff warnedCall (asking false) (asked false) "schema.json" (ofWords_asking false)
    rfl).mpr fun raw' source h => ?_
  cases hsound.opens.unique h.opens
  cases hsound.read.symm.trans h.read
  exact iff_of_true ⟨_, hown⟩ ⟨nofun, warned_declared "/" "./generated"⟩

end Invocation

end CommandLine

end TypedClient
