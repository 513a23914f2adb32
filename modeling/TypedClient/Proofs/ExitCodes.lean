import TypedClient.CommandLine.Session
import TypedClient.Proofs.Runs
import TypedClient.Proofs.Settings

set_option autoImplicit false

namespace TypedClient

open Files

namespace Run

variable {at' : Surroundings} {path : Text} {goal : Option (List Text)} {overrides : List (Scalar × Data)}
  {disk : Disk}

def Loads (at' : Surroundings) (path : Text) (goal : Option (List Text)) (overrides : List (Scalar × Data))
    (disk : Disk) (source : Source) : Prop :=
  ∃ raw, (SchemaFile.load disk at'.current path).1 = .ok raw ∧ goal.any Path.holdsEnd = false ∧
    Source.read raw (placeSettings at' path goal overrides) = .ok source

theorem Loads.unique {source other : Source} (h : Loads at' path goal overrides disk source)
    (hother : Loads at' path goal overrides disk other) : source = other := by
  obtain ⟨raw, hload, -, hread⟩ := h
  obtain ⟨raw', hload', -, hread'⟩ := hother
  cases hload.symm.trans hload'
  cases hread.symm.trans hread'
  rfl

def loaded (at' : Surroundings) (path : Text) (source : Source) : Report :=
  ({} : Report).step at' loadStep true
    (toString source.document.entities.length ++ " entities from " ++ Path.lastName path)

theorem file_of_loads {source : Source} (h : Loads at' path goal overrides disk source) :
    (file at' path goal overrides disk).1 =
      (document at' source.document source.settings goal disk (loaded at' path source)).1 := by
  obtain ⟨raw, hload, hgoal, hread⟩ := h
  unfold file
  rcases hfile : SchemaFile.load disk at'.current path with ⟨result, remarks⟩
  rw [hfile] at hload
  dsimp only at hload
  subst hload
  simp only [hgoal, hread, Bool.false_eq_true, if_false]
  rfl

theorem course_of_file {source : Source} {o : Outcome} (h : Loads at' path goal overrides disk source)
    (ho : (file at' path goal overrides disk).1 = .ok o) :
    Course at' source.document source.settings goal disk (loaded at' path source) (.ok o) := by
  have hcourse := course_document at' source.document source.settings goal disk (loaded at' path source)
  rwa [← file_of_loads h, ho] at hcourse

theorem file_of_not_loads (h : ∀ source, ¬ Loads at' path goal overrides disk source) :
    (∃ text, (file at' path goal overrides disk).1 = .ok (refuse at' disk text)) ∨
      ∃ f, (file at' path goal overrides disk).1 = .error (.file f) := by
  unfold file
  rcases hload : SchemaFile.load disk at'.current path with ⟨f | raw, remarks⟩
  · dsimp only
    split
    · exact .inl ⟨f.message, rfl⟩
    · exact .inr ⟨f, rfl⟩
  · cases hgoal : goal.any Path.holdsEnd with
    | true => exact .inl ⟨Reason.unaskable.words, rfl⟩
    | false =>
      cases hread : Source.read raw (placeSettings at' path goal overrides) with
      | error f =>
        refine .inl ⟨f.message, ?_⟩
        simp only [hread, Bool.false_eq_true, if_false]
      | ok source => exact absurd ⟨raw, by rw [hload], hgoal, hread⟩ (h source)

theorem publication_of_makeDirectories {directory : List Text} {f : Fault}
    (hmade : (disk.makeDirectories directory).2 = some f) (hf : f.reason.isSystems) (at' : Surroundings)
    (s : Settings) (b : Batch) :
    (publication at' s directory disk b).1.errors = [Publisher.faultText f] ∧
      ∃ remarks, (publication at' s directory disk b).2.2 = .ok remarks := by
  rcases hmake : disk.makeDirectories directory with ⟨made, fault⟩
  rw [hmake] at hmade
  dsimp only at hmade
  subst hmade
  simp only [publication, Publisher.publish, Publisher.putFiles, hmake, Publisher.fail_of_isSystems _ hf]
  exact ⟨rfl, _, rfl⟩

end Run

namespace CommandLine

open Run

def Invocation.schemaPath (call : Invocation) (given : String) : Text :=
  Path.absolute (Path.resolve call.current given)

def Invocation.surroundings (call : Invocation) (o : Options) : Surroundings :=
  ⟨call.clock, call.current, o.failOnWarnings⟩

variable {at' : Surroundings} {path : Text} {goal : Option (List Text)} {overrides : List (Scalar × Data)}
  {disk : Disk} {source : Source}

/-- The code of the first phase of a generation that fails: loading, the check, the rendition or the publication. -/
inductive FirstFailure (at' : Surroundings) (path : Text) (goal : Option (List Text))
    (overrides : List (Scalar × Data)) (disk : Disk) : ExitCode → Prop
  | input (hloads : ∀ source, ¬ Loads at' path goal overrides disk source) :
      FirstFailure at' path goal overrides disk .input
  | validation {source : Source} (hloads : Loads at' path goal overrides disk source)
      (hstops : Stops at'.failOnWarnings (source.document.findings (some source.settings))) :
      FirstFailure at' path goal overrides disk .validation
  | generation {source : Source} {c : Inconsistency} (hloads : Loads at' path goal overrides disk source)
      (hpasses : ¬ Stops at'.failOnWarnings (source.document.findings (some source.settings)))
      (hrendered : source.document.rendered source.settings at'.current = .error (.inconsistent c)) :
      FirstFailure at' path goal overrides disk .generation
  | output {source : Source} {b : Batch} {directory : List Text}
      (hloads : Loads at' path goal overrides disk source)
      (hpasses : ¬ Stops at'.failOnWarnings (source.document.findings (some source.settings)))
      (hrendered : source.document.rendered source.settings at'.current = .ok b) (hgoal : goal = some directory)
      (herrors : (publication at' source.settings directory disk b).1.errors ≠ []) :
      FirstFailure at' path goal overrides disk .output
  | success {source : Source} {b : Batch} (hloads : Loads at' path goal overrides disk source)
      (hpasses : ¬ Stops at'.failOnWarnings (source.document.findings (some source.settings)))
      (hrendered : source.document.rendered source.settings at'.current = .ok b)
      (hpublished : ∀ directory, goal = some directory →
        (publication at' source.settings directory disk b).1.errors = []) :
      FirstFailure at' path goal overrides disk .success

/-- A failure behind the check that is told as one of the check: there were warnings, and they were let pass. -/
def Masked (at' : Surroundings) (path : Text) (goal : Option (List Text)) (overrides : List (Scalar × Data))
    (disk : Disk) (code : ExitCode) : Prop :=
  (code = .generation ∨ code = .output) ∧
    ∃ source, Loads at' path goal overrides disk source ∧
      (source.document.findings (some source.settings)).warnings ≠ []

theorem masked_iff (h : Loads at' path goal overrides disk source) {code : ExitCode} :
    Masked at' path goal overrides disk code ↔ (code = .generation ∨ code = .output) ∧
      (source.document.findings (some source.settings)).warnings ≠ [] := by
  refine and_congr_right fun _ => ⟨?_, fun hwarned => ⟨source, h, hwarned⟩⟩
  rintro ⟨other, hother, hwarned⟩
  rwa [h.unique hother]

theorem ofReport_refuse (at' : Surroundings) (disk : Disk) (text : Text) :
    ExitCode.ofReport (refuse at' disk text).report = .input := rfl

theorem ofReport_of_phases {d : Document} {s : Settings} {r : Report} (h : Phases at' d s goal disk r.failures) :
    ExitCode.ofReport r = if r.success = true then .success
      else if (d.findings (some s)).errors ≠ [] ∨ (d.findings (some s)).warnings ≠ [] then .validation
      else if r.failures.generation ≠ [] then .generation
      else if r.failures.output ≠ [] then .output else .generation := by
  have hinput : r.failures.input = [] := by rw [h.found]; rfl
  have hvalidation : r.failures.validation = (d.findings (some s)).errors.map Finding.line := by rw [h.found]; rfl
  have hwarnings : r.failures.warnings = (d.findings (some s)).warnings.map Finding.line := by rw [h.found]; rfl
  simp [ExitCode.ofReport, hinput, hvalidation, hwarnings]

theorem FirstFailure.ofReport {code : ExitCode} {o : Outcome} (h : FirstFailure at' path goal overrides disk code)
    (ho : (file at' path goal overrides disk).1 = .ok o) :
    (¬ Masked at' path goal overrides disk code → ExitCode.ofReport o.report = code) ∧
      (Masked at' path goal overrides disk code → ExitCode.ofReport o.report = .validation) := by
  have hphases {source : Source} (hloads : Loads at' path goal overrides disk source) :=
    (course_of_file hloads ho).phases rfl
  have hsuccess {source : Source} (hloads : Loads at' path goal overrides disk source) :=
    (course_of_file hloads ho).success_iff rfl
  -- Without success the warnings are asked for before the later phases, so there each case splits on them.
  cases h with
  | input hloads =>
    refine ⟨fun _ => ?_, fun hmasked => ?_⟩
    · obtain ⟨text, htext⟩ | ⟨f, hf⟩ := file_of_not_loads hloads
      · cases ho.symm.trans htext
        exact ofReport_refuse at' disk text
      · cases ho.symm.trans hf
    · obtain ⟨-, source, hsource, -⟩ := hmasked
      exact absurd hsource (hloads source)
  | validation hloads hstops =>
    have hfailed : ¬ o.report.success = true := fun hdone => ((hsuccess hloads).mp hdone).1 hstops
    rw [ofReport_of_phases (hphases hloads), if_neg hfailed, if_pos (hstops.imp_right And.right)]
    exact ⟨fun _ => rfl, fun _ => rfl⟩
  | @generation source c hloads hpasses hrendered =>
    have hfailed : ¬ o.report.success = true := fun hdone => by
      obtain ⟨-, b, hb, -⟩ := (hsuccess hloads).mp hdone
      cases hrendered.symm.trans hb
    have herrors := (not_stops_iff.mp hpasses).1
    have hunmade := (hphases hloads).unmade.mpr ⟨hpasses, c, hrendered⟩
    rw [masked_iff hloads, ofReport_of_phases (hphases hloads), if_neg hfailed, if_pos hunmade]
    simp [herrors]
  | @output source b directory hloads hpasses hrendered hgoal hunpublished =>
    have hfailed : ¬ o.report.success = true := fun hdone => by
      obtain ⟨-, b', hb', hpublished⟩ := (hsuccess hloads).mp hdone
      cases hrendered.symm.trans hb'
      exact hunpublished (hpublished directory hgoal)
    have herrors := (not_stops_iff.mp hpasses).1
    have hmade : ¬ o.report.failures.generation ≠ [] := fun hunmade => by
      obtain ⟨-, c, hc⟩ := (hphases hloads).unmade.mp hunmade
      cases hrendered.symm.trans hc
    have hout := (hphases hloads).unpublished.mpr ⟨hpasses, b, hrendered, directory, hgoal, hunpublished⟩
    rw [masked_iff hloads, ofReport_of_phases (hphases hloads), if_neg hfailed, if_neg hmade, if_pos hout]
    simp [herrors]
  | success hloads hpasses hrendered hpublished =>
    have hdone := (hsuccess hloads).mpr ⟨hpasses, _, hrendered, hpublished⟩
    rw [masked_iff hloads, ofReport_of_phases (hphases hloads), if_pos hdone]
    simp

theorem exists_firstFailure {o : Outcome} (ho : (file at' path goal overrides disk).1 = .ok o) :
    ∃ code, FirstFailure at' path goal overrides disk code := by
  by_cases hloads : ∃ source, Loads at' path goal overrides disk source
  · obtain ⟨source, hsource⟩ := hloads
    cases course_of_file hsource ho with
    | stopped hstops => exact ⟨_, .validation hsource hstops⟩
    | inconsistent hpasses hrendered => exact ⟨_, .generation hsource hpasses hrendered⟩
    | kept hpasses hrendered hcoded hgoal =>
      exact ⟨_, .success hsource hpasses hrendered fun directory hsome => nomatch hgoal.symm.trans hsome⟩
    | @published b directory p after remarks hpasses hrendered hcoded hgoal hpublished =>
      by_cases herrors : p.errors = []
      · refine ⟨_, .success hsource hpasses hrendered fun other hother => ?_⟩
        cases hgoal.symm.trans hother
        rw [hpublished]
        exact herrors
      · refine ⟨_, .output hsource hpasses hrendered hgoal ?_⟩
        rw [hpublished]
        exact herrors
  · exact ⟨_, .input (not_exists.mp hloads)⟩

/-- A command line leads to a generation: its options are read, the schema file is there, and it is known where the
documents go. -/
structure Invocation.Reaches (call : Invocation) (words : List String) (o : Options) (path : Text)
    (goal : Option (List Text)) : Prop where
  parsed : ∃ given, Options.ofWords words = .ok (o, given) ∧ given.toList.contains '\x00' = false ∧
    path = call.schemaPath given
  found : ∃ content, SchemaFile.lookAt call.disk [] path = .ok (some (.file content))
  mode : o.validateOnly = false
  goal : (o.dryRun = true ∧ goal = none) ∨ (o.dryRun = false ∧ ∃ directory, o.output = some directory ∧
    directory.toList.contains '\x00' = false ∧ goal = some (Path.resolve call.current directory))

variable {call : Invocation} {words : List String} {o : Options}

theorem Invocation.Reaches.run_eq (h : call.Reaches words o path goal) :
    call.run words = call.generate o path goal := by
  obtain ⟨given, hwords, hgiven, rfl⟩ := h.parsed
  obtain ⟨content, hlook⟩ := h.found
  rw [Invocation.schemaPath] at hlook
  rw [Invocation.run, hwords, Invocation.schemaPath]
  dsimp only
  rw [Invocation.start]
  simp only [hgiven, hlook, h.mode, Bool.false_eq_true, if_false]
  obtain ⟨hdry, rfl⟩ | ⟨hdry, directory, hdirectory, hfree, rfl⟩ := h.goal
  · simp only [hdry, if_true]
  · simp only [hdry, hdirectory, hfree, Bool.false_eq_true, if_false]

theorem ending_generate (call : Invocation) (o : Options) (path : Text) (goal : Option (List Text)) :
    (call.generate o path goal).ending = match (file (call.surroundings o) path goal o.overrides call.disk).1 with
      | .error cause => .interrupted cause
      | .ok outcome => .exit (ExitCode.ofReport outcome.report).number := by
  rw [Invocation.generate]
  dsimp only
  change _ = match (file ⟨call.clock, call.current, o.failOnWarnings⟩ path goal o.overrides call.disk).1 with
    | .error cause => Ending.interrupted cause
    | .ok outcome => Ending.exit (ExitCode.ofReport outcome.report).number
  rcases file ⟨call.clock, call.current, o.failOnWarnings⟩ path goal o.overrides call.disk with ⟨_ | outcome, remarks⟩
  · rfl
  · rfl

/-- A call that reaches a generation and is not interrupted ends with the code of the first phase that failed, but for
a failure behind a check that found warnings, which ends with the code of the check. -/
theorem exit_of_generation (call : Invocation) (words : List String) (o : Options) (path : Text)
    (goal : Option (List Text)) (n : Nat) (hreaches : call.Reaches words o path goal)
    (hexit : (call.run words).ending = .exit n) :
    (∃ code, FirstFailure (call.surroundings o) path goal o.overrides call.disk code) ∧
      ∀ code, FirstFailure (call.surroundings o) path goal o.overrides call.disk code →
        (n = code.number ↔ ¬ Masked (call.surroundings o) path goal o.overrides call.disk code) ∧
          (Masked (call.surroundings o) path goal o.overrides call.disk code → n = ExitCode.validation.number) := by
  rw [hreaches.run_eq, ending_generate] at hexit
  cases hfile : (file (call.surroundings o) path goal o.overrides call.disk).1 with
  | error cause =>
    rw [hfile] at hexit
    cases hexit
  | ok outcome =>
    rw [hfile] at hexit
    cases hexit
    refine ⟨exists_firstFailure hfile, fun code hcode => ?_⟩
    obtain ⟨hplain, hmasked⟩ := hcode.ofReport hfile
    by_cases h : Masked (call.surroundings o) path goal o.overrides call.disk code
    · rw [hmasked h]
      refine ⟨iff_of_false ?_ (not_not.mpr h), fun _ => rfl⟩
      obtain rfl | rfl := h.1
      · decide
      · decide
    · rw [hplain h]
      exact ⟨iff_of_true rfl h, fun hm => absurd hm h⟩

/-! ## A file with a warning -/

def warnedText : String :=
  "\x7b\"datamodel\":\x7b\"models\":[\x7b\"name\":\"T\",\"fields\":["
    ++ "\x7b\"name\":\"k\",\"kind\":\"enum\",\"type\":\"E\"\x7d]\x7d]\x7d,"
    ++ "\"schema\":\x7b\"outputTypes\":[\x7b\"name\":\"T\"\x7d]\x7d\x7d"

/-- A disk with that file; another file stands where the documents should go. -/
def warnedDisk : Disk where
  entries := [(["schema.json"], .file warnedText.toUTF8), (["out"], .file "x".toUTF8)]

def warnedCall : Invocation := ⟨{ stamp := "", time := "" }, [], warnedDisk⟩

theorem warnedDisk_load : ∃ raw, (SchemaFile.load warnedDisk [] "/schema.json").1 = .ok raw ∧
    Document.read (.map (Source.rawDocument raw)) = .ok warned ∧ Source.rawSettings raw = [] := by
  have heval : ((SchemaFile.load warnedDisk [] "/schema.json").1.toOption.map fun raw =>
      ((Document.read (.map (Source.rawDocument raw))).toOption, (Source.rawSettings raw).isEmpty)) =
        some (some warned, true) := by decide +kernel
  cases hload : (SchemaFile.load warnedDisk [] "/schema.json").1 with
  | error f =>
    rw [hload] at heval
    cases heval
  | ok raw =>
    rw [hload] at heval
    obtain ⟨hread, hempty⟩ := Prod.ext_iff.mp (Option.some_inj.mp heval)
    exact ⟨raw, rfl, (Reading.toOption_eq_some_iff _ _).mp hread, List.isEmpty_iff.mp hempty⟩

theorem warnedDisk_loads (hcurrent : at'.current = []) (hgoal : goal.any Path.holdsEnd = false) {s : Settings}
    (hs : Settings.read (.map (Source.overlay [] (placeSettings at' "/schema.json" goal overrides))) = .ok s) :
    Loads at' "/schema.json" goal overrides warnedDisk ⟨warned, s⟩ := by
  obtain ⟨raw, hload, hdocument, hsettings⟩ := warnedDisk_load
  refine ⟨raw, by rw [hcurrent, hload], hgoal, Source.read_eq_ok_iff.mpr ⟨hdocument, ?_⟩⟩
  rw [hsettings]
  exact hs

def outSettings : Settings := { schemaDir := "/", outputDir := "/out" }

theorem outSettings_read (strict : Bool) :
    Settings.read (.map (Source.overlay [] (placeSettings (plainly strict) "/schema.json" (some ["out"]) []))) =
      .ok outSettings :=
  (Reading.toOption_eq_some_iff _ _).mp (by cases strict <;> decide +kernel)

theorem tsText_places (d : Document) (s : Settings) (schemaDir outputDir : Text) :
    d.tsText { s with schemaDir, outputDir } = d.tsText s := rfl

theorem warned_declared (schemaDir outputDir : Text) :
    ∃ ts, warned.tsText { schemaDir, outputDir } = .ok ts ∧ Text.isWhole ts = true := by
  rw [tsText_places warned {} schemaDir outputDir]
  have hnotes : ∀ t ∈ warned.notes, Text.isWhole t = true := by decide
  have hstamps : ∀ t ∈ ({} : Settings).stamps, Text.isWhole t = true := by decide
  have hok : (warned.tsText {}).isOk = true := by decide +kernel
  cases hts : warned.tsText {} with
  | error c =>
    rw [hts] at hok
    cases hok
  | ok ts => exact ⟨ts, rfl, Document.isWhole_tsText (Document.coded_of_notes hnotes) hstamps hts⟩

theorem warned_rendered (current : List Text) :
    ∃ b, warned.rendered outSettings current = .ok b ∧ b.encodingFault? = none :=
  (exists_coded_iff (by decide) current).mpr (warned_declared "/" "/out")

def publishing (strict : Bool) : List String :=
  ["-s", "schema.json", "-o", "out"] ++ if strict then ["--fail-on-warnings"] else []

def published (strict : Bool) : Options :=
  { schema := "schema.json", output := "out", failOnWarnings := strict }

theorem published_reaches (strict : Bool) :
    warnedCall.Reaches (publishing strict) (published strict) "/schema.json" (some ["out"]) where
  parsed := ⟨"schema.json", by cases strict <;> rfl, by decide, by decide +kernel⟩
  found := ⟨warnedText.toUTF8, rfl⟩
  mode := rfl
  goal := .inr ⟨rfl, "out", rfl, by decide, by decide +kernel⟩

theorem published_loads (strict : Bool) :
    Loads (plainly strict) "/schema.json" (some ["out"]) [] warnedDisk ⟨warned, outSettings⟩ :=
  warnedDisk_loads rfl (by decide) (outSettings_read strict)

theorem published_errors (strict : Bool) (b : Batch) :
    (publication (plainly strict) outSettings ["out"] warnedDisk b).1.errors ≠ [] ∧
      ∃ remarks, (publication (plainly strict) outSettings ["out"] warnedDisk b).2.2 = .ok remarks := by
  have hmade : (warnedDisk.makeDirectories ["out"]).2 = some ⟨.taken, "/out", none⟩ := by decide +kernel
  obtain ⟨herrors, hok⟩ := publication_of_makeDirectories hmade rfl (plainly strict) outSettings b
  exact ⟨by simp [herrors], hok⟩

theorem published_outcome (strict : Bool) :
    ∃ outcome, (file (plainly strict) "/schema.json" (some ["out"]) [] warnedDisk).1 = .ok outcome := by
  obtain ⟨b, hb, hcoded⟩ := warned_rendered []
  rw [file_of_loads (published_loads strict), exists_outcome_iff]
  refine fun _ => .inr ⟨b, hb, hcoded, fun directory hgoal => ?_⟩
  cases hgoal
  exact (published_errors strict b).2

theorem published_ending (strict : Bool) : ∃ outcome,
    (file (plainly strict) "/schema.json" (some ["out"]) [] warnedDisk).1 = .ok outcome ∧
      (warnedCall.run (publishing strict)).ending = .exit (ExitCode.ofReport outcome.report).number := by
  obtain ⟨outcome, hfile⟩ := published_outcome strict
  have hfile' : (file (warnedCall.surroundings (published strict)) "/schema.json" (some ["out"])
      (published strict).overrides warnedCall.disk).1 = .ok outcome := hfile
  refine ⟨outcome, hfile, ?_⟩
  rw [(published_reaches strict).run_eq, ending_generate, hfile']

/-- The check passes with a warning and the directory cannot be made; the call ends as if the check had failed. -/
theorem unpublished_exits_as_unchecked :
    warnedCall.Reaches (publishing false) (published false) "/schema.json" (some ["out"]) ∧
      FirstFailure (warnedCall.surroundings (published false)) "/schema.json" (some ["out"])
        (published false).overrides warnedCall.disk .output ∧
      (warnedCall.run (publishing false)).ending = .exit ExitCode.validation.number ∧
      ExitCode.validation.number ≠ ExitCode.output.number := by
  obtain ⟨herrors, hwarnings⟩ := warned_warns
  have hpasses : ¬ Stops false (warned.findings (some outSettings)) := not_stops_iff.mpr ⟨herrors, nofun⟩
  have hloads := published_loads false
  obtain ⟨b, hb, -⟩ := warned_rendered []
  have hfirst : FirstFailure (plainly false) "/schema.json" (some ["out"]) [] warnedDisk .output :=
    .output hloads hpasses hb rfl (published_errors false b).1
  obtain ⟨outcome, hfile, hending⟩ := published_ending false
  refine ⟨published_reaches false, hfirst, ?_, by decide⟩
  rw [hending, (hfirst.ofReport hfile).2 ⟨.inr rfl, _, hloads, hwarnings⟩]

/-- Where warnings are failures, the same call ends with the code of the check that failed. -/
theorem strict_exits_as_unchecked :
    (warnedCall.run (publishing true)).ending = .exit ExitCode.validation.number := by
  obtain ⟨outcome, -, hending⟩ := published_ending true
  have hstops : Stops true (warned.findings (some outSettings)) := .inr ⟨rfl, warned_warns.2⟩
  have hfirst : FirstFailure (warnedCall.surroundings (published true)) "/schema.json" (some ["out"])
      (published true).overrides warnedCall.disk .validation := .validation (published_loads true) hstops
  obtain ⟨-, hcodes⟩ := exit_of_generation warnedCall (publishing true) (published true) "/schema.json"
    (some ["out"]) _ (published_reaches true) hending
  have hplain : ¬ Masked (warnedCall.surroundings (published true)) "/schema.json" (some ["out"])
      (published true).overrides warnedCall.disk .validation := by
    rintro ⟨hcode | hcode, -⟩
    · cases hcode
    · cases hcode
  rw [hending, (hcodes .validation hfirst).1.mpr hplain]

end CommandLine

end TypedClient
