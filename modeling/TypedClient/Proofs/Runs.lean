import TypedClient.Proofs.CodedTypes
import TypedClient.Proofs.Publication
import TypedClient.Run.Generation

set_option autoImplicit false

namespace TypedClient

open Files

def Surroundings.lax (at' : Surroundings) : Surroundings := { at' with failOnWarnings := false }

namespace Run

/-! ## The check -/

def Stops (strict : Bool) (fs : Findings) : Prop := fs.errors ≠ [] ∨ strict = true ∧ fs.warnings ≠ []

theorem passes_eq_true_iff {at' : Surroundings} {fs : Findings} :
    passes at' fs = true ↔ ¬ Stops at'.failOnWarnings fs := by
  rw [passes, Stops, not_or, not_and]
  cases at'.failOnWarnings <;> simp

theorem not_stops_iff {strict : Bool} {fs : Findings} :
    ¬ Stops strict fs ↔ fs.errors = [] ∧ (strict = true → fs.warnings = []) := by
  rw [Stops, not_or, not_and, Ne, not_not, Ne, not_not]

theorem Stops.of_lax {strict : Bool} {fs : Findings} (h : Stops false fs) : Stops strict fs :=
  h.imp_right fun hlax => nomatch hlax.1

def checked (at' : Surroundings) (d : Document) (s : Settings) (r : Report) : Report :=
  withCheck at' (d.findings (some s))
    { r with client := s.clientName, measures := { r.measures with entities := d.entities.length } }

def publication (at' : Surroundings) (s : Settings) (directory : List Text) (disk : Disk) (b : Batch) :
    Publisher × Disk × Except Fault (List Remark) :=
  ({ settings := s, directory } : Publisher).publish disk at'.clock.stamp at'.clock.seconds b

/-! ## The courses -/

variable {at' : Surroundings} {d : Document} {s : Settings} {goal : Option (List Text)} {disk : Disk} {r : Report}

/-- The courses that a run may take, each with what the run leaves. -/
inductive Course (at' : Surroundings) (d : Document) (s : Settings) (goal : Option (List Text)) (disk : Disk)
    (r : Report) : Except Interruption Outcome → Prop
  | stopped (hstops : Stops at'.failOnWarnings (d.findings (some s))) :
      Course at' d s goal disk r (.ok { report := (checked at' d s r).closed at', disk })
  | inconsistent {c : Inconsistency} (hpasses : ¬ Stops at'.failOnWarnings (d.findings (some s)))
      (hrendered : d.rendered s at'.current = .error (.inconsistent c)) :
      Course at' d s goal disk r (.ok { report := (withInconsistency at' c (checked at' d s r)).closed at', disk })
  | pathless (hpasses : ¬ Stops at'.failOnWarnings (d.findings (some s)))
      (hrendered : d.rendered s at'.current = .error .noPath) :
      Course at' d s goal disk r (.error (.rendition .noPath))
  | unencodable {b : Batch} {fault : Text.EncodingFault}
      (hpasses : ¬ Stops at'.failOnWarnings (d.findings (some s))) (hrendered : d.rendered s at'.current = .ok b)
      (hfault : b.encodingFault? = some fault) : Course at' d s goal disk r (.error (.encoding fault))
  | kept {b : Batch} (hpasses : ¬ Stops at'.failOnWarnings (d.findings (some s)))
      (hrendered : d.rendered s at'.current = .ok b) (hcoded : b.encodingFault? = none) (hgoal : goal = none) :
      Course at' d s goal disk r (.ok ⟨(withBatch at' b (checked at' d s r)).closed at', some b, none, disk⟩)
  /-- The documents are made and published, whatever the account of the publication says. -/
  | published {b : Batch} {directory : List Text} {p : Publisher} {after : Disk} {remarks : List Remark}
      (hpasses : ¬ Stops at'.failOnWarnings (d.findings (some s))) (hrendered : d.rendered s at'.current = .ok b)
      (hcoded : b.encodingFault? = none) (hgoal : goal = some directory)
      (hpublished : publication at' s directory disk b = (p, after, .ok remarks)) :
      Course at' d s goal disk r
        (.ok ⟨(withPublication at' p (p.manifest at'.clock.stamp) (withBatch at' b (checked at' d s r))).closed at',
          some b, some (p.manifest at'.clock.stamp), after⟩)
  /-- The publication is ended by a path that the system cannot be asked for. -/
  | ended {b : Batch} {directory : List Text} {p : Publisher} {after : Disk} {f : Fault}
      (hpasses : ¬ Stops at'.failOnWarnings (d.findings (some s))) (hrendered : d.rendered s at'.current = .ok b)
      (hcoded : b.encodingFault? = none) (hgoal : goal = some directory)
      (hended : publication at' s directory disk b = (p, after, .error f)) :
      Course at' d s goal disk r (.error (.publication f after))

theorem document_of_stops (hstops : Stops at'.failOnWarnings (d.findings (some s))) :
    document at' d s goal disk r =
      (.ok { report := (checked at' d s r).closed at', disk }, checkRemarks at' d (d.findings (some s))) := by
  have hpasses : passes at' (d.findings (some s)) = false := by
    rw [Bool.eq_false_iff, Ne, passes_eq_true_iff, not_not]
    exact hstops
  simp only [document, hpasses, Bool.false_eq_true, if_false]
  rfl

theorem document_of_passes (hpasses : ¬ Stops at'.failOnWarnings (d.findings (some s))) :
    document at' d s goal disk r = ((render at' d s goal disk (checked at' d s r)).1,
      checkRemarks at' d (d.findings (some s)) ++ (render at' d s goal disk (checked at' d s r)).2) := by
  simp only [document, passes_eq_true_iff.mpr hpasses, if_true]
  rfl

theorem course_document (at' : Surroundings) (d : Document) (s : Settings) (goal : Option (List Text))
    (disk : Disk) (r : Report) : Course at' d s goal disk r (document at' d s goal disk r).1 := by
  by_cases hstops : Stops at'.failOnWarnings (d.findings (some s))
  · rw [document_of_stops hstops]
    exact .stopped hstops
  · rw [document_of_passes hstops]
    cases hrendered : d.rendered s at'.current with
    | error fault =>
      simp only [render, hrendered]
      cases fault with
      | inconsistent c => exact .inconsistent hstops hrendered
      | noPath => exact .pathless hstops hrendered
    | ok b =>
      simp only [render, hrendered]
      cases hfault : b.encodingFault? with
      | some fault => exact .unencodable hstops hrendered hfault
      | none => cases goal with
        | none => exact .kept hstops hrendered hfault rfl
        | some directory =>
          rcases hpublished : publication at' s directory disk b with ⟨p, after, _ | remarks⟩
          · have hended := hpublished
            rw [publication] at hended
            simp only [publish, hended]
            exact .ended hstops hrendered hfault rfl hpublished
          · have hdone := hpublished
            rw [publication] at hdone
            simp only [publish, hdone]
            exact .published hstops hrendered hfault rfl hpublished

/-- A run leaves an outcome unless it is ended behind its check: by a rendition without a path, by a document without
an encoding, or by its publication. -/
theorem exists_outcome_iff : (∃ o, (document at' d s goal disk r).1 = .ok o) ↔
    (¬ Stops at'.failOnWarnings (d.findings (some s)) →
      (∃ c, d.rendered s at'.current = .error (.inconsistent c)) ∨
        ∃ b, d.rendered s at'.current = .ok b ∧ b.encodingFault? = none ∧
          ∀ directory, goal = some directory → ∃ remarks, (publication at' s directory disk b).2.2 = .ok remarks) := by
  have hcourse := course_document at' d s goal disk r
  generalize (document at' d s goal disk r).1 = result at hcourse
  cases hcourse with
  | stopped hstops => exact iff_of_true ⟨_, rfl⟩ fun hpasses => absurd hstops hpasses
  | @inconsistent c _ hrendered => exact iff_of_true ⟨_, rfl⟩ fun _ => .inl ⟨c, hrendered⟩
  | pathless hpasses hrendered => exact iff_of_false (by simp) (by simp [hpasses, hrendered])
  | unencodable hpasses hrendered hfault => exact iff_of_false (by simp) (by simp [hpasses, hrendered, hfault])
  | kept _ hrendered hcoded hgoal =>
    exact iff_of_true ⟨_, rfl⟩ fun _ => .inr ⟨_, hrendered, hcoded, by simp [hgoal]⟩
  | @published b directory p after remarks _ hrendered hcoded hgoal hpublished =>
    exact iff_of_true ⟨_, rfl⟩ fun _ => .inr ⟨b, hrendered, hcoded, by simp [hgoal, hpublished]⟩
  | ended hpasses hrendered _ hgoal hended =>
    exact iff_of_false (by simp) (by simp [hpasses, hrendered, hgoal, hended])

/-! ## What the report tells -/

theorem isClean_iff {strict : Bool} :
    r.isClean strict = true ↔ r.failures.input = [] ∧ r.failures.validation = [] ∧ r.failures.generation = [] ∧
      r.failures.output = [] ∧ (strict = true → r.failures.warnings = []) := by
  rw [Report.isClean]
  cases strict <;> simp [and_assoc]

/-- The failures of a report behind the check of a run that had none before. -/
def checkFailures (fs : Findings) : Failures :=
  { validation := fs.errors.map Finding.line, warnings := fs.warnings.map Finding.line }

theorem failures_checked (hr : r.failures = {}) :
    (checked at' d s r).failures = checkFailures (d.findings (some s)) := by
  simp only [checked, withCheck, Report.step, hr]
  rfl

theorem failures_withInconsistency {c : Inconsistency} (hr : r.failures.generation = []) :
    (withInconsistency at' c r).failures = { r.failures with generation := [inconsistencyText c] } := by
  simp only [withInconsistency, Report.step, hr, List.nil_append]

theorem failures_withPublication {p : Publisher} {m : Manifest} (hr : r.failures.output = []) :
    (withPublication at' p m r).failures = { r.failures with output := p.errors } := by
  simp only [withPublication, Report.step, hr, List.nil_append]

/-- The failures of a report and the phases of its run: the findings of the check, a failure of the rendition
where a checked document contradicts itself, and the account of the publication where there was one. -/
structure Phases (at' : Surroundings) (d : Document) (s : Settings) (goal : Option (List Text)) (disk : Disk)
    (f : Failures) : Prop where
  found : f = { checkFailures (d.findings (some s)) with generation := f.generation, output := f.output }
  unmade : f.generation ≠ [] ↔ ¬ Stops at'.failOnWarnings (d.findings (some s)) ∧
    ∃ c, d.rendered s at'.current = .error (.inconsistent c)
  made : f.generation = [] → Stops at'.failOnWarnings (d.findings (some s)) ∨ ∃ b, d.rendered s at'.current = .ok b
  unpublished : f.output ≠ [] ↔ ¬ Stops at'.failOnWarnings (d.findings (some s)) ∧
    ∃ b, d.rendered s at'.current = .ok b ∧
      ∃ directory, goal = some directory ∧ (publication at' s directory disk b).1.errors ≠ []

variable {o : Outcome}

theorem Course.phases (h : Course at' d s goal disk r (.ok o)) (hr : r.failures = {}) :
    Phases at' d s goal disk o.report.failures := by
  have hchecked : (checked at' d s r).failures = checkFailures (d.findings (some s)) := failures_checked hr
  cases h with
  | stopped hstops =>
    change Phases at' d s goal disk (checked at' d s r).failures
    rw [hchecked]
    exact ⟨rfl, by simp [checkFailures, hstops], fun _ => .inl hstops, by simp [checkFailures, hstops]⟩
  | @inconsistent c hpasses hrendered =>
    change Phases at' d s goal disk (withInconsistency at' c (checked at' d s r)).failures
    rw [failures_withInconsistency (by rw [hchecked]; rfl), hchecked]
    exact ⟨rfl, by simp [hpasses, hrendered], by simp, by simp [checkFailures, hrendered]⟩
  | @kept b hpasses hrendered hcoded hgoal =>
    change Phases at' d s goal disk (checked at' d s r).failures
    rw [hchecked]
    exact ⟨rfl, by simp [checkFailures, hrendered], fun _ => .inr ⟨b, hrendered⟩, by simp [checkFailures, hgoal]⟩
  | @published b directory p after remarks hpasses hrendered hcoded hgoal hpublished =>
    change Phases at' d s goal disk
      (withPublication at' p (p.manifest at'.clock.stamp) (withBatch at' b (checked at' d s r))).failures
    have hbatch : (withBatch at' b (checked at' d s r)).failures = (checked at' d s r).failures := rfl
    rw [failures_withPublication (by rw [hbatch, hchecked]; rfl), hbatch, hchecked]
    refine ⟨rfl, by simp [checkFailures, hrendered], fun _ => .inr ⟨b, hrendered⟩, ?_⟩
    simp [hpasses, hrendered, hgoal, hpublished]

theorem Course.success_eq (h : Course at' d s goal disk r (.ok o)) :
    o.report.success = o.report.isClean at'.failOnWarnings := by
  cases h <;> rfl

theorem Phases.isClean_iff (h : Phases at' d s goal disk r.failures) {strict : Bool} :
    r.isClean strict = true ↔ ¬ Stops strict (d.findings (some s)) ∧ r.failures.generation = [] ∧
      r.failures.output = [] := by
  rw [Run.isClean_iff, not_stops_iff, h.found]
  simp only [checkFailures, List.map_eq_nil_iff]
  tauto

theorem Course.success_iff (h : Course at' d s goal disk r (.ok o)) (hr : r.failures = {}) :
    o.report.success = true ↔
      ¬ Stops at'.failOnWarnings (d.findings (some s)) ∧ ∃ b, d.rendered s at'.current = .ok b ∧
        ∀ directory, goal = some directory → (publication at' s directory disk b).1.errors = [] := by
  have hphases := h.phases hr
  rw [h.success_eq, hphases.isClean_iff]
  constructor
  · rintro ⟨hpasses, hmade, hout⟩
    obtain hstops | ⟨b, hb⟩ := hphases.made hmade
    · exact absurd hstops hpasses
    · refine ⟨hpasses, b, hb, fun directory hgoal => ?_⟩
      by_contra herrors
      exact hphases.unpublished.mpr ⟨hpasses, b, hb, directory, hgoal, herrors⟩ hout
  · rintro ⟨hpasses, b, hb, herrors⟩
    refine ⟨hpasses, ?_, ?_⟩
    · by_contra hunmade
      obtain ⟨-, c, hc⟩ := hphases.unmade.mp hunmade
      cases hb.symm.trans hc
    · by_contra hunpublished
      obtain ⟨-, b', hb', directory, hgoal, hne⟩ := hphases.unpublished.mp hunpublished
      cases hb.symm.trans hb'
      exact hne (herrors directory hgoal)

/-! ## Strict runs -/

theorem closed_lax (hr : r.failures.warnings = []) : r.closed at'.lax = r.closed at' := by
  have hclean : r.isClean at'.lax.failOnWarnings = r.isClean at'.failOnWarnings := by
    rw [Report.isClean, Report.isClean, hr]
    simp
  rw [Report.closed, Report.closed, hclean]
  rfl

theorem publish_lax {b : Batch} (hr : r.failures.warnings = []) :
    publish at'.lax s goal disk b r = publish at' s goal disk b r := by
  cases goal with
  | none => rw [publish, publish, closed_lax hr]
  | some directory =>
    have hclosed (p : Publisher) (m : Manifest) :
        (withPublication at' p m r).closed at'.lax = (withPublication at' p m r).closed at' := closed_lax hr
    simp only [publish, ← hclosed]
    rfl

theorem render_lax (hr : r.failures.warnings = []) : render at'.lax d s goal disk r = render at' d s goal disk r := by
  have hclosed (c : Inconsistency) :
      (withInconsistency at' c r).closed at'.lax = (withInconsistency at' c r).closed at' := closed_lax hr
  have hpublish (b : Batch) :
      publish at'.lax s goal disk b (withBatch at' b r) = publish at' s goal disk b (withBatch at' b r) :=
    publish_lax hr
  simp only [render, ← hclosed, ← hpublish]
  rfl

theorem document_lax (hstrict : at'.failOnWarnings = true) (hr : r.failures = {})
    (hpasses : ¬ Stops at'.failOnWarnings (d.findings (some s))) :
    document at'.lax d s goal disk r = document at' d s goal disk r := by
  obtain ⟨herrors, hwarnings⟩ := not_stops_iff.mp hpasses
  have hlax : ¬ Stops at'.lax.failOnWarnings (d.findings (some s)) := mt Stops.of_lax hpasses
  have hnone : (checked at' d s r).failures.warnings = [] := by
    rw [failures_checked hr, checkFailures, hwarnings hstrict, List.map_nil]
  rw [document_of_passes hlax, document_of_passes hpasses, ← render_lax hnone]
  rfl

/-- Nothing is written before everything has been made. A run that its check ends makes no documents and records
no further step; that run, one whose document contradicts itself and one without a directory leave the disk as it
was. A run succeeds exactly when no phase failed, and then it does the same as where warnings are let pass. -/
theorem phases_of_document (at' : Surroundings) (d : Document) (s : Settings) (goal : Option (List Text))
    (disk : Disk) (o : Outcome) (remarks : List Remark) (h : document at' d s goal disk {} = (.ok o, remarks)) :
    (Stops at'.failOnWarnings (d.findings (some s)) →
        o.batch = none ∧ o.disk = disk ∧
          ∀ step ∈ o.report.steps, step.name ≠ "Render Documents" ∧ step.name ≠ "Export to Filesystem") ∧
      ((∃ c, d.rendered s at'.current = .error (.inconsistent c)) ∨ goal = none → o.disk = disk) ∧
      (o.report.success = true ↔
        ¬ Stops at'.failOnWarnings (d.findings (some s)) ∧ ∃ b, d.rendered s at'.current = .ok b ∧
          ∀ directory, goal = some directory → (publication at' s directory disk b).1.errors = []) ∧
      (at'.failOnWarnings = true → o.report.success = true →
        document at'.lax d s goal disk {} = (.ok o, remarks)) := by
  have hcourse : Course at' d s goal disk {} (.ok o) := by
    have hrun := course_document at' d s goal disk {}
    rwa [h] at hrun
  refine ⟨fun hstops => ?_, fun hunwritten => ?_, hcourse.success_iff rfl, fun hstrict hsuccess => ?_⟩
  · cases hcourse with
    | stopped _ =>
      have hcheck : "Validate Schema" ≠ "Render Documents" ∧ "Validate Schema" ≠ "Export to Filesystem" := by decide
      exact ⟨rfl, rfl, List.forall_mem_singleton.mpr hcheck⟩
    | inconsistent hpasses _ | kept hpasses _ _ _ | published hpasses _ _ _ _ => exact absurd hstops hpasses
  · cases hcourse with
    | stopped _ | inconsistent _ _ | kept _ _ _ _ => rfl
    | published _ hrendered _ hgoal _ =>
      obtain ⟨c, hc⟩ | hnone := hunwritten
      · cases hc.symm.trans hrendered
      · cases hnone.symm.trans hgoal
  · rw [document_lax hstrict rfl ((hcourse.success_iff rfl).mp hsuccess).1, h]

def warned : Document where
  datamodel.entities := [⟨"T", [{ name := "k", kind := .enum, type := "E" }], [], [], none⟩]
  schema.outputTypes := [⟨"T", []⟩]

def plainly (strict : Bool) : Surroundings := ⟨{ stamp := "", time := "" }, [], strict⟩

theorem warned_warns : (warned.findings (some {})).errors = [] ∧ (warned.findings (some {})).warnings ≠ [] := by
  have herrors : (warned.findings (some {})).errors.isEmpty = true := by decide +kernel
  have hwarnings : (warned.findings (some {})).warnings.isEmpty = false := by decide +kernel
  exact ⟨List.isEmpty_iff.mp herrors, List.isEmpty_eq_false_iff.mp hwarnings⟩

theorem warned_phases : ∃ o remarks,
    document (plainly true) warned {} (some ["out"]) {} {} = (.ok o, remarks) ∧
      Stops true (warned.findings (some {})) ∧ o.batch = none ∧ o.disk = {} ∧ o.report.success = false := by
  have hstops : Stops (plainly true).failOnWarnings (warned.findings (some {})) := .inr ⟨rfl, warned_warns.2⟩
  obtain ⟨o, remarks, hrun⟩ : ∃ o remarks, document (plainly true) warned {} (some ["out"]) {} {} = (.ok o, remarks) :=
    ⟨_, _, document_of_stops hstops⟩
  obtain ⟨hstopped, -, hsuccess, -⟩ := phases_of_document _ _ _ _ _ _ _ hrun
  obtain ⟨hbatch, hdisk, -⟩ := hstopped hstops
  refine ⟨o, remarks, hrun, hstops, hbatch, hdisk, ?_⟩
  rw [Bool.eq_false_iff, Ne, hsuccess]
  exact fun hpasses => hpasses.1 hstops

end Run

/-! ## Runs that end without a report -/

namespace Document

variable {d : Document} {s : Settings} {current : List Text}

theorem jsText_cases (d : Document) (s : Settings) (current : List Text) :
    (s.schemaDir = "" ∧ d.jsText s current = .error .noPath) ∨
      (s.schemaDir ≠ "" ∧ ∃ js, d.jsText s current = .ok js) := by
  unfold jsText jsPassages Settings.clientConfig Settings.schemaPath
  split
  · next hempty => exact .inl ⟨List.isEmpty_iff.mp hempty, rfl⟩
  · next hpath => exact .inr ⟨fun hempty => hpath (List.isEmpty_iff.mpr hempty), _, rfl⟩

/-- The documents are made but where the document contradicts itself, or where a script is wanted and its path to
the schema cannot be told. -/
theorem rendered_cases (d : Document) (s : Settings) (current : List Text) :
    (∃ c, d.tsText s = .error c ∧ d.rendered s current = .error (.inconsistent c)) ∨
      (∃ ts, d.tsText s = .ok ts ∧ (s.emitJs = true ∧ s.schemaDir = "") ∧ d.rendered s current = .error .noPath) ∨
      ∃ ts, d.tsText s = .ok ts ∧ ¬ (s.emitJs = true ∧ s.schemaDir = "") ∧ ∃ b, d.rendered s current = .ok b ∧
        ⟨s.tsFilename, ts⟩ ∈ b.files ∧
          ∀ file ∈ b.files, file.content = ts ∨ d.jsText s current = .ok file.content := by
  cases hts : d.tsText s with
  | error c => exact .inl ⟨c, rfl, by simp [rendered, hts, orInconsistent, bind, Except.bind]⟩
  | ok ts =>
    refine .inr ?_
    cases hemit : s.emitJs with
    | false =>
      refine .inr ⟨ts, rfl, by simp, ⟨[⟨s.tsFilename, ts⟩], d.entities.length⟩, ?_, by simp, by simp⟩
      simp [rendered, hts, hemit, orInconsistent, bind, Except.bind, pure, Except.pure]
    | true =>
      obtain ⟨hempty, hjs⟩ | ⟨hpath, js, hjs⟩ := d.jsText_cases s current
      · refine .inl ⟨ts, rfl, ⟨rfl, hempty⟩, ?_⟩
        simp [rendered, hts, hemit, hjs, orInconsistent, bind, Except.bind]
      · refine .inr ⟨ts, rfl, by simp [hpath], ⟨[⟨s.tsFilename, ts⟩, ⟨s.jsFilename, js⟩], d.entities.length⟩, ?_,
          by simp, by simp [hjs]⟩
        simp [rendered, hts, hemit, hjs, orInconsistent, bind, Except.bind, pure, Except.pure]

end Document

namespace Run

variable {at' : Surroundings} {d : Document} {s : Settings} {disk : Disk} {r : Report}

theorem encodingFault?_eq_none_iff {b : Batch} :
    b.encodingFault? = none ↔ ∀ file ∈ b.files, Text.isWhole file.content = true := by
  simp only [Batch.encodingFault?, List.findSome?_eq_none_iff, Text.encodingFault?_eq_none_iff]

theorem encodingFault?_of_rendered {current : List Text} {b : Batch} (h : d.rendered s current = .ok b) :
    ∃ ts, d.tsText s = .ok ts ∧ ¬ (s.emitJs = true ∧ s.schemaDir = "") ∧
      (b.encodingFault? = none ↔ Text.isWhole ts = true) := by
  obtain ⟨_, -, hc⟩ | ⟨-, -, -, hpath⟩ | ⟨ts, hts, hpath, b', hb', hmem, hfiles⟩ := d.rendered_cases s current
  · cases h.symm.trans hc
  · cases h.symm.trans hpath
  · cases h.symm.trans hb'
    refine ⟨ts, hts, hpath, ?_⟩
    rw [encodingFault?_eq_none_iff]
    refine ⟨fun hall => hall _ hmem, fun hwhole file hfile => ?_⟩
    obtain hcontent | hjs := hfiles file hfile
    · rwa [hcontent]
    · exact Document.isWhole_jsText hjs

theorem exists_coded_iff (hpath : s.schemaDir ≠ "") (current : List Text) :
    (∃ b, d.rendered s current = .ok b ∧ b.encodingFault? = none) ↔
      ∃ ts, d.tsText s = .ok ts ∧ Text.isWhole ts = true := by
  constructor
  · rintro ⟨b, hb, hcoded⟩
    obtain ⟨ts, hts, -, hwhole⟩ := encodingFault?_of_rendered hb
    exact ⟨ts, hts, hwhole.mp hcoded⟩
  · rintro ⟨ts, hts, hwhole⟩
    obtain ⟨c, hc, -⟩ | ⟨-, -, ⟨-, hempty⟩, -⟩ | ⟨-, -, -, b, hb, -⟩ := d.rendered_cases s current
    · cases hts.symm.trans hc
    · exact absurd hempty hpath
    · obtain ⟨ts', hts', -, hcoded⟩ := encodingFault?_of_rendered hb
      cases hts.symm.trans hts'
      exact ⟨b, hb, hcoded.mpr hwhole⟩

theorem exists_success_iff (hr : r.failures = {}) :
    (∃ o, (document at' d s none disk r).1 = .ok o ∧ o.report.success = true) ↔
      ¬ Stops at'.failOnWarnings (d.findings (some s)) ∧
        ∃ b, d.rendered s at'.current = .ok b ∧ b.encodingFault? = none := by
  have hsuccess {o : Outcome} (ho : (document at' d s none disk r).1 = .ok o) :
      o.report.success = true ↔
        ¬ Stops at'.failOnWarnings (d.findings (some s)) ∧ ∃ b, d.rendered s at'.current = .ok b := by
    have hcourse := course_document at' d s none disk r
    rw [ho] at hcourse
    rw [hcourse.success_iff hr]
    simp
  constructor
  · rintro ⟨o, ho, hdone⟩
    obtain ⟨hpasses, b, hb⟩ := (hsuccess ho).mp hdone
    obtain ⟨c, hc⟩ | ⟨b', hb', hcoded, -⟩ := exists_outcome_iff.mp ⟨o, ho⟩ hpasses
    · cases hb.symm.trans hc
    · exact ⟨hpasses, b', hb', hcoded⟩
  · rintro ⟨hpasses, b, hb, hcoded⟩
    obtain ⟨o, ho⟩ : ∃ o, (document at' d s none disk r).1 = .ok o :=
      exists_outcome_iff.mpr fun _ => .inr ⟨b, hb, hcoded, by simp⟩
    exact ⟨o, ho, (hsuccess ho).mpr ⟨hpasses, b, hb⟩⟩

/-- A run without a directory ends without a report exactly where its check lets it go on, the document can be
declared, and the declarations have no encoding or a script is wanted that cannot tell its path to the schema. -/
theorem exists_report_iff :
    (∃ o remarks, document at' d s none disk r = (.ok o, remarks)) ↔
      (¬ Stops at'.failOnWarnings (d.findings (some s)) → ∀ ts, d.tsText s = .ok ts →
        Text.isWhole ts = true ∧ (s.emitJs = true → s.schemaDir ≠ "")) := by
  have hleaves : (∃ o remarks, document at' d s none disk r = (.ok o, remarks)) ↔
      ∃ o, (document at' d s none disk r).1 = .ok o := by
    constructor
    · rintro ⟨o, remarks, h⟩
      exact ⟨o, by rw [h]⟩
    · rintro ⟨o, h⟩
      exact ⟨o, _, by rw [← h]⟩
  rw [hleaves, exists_outcome_iff]
  refine imp_congr_right fun _ => ?_
  obtain ⟨c, hc, hrendered⟩ | ⟨ts, hts, ⟨hemit, hempty⟩, hrendered⟩ | ⟨ts, hts, hpath, b, hb, -⟩ :=
    d.rendered_cases s at'.current
  · refine iff_of_true (.inl ⟨c, hrendered⟩) fun ts hts => ?_
    cases hc.symm.trans hts
  · exact iff_of_false (by simp [hrendered]) fun h => (h ts hts).2 hemit hempty
  · obtain ⟨ts', hts', -, hcoded⟩ := encodingFault?_of_rendered hb
    cases hts.symm.trans hts'
    simp only [hb, hts, hcoded, reduceCtorEq, exists_false, false_or, false_imp_iff, implies_true, and_true,
      Except.ok.injEq, exists_eq_left', forall_eq']
    exact ⟨fun hwhole => ⟨hwhole, fun hemit hempty => hpath ⟨hemit, hempty⟩⟩, And.left⟩

/-- A run without a directory that leaves no report fails in one of two ways: a script is wanted and the directory
of the schema is an empty path, or a note of the document or a text that the settings put in as it is has no
encoding. It leaves a report exactly when nothing of this reaches a rendition. -/
theorem report_of_dry_run (at' : Surroundings) (d : Document) (s : Settings) (disk : Disk) :
    ((∃ o remarks, document at' d s none disk {} = (.ok o, remarks)) ↔
      (¬ Stops at'.failOnWarnings (d.findings (some s)) → ∀ ts, d.tsText s = .ok ts →
        Text.isWhole ts = true ∧ (s.emitJs = true → s.schemaDir ≠ ""))) ∧
      ∀ cause remarks, document at' d s none disk {} = (.error cause, remarks) →
        (cause = .rendition .noPath ∧ s.emitJs = true ∧ s.schemaDir = "") ∨
          ∃ fault, cause = .encoding fault ∧ ∃ t ∈ d.notes ++ s.stamps, Text.isWhole t = false := by
  refine ⟨exists_report_iff, fun cause remarks h => ?_⟩
  have hcourse : Course at' d s none disk {} (.error cause) := by
    have hrun := course_document at' d s none disk {}
    rwa [h] at hrun
  cases hcourse with
  | pathless hpasses hrendered =>
    obtain ⟨_, -, hc⟩ | ⟨-, -, hpath, -⟩ | ⟨-, -, -, b, hb, -⟩ := d.rendered_cases s at'.current
    · cases hrendered.symm.trans hc
    · exact .inl ⟨rfl, hpath⟩
    · cases hrendered.symm.trans hb
  | unencodable hpasses hrendered hfault =>
    refine .inr ⟨_, rfl, ?_⟩
    by_contra hnone
    have hcoded : ∀ t ∈ d.notes ++ s.stamps, Text.isWhole t = true := fun t ht => by
      by_contra hbroken
      exact hnone ⟨t, ht, Bool.eq_false_iff.mpr hbroken⟩
    obtain ⟨hnotes, hstamps⟩ := List.forall_mem_append.mp hcoded
    obtain ⟨ts, hts, -, hwhole⟩ := encodingFault?_of_rendered hrendered
    have hts := Document.isWhole_tsText (Document.coded_of_notes hnotes) hstamps hts
    cases hfault.symm.trans (hwhole.mpr hts)
  | ended hpasses hrendered hcoded hgoal hended => cases hgoal

theorem empty_read : Document.read (.map []) = .ok {} := (Reading.toOption_eq_some_iff _ _).mp (by decide +kernel)

/-- The empty document is read and so are settings that give the directory of the schema as an empty path, and a run
with them leaves no report. -/
theorem pathless_unreported :
    Document.read (.map []) = .ok {} ∧
      Settings.read (.map [(.text "schema_dir", .text "")]) = .ok { schemaDir := "" } ∧
      (document (plainly false) {} { schemaDir := "" } none {} {}).1 = .error (.rendition .noPath) := by
  refine ⟨empty_read, rfl, ?_⟩
  have hpasses : ¬ Stops (plainly false).failOnWarnings (({} : Document).findings (some { schemaDir := "" })) :=
    passes_eq_true_iff.mp (by decide +kernel)
  have hrendered : ({} : Document).rendered { schemaDir := "" } (plainly false).current = .error .noPath := rfl
  rw [document_of_passes hpasses, render, hrendered]

theorem blog_reported : ∃ o remarks, document (plainly true) Document.blog {} none {} {} = (.ok o, remarks) := by
  have hcoded : ∀ t ∈ Document.blog.notes ++ ({} : Settings).stamps, Text.isWhole t = true := by decide
  obtain ⟨-, hinterrupted⟩ := report_of_dry_run (plainly true) Document.blog {} {}
  rcases hrun : document (plainly true) Document.blog {} none {} {} with ⟨cause | o, remarks⟩
  · obtain ⟨-, -, hpath⟩ | ⟨fault, -, t, ht, hbroken⟩ := hinterrupted cause remarks hrun
    · exact absurd hpath (by decide)
    · exact absurd (hcoded t ht) (by simp [hbroken])
  · exact ⟨o, remarks, rfl⟩

end Run

end TypedClient
