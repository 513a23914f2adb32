import TypedClient.Proofs.Publication
import TypedClient.Proofs.Whole

set_option autoImplicit false

/-!
# Publishers that are used again

What a publication puts in place and what goes wrong in it depend on the disk and the batch alone. A publisher enters
both behind what its account holds already, so its answers are those of a new publisher, put behind all that it
answered before.
-/

namespace TypedClient

open Files

namespace Publication

theorem settleAll_records (d : Disk) (records : List FileRecord) (staged : List Staged) :
    settleAll d records staged =
      ((settleAll d [] staged).1, records ++ (settleAll d [] staged).2.1, (settleAll d [] staged).2.2) := by
  induction staged generalizing d records with
  | nil => simp [settleAll]
  | cons s rest ih =>
    rw [settleAll, settleAll]
    cases settle d s.temporary s.goal with
    | error f => simp
    | ok d' =>
      dsimp only
      rw [ih d' (records ++ [_]), ih d' ([] ++ [_])]
      simp

theorem placeAll_records (d : Disk) (directory : List Text) (records : List FileRecord) (files : List Artifact) :
    placeAll d directory records files = ((placeAll d directory [] files).1,
      records ++ (placeAll d directory [] files).2.1, (placeAll d directory [] files).2.2) := by
  unfold placeAll
  split
  · simp
  · rw [settleAll_records]

/-- What comes of putting files below a directory: the disk, the records of those put in place, and the fault that
ended it. -/
def attempt (d : Disk) (directory : List Text) (files : List Artifact) : Disk × List FileRecord × Option Fault :=
  match d.makeDirectories directory with
  | (d, some f) => (d, [], some f)
  | (d, none) => placeAll d directory [] files

theorem mem_settleAll {d : Disk} {staged : List Staged} {r : FileRecord} (h : r ∈ (settleAll d [] staged).2.1) :
    ∃ s ∈ staged, r = .ofArtifact s.file s.goal := by
  induction staged generalizing d with
  | nil => simp [settleAll] at h
  | cons s rest ih =>
    rw [settleAll] at h
    split at h
    · simp at h
    · rw [settleAll_records, List.nil_append, List.mem_append, List.mem_singleton] at h
      obtain rfl | h := h
      · exact ⟨s, List.mem_cons_self, rfl⟩
      · obtain ⟨t, ht, rfl⟩ := ih h
        exact ⟨t, List.mem_cons_of_mem _ ht, rfl⟩

theorem mem_attempt {d : Disk} {directory : List Text} {files : List Artifact} {r : FileRecord}
    (h : r ∈ (attempt d directory files).2.1) :
    ∃ file : Artifact, r = .ofArtifact file (Path.under directory file.path) := by
  unfold attempt placeAll at h
  split at h
  · cases h
  · next made _ =>
    split at h
    · cases h
    · next hready =>
      obtain ⟨s, hs, rfl⟩ := mem_settleAll h
      obtain ⟨-, hgoals, -⟩ := (Holding.start made).stageAll (by simp) hready
      exact ⟨s.file, by rw [hgoals s hs]⟩

end Publication

namespace Publisher

open Publication

def fresh (settings : Settings) (directory : List Text) (withManifest : Bool) : Publisher :=
  { settings, directory, withManifest }

/-- A batch that a publisher is given, with the disk that it finds then and the time. -/
structure Job where
  disk : Disk
  batch : Batch
  stamp : String
  seconds : String

structure Answer where
  success : Bool
  errors : List Text
  files : List FileRecord
  deriving DecidableEq

def Answer.behind (errors : List Text) (records : List FileRecord) (a : Answer) : Answer :=
  ⟨errors.isEmpty && a.success, errors ++ a.errors, records ++ a.files⟩

theorem Answer.behind_eq_self_iff (errors : List Text) (records : List FileRecord) (a : Answer) :
    a.behind errors records = a ↔ errors = [] ∧ records = [] := by
  obtain ⟨success, others, files⟩ := a
  constructor
  · intro h
    simp only [behind, Answer.mk.injEq, List.append_left_eq_self] at h
    exact h.2
  · rintro ⟨rfl, rfl⟩
    rfl

def done (p : Publisher) (j : Job) : Publisher := (p.publish j.disk j.stamp j.seconds j.batch).1

def afterAll (p : Publisher) (jobs : List Job) : Publisher := jobs.foldl done p

/-- What a publisher answers to a job, unless a path ends the publication that the system cannot be asked for. -/
def answer (p : Publisher) (j : Job) : Except Fault Answer :=
  (p.publish j.disk j.stamp j.seconds j.batch).2.2.map fun _ =>
    ⟨(p.done j).success, (p.done j).errors, ((p.done j).manifest j.stamp).files⟩

def entriesOf : Option Fault → List Text
  | some f => if f.reason.isSystems then [faultText f] else []
  | none => []

def endOf : Option Fault → Except Fault Unit
  | some f => if f.reason.isSystems then .ok () else .error f
  | none => .ok ()

/-! ## Manifests -/

theorem endOf_of_isSystems {f : Fault} (h : f.reason.isSystems = true) : endOf (some f) = .ok () := by
  rw [endOf, if_pos h]

/-- The end of moving a file hangs on the call alone, not on what the disk holds. -/
theorem endOf_settle (d : Disk) (temporary goal : List Text) :
    endOf (match settle d temporary goal with
      | .error f => some f
      | .ok _ => none) =
      endOf ((d.refusal? (.move temporary goal)).map fun r =>
        ⟨r, some (Path.absolute temporary), some (Path.absolute goal)⟩) := by
  unfold settle
  cases hasked : d.refusal? (.move temporary goal) with
  | some r =>
    have hmoved : d.move temporary goal = .error r := by rw [Disk.move, hasked]
    rw [hmoved]
    rfl
  | none =>
    cases hmoved : d.move temporary goal with
    | error r => exact endOf_of_isSystems (Disk.isSystems_of_move hasked hmoved)
    | ok moved => rfl

/-- How a publication ends with its manifest. -/
def manifestEnd (d : Disk) (directory : List Text) (text : Text) : Except Fault Unit :=
  let goal := directory ++ [(Manifest.fileName : Text)]
  match stage d goal text with
  | (_, .error f) => endOf (some f)
  | (d, .ok temporary) => endOf ((d.refusal? (.move temporary goal)).map fun r =>
      ⟨r, some (Path.absolute temporary), some (Path.absolute goal)⟩)

theorem write_alike (d : Disk) (path : List Text) (b b' : ByteArray) :
    (∃ r, d.write path b = .error r ∧ d.write path b' = .error r) ∨
      ∃ d₁ d₂, d.write path b = .ok d₁ ∧ d.write path b' = .ok d₂ ∧ d₁.refuses = d₂.refuses := by
  unfold Disk.write
  cases d.refusal? (.write path) with
  | some r => exact .inl ⟨r, rfl, rfl⟩
  | none =>
    cases d.slot path with
    | error r => exact .inl ⟨r, rfl, rfl⟩
    | ok place => cases place with
      | none => exact .inl ⟨_, rfl, rfl⟩
      | some place => exact .inr ⟨_, _, rfl, rfl, rfl⟩

/-- Of what a manifest tells, its end hangs on nothing but whether it has an encoding. -/
theorem manifestEnd_congr (d : Disk) (directory : List Text) {t u : Text} (h : t.encodingFault? = u.encodingFault?) :
    manifestEnd d directory t = manifestEnd d directory u := by
  unfold manifestEnd stage
  rw [h]
  dsimp only
  generalize directory ++ [(Manifest.fileName : Text)] = goal
  cases d.makeDirectories goal.dropLast with
  | mk made refused =>
    cases refused with
    | some f => rfl
    | none =>
      dsimp only
      cases made.create (temporaryFor made goal) with
      | error r => rfl
      | ok created =>
        dsimp only
        cases u.encodingFault? with
        | some f => rfl
        | none =>
          dsimp only
          obtain ⟨r, ht, hu⟩ | ⟨d₁, d₂, ht, hu, hrefuses⟩ :=
            write_alike created (temporaryFor made goal) t.toUTF8 u.toUTF8
          · rw [ht, hu]
          · rw [ht, hu]
            simp only [Disk.refusal?, hrefuses]

theorem putManifest_end (p : Publisher) (d : Disk) (stamp : String) :
    (p.putManifest d stamp).2.2.map (fun _ => ()) = manifestEnd d p.directory ((p.manifest stamp).text 2) := by
  have hfailed (f : Fault) : (p.manifestFailed f).2.map (fun _ => ()) = endOf (some f) := by
    cases hf : f.reason.isSystems <;> simp [manifestFailed, endOf, hf, Except.map]
  unfold putManifest manifestEnd
  dsimp only
  generalize p.directory ++ [(Manifest.fileName : Text)] = goal
  cases stage d goal ((p.manifest stamp).text 2) with
  | mk staged result =>
    cases result with
    | error f => exact hfailed f
    | ok temporary =>
      dsimp only
      rw [← endOf_settle]
      cases settle staged temporary goal with
      | error f => exact hfailed f
      | ok moved => rfl

/-! ## One job -/

theorem account_of_fail (p : Publisher) (f : Fault) :
    (p.fail f).1 = { p with errors := p.errors ++ entriesOf (some f) } ∧
      (p.fail f).2.map (fun _ => ()) = endOf (some f) := by
  by_cases hf : f.reason.isSystems = true
  · rw [fail_of_isSystems p hf]
    simp [entriesOf, endOf, hf, Except.map]
  · simp [fail, entriesOf, endOf, hf, Except.map]

/-- How a publication ends, after what came of its files. -/
def ending (p : Publisher) (stamp : String) : Disk × List FileRecord × Option Fault → Except Fault Unit
  | (_, _, some f) => endOf (some f)
  | (d, records, none) =>
    if p.withManifest then
      manifestEnd d p.directory (({ p with records := p.records ++ records }.manifest stamp).text 2)
    else .ok ()

theorem account_of_putFiles (p : Publisher) (d : Disk) (stamp : String) (files : List Artifact) :
    (∃ warnings, (p.putFiles d stamp files).1 =
        { p with
          records := p.records ++ (attempt d p.directory files).2.1
          errors := p.errors ++ entriesOf (attempt d p.directory files).2.2
          warnings }) ∧
      (p.putFiles d stamp files).2.2.map (fun _ => ()) = p.ending stamp (attempt d p.directory files) := by
  unfold putFiles attempt
  cases hmade : d.makeDirectories p.directory with
  | mk made refused =>
    cases refused with
    | some f =>
      obtain ⟨haccount, hend⟩ := p.account_of_fail f
      exact ⟨⟨p.warnings, by simp [haccount]⟩, hend⟩
    | none =>
      dsimp only
      rw [placeAll_records]
      cases hplaced : placeAll made p.directory [] files with
      | mk placed rest =>
        obtain ⟨records, refused⟩ := rest
        cases refused with
        | some f =>
          obtain ⟨haccount, hend⟩ := ({ p with records := p.records ++ records } : Publisher).account_of_fail f
          exact ⟨⟨p.warnings, by simp [haccount]⟩, hend⟩
        | none =>
          dsimp only
          by_cases hwith : p.withManifest = true
          · obtain ⟨warnings, hwarned⟩ := putManifest_eq { p with records := p.records ++ records } placed stamp
            have hend := putManifest_end { p with records := p.records ++ records } placed stamp
            rw [if_pos hwith, ending, if_pos hwith, ← hend]
            refine ⟨⟨warnings, by simp [hwarned, entriesOf]⟩, ?_⟩
            cases ({ p with records := p.records ++ records } : Publisher).putManifest placed stamp with
            | mk q rest =>
              obtain ⟨d', remarks⟩ := rest
              cases remarks <;> rfl
          · rw [if_neg hwith, ending, if_neg hwith]
            exact ⟨⟨p.warnings, by simp [entriesOf]⟩, rfl⟩

def Job.attempt (j : Job) (directory : List Text) : Disk × List FileRecord × Option Fault :=
  Publication.attempt j.disk directory j.batch.merged

theorem done_eq (p : Publisher) (j : Job) : ∃ warnings, p.done j =
    { p with
      records := p.records ++ (j.attempt p.directory).2.1
      errors := p.errors ++ entriesOf (j.attempt p.directory).2.2
      warnings } :=
  (p.account_of_putFiles j.disk j.stamp j.batch.merged).1

theorem answer_eq (p : Publisher) (j : Job) :
    p.answer j = (p.ending j.stamp (j.attempt p.directory)).map fun _ =>
      ⟨(p.errors ++ entriesOf (j.attempt p.directory).2.2).isEmpty,
        p.errors ++ entriesOf (j.attempt p.directory).2.2, p.records ++ (j.attempt p.directory).2.1⟩ := by
  obtain ⟨warnings, hdone⟩ := p.done_eq j
  have hend : (p.publish j.disk j.stamp j.seconds j.batch).2.2.map (fun _ => ()) =
      p.ending j.stamp (j.attempt p.directory) := by
    rw [Job.attempt, ← (p.account_of_putFiles j.disk j.stamp j.batch.merged).2, publish]
    obtain ⟨p', d', remarks⟩ := p.putFiles j.disk j.stamp j.batch.merged
    cases remarks <;> rfl
  rw [answer, hdone, ← hend]
  cases (p.publish j.disk j.stamp j.seconds j.batch).2.2 <;> rfl

theorem answer_fresh (settings : Settings) (directory : List Text) (withManifest : Bool) (j : Job) :
    (fresh settings directory withManifest).answer j =
      ((fresh settings directory withManifest).ending j.stamp (j.attempt directory)).map fun _ =>
        ⟨(entriesOf (j.attempt directory).2.2).isEmpty, entriesOf (j.attempt directory).2.2,
          (j.attempt directory).2.1⟩ := by
  simpa [fresh] using answer_eq (fresh settings directory withManifest) j

theorem answer_fresh_cases (settings : Settings) (directory : List Text) (withManifest : Bool) (j : Job) :
    (fresh settings directory withManifest).answer j = .ok ⟨(entriesOf (j.attempt directory).2.2).isEmpty,
        entriesOf (j.attempt directory).2.2, (j.attempt directory).2.1⟩ ∨
      ∃ f, (fresh settings directory withManifest).answer j = .error f := by
  rw [answer_fresh]
  cases (fresh settings directory withManifest).ending j.stamp (j.attempt directory) with
  | error f => exact .inr ⟨f, rfl⟩
  | ok u => exact .inl rfl

/-- The records that a publisher holds already do not change how a job ends. -/
theorem ending_eq_fresh (p : Publisher)
    (hrecords : ∀ r ∈ p.records, ∃ file : Artifact, r = .ofArtifact file (Path.under p.directory file.path))
    (j : Job) :
    p.ending j.stamp (j.attempt p.directory) =
      (fresh p.settings p.directory p.withManifest).ending j.stamp (j.attempt p.directory) := by
  have hnew (r : FileRecord) (hr : r ∈ (j.attempt p.directory).2.1) := mem_attempt hr
  revert hnew
  cases j.attempt p.directory with
  | mk d rest =>
    obtain ⟨records, refused⟩ := rest
    intro hnew
    cases refused with
    | some f => rfl
    | none =>
      by_cases hwith : p.withManifest = true
      · simp only [ending, fresh, hwith, ↓reduceIte]
        refine manifestEnd_congr _ _ (Manifest.encodingFault?_text 2 rfl fun hdirectory r hr => ?_)
        have htold : ∃ file : Artifact, r = .ofArtifact file (Path.under p.directory file.path) := by
          simp only [manifest, List.nil_append, List.mem_append] at hr
          obtain hr | hr | hr := hr
          · exact hnew r hr
          · exact hrecords r hr
          · exact hnew r hr
        obtain ⟨file, rfl⟩ := htold
        exact Path.isWhole_absolute_under hdirectory file.path
      · simp only [ending, fresh, hwith, Bool.false_eq_true, ↓reduceIte]

theorem answer_eq_behind (p : Publisher)
    (hrecords : ∀ r ∈ p.records, ∃ file : Artifact, r = .ofArtifact file (Path.under p.directory file.path))
    (j : Job) :
    p.answer j = ((fresh p.settings p.directory p.withManifest).answer j).map (·.behind p.errors p.records) := by
  rw [answer_eq, answer_fresh, ending_eq_fresh p hrecords]
  cases (fresh p.settings p.directory p.withManifest).ending j.stamp (j.attempt p.directory) with
  | error f => rfl
  | ok u => cases p.errors <;> simp [Except.map, Answer.behind]

/-! ## Any number of jobs -/

theorem afterAll_eq (p : Publisher) (jobs : List Job) : ∃ warnings, p.afterAll jobs =
    { p with
      records := p.records ++ jobs.flatMap fun j => (j.attempt p.directory).2.1
      errors := p.errors ++ jobs.flatMap fun j => entriesOf (j.attempt p.directory).2.2
      warnings } := by
  induction jobs generalizing p with
  | nil => exact ⟨p.warnings, by simp [afterAll]⟩
  | cons j jobs ih =>
    obtain ⟨warnings, hdone⟩ := p.done_eq j
    obtain ⟨warnings', hrest⟩ := ih (p.done j)
    refine ⟨warnings', ?_⟩
    rw [afterAll, List.foldl_cons, ← afterAll, hrest, hdone]
    simp

theorem account_of_done_fresh (settings : Settings) (directory : List Text) (withManifest : Bool) (i : Job) :
    ((fresh settings directory withManifest).done i).errors = entriesOf (i.attempt directory).2.2 ∧
      ((fresh settings directory withManifest).done i).records = (i.attempt directory).2.1 := by
  obtain ⟨warnings, hdone⟩ := (fresh settings directory withManifest).done_eq i
  rw [hdone]
  exact ⟨rfl, rfl⟩

/-- A publisher answers to a job what a new one like it does on the same disk, put behind all that went wrong and all
that was put in place in the jobs before. So the two answer alike exactly when the job has no answer, or nothing went
wrong and nothing was put in place before. And all new publishers for the directory that answer give one answer. -/
theorem answer_afterAll (settings settings' : Settings) (directory : List Text) (withManifest withManifest' : Bool)
    (jobs : List Job) (j : Job) :
    ((fresh settings directory withManifest).afterAll jobs).answer j =
        ((fresh settings directory withManifest).answer j).map (·.behind
          (jobs.flatMap fun i => ((fresh settings' directory withManifest').done i).errors)
          (jobs.flatMap fun i => ((fresh settings' directory withManifest').done i).records)) ∧
      (((fresh settings directory withManifest).afterAll jobs).answer j =
          (fresh settings directory withManifest).answer j ↔
        (∃ f, (fresh settings directory withManifest).answer j = .error f) ∨
          ∀ i ∈ jobs, ((fresh settings' directory withManifest').done i).errors = [] ∧
            ((fresh settings' directory withManifest').done i).records = []) ∧
      ∃ a, ((fresh settings directory withManifest).answer j = .ok a ∨
          ∃ f, (fresh settings directory withManifest).answer j = .error f) ∧
        ((fresh settings' directory withManifest').answer j = .ok a ∨
          ∃ f, (fresh settings' directory withManifest').answer j = .error f) := by
  simp only [account_of_done_fresh]
  have hbehind : ((fresh settings directory withManifest).afterAll jobs).answer j =
      ((fresh settings directory withManifest).answer j).map (·.behind
        (jobs.flatMap fun i => entriesOf (i.attempt directory).2.2)
        (jobs.flatMap fun i => (i.attempt directory).2.1)) := by
    obtain ⟨warnings, hused⟩ := (fresh settings directory withManifest).afterAll_eq jobs
    rw [hused]
    refine answer_eq_behind _ (fun r hr => ?_) j
    obtain ⟨i, -, hr⟩ := List.mem_flatMap.mp hr
    exact mem_attempt hr
  refine ⟨hbehind, ?_, ⟨_, answer_fresh_cases settings directory withManifest j,
    answer_fresh_cases settings' directory withManifest' j⟩⟩
  rw [hbehind]
  cases (fresh settings directory withManifest).answer j with
  | error f => simp [Except.map]
  | ok a =>
    simp only [Except.map, Except.ok.injEq, Answer.behind_eq_self_iff, List.flatMap_eq_nil_iff, reduceCtorEq,
      exists_false, false_or]
    exact ⟨fun h i hi => ⟨h.1 i hi, h.2 i hi⟩, fun h => ⟨fun i hi => (h i hi).1, fun i hi => (h i hi).2⟩⟩

/-- A batch of one document, which is published twice on a disk that holds nothing at first. -/
def single : Batch where
  files := [⟨"index.d.ts", "x"⟩]

def firstJob : Job := ⟨{}, single, "now", "0.1"⟩

def secondJob : Job := ⟨((fresh {} ["out"] false).publish {} "now" "0.1" single).2.1, single, "now", "0.1"⟩

theorem single_recorded_twice : ¬ ∀ (settings : Settings) (directory : List Text) (withManifest : Bool)
    (jobs : List Job) (j : Job),
    ((fresh settings directory withManifest).afterAll jobs).answer j =
      (fresh settings directory withManifest).answer j := by
  intro h
  have hcount := congrArg (fun r : Except Fault Answer => r.toOption.map (·.files.length))
    (h {} ["out"] false [firstJob] secondJob)
  exact absurd hcount (by decide +kernel)

end Publisher

end TypedClient
