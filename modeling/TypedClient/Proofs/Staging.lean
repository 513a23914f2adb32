import Mathlib.Data.List.Nodup
import Mathlib.Data.List.Perm.Subperm
import TypedClient.Proofs.Disk
import TypedClient.Proofs.Halves
import TypedClient.Proofs.Paths
import TypedClient.Publication.Staging

set_option autoImplicit false

/-!
# Staged files

Staging only ever adds files, each at a place that was free, so that they can be taken back. Moving one onto its
goal changes what stands at the goal and nothing else. What was staged and not moved is told by an invariant that
both steps keep.
-/

namespace TypedClient

open Files

namespace Text

theorem ofDigitChars_zeroPadded (width n : Nat) : Nat.ofDigitChars 10 (zeroPadded width n).toList 0 = n := by
  have hzeros (k : Nat) : Nat.ofDigitChars 10 (List.replicate k '0') 0 = 0 := by
    induction k with
    | zero => rfl
    | succ k ih => rw [List.replicate_succ, Nat.ofDigitChars_cons]; exact ih
  have hdigits : (toString n).toList = Nat.toDigits 10 n := Nat.toList_repr
  simp only [zeroPadded, String.toList_append, String.toList_ofList, Nat.ofDigitChars_append, hzeros, hdigits]
  exact Nat.ofDigitChars_toDigits (by decide) (by decide)

end Text

namespace Files.Disk

theorem temporaryName_inj {name : Text} {m n : Nat} (h : temporaryName name m = temporaryName name n) : m = n := by
  simp only [temporaryName, List.append_assoc, List.append_cancel_left_eq, List.append_cancel_right_eq,
    Text.ofString_inj] at h
  rw [← Text.ofDigitChars_zeroPadded 8 m, ← Text.ofDigitChars_zeroPadded 8 n, h]

theorem temporaryName_ne_dots (name : Text) (number : Nat) : temporaryName name number ≠ ".." := by
  intro h
  have hlength := congrArg List.length h
  have hdots : (".." : Text).length = 2 := rfl
  have htail : (".tmp" : Text).length = 4 := rfl
  simp only [temporaryName, List.length_append] at hlength
  omega

theorem mem_map_of_entryAt? {place : List Text} {entries : List (List Text × Entry)}
    (h : (entryAt? place entries).isSome) : place ∈ entries.map (·.1) := by
  induction entries with
  | nil => cases h
  | cons e rest ih =>
    rw [List.map_cons, List.mem_cons]
    by_cases he : place = e.1
    · exact .inl he
    · exact .inr (ih (by simpa [entryAt?, he] using h))

theorem get?_freshName (d : Disk) (directory : List Text) (name : Text) :
    d.get? (directory ++ [d.freshName directory name]) = none := by
  let place (n : Nat) : List Text := directory ++ [temporaryName name n]
  cases hfind : (List.range (d.entries.length + 1)).find? fun n => (d.get? (place n)).isNone with
  | some n =>
    rw [freshName, hfind]
    simpa [place] using List.find?_some hfind
  | none =>
    -- Were all of them taken, more places would be taken than there are entries.
    have htaken : (List.range (d.entries.length + 1)).map place ⊆ d.entries.map (·.1) := by
      intro other hother
      obtain ⟨n, hn, rfl⟩ := List.mem_map.mp hother
      have hsome := List.find?_eq_none.mp hfind n hn
      exact mem_map_of_entryAt? (by simpa [get?, place, Option.isSome_iff_ne_none] using hsome)
    have hdistinct : ((List.range (d.entries.length + 1)).map place).Nodup :=
      List.nodup_range.map fun m n h => temporaryName_inj (by simpa [place] using h)
    have hle := (hdistinct.subperm htaken).length_le
    rw [List.length_map, List.length_map, List.length_range] at hle
    omega

theorem freshName_of_free {d : Disk} {directory : List Text} {name : Text}
    (h : d.get? (directory ++ [temporaryName name 0]) = none) : d.freshName directory name = temporaryName name 0 := by
  rw [freshName, List.range_succ_eq_map, List.find?_cons_of_pos (by rw [h]; rfl)]
  rfl

end Files.Disk

namespace Publication

theorem landing_temporaryFor (d : Disk) (goal : List Text) : landing (temporaryFor d goal) = temporaryFor d goal := by
  apply landing_eq_self
  rw [temporaryFor, List.mem_append, List.mem_singleton, not_or]
  exact ⟨Path.dots_notMem_follow [] _ (by simp), (Disk.temporaryName_ne_dots _ _).symm⟩

section Stage

variable {d d' : Disk} {goal temporary : List Text} {content : Text}

theorem stage_of_steps {made created written : Disk} (hmade : d.makeDirectories goal.dropLast = (made, none))
    (hcreated : made.create (temporaryFor made goal) = .ok created) (hcoded : content.isWhole = true)
    (hwritten : created.write (temporaryFor made goal) content.toUTF8 = .ok written) :
    stage d goal content = (written, .ok (temporaryFor made goal)) := by
  rw [stage, hmade]
  dsimp only
  rw [hcreated]
  dsimp only
  rw [Text.encodingFault?_eq_none_iff.mpr hcoded]
  dsimp only
  rw [hwritten]

theorem stage_cases {result : Except Fault (List Text)} (h : stage d goal content = (d', result)) :
    d.Keeps d' ∧ ((∃ f, result = .error f ∧ (f.reason.isSystems → d'.files = d.files)) ∨
      ∃ temporary, result = .ok temporary ∧ temporary = temporaryFor (d.makeDirectories goal.dropLast).1 goal ∧
        d.files temporary = none ∧ d'.files = Function.update d.files temporary (some content.toUTF8) ∧
        content.isWhole = true) := by
  obtain ⟨hmake, hkeeps⟩ := Disk.widens_makeDirectories d goal.dropLast
  unfold stage at h
  split at h
  · next made f hmade =>
    rw [hmade] at hmake hkeeps
    cases h
    exact ⟨hkeeps, .inl ⟨f, rfl, fun _ => hmake⟩⟩
  · next made hmade =>
    rw [hmade] at hmake hkeeps ⊢
    dsimp only at h hmake hkeeps ⊢
    split at h
    · cases h
      exact ⟨hkeeps, .inl ⟨_, rfl, fun _ => hmake⟩⟩
    · next created hcreated =>
      obtain ⟨hfree, hfiles⟩ := Disk.files_of_create hcreated
      have hcreated := hkeeps.trans (Disk.keeps_of_create hcreated)
      rw [landing_temporaryFor, hmake] at hfree hfiles
      have hempty : created.files (temporaryFor made goal) = some .empty := by rw [hfiles, Function.update_self]
      split at h
      · -- The system does not refuse this, and the temporary file stays.
        cases h
        exact ⟨hcreated, .inl ⟨_, rfl, fun hf => absurd hf Bool.false_ne_true⟩⟩
      · next hcoded =>
        split at h
        · cases h
          refine ⟨hcreated.trans (Disk.keeps_erase (Disk.ne_directory_of_files hempty)), .inl ⟨_, rfl, fun _ => ?_⟩⟩
          rw [Disk.files_erase, hfiles, Function.update_idem, ← hfree, Function.update_eq_self]
        · next written hwritten =>
          cases h
          refine ⟨hcreated.trans (Disk.keeps_of_write hwritten ?_),
            .inr ⟨_, rfl, rfl, hfree, ?_, Text.encodingFault?_eq_none_iff.mp hcoded⟩⟩
          · rw [landing_temporaryFor]
            exact Disk.ne_directory_of_files hempty
          · rw [Disk.files_of_write hwritten, landing_temporaryFor, hfiles, Function.update_idem]

theorem stage_eq_ok (h : stage d goal content = (d', .ok temporary)) :
    temporary = temporaryFor (d.makeDirectories goal.dropLast).1 goal ∧ d.files temporary = none ∧
      d'.files = Function.update d.files temporary (some content.toUTF8) ∧ content.isWhole = true := by
  obtain ⟨-, ⟨_, hf, -⟩ | ⟨_, ht, hstaged⟩⟩ := stage_cases h
  · cases hf
  · cases ht
    exact hstaged

theorem stage_eq_error {f : Fault} (hf : f.reason.isSystems) (h : stage d goal content = (d', .error f)) :
    d'.files = d.files := by
  obtain ⟨-, ⟨_, hg, hfiles⟩ | ⟨_, ht, -⟩⟩ := stage_cases h
  · cases hg
    exact hfiles hf
  · cases ht

end Stage

theorem settle_eq_ok {d d' : Disk} {temporary goal : List Text} (h : settle d temporary goal = .ok d') :
    d.Keeps d' ∧ d.Leads goal := by
  unfold settle at h
  split at h
  · cases h
  · next hmoved =>
    cases h
    exact ⟨Disk.keeps_of_move hmoved, (Disk.move_eq_ok hmoved).1⟩

/-- The disk holds the files of before and the staged ones beside them. -/
structure Holding (before : Holdings) (d : Disk) (staged : List Staged) : Prop where
  distinct : (staged.map (·.temporary)).Nodup
  plain : ∀ s ∈ staged, landing s.temporary = s.temporary
  free : ∀ s ∈ staged, before s.temporary = none
  held : ∀ s ∈ staged, d.files s.temporary = some s.file.content.toUTF8
  coded : ∀ s ∈ staged, s.file.content.isWhole = true
  others : ∀ place ∉ staged.map (·.temporary), d.files place = before place

theorem files_discard (d : Disk) (staged : List Staged) (place : List Text) :
    (discard d staged).files place = if place ∈ staged.map (·.temporary) then none else d.files place := by
  induction staged generalizing d with
  | nil => simp [discard]
  | cons s rest ih =>
    rw [discard, List.foldl_cons]
    refine (ih _).trans ?_
    simp only [Disk.files_erase, Function.update_apply, List.map_cons, List.mem_cons]
    grind

namespace Holding

variable {before : Holdings} {d d' : Disk} {staged done : List Staged}

theorem start (d : Disk) : Holding d.files d [] :=
  ⟨List.nodup_nil, by simp, by simp, by simp, by simp, by simp⟩

theorem apart_of_files_eq_none (h : Holding before d staged) {place : List Text} (hplace : d.files place = none) :
    place ∉ staged.map (·.temporary) ∧ before place = none := by
  have hapart : place ∉ staged.map (·.temporary) := by
    intro hmem
    obtain ⟨s, hs, rfl⟩ := List.mem_map.mp hmem
    cases (h.held s hs).symm.trans hplace
  exact ⟨hapart, (h.others place hapart).symm.trans hplace⟩

theorem files_discard (h : Holding before d staged) : (discard d staged).files = before := by
  funext place
  rw [Publication.files_discard]
  split_ifs with hmem
  · obtain ⟨s, hs, rfl⟩ := List.mem_map.mp hmem
    exact (h.free s hs).symm
  · exact h.others place hmem

theorem stage (h : Holding before d staged) {file : Artifact} {goal temporary : List Text}
    (hstage : Publication.stage d goal file.content = (d', .ok temporary)) :
    Holding before d' (staged ++ [⟨file, goal, temporary⟩]) := by
  obtain ⟨htemporary, hnone, hfiles, hcoded⟩ := stage_eq_ok hstage
  have hplain : landing temporary = temporary := htemporary ▸ landing_temporaryFor _ _
  obtain ⟨hapart, hbefore⟩ := h.apart_of_files_eq_none hnone
  refine ⟨?_, ?_, ?_, ?_, ?_, ?_⟩
  · simpa [List.nodup_append, h.distinct] using hapart
  · simpa [or_imp, forall_and, hplain] using h.plain
  · simpa [or_imp, forall_and, hbefore] using h.free
  · intro s hs
    rcases List.mem_append.mp hs with hs | hs
    · have hne : s.temporary ≠ temporary := fun heq => hapart (heq ▸ List.mem_map_of_mem hs)
      rw [hfiles, Function.update_of_ne hne, h.held s hs]
    · obtain rfl := List.mem_singleton.mp hs
      rw [hfiles, Function.update_self]
  · simpa [or_imp, forall_and, hcoded] using h.coded
  · intro place hplace
    simp only [List.map_append, List.map_cons, List.map_nil, List.mem_append, List.mem_singleton, not_or] at hplace
    rw [hfiles, Function.update_of_ne hplace.2, h.others place hplace.1]

theorem of_files_eq (h : Holding before d staged) (hfiles : d'.files = d.files) : Holding before d' staged :=
  ⟨h.distinct, h.plain, h.free, fun s hs => hfiles ▸ h.held s hs, h.coded,
    fun place hp => hfiles ▸ h.others place hp⟩

theorem settle {s : Staged} {rest : List Staged} (h : Holding before d (s :: rest))
    (hsettle : Publication.settle d s.temporary s.goal = .ok d')
    (hfresh : ∀ r ∈ rest, landing s.goal ≠ r.temporary) :
    Holding (Function.update before (landing s.goal) (some s.file.content.toUTF8)) d' rest := by
  unfold Publication.settle at hsettle
  split at hsettle
  · cases hsettle
  · next moved hmoved =>
    cases hsettle
    obtain ⟨hnotMem, hdistinct⟩ := List.nodup_cons.mp h.distinct
    obtain ⟨content, hcontent, hfiles⟩ := Disk.files_of_move hmoved
    rw [h.plain s List.mem_cons_self] at hcontent hfiles
    obtain rfl : s.file.content.toUTF8 = content :=
      Option.some.inj ((h.held s List.mem_cons_self).symm.trans hcontent)
    have hheld (r : Staged) (hr : r ∈ rest) : r.temporary ≠ s.temporary :=
      fun heq => hnotMem (List.mem_map.mpr ⟨r, hr, heq⟩)
    refine ⟨hdistinct, fun r hr => h.plain r (.tail s hr), fun r hr => ?_, fun r hr => ?_,
      fun r hr => h.coded r (.tail s hr), fun place hplace => ?_⟩
    · rw [Function.update_of_ne (hfresh r hr).symm, h.free r (.tail s hr)]
    · rw [hfiles, Function.update_of_ne (hfresh r hr).symm, Function.update_of_ne (hheld r hr),
        h.held r (.tail s hr)]
    · -- At the goal both have the new content, at the temporary place neither has any.
      rw [hfiles, Function.update_apply, Function.update_apply, Function.update_apply]
      split_ifs with hgoal htemporary
      · rfl
      · rw [htemporary, h.free s List.mem_cons_self]
      · exact h.others place (by simp [htemporary, hplace])

end Holding

/-! ## Whole batches -/

section Runs

variable {d moved : Disk} {directory : List Text} {files : List Artifact} {done : List Staged}
  {records recorded : List FileRecord} {f : Fault}

theorem stageAll_append (d : Disk) (directory : List Text) (done : List Staged) (files rest : List Artifact) :
    stageAll d directory done (files ++ rest) = match stageAll d directory done files with
      | (d, .error f) => (d, .error f)
      | (d, .ok staged) => stageAll d directory staged rest := by
  induction files generalizing d done with
  | nil => rfl
  | cons file files ih =>
    rw [List.cons_append, stageAll, stageAll]
    cases stage d (Path.under directory file.path) file.content with
    | mk d' result =>
      cases result with
      | error f => rfl
      | ok temporary => exact ih d' _

theorem leads_of_settleAll (h : settleAll d records done = (moved, recorded, none)) :
    d.Keeps moved ∧ ∀ s ∈ done, moved.Leads s.goal := by
  induction done generalizing d records with
  | nil =>
    cases h
    exact ⟨fun _ hplace => hplace, by simp⟩
  | cons s done ih =>
    rw [settleAll] at h
    split at h
    · cases h
    · next d₁ hone =>
      obtain ⟨hkeeps, hleads⟩ := settle_eq_ok hone
      obtain ⟨hrest, hdone⟩ := ih h
      exact ⟨hkeeps.trans hrest, List.forall_mem_cons.mpr ⟨hleads.of_keeps (hkeeps.trans hrest), hdone⟩⟩

theorem settleAll_append (h : settleAll d records done = (moved, recorded, none)) (rest : List Staged) :
    settleAll d records (done ++ rest) = settleAll moved recorded rest := by
  induction done generalizing d records with
  | nil =>
    cases h
    rfl
  | cons s done ih =>
    rw [settleAll] at h
    rw [List.cons_append, settleAll]
    split at h
    · cases h
    · next d₁ hone => exact ih h

end Runs

def place (directory : List Text) (file : Artifact) : List Text := landing (Path.under directory file.path)

/-- The files once documents were put at their places, one after the other. -/
def filled (before : Holdings) (directory : List Text) (files : List Artifact) : Holdings :=
  files.foldl (fun held file => Function.update held (place directory file) (some file.content.toUTF8)) before

theorem filled_of_notMem (before : Holdings) {directory : List Text} {files : List Artifact} {other : List Text}
    (h : other ∉ files.map (place directory)) : filled before directory files other = before other := by
  induction files generalizing before with
  | nil => rfl
  | cons file rest ih =>
    rw [List.map_cons, List.mem_cons, not_or] at h
    rw [filled, List.foldl_cons]
    refine (ih _ h.2).trans ?_
    rw [Function.update_of_ne h.1]

theorem filled_place (before : Holdings) {directory : List Text} {files : List Artifact}
    (hdistinct : (files.map (place directory)).Nodup) {file : Artifact} (hfile : file ∈ files) :
    filled before directory files (place directory file) = some file.content.toUTF8 := by
  induction files generalizing before with
  | nil => cases hfile
  | cons first rest ih =>
    obtain ⟨hfirst, hrest⟩ := List.nodup_cons.mp hdistinct
    rw [filled, List.foldl_cons]
    rcases List.mem_cons.mp hfile with rfl | hfile
    · refine (filled_of_notMem _ hfirst).trans ?_
      rw [Function.update_self]
    · exact ih _ hrest hfile

/-- The places of the temporary files of a batch, up to the first document that cannot be staged. -/
def temporaries (d : Disk) (directory : List Text) : List Artifact → List (List Text)
  | [] => []
  | file :: rest =>
    let goal := Path.under directory file.path
    temporaryFor (d.makeDirectories goal.dropLast).1 goal ::
      match stage d goal file.content with
      | (_, .error _) => []
      | (d, .ok _) => temporaries d directory rest

namespace Holding

variable {before : Holdings} {d d' : Disk} {directory : List Text} {staged done : List Staged}
  {files : List Artifact}

theorem before_eq_none_of_mem_temporaries (h : Holding before d staged) {t : List Text}
    (ht : t ∈ temporaries d directory files) : before t = none := by
  induction files generalizing d staged with
  | nil => cases ht
  | cons file rest ih =>
    rw [temporaries, List.mem_cons] at ht
    rcases ht with rfl | ht
    · refine (h.apart_of_files_eq_none ?_).2
      rw [← Disk.files_makeDirectories]
      exact Disk.files_eq_none_of_free (Disk.get?_freshName _ _ _)
    · split at ht
      · cases ht
      · next d' _ hstage => exact ih (h.stage hstage) ht

theorem stageAll (h : Holding before d done) (hgoal : ∀ s ∈ done, s.goal = Path.under directory s.file.path)
    (hstage : Publication.stageAll d directory done files = (d', .ok staged)) :
    Holding before d' staged ∧ (∀ s ∈ staged, s.goal = Path.under directory s.file.path) ∧
      staged.map (·.file) = done.map (·.file) ++ files ∧
      staged.map (·.temporary) = done.map (·.temporary) ++ temporaries d directory files := by
  induction files generalizing d done with
  | nil =>
    cases hstage
    simpa [temporaries] using ⟨h, hgoal⟩
  | cons file rest ih =>
    rw [Publication.stageAll] at hstage
    split at hstage
    · cases hstage
    · next _ temporary hone =>
      have hrest := ih (h.stage hone) (by simpa [or_imp, forall_and] using hgoal) hstage
      obtain ⟨hheld, hgoals, hfiles, htemporaries⟩ := hrest
      obtain ⟨htemporary, -⟩ := stage_eq_ok hone
      refine ⟨hheld, hgoals, ?_, ?_⟩
      · simpa using hfiles
      · rw [temporaries, hone]
        simpa [htemporary] using htemporaries

theorem stageAll_error (h : Holding before d done) {f : Fault} (hf : f.reason.isSystems)
    (hstage : Publication.stageAll d directory done files = (d', .error f)) : d'.files = before := by
  induction files generalizing d done with
  | nil => cases hstage
  | cons file rest ih =>
    rw [Publication.stageAll] at hstage
    split at hstage
    · next failed g hone =>
      cases hstage
      rw [if_pos hf]
      exact (h.of_files_eq (stage_eq_error hf hone)).files_discard
    · next _ _ hone => exact ih (h.stage hone) hstage

theorem settleAll {rest : List Staged} {moved : Disk} {records recorded : List FileRecord}
    (h : Holding before d (done ++ rest)) (hsettle : Publication.settleAll d records done = (moved, recorded, none))
    (hgoal : ∀ s ∈ done, s.goal = Path.under directory s.file.path)
    (hfresh : ∀ s ∈ done, ∀ r ∈ done ++ rest, place directory s.file ≠ r.temporary) :
    Holding (filled before directory (done.map (·.file))) moved rest ∧
      recorded = records ++ done.map fun s => .ofArtifact s.file (Path.under directory s.file.path) := by
  induction done generalizing before d records with
  | nil =>
    cases hsettle
    exact ⟨h, by simp⟩
  | cons s done ih =>
    rw [Publication.settleAll] at hsettle
    split at hsettle
    · cases hsettle
    · next d₁ hone =>
      obtain ⟨hs, hdone⟩ := List.forall_mem_cons.mp hgoal
      obtain ⟨hfreshOne, hfreshDone⟩ := List.forall_mem_cons.mp hfresh
      have hplace : landing s.goal = place directory s.file := by rw [hs, place]
      have hnext := h.settle hone fun r hr => by
        rw [hplace]
        exact hfreshOne r (.tail s hr)
      rw [hplace] at hnext
      obtain ⟨hheld, hrecorded⟩ := ih hnext hsettle hdone fun t ht r hr => hfreshDone t ht r (.tail s hr)
      refine ⟨hheld, ?_⟩
      rw [hrecorded, hs, List.map_cons, List.append_assoc, List.singleton_append]

end Holding

def Fresh (d : Disk) (directory : List Text) (files : List Artifact) : Prop :=
  ∀ t ∈ temporaries d directory files, t ∉ files.map (place directory)

theorem holding_of_moved {d ready moved : Disk} {directory : List Text} {files : List Artifact}
    {done rest : List Staged} {records recorded : List FileRecord} (hfresh : Fresh d directory files)
    (hready : stageAll d directory [] files = (ready, .ok (done ++ rest)))
    (hmoved : settleAll ready records done = (moved, recorded, none)) :
    Holding (filled d.files directory (files.take done.length)) moved rest ∧ recorded = records ++
      (files.take done.length).map fun file => .ofArtifact file (Path.under directory file.path) := by
  obtain ⟨hheld, hgoal, hfiles, htemporaries⟩ := (Holding.start d).stageAll (by simp) hready
  rw [List.map_nil, List.nil_append] at hfiles htemporaries
  have hdone : files.take done.length = done.map (·.file) := by simp [← hfiles]
  have hapart : ∀ s ∈ done, ∀ r ∈ done ++ rest, place directory s.file ≠ r.temporary := by
    intro s hs r hr heq
    refine hfresh r.temporary (htemporaries ▸ List.mem_map_of_mem hr) (List.mem_map.mpr ⟨s.file, ?_, heq⟩)
    rw [← hfiles]
    exact List.mem_map_of_mem (List.mem_append_left rest hs)
  have hresult := hheld.settleAll hmoved (fun s hs => hgoal s (List.mem_append_left rest hs)) hapart
  rw [hdone, List.map_map]
  exact hresult

end Publication

end TypedClient
