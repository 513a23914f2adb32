import TypedClient.Proofs.Staging
import TypedClient.Proofs.Traversal
import TypedClient.Publication.Publisher

set_option autoImplicit false

namespace TypedClient.Publisher

open Files Publication

/-- The system strikes a publication of files with a fault, when so many of them are in place. -/
inductive Struck (d : Disk) (directory : List Text) (files : List Artifact) (f : Fault) : Nat → Prop
  | directory {made : Disk} (hmade : d.makeDirectories directory = (made, some f)) : Struck d directory files f 0
  /-- A document cannot be staged: its own directory cannot be made, or its temporary file not be created or
  written. -/
  | staging {made ready failed : Disk} {front rest : List Artifact} {file : Artifact} {staged : List Staged}
      (hmade : d.makeDirectories directory = (made, none)) (hfiles : files = front ++ file :: rest)
      (hready : stageAll made directory [] front = (ready, .ok staged))
      (hfailed : stage ready (Path.under directory file.path) file.content = (failed, .error f)) :
      Struck d directory files f 0
  | moving {made ready moved : Disk} {done rest : List Staged} {s : Staged} {recorded : List FileRecord}
      (hmade : d.makeDirectories directory = (made, none))
      (hready : stageAll made directory [] files = (ready, .ok (done ++ s :: rest)))
      (hmoved : settleAll ready [] done = (moved, recorded, none))
      (hfailed : settle moved s.temporary s.goal = .error f) : Struck d directory files f done.length

def faultText (f : Fault) : Text := "Fatal export error: " ++ f.reason.sort ++ ": " ++ f.message

variable {d : Disk} {directory : List Text} {files : List Artifact} {f : Fault} {k : Nat}

theorem fail_of_isSystems (p : Publisher) (hf : f.reason.isSystems) :
    p.fail f = ({ p with errors := p.errors ++ [faultText f] }, .ok [remark .error (faultText f)]) := by
  rw [fail, if_pos hf]
  rfl

theorem putFiles_of_struck (settings : Settings) (withManifest : Bool) (stamp : String) (hf : f.reason.isSystems)
    (hfresh : Fresh (d.makeDirectories directory).1 directory files) (h : Struck d directory files f k) :
    ∃ d', ({ settings, directory, withManifest } : Publisher).putFiles d stamp files =
        ({ settings, directory, withManifest, errors := [faultText f],
           records := (files.take k).map fun file => .ofArtifact file (Path.under directory file.path) },
          d', .ok [remark .error (faultText f)]) ∧
      d'.files = filled d.files directory (files.take k) := by
  have hmake := Disk.files_makeDirectories d directory
  cases h with
  | directory hmade =>
    rw [hmade] at hmake
    refine ⟨_, ?_, hmake⟩
    simp only [putFiles, hmade, fail_of_isSystems _ hf]
    rfl
  | @staging made ready failed front rest file staged hmade hfiles hready hfailed =>
    rw [hmade] at hmake
    have hstage : stageAll made directory [] files = (discard failed staged, .error f) := by
      rw [hfiles, stageAll_append, hready]
      simp only [stageAll, hfailed, hf, if_true]
    have hgone := (Holding.start made).stageAll_error hf hstage
    refine ⟨_, ?_, hgone.trans hmake⟩
    simp only [putFiles, hmade, placeAll, hstage, fail_of_isSystems _ hf]
    rfl
  | @moving made ready moved done rest s recorded hmade hready hmoved hfailed =>
    rw [hmade] at hmake
    rw [hmade] at hfresh
    obtain ⟨hheld, hrecorded⟩ := holding_of_moved hfresh hready hmoved
    have hsettle : settleAll ready [] (done ++ s :: rest) = (discard moved (s :: rest), recorded, some f) := by
      rw [settleAll_append hmoved, settleAll, hfailed]
    refine ⟨_, ?_, hheld.files_discard.trans (congrArg (filled · directory _) hmake)⟩
    simp only [putFiles, hmade, placeAll, hready, hsettle, fail_of_isSystems _ hf]
    rw [hrecorded]
    rfl

theorem manifestFailed_eq (p : Publisher) (f : Fault) : ∃ warnings, (p.manifestFailed f).1 = { p with warnings } := by
  unfold manifestFailed
  split <;> exact ⟨_, rfl⟩

theorem putManifest_eq (p : Publisher) (d : Disk) (stamp : String) :
    ∃ warnings, (p.putManifest d stamp).1 = { p with warnings } := by
  unfold putManifest
  dsimp only
  split
  · exact manifestFailed_eq p _
  · split
    · exact manifestFailed_eq p _
    · exact ⟨_, rfl⟩

/-- When the system strikes a new publisher, the batch ends with the documents in place that were moved until
then. No temporary file stays, every other file is as it was, the manifest records just those documents, each with
its path in the batch, where it stands, and the size, lines and digest of its content, and the fault is the one
error. -/
theorem publish_of_struck (settings : Settings) (directory : List Text) (withManifest : Bool) (d : Disk)
    (stamp seconds : String) (b : Batch) (f : Fault) (k : Nat) (hf : f.reason.isSystems = true)
    (hstruck : Struck d directory b.merged f k)
    (hfresh : Fresh (d.makeDirectories directory).1 directory b.merged) :
    ∃ p d' remarks,
      ({ settings, directory, withManifest } : Publisher).publish d stamp seconds b = (p, d', .ok remarks) ∧
      (∀ t ∈ temporaries (d.makeDirectories directory).1 directory b.merged, d'.files t = none) ∧
      ((b.merged.map (place directory)).Nodup →
        ∀ file ∈ b.merged.take k, d'.files (place directory file) = some file.content.toUTF8) ∧
      (∀ other ∉ (b.merged.take k).map (place directory), d'.files other = d.files other) ∧
      (p.manifest stamp).files = (b.merged.take k).map (fun file =>
        { relativePath := file.path, absolutePath := Path.absolute (Path.under directory file.path)
          bytes := file.content.toUTF8.size, lines := Text.lineCount file.content
          digest := Digest.sha256 file.content.toUTF8 }) ∧
      p.success = false ∧ p.errors = [faultText f] := by
  obtain ⟨d', hput, hfiles⟩ := putFiles_of_struck settings withManifest stamp hf hfresh hstruck
  have hothers (other : List Text) (hother : other ∉ (b.merged.take k).map (place directory)) :
      d'.files other = d.files other := by
    rw [hfiles, filled_of_notMem _ hother]
  refine ⟨_, d', _, by rw [publish, hput]; rfl, fun t ht => ?_, fun hdistinct file hfile => ?_, hothers, rfl, rfl, rfl⟩
  · -- A temporary place is no goal, so nothing stands there, as before.
    have hapart : t ∉ (b.merged.take k).map (place directory) := fun hmem => by
      obtain ⟨file, hfile, rfl⟩ := List.mem_map.mp hmem
      exact hfresh _ ht (List.mem_map_of_mem (List.mem_of_mem_take hfile))
    rw [hothers t hapart, ← Disk.files_makeDirectories d directory]
    exact (Holding.start _).before_eq_none_of_mem_temporaries ht
  · have htake : ((b.merged.take k).map (place directory)).Nodup := by
      rw [List.map_take]
      exact hdistinct.sublist (List.take_sublist k _)
    rw [hfiles, filled_place _ htake hfile]

def blockedDisk : Disk where
  entries := [(["out"], .directory), (["out", "index.js"], .directory),
    (["out", "manifest.json"], .file "old".toUTF8)]

def pair : Batch where
  files := [⟨"index.d.ts", "a"⟩, ⟨"index.js", "b"⟩]

def blockedFault : Fault := ⟨.isDirectory, "/out/.index.js.00000000.tmp", "/out/index.js"⟩

theorem blockedDisk_struck : Struck blockedDisk ["out"] pair.merged blockedFault 1 := by
  let made := (blockedDisk.makeDirectories ["out"]).1
  let ready := (stageAll made ["out"] [] pair.merged).1
  let done : Staged := ⟨⟨"index.d.ts", "a"⟩, ["out", "index.d.ts"], ["out", ".index.d.ts.00000000.tmp"]⟩
  let next : Staged := ⟨⟨"index.js", "b"⟩, ["out", "index.js"], ["out", ".index.js.00000000.tmp"]⟩
  let moved := (settleAll ready [] [done]).1
  have hmade : blockedDisk.makeDirectories ["out"] = (made, none) := Prod.ext rfl (by decide +kernel)
  have hready : stageAll made ["out"] [] pair.merged = (ready, .ok ([done] ++ [next])) :=
    Prod.ext rfl (by decide +kernel)
  have hmoved : settleAll ready [] [done] = (moved, _, none) := Prod.ext rfl (Prod.ext rfl (by decide +kernel))
  have hfailed : settle moved next.temporary next.goal = .error blockedFault :=
    (except_map_eq_error_iff (fun _ => ()) _ _).mp (by decide +kernel)
  exact .moving hmade hready hmoved hfailed

theorem blockedDisk_published :
    ∃ p d' remarks, ({ settings := {}, directory := ["out"] } : Publisher).publish blockedDisk "now" "0.1" pair =
        (p, d', .ok remarks) ∧
      d'.files ["out", "index.d.ts"] = some "a".toUTF8 ∧ d'.files ["out", "manifest.json"] = some "old".toUTF8 ∧
      (p.manifest "now").files =
        [{ relativePath := "index.d.ts", absolutePath := "/out/index.d.ts", bytes := 1, lines := 1
           digest := "ca978112ca1bbdcafac231b39a23dc4da786eff8147c4e72b9807785afee48bb" }] ∧
      p.errors = [faultText blockedFault] := by
  have hfresh : Fresh (blockedDisk.makeDirectories ["out"]).1 ["out"] pair.merged := by
    unfold Fresh
    decide +kernel
  obtain ⟨p, d', remarks, hrun, -, hplaces, hothers, hfiles, -, herrors⟩ := publish_of_struck {} ["out"] true
    blockedDisk "now" "0.1" pair blockedFault 1 (by decide) blockedDisk_struck hfresh
  have htaken : pair.merged.take 1 = [⟨"index.d.ts", "a"⟩] := by decide +kernel
  have hdistinct : (pair.merged.map (place ["out"])).Nodup := by decide +kernel
  rw [htaken] at hplaces hothers hfiles
  have hplace : place ["out"] ⟨"index.d.ts", "a"⟩ = ["out", "index.d.ts"] := by decide +kernel
  have hrecord : Path.absolute (Path.under ["out"] "index.d.ts") = "/out/index.d.ts" ∧ "a".toUTF8.size = 1 ∧
      Text.lineCount "a" = 1 ∧
      Digest.sha256 "a".toUTF8 = "ca978112ca1bbdcafac231b39a23dc4da786eff8147c4e72b9807785afee48bb" := by decide +kernel
  refine ⟨p, d', remarks, hrun, ?_, ?_, ?_, herrors⟩
  · simpa [hplace] using hplaces hdistinct
  · rw [hothers _ (by simp [hplace])]
    exact Disk.files_eq_some_iff.mpr rfl
  · simpa only [List.map_cons, List.map_nil, Text.toUTF8_ofString, hrecord] using hfiles

end TypedClient.Publisher
