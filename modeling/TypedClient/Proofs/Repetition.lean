import Mathlib.Data.List.Induction
import TypedClient.Proofs.Distinct
import TypedClient.Proofs.Parts
import TypedClient.Proofs.Records

set_option autoImplicit false

namespace TypedClient

open Files

namespace Artifact

/-- What a call puts into a batch: a document, if the path is not empty and has an encoding. -/
def ofCall? (call : Text × Text) : Option Artifact :=
  (call.1.string?.filter (! ·.isEmpty)).map fun path => ⟨path, call.2⟩

theorem bytes_of_nil {f : Artifact} (h : f.content = []) : f.bytes = 0 := by
  rw [bytes, h]
  rfl

theorem lines_eq_zero_iff (f : Artifact) : f.lines = 0 ↔ f.content = [] := by
  rw [lines, Text.lineCount]
  cases f.content with
  | nil => simp
  | cons c cs =>
    have hbreak (hlast : (c :: cs).getLast? = some (.char '\n')) : 0 < (c :: cs).count (.char '\n') :=
      List.count_pos_iff.mpr (List.mem_of_getLast? hlast)
    by_cases hlast : (c :: cs).getLast? = some (.char '\n')
    · have := hbreak hlast
      simp [hlast]
      omega
    · simp [hlast]

end Artifact

namespace Batch

def addAll (b : Batch) (calls : List (Text × Text)) : Batch := calls.foldl (fun b call => (b.add call.1 call.2).1) b

/-- The batch that comes of calls to add a content under a path. -/
def gathered (entityCount : Nat) (calls : List (Text × Text)) : Batch := ({ entityCount } : Batch).addAll calls

def asWritten (b : Batch) : Batch := { b with files := b.merged }

theorem files_add (b : Batch) (call : Text × Text) :
    (b.add call.1 call.2).1.files = b.files ++ (Artifact.ofCall? call).toList := by
  have hread := Reading.nonEmptyText_text_eq_ok_iff call.1
  unfold add
  cases h : Reading.nonEmptyText (.scalar (.text call.1)) with
  | ok path =>
    obtain ⟨hpath, hne⟩ := (hread path).mp h
    simp [Reading.within, Artifact.ofCall?, hpath, Option.filter, hne]
  | bad issues =>
    have hnot : Artifact.ofCall? call = none := by
      rw [Artifact.ofCall?, Option.map_eq_none_iff, Option.filter_eq_none_iff]
      intro path hpath hne
      cases h.symm.trans ((hread path).mpr ⟨Text.string?_eq_some_iff.mp hpath, by simpa using hne⟩)
    simp [Reading.within, hnot]

theorem files_addAll (b : Batch) (calls : List (Text × Text)) :
    (b.addAll calls).files = b.files ++ calls.filterMap Artifact.ofCall? := by
  induction calls generalizing b with
  | nil => simp [addAll]
  | cons call rest ih =>
    rw [addAll, List.foldl_cons]
    refine (ih _).trans ?_
    rw [files_add, List.append_assoc, List.filterMap_cons]
    cases Artifact.ofCall? call <;> rfl

/-! ## What is written -/

section Put

variable (files : List Artifact) (file : Artifact)

theorem find?_putFile (path : String) :
    (putFile files file).find? (·.path == path) =
      if file.path = path then some file else files.find? (·.path == path) := by
  unfold putFile
  split
  · next hthere =>
    -- A document and the one that takes its place have the same path.
    have htest : (fun f : Artifact => f.path == path) ∘ (fun f => if f.path == file.path then file else f) =
        fun f => f.path == path := by
      funext f
      rw [Function.comp_apply]
      split_ifs with hf
      · rw [beq_iff_eq.mp hf]
      · rfl
    rw [List.find?_map, htest]
    cases hfind : files.find? (·.path == path) with
    | none =>
      obtain ⟨f, hf, hpath⟩ := List.any_eq_true.mp hthere
      have hother : f.path ≠ path := by simpa using List.find?_eq_none.mp hfind f hf
      rw [Option.map_none, if_neg (by rwa [← beq_iff_eq.mp hpath])]
    | some f =>
      have hfound : f.path = path := by simpa using List.find?_some hfind
      simp only [Option.map_some, hfound, beq_iff_eq, eq_comm (a := path)]
      split_ifs <;> rfl
  · next habsent =>
    have hnone : files.find? (·.path == file.path) = none := by simpa using habsent
    rw [List.find?_append]
    split_ifs with hpath
    · rw [← hpath, hnone]
      simp
    · simp [hpath]

theorem map_path_putFile :
    (putFile files file).map (·.path) =
      if file.path ∈ files.map (·.path) then files.map (·.path) else files.map (·.path) ++ [file.path] := by
  have hthere : files.any (·.path == file.path) = true ↔ file.path ∈ files.map (·.path) := by simp
  unfold putFile
  split_ifs with h hmem hmem
  · rw [List.map_map]
    refine List.map_congr_left fun f _ => ?_
    by_cases hf : f.path = file.path <;> simp [hf]
  · exact absurd (hthere.mp h) hmem
  · exact absurd (hthere.mpr hmem) h
  · simp

end Put

variable (b : Batch)

theorem nodup_path_merged : (b.merged.map (·.path)).Nodup := by
  rw [merged]
  induction b.files using List.reverseRecOn with
  | nil => exact .nil
  | append_singleton files f ih =>
    rw [List.foldl_append, List.foldl_cons, List.foldl_nil, map_path_putFile]
    split_ifs with hmem
    · exact ih
    · simpa [List.nodup_append, ih] using hmem

theorem find?_merged (path : String) :
    b.merged.find? (·.path == path) = b.files.reverse.find? (·.path == path) := by
  rw [merged]
  induction b.files using List.reverseRecOn with
  | nil => rfl
  | append_singleton files f ih =>
    rw [List.foldl_append, List.foldl_cons, List.foldl_nil, find?_putFile, ih, List.reverse_append,
      List.reverse_singleton, List.singleton_append, List.find?_cons]
    split_ifs with hpath
    · simp [hpath]
    · rw [beq_false_of_ne hpath]

theorem find?_at (files : List Artifact) (path : Text) :
    files.find? (fun f => (f.path : Text) == path) = path.string?.bind fun s => files.find? (·.path == s) := by
  cases h : path.string? with
  | some s =>
    obtain rfl := Text.string?_eq_some_iff.mp h
    refine congrArg (files.find? ·) (funext fun f => ?_)
    rw [Bool.eq_iff_iff, beq_iff_eq, beq_iff_eq, Text.ofString_inj]
  | none =>
    refine List.find?_eq_none.mpr fun f _ hf => ?_
    rw [← beq_iff_eq.mp hf, Text.string?_ofString] at h
    cases h

theorem get?_eq (path : Text) :
    b.get? path = (path.string?.bind fun s => b.files.find? (·.path == s)).map (·.content) := by
  rw [get?, find?_at]

theorem get?_asWritten (path : Text) :
    b.asWritten.get? path = (path.string?.bind fun s => b.files.reverse.find? (·.path == s)).map (·.content) := by
  rw [get?_eq]
  exact congrArg (Option.map _ <| path.string?.bind ·) (funext fun s => b.find?_merged s)

theorem merged_asWritten : b.asWritten.merged = b.merged := merged_eq b.nodup_path_merged

theorem merged_perm : b.merged.Perm (uniqueBy (·.path) b.files.reverse) := by
  have hmerged : uniqueBy (·.path) b.merged = b.merged := uniqueBy_eq_self _ b.nodup_path_merged
  refine (List.perm_ext_iff_of_nodup (.of_map _ b.nodup_path_merged)
    (.of_map _ (nodup_map_uniqueBy (·.path) b.files.reverse))).mpr fun f => ?_
  rw [← hmerged, mem_uniqueBy_iff, mem_uniqueBy_iff, find?_merged]

/-! ## Measures -/

def totalOf (measure : Artifact → Nat) (files : List Artifact) : Nat := files.foldr (fun f n => measure f + n) 0

section Measure

variable (measure : Artifact → Nat)

theorem totalOf_cons (f : Artifact) (files : List Artifact) :
    totalOf measure (f :: files) = measure f + totalOf measure files := rfl

theorem totalOf_perm {files files' : List Artifact} (h : files.Perm files') :
    totalOf measure files = totalOf measure files' := by
  have : LeftCommutative fun (f : Artifact) (n : Nat) => measure f + n := ⟨fun _ _ _ => Nat.add_left_comm _ _ _⟩
  exact h.foldr_eq 0

theorem totalOf_filter (p : Artifact → Bool) (files : List Artifact) :
    totalOf measure (files.filter p) ≤ totalOf measure files ∧
      (totalOf measure (files.filter p) = totalOf measure files ↔ ∀ f ∈ files, p f = false → measure f = 0) := by
  induction files with
  | nil => simp [totalOf]
  | cons f files ih =>
    rw [List.forall_mem_cons, ← ih.2, List.filter_cons]
    have hle := ih.1
    split_ifs with hp
    all_goals
      simp only [totalOf_cons, hp]
      grind

theorem totalOf_uniqueBy_le (files : List Artifact) :
    totalOf measure (uniqueBy (·.path) files) ≤ totalOf measure files := by
  induction files with
  | nil => exact Nat.le_refl 0
  | cons f files ih =>
    rw [uniqueBy_cons, totalOf_cons, totalOf_cons]
    exact Nat.add_le_add_left (Nat.le_trans (totalOf_filter measure _ _).1 ih) _

end Measure

theorem exists_first_of_mem {files : List Artifact} {f : Artifact} (hf : f ∈ files) :
    ∃ first ∈ files, files.find? (·.path == f.path) = some first ∧ first.path = f.path ∧
      ∀ R : Artifact → Artifact → Prop, files.Pairwise R → first = f ∨ R first f := by
  obtain ⟨first, hfirst⟩ := Option.isSome_iff_exists.mp
    (List.find?_isSome.mpr ⟨f, hf, beq_self_eq_true f.path⟩ : (files.find? (·.path == f.path)).isSome)
  refine ⟨first, List.mem_of_find?_eq_some hfirst, hfirst, by simpa using List.find?_some hfirst, fun R h => ?_⟩
  obtain ⟨-, front, behind, rfl, hfront⟩ := List.find?_eq_some_iff_append.mp hfirst
  obtain hf | hf := List.mem_append.mp hf
  · exact absurd (beq_self_eq_true f.path) (by simpa using hfront f hf)
  · obtain rfl | hf := List.mem_cons.mp hf
    · exact .inl rfl
    · exact .inr ((List.pairwise_cons.mp (List.pairwise_append.mp h).2.1).1 f hf)

theorem totalOf_uniqueBy_eq_iff (measure : Artifact → Nat) (files : List Artifact) :
    totalOf measure (uniqueBy (·.path) files) = totalOf measure files ↔
      files.Pairwise fun f g => f.path = g.path → measure g = 0 := by
  induction files with
  | nil => simp [uniqueBy, totalOf]
  | cons x files ih =>
    have hfilter := totalOf_filter measure (fun f => decide (f.path ≠ x.path)) (uniqueBy (·.path) files)
    have hunique := totalOf_uniqueBy_le measure files
    rw [uniqueBy_cons, totalOf_cons, totalOf_cons, List.pairwise_cons, ← ih]
    constructor
    · intro h
      have hkept : totalOf measure (uniqueBy (·.path) files) = totalOf measure files := by omega
      refine ⟨fun g hg hpath => ?_, hkept⟩
      obtain ⟨a, -, ha, hpa, hfront⟩ := exists_first_of_mem hg
      have hzero : measure a = 0 := by
        refine hfilter.2.mp (by omega) a ?_ (by simp [hpa, hpath])
        rw [mem_uniqueBy_iff, hpa, ha]
      obtain rfl | hbehind := hfront _ (ih.mp hkept)
      · exact hzero
      · exact hbehind hpa
    · rintro ⟨hx, hkept⟩
      have hdropped := hfilter.2.mpr fun f hf hpath =>
        hx f ((sublist_uniqueBy _ _).mem hf) (Eq.symm (by simpa using hpath))
      omega

theorem total_asWritten_iff (measure : Artifact → Nat) :
    b.total measure = b.asWritten.total measure ↔
      b.files.Pairwise fun f g => f.path = g.path → measure f = 0 := by
  have hreverse : b.total measure = totalOf measure b.files.reverse := totalOf_perm measure b.files.reverse_perm.symm
  have hwritten : b.asWritten.total measure = totalOf measure (uniqueBy (·.path) b.files.reverse) :=
    totalOf_perm measure b.merged_perm
  rw [hreverse, hwritten, eq_comm, totalOf_uniqueBy_eq_iff, List.pairwise_reverse]
  exact ⟨fun h => h.imp fun hfg hpath => hfg hpath.symm, fun h => h.imp fun hfg hpath => hfg hpath.symm⟩

/-- A document that takes the place of others leaves the encodings as they are, when it is empty as they are. -/
theorem map_content_putFile {files : List Artifact} {f : Artifact} (hthere : files.any (·.path == f.path) = true)
    (h : ∀ a ∈ files, a.path = f.path → a.content = f.content) :
    (putFile files f).map (·.content) = files.map (·.content) := by
  rw [putFile, if_pos hthere, List.map_map]
  refine List.map_congr_left fun a ha => ?_
  rw [Function.comp_apply]
  split_ifs with hpath
  · exact (h a ha (beq_iff_eq.mp hpath)).symm
  · rfl

theorem encodingFault?_asWritten
    (h : b.files.Pairwise fun f g => f.path = g.path → f.content = [] ∧ g.content = []) :
    b.asWritten.encodingFault? = b.encodingFault? := by
  rw [encodingFault?, encodingFault?, asWritten, merged]
  induction hfiles : b.files using List.reverseRecOn generalizing b with
  | nil => rfl
  | append_singleton files f ih =>
    rw [hfiles, List.pairwise_append] at h
    obtain ⟨hfront, -, hlast⟩ := h
    have hshared (a : Artifact) (ha : a ∈ files.foldl putFile []) (hpath : a.path = f.path) :
        a.content = [] ∧ f.content = [] :=
      hlast a ((sublist_uniqueBy _ _).mem ((merged_perm ⟨files, 0⟩).mem_iff.mp ha) |> List.mem_reverse.mp) f
        (List.mem_singleton_self f) hpath
    rw [List.foldl_append, List.foldl_cons, List.foldl_nil, List.findSome?_append, ← ih ⟨files, 0⟩ hfront rfl]
    cases hthere : (files.foldl putFile []).any (·.path == f.path) with
    | true =>
      obtain ⟨a, ha, hpath⟩ := List.any_eq_true.mp hthere
      have hempty : f.content.encodingFault? = none := by
        rw [(hshared a ha (beq_iff_eq.mp hpath)).2]
        rfl
      have hcontents := map_content_putFile hthere fun a ha hpath =>
        (hshared a ha hpath).1.trans (hshared a ha hpath).2.symm
      rw [List.findSome?_cons, hempty, List.findSome?_nil, Option.or_none]
      simpa only [List.findSome?_map, Function.comp_def] using congrArg (List.findSome? Text.encodingFault?) hcontents
    | false => rw [putFile, if_neg (by simp [hthere]), List.findSome?_append]

theorem get?_eq_asWritten
    (h : b.files.Pairwise fun f g => f.path = g.path → f.content = [] ∧ g.content = []) (path : Text) :
    b.get? path = b.asWritten.get? path := by
  rw [get?_eq, get?_asWritten]
  cases path.string? with
  | none => rfl
  | some s =>
    rw [Option.bind_some, Option.bind_some]
    cases hlast : b.files.reverse.find? (·.path == s) with
    | none =>
      have hnone : b.files.find? (·.path == s) = none := by simpa using hlast
      rw [hnone]
    | some last =>
      obtain ⟨first, -, hfirst, hpath, hfront⟩ :=
        exists_first_of_mem (List.mem_reverse.mp (List.mem_of_find?_eq_some hlast))
      have hplast : last.path = s := by simpa using List.find?_some hlast
      rw [hplast] at hfirst
      rw [hfirst]
      obtain rfl | hboth := hfront _ h
      · rfl
      · rw [Option.map_some, Option.map_some, (hboth hpath).1, (hboth hpath).2]

theorem agrees_iff :
    ((∀ path, b.get? path = b.asWritten.get? path) ∧ b.totalBytes = b.asWritten.totalBytes ∧
        b.totalLines = b.asWritten.totalLines) ↔
      b.files.Pairwise fun f g => f.path = g.path → f.content = [] ∧ g.content = [] := by
  simp only [totalLines, total_asWritten_iff, Artifact.lines_eq_zero_iff]
  constructor
  · rintro ⟨hget, -, hearlier⟩
    refine hearlier.imp_of_mem fun {f g} hf hg hempty hpath => ⟨hempty hpath, ?_⟩
    obtain ⟨first, -, hfirst, hpfirst, hfront⟩ := exists_first_of_mem hf
    obtain ⟨last, -, hlast, hplast, hbehind⟩ := exists_first_of_mem (List.mem_reverse.mpr hg)
    rw [hpath] at hfirst
    have hsame := hget g.path
    rw [get?_eq, get?_asWritten, Text.string?_ofString, Option.bind_some, Option.bind_some, hfirst, hlast] at hsame
    replace hsame : first.content = last.content := Option.some.inj hsame
    -- The last document is empty as the first one is, and all others as documents behind them have their path.
    obtain rfl | hlater := hbehind _ (List.pairwise_reverse.mpr hearlier)
    · obtain rfl | hfirstEmpty := hfront _ hearlier
      · exact hsame.symm.trans (hempty hpath)
      · exact hsame.symm.trans (hfirstEmpty hpfirst)
    · exact hlater hplast.symm
  · intro hempty
    have hbytes : b.total (·.bytes) = b.asWritten.total (·.bytes) :=
      (b.total_asWritten_iff (·.bytes)).mpr (hempty.imp fun h hpath => Artifact.bytes_of_nil (h hpath).1)
    refine ⟨b.get?_eq_asWritten hempty, ?_, hempty.imp fun h hpath => (h hpath).1⟩
    rw [totalBytes, totalBytes, b.encodingFault?_asWritten hempty, hbytes]

/-- Of contents that are added one after the other, a batch finds the first one of a path, and the last one is
written. So the batch tells and measures what is written exactly when documents that share a path are all empty. -/
theorem views_agree_iff (entityCount : Nat) (calls : List (Text × Text)) :
    (∀ path : Text,
        (gathered entityCount calls).get? path =
          ((calls.filterMap Artifact.ofCall?).find? fun f => (f.path : Text) == path).map (·.content) ∧
        (gathered entityCount calls).asWritten.get? path =
          ((calls.filterMap Artifact.ofCall?).reverse.find? fun f => (f.path : Text) == path).map (·.content)) ∧
      (((∀ path, (gathered entityCount calls).get? path = (gathered entityCount calls).asWritten.get? path) ∧
          (gathered entityCount calls).totalBytes = (gathered entityCount calls).asWritten.totalBytes ∧
          (gathered entityCount calls).totalLines = (gathered entityCount calls).asWritten.totalLines) ↔
        (calls.filterMap Artifact.ofCall?).Pairwise fun f g => f.path = g.path → f.content = [] ∧ g.content = []) ∧
      ∀ (p : Publisher) (d : Disk) (stamp seconds : String),
        p.publish d stamp seconds (gathered entityCount calls).asWritten =
          p.publish d stamp seconds (gathered entityCount calls) := by
  have hfiles : (gathered entityCount calls).files = calls.filterMap Artifact.ofCall? := files_addAll _ _
  refine ⟨fun path => ⟨?_, ?_⟩, ?_, fun p d stamp seconds => ?_⟩
  · rw [get?, hfiles]
  · rw [get?_asWritten, hfiles, find?_at]
  · rw [agrees_iff, hfiles]
  · rw [Publisher.publish, Publisher.publish, merged_asWritten]

/-- A document that another one with its path comes after is still found, and still measured. -/
theorem replaced_disagree : ¬ ∀ (entityCount : Nat) (calls : List (Text × Text)),
    (∀ path, (gathered entityCount calls).get? path = (gathered entityCount calls).asWritten.get? path) ∧
      (gathered entityCount calls).totalBytes = (gathered entityCount calls).asWritten.totalBytes ∧
      (gathered entityCount calls).totalLines = (gathered entityCount calls).asWritten.totalLines := by
  intro h
  have hfound : (gathered 0 [("a", "x"), ("a", "yz")]).get? "a" ≠
      (gathered 0 [("a", "x"), ("a", "yz")]).asWritten.get? "a" := by decide +kernel
  exact hfound ((h 0 [("a", "x"), ("a", "yz")]).1 "a")

end Batch

end TypedClient
