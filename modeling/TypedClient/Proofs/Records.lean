import TypedClient.Proofs.Publication
import TypedClient.Proofs.Rendering
import TypedClient.Proofs.CodedTypes
import TypedClient.Rendition.Batch

set_option autoImplicit false

namespace TypedClient

open Files Publication

/-! ## How the texts begin -/

theorem head?_intercalate {sep t : Text} {l : Letter} (h : t.head? = some l) (ts : List Text) :
    (Text.intercalate sep (t :: ts)).head? = some l := by
  cases ts with
  | nil => rwa [Text.intercalate_singleton]
  | cons u us => rw [Text.intercalate_cons_cons, List.append_assoc, List.head?_append, h, Option.some_or]

namespace Document

variable {d : Document} {s : Settings}

theorem head?_tsText {text : Text} (h : d.tsText s = .ok text) : text.head? = some (.char 'i') := by
  obtain ⟨xs, -, rfl⟩ := tsText_eq_ok_iff.mp h
  refine head?_intercalate ?_ _
  exact head?_intercalate rfl _

theorem head?_jsText {current : List Text} {text : Text} (h : d.jsText s current = .ok text) :
    text.head? = some (.char 'O') := by
  obtain ⟨passages, hpassages, rfl⟩ := (except_map_eq_ok_iff _ _ _).mp h
  obtain ⟨config, -, rfl⟩ := (except_map_eq_ok_iff _ _ _).mp hpassages
  refine head?_intercalate ?_ _
  exact head?_intercalate rfl _

end Document

theorem Manifest.head?_text (step : Nat) (m : Manifest) : (m.text step).head? = some (.char '\x7b') := by
  simp [text, toJson, Json.indented, Text.ofString]

theorem ne_of_head? {t u : Text} {k l : Letter} (ht : t.head? = some k) (hu : u.head? = some l) (h : k ≠ l) :
    t ≠ u := by
  rintro rfl
  exact h (Option.some.inj (ht.symm.trans hu))

/-! ## Batches with a document for every path -/

namespace Batch

theorem foldl_putFile {done files : List Artifact} (h : ((done ++ files).map (·.path)).Nodup) :
    files.foldl putFile done = done ++ files := by
  induction files generalizing done with
  | nil => simp
  | cons file rest ih =>
    have hnew : done.any (·.path == file.path) = false := by
      rw [List.map_append, List.map_cons, List.nodup_append] at h
      rw [List.any_eq_false]
      intro other hother
      simpa using h.2.2 _ (List.mem_map_of_mem hother) _ List.mem_cons_self
    rw [List.foldl_cons, putFile, if_neg (by simp [hnew]), ih (by simpa using h)]
    simp

theorem merged_eq {b : Batch} (h : (b.files.map (·.path)).Nodup) : b.merged = b.files :=
  foldl_putFile (by simpa using h)

end Batch

/-! ## The run of a publication without errors -/

namespace Publisher

variable {d d' : Disk} {directory : List Text} {files : List Artifact} {settings : Settings} {stamp : String}
  {p q : Publisher}

def manifestPlace (directory : List Text) : List Text := landing (directory ++ [(Manifest.fileName : Text)])

theorem manifestFailed_eq_ok {f : Fault} {remarks : List Remark} (h : p.manifestFailed f = (q, .ok remarks)) :
    f.reason.isSystems ∧ q.warnings ≠ [] := by
  unfold manifestFailed at h
  split_ifs at h with hf
  · cases h
    exact ⟨hf, by simp⟩
  · cases h

theorem putManifest_cases {remarks : List Remark} (h : p.putManifest d stamp = (q, d', .ok remarks)) :
    d.Keeps d' ∧
      ((q = p ∧ ((p.manifest stamp).text 2).isWhole = true ∧ d'.files =
          Function.update d.files (manifestPlace p.directory) (some ((p.manifest stamp).text 2).toUTF8)) ∨
        q.warnings ≠ [] ∧ ∀ place content, d.files place = some content → d'.files place = some content) := by
  unfold putManifest at h
  dsimp only at h
  let manifest : Artifact := ⟨Manifest.fileName, (p.manifest stamp).text 2⟩
  split at h
  · next staged f hstage =>
    simp only [Prod.mk.injEq] at h
    obtain ⟨hq, rfl, hremarks⟩ := h
    obtain ⟨hf, hwarned⟩ := manifestFailed_eq_ok (Prod.ext hq hremarks)
    refine ⟨(stage_cases hstage).1, .inr ⟨hwarned, fun place content hplace => ?_⟩⟩
    rw [← hplace]
    exact congrFun (stage_eq_error hf hstage) place
  · next staged temporary hstage =>
    have hheld : Holding d.files staged [⟨manifest, p.directory ++ [(Manifest.fileName : Text)], temporary⟩] :=
      (Holding.start d).stage hstage
    split at h
    · simp only [Prod.mk.injEq] at h
      obtain ⟨hq, rfl, hremarks⟩ := h
      obtain ⟨-, hwarned⟩ := manifestFailed_eq_ok (Prod.ext hq hremarks)
      refine ⟨(stage_cases hstage).1, .inr ⟨hwarned, fun place content hplace => ?_⟩⟩
      refine (hheld.others place fun hmem => ?_).trans hplace
      have hfree := hheld.free _ List.mem_cons_self
      rw [List.mem_singleton.mp hmem] at hplace
      cases hfree.symm.trans hplace
    · next moved hsettle =>
      cases h
      have hmoved := hheld.settle hsettle (by simp)
      refine ⟨(stage_cases hstage).1.trans (settle_eq_ok hsettle).1,
        .inl ⟨rfl, hheld.coded _ List.mem_cons_self, ?_⟩⟩
      exact funext fun place => hmoved.others place (by simp)

theorem errors_ne_nil_of_fail {p q : Publisher} {f : Fault} {remarks : List Remark} (h : p.fail f = (q, .ok remarks)) :
    q.errors ≠ [] := by
  unfold fail at h
  split_ifs at h
  · cases h
    simp
  · cases h

theorem putFiles_of_success {remarks : List Remark} (hfresh : Fresh (d.makeDirectories directory).1 directory files)
    (hrun : ({ settings, directory } : Publisher).putFiles d stamp files = (p, d', .ok remarks)) (hok : p.errors = []) :
    ∃ placed, placed.files = filled d.files directory files ∧
      (∀ file ∈ files, placed.Leads (Path.under directory file.path)) ∧ (∀ file ∈ files, file.content.isWhole = true) ∧
      ∃ q : Publisher, ∃ told,
        q = { settings, directory,
              records := files.map fun file => .ofArtifact file (Path.under directory file.path) } ∧
        q.putManifest placed stamp = (p, d', .ok told) := by
  have hwidens := Disk.widens_makeDirectories d directory
  unfold putFiles at hrun
  split at hrun
  · next made f _ =>
    exact absurd hok (errors_ne_nil_of_fail (Prod.ext (congrArg (·.1) hrun) (congrArg (·.2.2) hrun)))
  · next made hmade =>
    rw [hmade] at hfresh hwidens
    split at hrun
    · next placed records f _ =>
      exact absurd hok (errors_ne_nil_of_fail (Prod.ext (congrArg (·.1) hrun) (congrArg (·.2.2) hrun)))
    · next placed records hplaced =>
      unfold placeAll at hplaced
      split at hplaced
      · cases hplaced
      · next ready staged hready =>
        obtain ⟨hready', hgoals, hstaged, -⟩ := (Holding.start made).stageAll (by simp) hready
        rw [List.map_nil, List.nil_append] at hstaged
        have htake : files.take staged.length = files := List.take_of_length_le (by simp [← hstaged])
        obtain ⟨hheld, hrecords⟩ := holding_of_moved hfresh (by rwa [List.append_nil]) hplaced
        rw [htake, List.nil_append] at hrecords
        rw [htake, hwidens.files] at hheld
        simp only [if_true, Prod.mk.injEq, except_map_eq_ok_iff] at hrun
        obtain ⟨hp, hd', told, htold, -⟩ := hrun
        refine ⟨placed, funext fun place => hheld.others place (by simp), fun file hfile => ?_, fun file hfile => ?_,
          _, told, rfl, ?_⟩
        · obtain ⟨s, hs, rfl⟩ := List.mem_map.mp (hstaged ▸ hfile)
          rw [← hgoals s hs]
          exact (leads_of_settleAll hplaced).2 s hs
        · obtain ⟨s, hs, rfl⟩ := List.mem_map.mp (hstaged ▸ hfile)
          exact hready'.coded s hs
        · rw [← hrecords]
          exact Prod.ext hp (Prod.ext hd' htold)

end Publisher

/-! ## Records and what stands on the disk -/

/-- A record tells of a document that stands at the absolute path of the record. -/
structure FileRecord.Tells (r : FileRecord) (d : Disk) (file : Artifact) : Prop where
  relative : r.relativePath = file.path
  stands : d.look (Path.names r.absolutePath) = .ok (.file file.content.toUTF8)
  bytes : r.bytes = file.bytes
  lines : r.lines = file.lines
  digest : r.digest = file.checksum

theorem FileRecord.tell_iff {d : Disk} {directory : List Text} {files : List Artifact}
    (hproper : ∀ name ∈ directory, Path.Proper name) (hpaths : (files.map (·.path)).Nodup)
    (hleads : ∀ file ∈ files, d.Leads (Path.under directory file.path)) :
    (∀ r ∈ files.map (fun file => ofArtifact file (Path.under directory file.path)), ∃ file ∈ files, r.Tells d file) ↔
      ∀ file ∈ files, d.files (place directory file) = some file.content.toUTF8 := by
  have hnames (file : Artifact) :
      Path.names (Path.absolute (Path.under directory file.path)) = Path.under directory file.path :=
    Path.names_absolute (Path.proper_of_mem_under hproper file.path)
  constructor
  · intro h file hfile
    obtain ⟨other, hother, htells⟩ := h _ (List.mem_map_of_mem hfile)
    obtain rfl : file = other := List.inj_on_of_nodup_map hpaths hfile hother htells.relative
    have hstands := htells.stands
    rw [ofArtifact, hnames] at hstands
    exact Disk.files_of_look hstands
  · intro h r hr
    obtain ⟨file, hfile, rfl⟩ := List.mem_map.mp hr
    refine ⟨file, hfile, rfl, ?_, rfl, rfl, rfl⟩
    rw [ofArtifact, hnames]
    exact Disk.look_of_leads (hleads file hfile) (h file hfile)

theorem Document.files_of_rendered {d : Document} {s : Settings} {raw : Data} {current : List Text} {b : Batch}
    (hs : Settings.read raw = .ok s) (h : d.rendered s current = .ok b) :
    (b.files.map (·.path)).Nodup ∧ (b.files.map (·.content)).Nodup ∧
      ∀ file ∈ b.files, ∀ step m, file.content ≠ Manifest.text step m := by
  have hnames : s.tsFilename ≠ s.jsFilename := by
    have hbreach := ((Reading.guarded_eq_ok_iff _ _ _).mp hs).2
    simpa [Settings.breach?] using hbreach
  have hts {text : Text} (ht : orInconsistent (d.tsText s) = .ok text) :
      text.head? = some (.char 'i') := by
    cases hd : d.tsText s with
    | error cause => simp [hd, orInconsistent] at ht
    | ok t =>
      obtain rfl : t = text := by simpa [hd, orInconsistent] using ht
      exact head?_tsText hd
  obtain ⟨ts, ht, h⟩ := (except_bind_eq_ok_iff _ _ _).mp h
  have hi := hts ht
  split at h
  · obtain ⟨js, hj, h⟩ := (except_bind_eq_ok_iff _ _ _).mp h
    have ho := head?_jsText hj
    cases h
    have hne := ne_of_head? hi ho (by decide)
    refine ⟨by simpa using hnames, by simpa using hne, ?_⟩
    intro file hfile step m
    have hm := m.head?_text step
    rcases List.mem_pair.mp hfile with rfl | rfl
    · exact ne_of_head? hi hm (by decide)
    · exact ne_of_head? ho hm (by decide)
  · cases h
    refine ⟨by simp, by simp, ?_⟩
    intro file hfile step m
    obtain rfl := List.mem_singleton.mp hfile
    exact ne_of_head? hi (m.head?_text step) (by decide)

namespace Publisher

/-- A successful publication of documents with different paths: all are recorded and were put in place, and then
the manifest was, or there is a warning. -/
theorem publish_of_success {settings : Settings} {directory : List Text} {stamp seconds : String} {b : Batch}
    {d d' : Disk} {p : Publisher} {remarks : List Remark} (hpaths : (b.files.map (·.path)).Nodup)
    (hfresh : Fresh (d.makeDirectories directory).1 directory b.merged)
    (hrun : ({ settings, directory } : Publisher).publish d stamp seconds b = (p, d', .ok remarks))
    (hok : p.success = true) :
    p.records = b.files.map (fun file => .ofArtifact file (Path.under directory file.path)) ∧
      (∀ file ∈ b.files, d'.Leads (Path.under directory file.path)) ∧
      (∀ file ∈ b.files, file.content.isWhole = true) ∧
      ((p.warnings = [] ∧ ((p.manifest stamp).text 2).isWhole = true ∧
          d'.files = Function.update (filled d.files directory b.files) (manifestPlace directory)
            (some ((p.manifest stamp).text 2).toUTF8)) ∨
        p.warnings ≠ [] ∧ ∀ place content, filled d.files directory b.files place = some content →
          d'.files place = some content) := by
  rw [Batch.merged_eq hpaths] at hfresh
  rw [publish, Batch.merged_eq hpaths] at hrun
  obtain ⟨written, hwritten, -⟩ := (except_map_eq_ok_iff _ _ _).mp (congrArg (·.2.2) hrun)
  have hput : ({ settings, directory } : Publisher).putFiles d stamp b.files = (p, d', .ok written) :=
    Prod.ext (congrArg (·.1) hrun) (Prod.ext (congrArg (·.2.1) hrun) hwritten)
  obtain ⟨placed, hplaced, hleads, hcoded, q, told, hq, htold⟩ :=
    putFiles_of_success hfresh hput (List.isEmpty_iff.mp hok)
  obtain ⟨hkeeps, hcases⟩ := putManifest_cases htold
  obtain ⟨warnings, hkept⟩ := putManifest_eq q placed stamp
  have hp : p = { q with warnings } := by rw [← hkept, htold]
  rw [hplaced] at hcases
  refine ⟨by rw [hp, hq], fun file hfile => (hleads file hfile).of_keeps hkeeps, hcoded, hcases.imp_left ?_⟩
  rintro ⟨hsame, hmanifest, hmoved⟩
  have hnone : q.warnings = [] := by rw [hq]
  have hdirectory : q.directory = directory := by rw [hq]
  rw [hdirectory] at hmoved
  rw [hsame]
  exact ⟨hnone, hmanifest, hmoved⟩

/-- After a successful publication of rendered documents all records tell what is on the disk exactly when no two
of the documents, and none of them and a manifest that was written, go to the same place. -/
theorem records_tell_iff (raw : Data) (s : Settings) (hs : Settings.read raw = .ok s) (doc : Document)
    (current : List Text) (b : Batch) (hb : doc.rendered s current = .ok b) (out : Text) (stamp seconds : String)
    (d d' : Disk) (p : Publisher) (remarks : List Remark)
    (hfresh : Fresh (d.makeDirectories (Path.resolve [] out)).1 (Path.resolve [] out) b.merged)
    (hrun : ({ settings := s, directory := Path.resolve [] out } : Publisher).publish d stamp seconds b =
      (p, d', .ok remarks))
    (hok : p.success = true) :
    (∀ r ∈ (p.manifest stamp).files, ∃ file ∈ b.files, r.Tells d' file) ↔
      (b.files.map (place (Path.resolve [] out))).Nodup ∧
        (p.warnings = [] → manifestPlace (Path.resolve [] out) ∉ b.files.map (place (Path.resolve [] out))) := by
  have hproper : ∀ name ∈ Path.resolve [] out, Path.Proper name := fun name => Path.proper_of_mem_resolve
  generalize Path.resolve [] out = directory at *
  obtain ⟨hpaths, hcontents, hmanifest⟩ := Document.files_of_rendered hs hb
  obtain ⟨hrecords, hleads, hcoded, hcases⟩ := publish_of_success hpaths hfresh hrun hok
  rw [manifest, hrecords, FileRecord.tell_iff hproper hpaths hleads]
  constructor
  · intro hheld
    refine ⟨?_, fun hwarnings hmem => ?_⟩
    · -- Places are told apart by what stands at them.
      have hstanding : (b.files.map (place directory)).map d'.files =
          (b.files.map (·.content)).map fun t => some t.toUTF8 := by
        rw [List.map_map, List.map_map]
        exact List.map_congr_left hheld
      have hwhole : ∀ t ∈ b.files.map (·.content), t.isWhole = true := List.forall_mem_map.mpr hcoded
      have hcodings : ((b.files.map (·.content)).map fun t => some t.toUTF8).Nodup :=
        hcontents.map_on fun t ht u hu heq =>
          (Text.toUTF8_inj (hwhole t ht) (hwhole u hu)).mp (Option.some.inj heq)
      exact .of_map d'.files (hstanding ▸ hcodings)
    · -- The manifest came last, and its text begins unlike that of any document.
      obtain ⟨file, hfile, hplace⟩ := List.mem_map.mp hmem
      obtain ⟨-, hwhole, hmoved⟩ | ⟨hwarned, -⟩ := hcases
      · have hstands := hheld file hfile
        rw [hmoved, hplace, Function.update_self] at hstands
        exact hmanifest file hfile _ _ ((Text.toUTF8_inj (hcoded file hfile) hwhole).mp (Option.some.inj hstands).symm)
      · exact hwarned hwarnings
  · rintro ⟨hdistinct, hapart⟩ file hfile
    have hstands := filled_place d.files hdistinct hfile
    obtain ⟨hwarnings, -, hmoved⟩ | ⟨-, hothers⟩ := hcases
    · have hne : place directory file ≠ manifestPlace directory := fun heq =>
        hapart hwarnings (heq ▸ List.mem_map_of_mem hfile)
      rw [hmoved, Function.update_of_ne hne, hstands]
    · exact hothers _ _ hstands

/-! ## A document alone -/

def started : Disk where
  entries := [(["out"], .directory)]

def holding (goal : List Text) (content : ByteArray) : Disk where
  entries := [(["out"], .directory), (goal, .file content)]

def holdingBoth (goal other : List Text) (content more : ByteArray) : Disk where
  entries := [(["out"], .directory), (goal, .file content), (other, .file more)]

theorem makeDirectories_empty : ({} : Disk).makeDirectories ["out"] = (started, none) := by
  have hmade : ({} : Disk).makeDirectory ["out"] = .ok started := rfl
  unfold Disk.makeDirectories
  rw [hmade]

def firstDraft (goal : List Text) : List Text :=
  goal.dropLast.foldl Path.follow [] ++ [Disk.temporaryName (goal.getLast?.getD "") 0]

theorem stage_of_steps_there {made created written : Disk} {goal draft : List Text} {content : Text}
    (hthere : made.makeDirectory goal.dropLast = .error .taken) (hdirectory : made.isDirectory goal.dropLast = true)
    (hdraft : firstDraft goal = draft) (hfree : made.get? draft = none) (hcreated : made.create draft = .ok created)
    (hcoded : content.isWhole = true) (hwritten : created.write draft content.toUTF8 = .ok written) :
    stage made goal content = (written, .ok draft) := by
  subst hdraft
  have htemporary : temporaryFor made goal = firstDraft goal := by
    rw [temporaryFor, Disk.freshName_of_free hfree, firstDraft]
  rw [← htemporary] at hcreated hwritten ⊢
  exact stage_of_steps (Disk.makeDirectories_of_there hthere hdirectory) hcreated hcoded hwritten

def manifestGoal : List Text := ["out", "manifest.json"]

def manifestDraft : List Text := ["out", ".manifest.json.00000000.tmp"]

/-- A document can be staged and moved in the directory, and a manifest after it. -/
structure Placeable (file : Artifact) (goal draft : List Text) : Prop where
  under : Path.under ["out"] file.path = goal
  apart : draft ≠ landing goal
  staged : stage started goal file.content = (holding draft file.content.toUTF8, .ok draft)
  moved : (holding draft file.content.toUTF8).move draft goal = .ok (holding goal file.content.toUTF8)
  followed : ∀ m : Text, m.isWhole = true → ∃ d d',
    stage (holding goal file.content.toUTF8) manifestGoal m = (d, .ok manifestDraft) ∧
      d.move manifestDraft manifestGoal = .ok d'

theorem placeable_types {content : Text} (h : content.isWhole = true) :
    Placeable ⟨"index.d.ts", content⟩ ["out", "index.d.ts"] ["out", ".index.d.ts.00000000.tmp"] where
  under := by
    show Path.under ["out"] "index.d.ts" = ["out", "index.d.ts"]
    decide +kernel
  apart := by decide +kernel
  staged := stage_of_steps_there rfl rfl rfl rfl rfl h rfl
  moved := rfl
  followed m hm := by
    refine ⟨holdingBoth ["out", "index.d.ts"] manifestDraft content.toUTF8 m.toUTF8,
      holdingBoth ["out", "index.d.ts"] manifestGoal content.toUTF8 m.toUTF8, ?_, rfl⟩
    exact stage_of_steps_there rfl rfl rfl rfl rfl hm rfl

/-- The manifest is then moved onto the document. -/
theorem placeable_manifest {content : Text} (h : content.isWhole = true) :
    Placeable ⟨"manifest.json", content⟩ manifestGoal manifestDraft where
  under := by
    show Path.under ["out"] "manifest.json" = manifestGoal
    decide +kernel
  apart := by decide +kernel
  staged := stage_of_steps_there rfl rfl rfl rfl rfl h rfl
  moved := rfl
  followed m hm := by
    refine ⟨holdingBoth manifestGoal manifestDraft content.toUTF8 m.toUTF8, holding manifestGoal m.toUTF8, ?_, rfl⟩
    exact stage_of_steps_there rfl rfl rfl rfl rfl hm rfl

/-- A publisher that has put one document into the directory. -/
def havingPut (settings : Settings) (file : Artifact) (goal : List Text) : Publisher :=
  { settings, directory := ["out"], records := [.ofArtifact file goal] }

namespace Placeable

variable {file : Artifact} {goal draft : List Text}

theorem fresh (h : Placeable file goal draft) : Fresh (({} : Disk).makeDirectories ["out"]).1 ["out"] [file] := by
  obtain ⟨htemporary, -⟩ := stage_eq_ok h.staged
  have hplace : place ["out"] file = landing goal := congrArg landing h.under
  rw [makeDirectories_empty, Fresh, temporaries, h.under, h.staged, ← htemporary]
  dsimp only
  rw [temporaries]
  simpa [hplace] using h.apart

theorem placeAll_eq (h : Placeable file goal draft) :
    placeAll started ["out"] [] [file] = (holding goal file.content.toUTF8, [.ofArtifact file goal], none) := by
  rw [placeAll, stageAll, h.under, h.staged]
  dsimp only
  rw [stageAll]
  dsimp only [List.nil_append]
  rw [settleAll, settle, h.moved]
  rfl

theorem isWhole_manifest (h : Placeable file goal draft) {s : Settings}
    (hversions : ∀ t ∈ [s.clientVersion, s.engineVersion], t.isWhole = true) :
    (((havingPut s file goal).manifest "now").text 2).isWhole = true := by
  have hdirectory : Text.isWhole (Path.absolute ["out"]) = true := by decide
  refine Manifest.isWhole_text 2 hversions hdirectory (List.forall_mem_singleton.mpr ?_)
  exact h.under ▸ Path.isWhole_absolute_under hdirectory file.path

theorem publish (h : Placeable file goal draft) {s : Settings}
    (hversions : ∀ t ∈ [s.clientVersion, s.engineVersion], t.isWhole = true) :
    ∃ d' remarks, ({ settings := s, directory := ["out"] } : Publisher).publish {} "now" "0.1" ⟨[file], 0⟩ =
      (havingPut s file goal, d', .ok remarks) := by
  obtain ⟨d, d', hstaged, hmoved⟩ := h.followed _ (h.isWhole_manifest hversions)
  have hmanifest : (havingPut s file goal).putManifest (holding goal file.content.toUTF8) "now" =
      (havingPut s file goal, d', .ok []) := by
    have hgoal : (havingPut s file goal).directory ++ [(Manifest.fileName : Text)] = manifestGoal := rfl
    rw [putManifest, hgoal]
    dsimp only
    rw [hstaged]
    dsimp only
    rw [settle, hmoved]
  obtain ⟨remarks, hput⟩ : ∃ remarks, ({ settings := s, directory := ["out"] } : Publisher).putFiles {} "now" [file] =
      (havingPut s file goal, d', .ok remarks) := by
    have hsame : ({ settings := s, directory := ["out"], records := [.ofArtifact file goal] } : Publisher) =
        havingPut s file goal := rfl
    rw [putFiles, makeDirectories_empty]
    dsimp only
    rw [h.placeAll_eq]
    dsimp only
    rw [if_pos rfl, hsame, hmanifest]
    exact ⟨_, rfl⟩
  refine ⟨d', remarks ++ [(havingPut s file goal).closing "now" "0.1"], ?_⟩
  rw [Publisher.publish, Batch.merged_eq (by simp), hput]
  rfl

end Placeable

def emptyBatch (s : Settings) : Batch := (({} : Document).rendered s []).toOption.getD {}

def emptyRun (s : Settings) : Publisher × Disk × Except Fault (List Remark) :=
  ({ settings := s, directory := Path.resolve [] "/out" } : Publisher).publish {} "now" "0.1" (emptyBatch s)

def alone : Settings := { emitJs := false }

/-- The declarations get the name of the manifest. -/
def clashing : Settings := { tsFilename := "manifest.json", emitJs := false }

theorem resolve_out : Path.resolve [] "/out" = [("out" : Text)] := by decide

theorem emptyBatch_eq {s : Settings} (hjs : s.emitJs = false) (hstamps : ∀ t ∈ s.stamps, Text.isWhole t = true)
    (hok : (({} : Document).tsText s).isOk = true) :
    ({} : Document).rendered s [] = .ok (emptyBatch s) ∧
      ∃ text, text.isWhole = true ∧ emptyBatch s = ⟨[⟨s.tsFilename, text⟩], 0⟩ := by
  have hcoded : ({} : Document).Coded := Document.coded_of_notes (by decide)
  cases hts : ({} : Document).tsText s with
  | error c =>
    rw [hts] at hok
    cases hok
  | ok text =>
    have hrendered : ({} : Document).rendered s [] = .ok ⟨[⟨s.tsFilename, text⟩], 0⟩ := by
      rw [Document.rendered, hts, hjs]
      rfl
    have hbatch : emptyBatch s = ⟨[⟨s.tsFilename, text⟩], 0⟩ := by
      rw [emptyBatch, hrendered]
      rfl
    exact ⟨hbatch ▸ hrendered, text, Document.isWhole_tsText hcoded hstamps hts, hbatch⟩

theorem emptyRun_eq {s : Settings} {text : Text} (hbatch : emptyBatch s = ⟨[⟨s.tsFilename, text⟩], 0⟩)
    {goal draft : List Text} (h : Placeable ⟨s.tsFilename, text⟩ goal draft)
    (hversions : ∀ t ∈ [s.clientVersion, s.engineVersion], t.isWhole = true) :
    Fresh (({} : Disk).makeDirectories (Path.resolve [] "/out")).1 (Path.resolve [] "/out") (emptyBatch s).merged ∧
      (emptyBatch s).files.map (place (Path.resolve [] "/out")) = [landing goal] ∧
      (emptyRun s).1 = havingPut s ⟨s.tsFilename, text⟩ goal ∧
      ∃ remarks, emptyRun s = ((emptyRun s).1, (emptyRun s).2.1, .ok remarks) := by
  obtain ⟨d', remarks, hrun⟩ := h.publish hversions
  rw [emptyRun, resolve_out, hbatch, Batch.merged_eq (by simp), hrun]
  exact ⟨h.fresh, congrArg (fun names => [landing names]) h.under, rfl, remarks, rfl⟩

theorem emptyRun_told : (emptyRun alone).1.success = true ∧
    ∀ r ∈ ((emptyRun alone).1.manifest "now").files,
      ∃ file ∈ (emptyBatch alone).files, r.Tells (emptyRun alone).2.1 file := by
  have hread : Settings.read (.map [(.text "emit_js", .scalar (.bool false))]) = .ok alone :=
    (Reading.toOption_eq_some_iff _ _).mp (by decide +kernel)
  obtain ⟨hrendered, text, htext, hbatch⟩ := emptyBatch_eq (s := alone) rfl (by decide) (by decide +kernel)
  obtain ⟨hfresh, hplaces, hput, remarks, hrun⟩ := emptyRun_eq hbatch (placeable_types htext) (by decide)
  have hsuccess : (emptyRun alone).1.success = true := by
    rw [hput]
    rfl
  have hapart : manifestPlace (Path.resolve [] "/out") ∉
      (emptyBatch alone).files.map (place (Path.resolve [] "/out")) := by
    rw [hplaces, resolve_out]
    decide +kernel
  have htell := records_tell_iff (.map [(.text "emit_js", .scalar (.bool false))]) alone hread {} [] (emptyBatch alone)
    hrendered "/out" "now" "0.1" {} (emptyRun alone).2.1 (emptyRun alone).1 remarks hfresh hrun hsuccess
  exact ⟨hsuccess, htell.mpr ⟨by rw [hplaces]; exact List.nodup_singleton _, fun _ => hapart⟩⟩

theorem clashing_untold :
    Settings.read (.map [(.text "ts_filename", .text "manifest.json"), (.text "emit_js", .scalar (.bool false))]) =
        .ok clashing ∧
      ({} : Document).rendered clashing [] = .ok (emptyBatch clashing) ∧ (emptyRun clashing).1.success = true ∧
      ¬ ∀ r ∈ ((emptyRun clashing).1.manifest "now").files,
        ∃ file ∈ (emptyBatch clashing).files, r.Tells (emptyRun clashing).2.1 file := by
  have hread : Settings.read (.map [(.text "ts_filename", .text "manifest.json"),
      (.text "emit_js", .scalar (.bool false))]) = .ok clashing :=
    (Reading.toOption_eq_some_iff _ _).mp (by decide +kernel)
  obtain ⟨hrendered, text, htext, hbatch⟩ := emptyBatch_eq (s := clashing) rfl (by decide) (by decide +kernel)
  obtain ⟨hfresh, hplaces, hput, remarks, hrun⟩ := emptyRun_eq hbatch (placeable_manifest htext) (by decide)
  have hsuccess : (emptyRun clashing).1.success = true := by
    rw [hput]
    rfl
  have hwarnings : (emptyRun clashing).1.warnings = [] := by
    rw [hput]
    rfl
  have hclash : manifestPlace (Path.resolve [] "/out") ∈
      (emptyBatch clashing).files.map (place (Path.resolve [] "/out")) := by
    rw [hplaces, resolve_out]
    decide +kernel
  refine ⟨hread, hrendered, hsuccess, fun htell => ?_⟩
  obtain ⟨hpaths, -, hmanifest⟩ := Document.files_of_rendered hread hrendered
  obtain ⟨hrecords, hleads, hcoded, ⟨-, hwhole, hmoved⟩ | ⟨hwarned, -⟩⟩ :=
    publish_of_success hpaths hfresh hrun hsuccess
  · rw [manifest, hrecords, FileRecord.tell_iff (fun _ => Path.proper_of_mem_resolve) hpaths hleads] at htell
    obtain ⟨file, hfile, hplace⟩ := List.mem_map.mp hclash
    have hstands := htell file hfile
    rw [hmoved, hplace, Function.update_self] at hstands
    exact hmanifest file hfile _ _ ((Text.toUTF8_inj (hcoded file hfile) hwhole).mp (Option.some.inj hstands).symm)
  · exact hwarned hwarnings

end Publisher

end TypedClient
