import Mathlib.Data.List.Nodup
import TypedClient.Proofs.Joining
import TypedClient.Proofs.Texts
import TypedClient.Publication.Manifest
import TypedClient.Rendition.Script

set_option autoImplicit false

namespace TypedClient

/-! ## Identifiers -/

theorem Text.isChar_of_inRanges {ranges : List (Nat × Nat)}
    (hranges : ranges.all (fun r => r.2 < 0xD800 || 0xE000 ≤ r.1) = true) {l : Letter}
    (h : inRanges ranges l.code = true) : l.isChar = true := by
  cases l with
  | char c => rfl
  | half half =>
    obtain ⟨r, hr, hcode⟩ := List.any_eq_true.mp h
    have hapart := List.all_eq_true.mp hranges r hr
    simp only [Bool.and_eq_true, Bool.or_eq_true, decide_eq_true_eq] at hcode hapart
    have hrange := Letter.isHalf_range half.between
    have hhalf : (Letter.half half).code = half.code := rfl
    omega

theorem Text.isWhole_of_isIdentifier {t : Text} (h : isIdentifier t = true) : isWhole t = true := by
  have hstart {l : Letter} (hl : isIdentifierStart l = true) : l.isChar = true :=
    isChar_of_inRanges (by decide +kernel) hl
  have hpart {l : Letter} (hl : isIdentifierPart l = true) : l.isChar = true := by
    obtain hl | hl := Bool.or_eq_true_iff.mp hl
    · exact hstart hl
    · exact isChar_of_inRanges (by decide +kernel) hl
  unfold isIdentifier at h
  split at h
  · cases h
  · next l rest =>
    obtain ⟨hl, hrest⟩ := Bool.and_eq_true_iff.mp h
    have hparts : ∀ k ∈ rest, k.isChar = true := fun k hk => hpart (List.all_eq_true.mp hrest k hk)
    exact List.all_eq_true.mpr (List.forall_mem_cons.mpr ⟨hstart hl, hparts⟩)

open Text (isWhole isWhole_append isWhole_ofString isWhole_ofLines isWhole_joinLines isWhole_intercalate isWhole_indent)

/-! ## Written values -/

theorem Json.isWhole_quoteWith (set : Charset) {t : Text} (h : isWhole t = true) :
    isWhole (quoteWith set t) = true := by
  have hletters : isWhole (t.flatMap (writeLetter set)) = true := by
    refine List.all_flatMap.trans (List.all_eq_true.mpr fun l hl => ?_)
    unfold writeLetter
    split
    · simpa using List.all_eq_true.mp h l hl
    · simp [List.all_map, Letter.isChar, Letter.char?]
  rw [quoteWith, isWhole_append, isWhole, List.all_cons, ← isWhole, hletters]
  rfl

/-- Every text in a value has an encoding once it is written. -/
inductive Json.Codable (set : Json.Charset) : Json → Prop where
  | null : Codable set .null
  | bool (b : Bool) : Codable set (.bool b)
  | int (n : Int) : Codable set (.int n)
  | float (x : Float) : Codable set (.float x)
  | str {t : Text} (h : isWhole (quoteWith set t) = true) : Codable set (.str t)
  | arr {items : List Json} (h : ∀ j ∈ items, Codable set j) : Codable set (.arr items)
  | obj {members : List (String × Json)} (h : ∀ m ∈ members, Codable set m.2) : Codable set (.obj members)

namespace Json

variable {set : Charset}

theorem Codable.ascii (t : Text) : Codable .ascii (.str t) := .str (by rw [quoteWith_ascii]; exact isWhole_ofString _)

theorem Codable.whole {t : Text} (h : isWhole t = true) : Codable set (.str t) := .str (isWhole_quoteWith set h)

theorem indentedItems_eq (set : Charset) (step depth : Nat) (items : List Json) :
    indentedItems set step depth items = items.map (indented set step depth) := by
  induction items with
  | nil => rfl
  | cons j items ih => rw [indentedItems, ih, List.map_cons]

theorem indentedMembers_eq (set : Charset) (step depth : Nat) (members : List (String × Json)) :
    indentedMembers set step depth members =
      members.map fun m => quoteWith set m.1 ++ ": " ++ indented set step depth m.2 := by
  induction members with
  | nil => rfl
  | cons m members ih => rw [indentedMembers, ih, List.map_cons]

theorem isWhole_indented {j : Json} (h : Codable set j) (step depth : Nat) :
    isWhole (indented set step depth j) = true := by
  have hcomma (depth : Nat) : isWhole ("," ++ newline depth) = true := by simp
  induction h generalizing depth with
  | null => exact isWhole_ofString _
  | bool b => cases b <;> exact isWhole_ofString _
  | int n => exact isWhole_ofString _
  | float x => exact isWhole_ofString _
  | str h => exact h
  | @arr items h ih =>
    cases items with
    | nil => exact isWhole_ofString _
    | cons j rest =>
      have hitems : isWhole (Text.intercalate ("," ++ newline (depth + step))
          (indentedItems set step (depth + step) (j :: rest))) = true := by
        rw [indentedItems_eq]
        exact isWhole_intercalate (hcomma _) (List.forall_mem_map.mpr fun k hk => ih k hk _)
      simp only [indented, isWhole_append, isWhole_ofString, hitems, Bool.and_true]
  | @obj members h ih =>
    cases members with
    | nil => exact isWhole_ofString _
    | cons m rest =>
      have hmembers : isWhole (Text.intercalate ("," ++ newline (depth + step))
          (indentedMembers set step (depth + step) (m :: rest))) = true := by
        rw [indentedMembers_eq]
        refine isWhole_intercalate (hcomma _) (List.forall_mem_map.mpr fun k hk => ?_)
        simp only [isWhole_append, isWhole_ofString, isWhole_quoteWith, ih k hk, Bool.and_true]
      simp only [indented, isWhole_append, isWhole_ofString, hmembers, Bool.and_true]

theorem indented_obj (step depth : Nat) {members : List (String × Json)} (h : members ≠ []) :
    indented set step depth (.obj members) = "\x7b" ++ newline (depth + step) ++
      Text.intercalate ("," ++ newline (depth + step)) (indentedMembers set step (depth + step) members) ++
      newline depth ++ "\x7d" := by
  cases members with
  | nil => exact absurd rfl h
  | cons m rest => rfl

end Json

/-! ## The script -/

theorem Passage.isWhole_joined {passages : List Passage} (h : ∀ p ∈ passages, isWhole p.text = true) :
    isWhole (joined passages) = true :=
  isWhole_intercalate (isWhole_ofString _) (List.forall_mem_map.mpr h)

@[simp]
theorem Passage.isWhole_ofLines (names lines : List String) : isWhole (ofLines names lines).text = true :=
  Text.isWhole_ofLines lines

theorem Enumeration.isWhole_memberKey (name : Text) : isWhole (memberKey name) = true := by
  unfold memberKey
  split
  · next h => exact Text.isWhole_of_isIdentifier h
  · exact isWhole_ofString _

theorem Enumeration.isWhole_objectText (e : Enumeration) : isWhole e.objectText = true := by
  have hmembers : isWhole (Text.intercalate ",\n" (e.members.map memberText)) = true := by
    refine isWhole_intercalate (isWhole_ofString _) (List.forall_mem_map.mpr fun m _ => ?_)
    rw [memberText, isWhole_append, isWhole_append, isWhole_memberKey, isWhole_ofString, isWhole_ofString]
    rfl
  rw [objectText, isWhole_append, isWhole_append, isWhole_indent 2 hmembers, isWhole_ofString, isWhole_ofString]
  rfl

theorem isWhole_bootstrapPassages {client : String} {schema config : Text} (hconfig : isWhole config = true) :
    ∀ p ∈ bootstrapPassages client schema config, isWhole p.text = true := by
  have hlines : ∀ line ∈ ["const config = " ++ config, ("config.document = dmmf" : Text), "config.dirname = __dirname"],
      isWhole line = true := by simp [hconfig]
  simp only [bootstrapPassages, List.forall_mem_cons]
  exact ⟨Passage.isWhole_ofLines _ _, isWhole_ofLines _, Passage.isWhole_ofLines _ _, isWhole_joinLines hlines,
    isWhole_ofLines _, List.forall_mem_nil _⟩

theorem Settings.codable_configWith (s : Settings) (schemaPath : Text) :
    Json.Codable .ascii (s.configWith schemaPath) := by
  refine .obj ?_
  simp only [List.forall_mem_cons]
  refine ⟨.ascii _, .ascii _, .arr (List.forall_mem_map.mpr fun name _ => .obj ?_), .ascii _, .ascii _,
    List.forall_mem_nil _⟩
  exact List.forall_mem_singleton.mpr (.ascii name)

theorem Document.isWhole_jsText {d : Document} {s : Settings} {current : List Text} {js : Text}
    (h : d.jsText s current = .ok js) : isWhole js = true := by
  rw [jsText, jsPassages, Settings.clientConfig] at h
  cases hpath : s.schemaPath current with
  | error fault => simp [hpath, Except.map] at h
  | ok path =>
    simp only [hpath, Except.map, Except.ok.injEq] at h
    subst h
    refine Passage.isWhole_joined ?_
    simp only [jsPassagesWith, List.forall_mem_append, List.forall_mem_singleton, List.forall_mem_map]
    refine ⟨⟨⟨⟨?_, ?_⟩, Passage.isWhole_ofLines _ _⟩, fun e _ => ?_⟩,
      isWhole_bootstrapPassages (Json.isWhole_indented (s.codable_configWith path) 2 0)⟩
    · simp [scriptHead]
    · simp [bundlerPassages]
    · simp [Enumeration.jsPassage, Enumeration.jsText, e.isWhole_objectText]

/-! ## The manifest -/

theorem Json.isWhole_of_quoteWith_full {t : Text} (h : isWhole (Json.quoteWith .full t) = true) : isWhole t = true := by
  refine List.all_eq_true.mpr fun l hl => ?_
  cases l with
  | char c => rfl
  | half half =>
    have hrange := Letter.isHalf_range half.between
    have hkept : Json.writeLetter .full (.half half) = [.half half] := by
      rw [Json.writeLetter, if_pos]
      have hprintable : 0x20 ≤ half.code := le_trans (by decide) hrange.1
      exact Bool.and_eq_true_iff.mpr ⟨rfl, decide_eq_true hprintable⟩
    refine List.all_eq_true.mp h _ ?_
    rw [Json.quoteWith, List.mem_append, List.mem_cons, List.mem_flatMap]
    exact .inl (.inr ⟨_, hl, hkept ▸ List.mem_singleton_self _⟩)

theorem FileRecord.codable_toJson {r : FileRecord} (h : isWhole r.absolutePath = true) :
    Json.Codable .full r.toJson := by
  refine .obj ?_
  simp only [List.forall_mem_cons]
  exact ⟨.whole (isWhole_ofString _), .whole h, .int _, .int _, .whole (isWhole_ofString _), List.forall_mem_nil _⟩

namespace Manifest

variable {m m' : Manifest}

/-- What a manifest tells before it comes to its files. -/
def heading (m : Manifest) : List (String × Json) :=
  [("client_name", .str m.clientName), ("client_version", .str m.clientVersion),
    ("engine_version", .str m.engineVersion), ("generator_version", .str programVersion),
    ("export_timestamp", .str m.stamp), ("output_directory", .str m.directory)]

def account (m : Manifest) : List (String × Json) :=
  [("total_files", .int m.files.length), ("total_bytes", .int m.totalBytes), ("total_lines", .int m.totalLines),
    ("files", .arr (m.files.map (·.toJson)))]

theorem toJson_eq (m : Manifest) : m.toJson = .obj (m.heading ++ m.account) := rfl

theorem codable_account (h : ∀ r ∈ m.files, isWhole r.absolutePath = true) :
    ∀ e ∈ m.account, Json.Codable .full e.2 := by
  simp only [account, List.forall_mem_cons]
  exact ⟨.int _, .int _, .int _, .arr (List.forall_mem_map.mpr fun r hr => FileRecord.codable_toJson (h r hr)),
    List.forall_mem_nil _⟩

theorem isWhole_text (step : Nat) (hversions : ∀ t ∈ [m.clientVersion, m.engineVersion], isWhole t = true)
    (hdirectory : isWhole m.directory = true) (hfiles : ∀ r ∈ m.files, isWhole r.absolutePath = true) :
    isWhole (m.text step) = true := by
  simp only [List.forall_mem_cons] at hversions
  rw [text, toJson_eq]
  refine Json.isWhole_indented (.obj (List.forall_mem_append.mpr ⟨?_, codable_account hfiles⟩)) step 0
  simp only [heading, List.forall_mem_cons]
  exact ⟨.whole (isWhole_ofString _), .whole hversions.1, .whole hversions.2.1, .whole (isWhole_ofString _),
    .whole (isWhole_ofString _), .whole hdirectory, List.forall_mem_nil _⟩

/-- A manifest up to the last thing told before its files. -/
def opening (step : Nat) (m : Manifest) : Text :=
  "\x7b" ++ Json.newline step ++
    Text.intercalate ("," ++ Json.newline step) (Json.indentedMembers .full step step m.heading)

theorem text_eq (step : Nat) (m : Manifest) : ∃ rest, m.text step = m.opening step ++ .char ',' :: rest ∧
    ((∀ r ∈ m.files, isWhole r.absolutePath = true) → isWhole rest = true) := by
  have hjoined : Text.intercalate ("," ++ Json.newline (0 + step))
        (Json.indentedMembers .full step (0 + step) (m.heading ++ m.account)) =
      Text.intercalate ("," ++ Json.newline (0 + step)) (Json.indentedMembers .full step (0 + step) m.heading) ++
        ("," ++ Json.newline (0 + step)) ++
        Text.intercalate ("," ++ Json.newline (0 + step)) (Json.indentedMembers .full step (0 + step) m.account) := by
    rw [Json.indentedMembers_eq, List.map_append, Json.indentedMembers_eq, Json.indentedMembers_eq]
    exact Text.intercalate_append (by simp [heading]) (by simp [account])
  refine ⟨Json.newline step ++ (Text.intercalate ("," ++ Json.newline step)
    (Json.indentedMembers .full step step m.account) ++ Json.newline 0 ++ "\x7d"), ?_, fun h => ?_⟩
  · rw [text, toJson_eq, Json.indented_obj step 0 (by simp [heading]), hjoined, Nat.zero_add, opening]
    simp only [List.append_assoc]
    rfl
  · have hwhole := Json.isWhole_indented (.obj (codable_account h)) step 0
    rw [Json.indented_obj step 0 (by simp [account]), Nat.zero_add] at hwhole
    simpa using hwhole

theorem isWhole_directory_of_opening {step : Nat} (h : isWhole (m.opening step) = true) :
    isWhole m.directory = true := by
  have hmember : Json.quoteWith .full "output_directory" ++ ": " ++ Json.quoteWith .full m.directory ∈
      Json.indentedMembers .full step step m.heading := by
    simp [heading, Json.indentedMembers_eq, Json.indented]
  have hwhole := Text.isWhole_of_subset h
    (List.Subset.trans (Text.infix_intercalate hmember).subset (List.subset_append_right _ _))
  rw [isWhole_append, Bool.and_eq_true] at hwhole
  exact Json.isWhole_of_quoteWith_full hwhole.2

/-- What keeps a manifest from having an encoding comes before its files, if these are at places with encodings. -/
theorem encodingFault?_text (step : Nat) (hheading : m'.heading = m.heading)
    (hfiles : isWhole m.directory = true → ∀ r ∈ m.files ++ m'.files, isWhole r.absolutePath = true) :
    (m'.text step).encodingFault? = (m.text step).encodingFault? := by
  obtain ⟨rest, htext, hrest⟩ := text_eq step m
  obtain ⟨rest', htext', hrest'⟩ := text_eq step m'
  have hopening : m'.opening step = m.opening step := by rw [opening, hheading, opening]
  rw [htext, htext', hopening]
  cases hwhole : isWhole (m.opening step) with
  | false => rw [Text.encodingFault?_append_cons hwhole, Text.encodingFault?_append_cons hwhole]
  | true =>
    obtain ⟨hall, hall'⟩ := List.forall_mem_append.mp (hfiles (isWhole_directory_of_opening hwhole))
    have hcomma {t : Text} (ht : isWhole t = true) : (m.opening step ++ .char ',' :: t).encodingFault? = none := by
      rw [Text.encodingFault?_eq_none_iff, isWhole_append, hwhole]
      exact ht
    rw [hcomma (hrest hall), hcomma (hrest' hall')]

end Manifest

end TypedClient
