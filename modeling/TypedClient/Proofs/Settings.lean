import TypedClient.Proofs.Parts
import TypedClient.Run.Source

set_option autoImplicit false

namespace TypedClient

/-! ## Entries of a map -/

theorem Scalar.sameKey_text (k : Scalar) (name : String) : k.sameKey (.text name) = k.isText name := by
  cases k <;> simp [sameKey, isText, whole?]

theorem Scalar.text_sameKey (name : String) (k : Scalar) : (Scalar.text name).sameKey k = k.isText name := by
  cases k <;> simp [sameKey, isText, whole?, eq_comm]

theorem Scalar.isText_text (t : Text) (name : String) : (Scalar.text t).isText name = (t == name) := rfl

theorem Scalar.isText_iff {k : Scalar} {name : String} : k.isText name = true ↔ k = .text name := by
  cases k <;> simp [isText]

namespace Data

theorem get?_put (entries : List (Scalar × Data)) (key : Scalar) (name : String) (value : Data) :
    get? (put entries key value) name = if key.isText name then some value else get? entries name := by
  rw [put]
  split
  · next hthere =>
    -- The keys stay as they are, so the same entry is found.
    have hfind (es : List (Scalar × Data)) :
        (es.map fun e => if e.1.sameKey key then (e.1, value) else e).find? (·.1.isText name) =
          (es.find? (·.1.isText name)).map fun e => if e.1.sameKey key then (e.1, value) else e := by
      rw [List.find?_map]
      congr 2
      funext e
      dsimp only [Function.comp_apply]
      split <;> rfl
    rw [get?, hfind, Option.map_map]
    cases hname : entries.find? (·.1.isText name) with
    | none =>
      have hne : key.isText name = false := by
        by_contra hkey
        rw [Bool.not_eq_false, Scalar.isText_iff] at hkey
        obtain ⟨e, he, hsame⟩ := List.any_eq_true.mp hthere
        rw [hkey, Scalar.sameKey_text] at hsame
        exact absurd hsame (by simpa using List.find?_eq_none.mp hname e he)
      simp [get?, hname, hne]
    | some e =>
      have htext : e.1.isText name = true := List.find?_some (p := fun e : Scalar × Data => e.1.isText name) hname
      have hsame : e.1.sameKey key = key.isText name := by
        rw [Scalar.isText_iff.mp htext, Scalar.text_sameKey]
      cases hkey : key.isText name <;> simp [get?, hname, hsame, hkey]
  · next habsent =>
    rw [get?, List.find?_append, Option.map_or]
    by_cases hkey : key.isText name
    · have hnone : entries.find? (·.1.isText name) = none := by
        rw [Scalar.isText_iff.mp hkey] at habsent
        rw [List.find?_eq_none]
        simpa [Scalar.sameKey_text] using habsent
      simp [hnone, hkey]
    · simp [get?, hkey]

theorem get?_put_text (entries : List (Scalar × Data)) (key : Text) (name : String) (value : Data) :
    get? (put entries (.text key) value) name = if (name : Text) = key then some value else get? entries name := by
  simp only [get?_put, Scalar.isText_text, beq_iff_eq, eq_comm (a := key)]

theorem get?_overlay_of_notMem {entries others : List (Scalar × Data)} {name : String}
    (hothers : ∀ e ∈ others, ∃ key : Text, e.1 = .text key ∧ name ≠ key) :
    get? (Source.overlay entries others) name = get? entries name := by
  induction others generalizing entries with
  | nil => rfl
  | cons e others ih =>
    obtain ⟨key, hkey, hne⟩ := hothers e List.mem_cons_self
    rw [Source.overlay, List.foldl_cons, ← Source.overlay,
      ih fun e he => hothers e (List.mem_cons_of_mem _ he), hkey, get?_put_text, if_neg hne]

end Data

namespace Reading

variable {α : Type}

theorem forall_mem_put_iff (entries : List (Scalar × Data)) (value : Data) {p : Scalar → Prop} {key : Text}
    (hkey : p (.text key)) : (∀ e ∈ Data.put entries (.text key) value, p e.1) ↔ ∀ e ∈ entries, p e.1 := by
  rw [Data.put]
  split
  · rw [List.forall_mem_map]
    refine forall_congr' fun e => forall_congr' fun _ => ?_
    split <;> rfl
  · rw [List.forall_mem_append, List.forall_mem_singleton]
    exact and_iff_left hkey

theorem onlyKeys_eq_ok_iff (keys : List String) (entries : List (Scalar × Data)) :
    onlyKeys keys entries = .ok () ↔ ∀ e ∈ entries, strayKey? keys e.1 = none := by
  rw [← List.filterMap_eq_nil_iff]
  unfold onlyKeys
  split
  · next h => simp [h]
  · next h => simpa using h

theorem closedObject_eq_ok_iff (sort : String) (keys : List String) (read : List (Scalar × Data) → Reading α)
    (entries : List (Scalar × Data)) (a : α) :
    closedObject sort keys read (.map entries) = .ok a ↔
      ((∀ e ∈ entries, e.1.isBroken = false) ∧ ∀ e ∈ entries, strayKey? keys e.1 = none) ∧ read entries = .ok a := by
  rw [← onlyKeys_eq_ok_iff]
  cases hbroken : entries.any fun e => e.1.isBroken with
  | true =>
    have hnot : ¬ ∀ e ∈ entries, e.1.isBroken = false := by
      obtain ⟨e, he, hkey⟩ := List.any_eq_true.mp hbroken
      exact fun hall => absurd (hall e he) (by simp [hkey])
    rw [closedObject, object, if_pos hbroken]
    simp only [hnot, false_and, fail, reduceCtorEq]
  | false =>
    have hall : ∀ e ∈ entries, e.1.isBroken = false := by simpa using hbroken
    rw [closedObject, object, if_neg (by simp [hbroken]), seq_eq_ok_iff]
    simp only [map_eq_ok_iff]
    constructor
    · rintro ⟨_, _, ⟨b, hb, rfl⟩, hkeys, rfl⟩
      exact ⟨⟨hall, hkeys⟩, hb⟩
    · rintro ⟨⟨-, hkeys⟩, hb⟩
      exact ⟨_, (), ⟨a, hb, rfl⟩, hkeys, rfl⟩

theorem optional_put (entries : List (Scalar × Data)) (key : Text) (name : String) (value : Data) (default : α)
    (read : Data → Reading α) :
    optional (.plain name) default read (Data.put entries (.text key) value) =
      if (name : Text) = key then within (.key name) (read value) else optional (.plain name) default read entries := by
  unfold optional entry?
  simp only [Key.plain, Data.get?_put_text]
  split_ifs <;> rfl

end Reading

open Reading

namespace Settings

theorem read_eq_ok_iff (entries : List (Scalar × Data)) (s : Settings) :
    Settings.read (.map entries) = .ok s ↔
      (((∀ e ∈ entries, e.1.isBroken = false) ∧ ∀ e ∈ entries, strayKey? keys e.1 = none) ∧
        optional (.plain "client_name") "DataClient" className entries = .ok s.clientName ∧
        optional (.plain "runtime_path") "./runtime" nonEmptyText entries = .ok s.runtimePath ∧
        optional (.plain "client_version") ("0.0.0" : Text) text entries = .ok s.clientVersion ∧
        optional (.plain "engine_version") ("unknown" : Text) text entries = .ok s.engineVersion ∧
        optional (.plain "datasources") ([↑"db"] : List Text) (list text) entries = .ok s.datasources ∧
        optional (.plain "platforms") [] (list text) entries = .ok s.platforms ∧
        optional (.plain "emit_js") true bool entries = .ok s.emitJs ∧
        optional (.plain "ts_filename") "index.d.ts" nonEmptyText entries = .ok s.tsFilename ∧
        optional (.plain "js_filename") "index.js" nonEmptyText entries = .ok s.jsFilename ∧
        optional (.plain "output_dir") ("./generated" : Text) text entries = .ok s.outputDir ∧
        optional (.plain "schema_dir") ("." : Text) text entries = .ok s.schemaDir) ∧
      s.breach? = none := by
  obtain ⟨clientName, runtimePath, clientVersion, engineVersion, datasources, platforms, emitJs, tsFilename,
    jsFilename, outputDir, schemaDir⟩ := s
  simp only [Settings.read, guarded_eq_ok_iff, closedObject_eq_ok_iff, seq_eq_ok_iff, map_eq_ok_iff, ↓existsAndEq,
    and_true, exists_and_left, Settings.mk.injEq, and_assoc]

/-- Settings are read exactly when they are read with another directory of the schema file, provided that the
directory they give themselves is a text. -/
theorem read_iff_placed (entries : List (Scalar × Data)) (place : Text) (s : Settings) :
    Settings.read (.map entries) = .ok s ↔
      Settings.read (.map (Data.put entries (.text "schema_dir") (.text place))) = .ok { s with schemaDir := place } ∧
        optional (.plain "schema_dir") ("." : Text) text entries = .ok s.schemaDir := by
  have hknown : strayKey? keys (.text "schema_dir") = none := by decide
  have hunbroken : (Scalar.text "schema_dir").isBroken = false := by decide
  have hkeys := forall_mem_put_iff entries (.text place) (p := (strayKey? keys · = none)) hknown
  have hwhole := forall_mem_put_iff entries (.text place) (p := (·.isBroken = false)) hunbroken
  have hplace : text (.text place) = .ok place := rfl
  have hbreach : ({ s with schemaDir := place } : Settings).breach? = s.breach? := rfl
  rw [read_eq_ok_iff, read_eq_ok_iff]
  simp only [hkeys, hwhole, hbreach, optional_put, Text.ofString_inj, String.reduceEq, if_false, if_true,
    within_eq_ok_iff, hplace, true_and, and_assoc, and_comm, and_left_comm]

end Settings

namespace Source

theorem read_eq_ok_iff {raw overrides : List (Scalar × Data)} {source : Source} :
    read raw overrides = .ok source ↔ Document.read (.map (rawDocument raw)) = .ok source.document ∧
      Settings.read (.map (overlay (rawSettings raw) overrides)) = .ok source.settings := by
  obtain ⟨d, s⟩ := source
  rw [read]
  cases Document.read (.map (rawDocument raw)) with
  | bad issues => simp
  | ok d' => cases Settings.read (.map (overlay (rawSettings raw) overrides)) <;> simp

end Source

end TypedClient
