import Mathlib.Data.List.Induction
import TypedClient.Proofs.Parts
import TypedClient.Settings

set_option autoImplicit false

namespace TypedClient

open Reading

structure Change where
  field : String
  value : Data

namespace Change

def Reads (c : Change) : Prop := ∃ t : Settings, ({} : Settings).readField c.field c.value = .ok t

/-- The text that a change gives for a field that holds the name of a document. -/
def nameFor? (field : String) (c : Change) : Option String :=
  if c.field = field then (nonEmptyText c.value).toOption else none

def lastName? (field : String) (changes : List Change) : Option String :=
  (changes.filterMap (nameFor? field)).getLast?

theorem lastName?_concat (field : String) (changes : List Change) (c : Change) :
    lastName? field (changes ++ [c]) = (c.nameFor? field).or (lastName? field changes) := by
  rw [lastName?, List.filterMap_append, List.getLast?_append]
  cases h : c.nameFor? field <;> simp [h, lastName?]

end Change

namespace Settings

variable (s : Settings) (c : Change)

def after (changes : List Change) : Settings :=
  changes.foldl (fun s c => (s.assign c.field c.value).1) s

def RefusesNames : Prop :=
  ∃ name, (s.assign c.field c.value).2 = some (.issues [⟨[], .breach (.sameFile name)⟩])

theorem after_concat (changes : List Change) :
    s.after (changes ++ [c]) = ((s.after changes).assign c.field c.value).1 := by
  rw [after, List.foldl_append]
  rfl

/-! ## One change -/

theorem readField_isOk_iff (s s' : Settings) (field : String) (d : Data) :
    (∃ t, s.readField field d = .ok t) ↔ ∃ t, s'.readField field d = .ok t := by
  have hmap {α : Type} (g g' : α → Settings) (r : Reading α) : (∃ t, g <$> r = .ok t) ↔ ∃ t, g' <$> r = .ok t := by
    simp only [map_eq_ok_iff]
    exact ⟨fun ⟨_, a, ha, _⟩ => ⟨_, a, ha, rfl⟩, fun ⟨_, a, ha, _⟩ => ⟨_, a, ha, rfl⟩⟩
  unfold readField
  split
  case h_12 => rfl
  all_goals exact hmap _ _ _

theorem mem_keys_of_readField {field : String} {d : Data} {t : Settings} (h : s.readField field d = .ok t) :
    field ∈ keys := by
  unfold readField at h
  split at h
  case h_12 => cases h
  all_goals simp [keys]

theorem names_of_readField {t : Settings} (h : s.readField c.field c.value = .ok t) :
    t.tsFilename = (c.nameFor? "ts_filename").getD s.tsFilename ∧
      t.jsFilename = (c.nameFor? "js_filename").getD s.jsFilename := by
  unfold readField at h
  unfold Change.nameFor?
  split at h
  case h_12 => cases h
  all_goals
    next hfield =>
      obtain ⟨v, hv, rfl⟩ := (map_eq_ok_iff _ _ _).mp h
      simp [hfield, hv, toOption]

theorem nameFor?_eq_none {field : String} (hfield : field = "ts_filename" ∨ field = "js_filename")
    (h : ¬ c.Reads) : c.nameFor? field = none := by
  rw [Change.nameFor?]
  split_ifs with heq
  · cases hv : nonEmptyText c.value with
    | bad issues => rfl
    | ok v =>
      refine absurd ?_ h
      obtain rfl | rfl := hfield <;> exact ⟨_, by rw [heq, readField, hv]; rfl⟩
  · rfl

/-- A change that can be read is kept, and refused exactly when the two documents have one name after it. Any other
change leaves the settings as they are. -/
theorem assign_cases :
    (c.Reads ∧ s.readField c.field c.value = .ok (s.assign c.field c.value).1 ∧
        (s.RefusesNames c ↔
          (s.assign c.field c.value).1.tsFilename = (s.assign c.field c.value).1.jsFilename)) ∨
      ¬ c.Reads ∧ (s.assign c.field c.value).1 = s ∧ ¬ s.RefusesNames c := by
  unfold RefusesNames
  cases hread : s.readField c.field c.value with
  | ok t =>
    have hassign : s.assign c.field c.value = (t, t.breach?.map fun breach => .issues [⟨[], .breach breach⟩]) := by
      rw [assign, if_pos (List.contains_iff_mem.mpr (s.mem_keys_of_readField hread)), hread]
      rfl
    refine .inl ⟨(readField_isOk_iff s _ _ _).mp ⟨t, hread⟩, by rw [hassign], ?_⟩
    rw [hassign]
    by_cases hsame : t.tsFilename = t.jsFilename <;> simp [breach?, hsame]
  | bad issues =>
    refine .inr ⟨fun h => ?_, ?_⟩
    · obtain ⟨t, ht⟩ := (readField_isOk_iff s _ _ _).mpr h
      cases hread.symm.trans ht
    · unfold assign
      split
      · rw [hread]
        simp [Reading.assigned, checked]
      · unfold noField
        split_ifs <;> simp

theorem names_of_assign :
    (s.assign c.field c.value).1.tsFilename = (c.nameFor? "ts_filename").getD s.tsFilename ∧
      (s.assign c.field c.value).1.jsFilename = (c.nameFor? "js_filename").getD s.jsFilename := by
  obtain ⟨-, hread, -⟩ | ⟨hreads, hkept, -⟩ := s.assign_cases c
  · exact s.names_of_readField c hread
  · rw [hkept, nameFor?_eq_none c (.inl rfl) hreads, nameFor?_eq_none c (.inr rfl) hreads]
    exact ⟨rfl, rfl⟩

/-! ## Any number of changes -/

theorem names_after (changes : List Change) :
    (s.after changes).tsFilename = (Change.lastName? "ts_filename" changes).getD s.tsFilename ∧
      (s.after changes).jsFilename = (Change.lastName? "js_filename" changes).getD s.jsFilename := by
  induction changes using List.reverseRecOn with
  | nil => exact ⟨rfl, rfl⟩
  | append_singleton changes c ih =>
    rw [after_concat, (names_of_assign _ c).1, (names_of_assign _ c).2, ih.1, ih.2, Change.lastName?_concat,
      Change.lastName?_concat, Option.getD_or, Option.getD_or]
    exact ⟨rfl, rfl⟩

theorem append_cons_of_concat {changes before later : List Change} {c x : Change}
    (h : changes ++ [c] = before ++ x :: later) :
    (later = [] ∧ changes = before ∧ c = x) ∨ ∃ rest, later = rest ++ [c] ∧ changes = before ++ x :: rest := by
  obtain rfl | ⟨rest, y, rfl⟩ := later.eq_nil_or_concat'
  · obtain ⟨hfront, hlast⟩ := List.append_inj' h rfl
    exact .inl ⟨rfl, hfront, List.singleton_inj.mp hlast⟩
  · have hbehind : changes ++ [c] = (before ++ x :: rest) ++ [y] := by simpa using h
    obtain ⟨hfront, hlast⟩ := List.append_inj' hbehind rfl
    exact .inr ⟨rest, by rw [List.singleton_inj.mp hlast], hfront⟩

/-- After settings whose documents have different names were changed, the names are the same exactly when the last
change that could be read was refused for them. -/
theorem sameName_after_iff (hs : s.tsFilename ≠ s.jsFilename) (changes : List Change) :
    (s.after changes).tsFilename = (s.after changes).jsFilename ↔
      ∃ before c later, changes = before ++ c :: later ∧ (s.after before).RefusesNames c ∧
        ∀ x ∈ later, ¬ x.Reads := by
  induction changes using List.reverseRecOn with
  | nil => simpa [after] using hs
  | append_singleton changes c ih =>
    rw [after_concat]
    obtain ⟨hreads, -, hrefused⟩ | ⟨hreads, hkept, hrefused⟩ := (s.after changes).assign_cases c
    · rw [← hrefused]
      constructor
      · intro h
        exact ⟨changes, c, [], rfl, h, by simp⟩
      · rintro ⟨before, x, later, heq, hx, hlater⟩
        obtain ⟨-, rfl, rfl⟩ | ⟨later, rfl, -⟩ := append_cons_of_concat heq
        · exact hx
        · -- the last change could be read, but it is one of those behind the refused one
          exact absurd hreads (hlater c (by simp))
    · rw [hkept, ih]
      constructor
      · rintro ⟨before, x, later, rfl, hx, hlater⟩
        refine ⟨before, x, later ++ [c], by simp, hx, ?_⟩
        simpa [or_imp, forall_and, hreads] using hlater
      · rintro ⟨before, x, later, heq, hx, hlater⟩
        obtain ⟨-, rfl, rfl⟩ | ⟨later, rfl, rfl⟩ := append_cons_of_concat heq
        · exact absurd hx hrefused
        · exact ⟨before, x, later, rfl, hx, fun z hz => hlater z (by simp [hz])⟩

/-- Each document keeps the last name that was given for it. In a state that changes lead to, the names are the same
exactly when the last change that could be read was refused for them; so they differ in every state exactly when no
change is. -/
theorem names_differ_iff (d : Data) (s : Settings) (changes : List Change) (h : Settings.read d = .ok s) :
    ((s.after changes).tsFilename = (Change.lastName? "ts_filename" changes).getD s.tsFilename ∧
        (s.after changes).jsFilename = (Change.lastName? "js_filename" changes).getD s.jsFilename) ∧
      ((s.after changes).tsFilename = (s.after changes).jsFilename ↔
        ∃ before c later, changes = before ++ c :: later ∧ (s.after before).RefusesNames c ∧
          ∀ x ∈ later, ¬ x.Reads) ∧
      ((∀ run, run <+: changes → (s.after run).tsFilename ≠ (s.after run).jsFilename) ↔
        ∀ run c, run ++ [c] <+: changes → ¬ (s.after run).RefusesNames c) := by
  have hs : s.tsFilename ≠ s.jsFilename := by
    have hbreach := ((guarded_eq_ok_iff _ _ _).mp h).2
    simpa [breach?] using hbreach
  refine ⟨s.names_after changes, s.sameName_after_iff hs changes, fun hdiffer run c hrun hc => ?_,
    fun hnone run hrun hsame => ?_⟩
  · refine hdiffer _ hrun ((s.sameName_after_iff hs _).mpr ⟨run, c, [], rfl, hc, by simp⟩)
  · obtain ⟨before, c, later, rfl, hc, -⟩ := (s.sameName_after_iff hs run).mp hsame
    refine hnone before c (.trans ⟨later, ?_⟩ hrun) hc
    rw [List.append_assoc, List.singleton_append]

/-- A change that is refused leaves settings in which the two documents have one name. -/
theorem sharedName_kept : ¬ ∀ (d : Data) (s : Settings) (changes : List Change), Settings.read d = .ok s →
    (s.after changes).tsFilename ≠ (s.after changes).jsFilename := by
  intro h
  have hread : Settings.read (.map []) = .ok {} := (toOption_eq_some_iff _ _).mp (by decide +kernel)
  exact h (.map []) {} [⟨"ts_filename", .text "index.js"⟩] hread rfl

/-- The declarations are given the name of the script, which is refused, and the script a number, which cannot be
read. -/
def sharing : List Change :=
  [⟨"client_version", .text "1"⟩, ⟨"ts_filename", .text "index.js"⟩, ⟨"js_filename", .scalar (.int 3)⟩]

theorem sharing_sameName : Settings.read (.map []) = .ok {} ∧
    (({} : Settings).after sharing).tsFilename = (({} : Settings).after sharing).jsFilename ∧
    ¬ ∀ run c, run ++ [c] <+: sharing → ¬ (({} : Settings).after run).RefusesNames c := by
  have hread : Settings.read (.map []) = .ok {} := (toOption_eq_some_iff _ _).mp (by decide +kernel)
  obtain ⟨-, hstate, hstates⟩ := names_differ_iff (.map []) {} sharing hread
  have hsame : (({} : Settings).after sharing).tsFilename = (({} : Settings).after sharing).jsFilename := by
    refine hstate.mpr ⟨[⟨"client_version", .text "1"⟩], _, _, rfl, ⟨"index.js", rfl⟩, ?_⟩
    rintro x hx ⟨t, ht⟩
    obtain rfl := List.mem_singleton.mp hx
    cases ht
  exact ⟨hread, hsame, fun hnone => hstates.mpr hnone sharing (List.prefix_refl _) hsame⟩

end Settings

end TypedClient
