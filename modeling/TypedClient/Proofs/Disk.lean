import Mathlib.Data.List.Induction
import Mathlib.Logic.Function.Basic
import Mathlib.Tactic.SplitIfs
import TypedClient.Files.Disk

set_option autoImplicit false

namespace TypedClient.Files

abbrev Holdings := List Text → Option ByteArray

def landingFrom (place path : List Text) : List Text :=
  path.foldl (fun place (name : Text) => if name == ".." then place.dropLast else place ++ [name]) place

def landing (path : List Text) : List Text := landingFrom [] path

theorem landing_concat (path : List Text) {name : Text} (h : name ≠ "..") :
    landing (path ++ [name]) = landing path ++ [name] := by
  simp [landing, landingFrom, h]

theorem landing_eq_self {path : List Text} (h : (".." : Text) ∉ path) : landing path = path := by
  induction path using List.reverseRecOn with
  | nil => rfl
  | append_singleton path name ih =>
    simp only [List.mem_append, List.mem_singleton, not_or] at h
    rw [landing_concat path (Ne.symm h.2), ih h.1]

def Entry.content? : Entry → Option ByteArray
  | .directory => none
  | .file content => some content

namespace Disk

def files (d : Disk) : Holdings := fun place => (d.get? place).bind Entry.content?

variable {d d' : Disk} {path goal place : List Text} {content : ByteArray}

theorem files_eq_some_iff : d.files place = some content ↔ d.get? place = some (.file content) := by
  rw [files, Option.bind_eq_some_iff]
  constructor
  · rintro ⟨entry, hentry, hcontent⟩
    cases entry with
    | directory => cases hcontent
    | file c =>
      cases hcontent
      exact hentry
  · intro h
    exact ⟨_, h, rfl⟩

theorem ne_nil_of_free (h : d.get? place = none) : place ≠ [] := by
  rintro rfl
  cases h

theorem files_eq_none_of_free (h : d.get? place = none) : d.files place = none := by
  rw [files, h]
  rfl

/-! ## Changes at a place -/

theorem files_put (hplace : place ≠ []) (entry : Entry) :
    (d.put place entry).files = Function.update d.files place entry.content? := by
  funext other
  rw [Function.update_apply]
  rcases eq_or_ne other [] with rfl | hother
  · rw [if_neg hplace.symm]
    rfl
  · rw [files, get?_put d place other _ hother]
    split_ifs <;> rfl

theorem files_erase : (d.erase place).files = Function.update d.files place none := by
  funext other
  rw [Function.update_apply]
  rcases eq_or_ne other [] with rfl | hother
  · split_ifs <;> rfl
  · rw [files, get?_erase d place other hother]
    split_ifs <;> rfl

def Keeps (d d' : Disk) : Prop := ∀ place, d.get? place = some .directory → d'.get? place = some .directory

theorem Keeps.trans {d₁ d₂ d₃ : Disk} (h₁ : Keeps d₁ d₂) (h₂ : Keeps d₂ d₃) : Keeps d₁ d₃ :=
  fun place h => h₂ place (h₁ place h)

theorem keeps_put (h : d.get? place ≠ some .directory) (entry : Entry) : Keeps d (d.put place entry) := by
  intro other hother
  rcases eq_or_ne other [] with rfl | hne
  · rfl
  · rw [get?_put d place other entry hne, if_neg (fun heq : other = place => h (heq ▸ hother)), hother]

theorem keeps_erase (h : d.get? place ≠ some .directory) : Keeps d (d.erase place) := by
  intro other hother
  rcases eq_or_ne other [] with rfl | hne
  · rfl
  · rw [get?_erase d place other hne, if_neg (fun heq : other = place => h (heq ▸ hother)), hother]

theorem ne_directory_of_files (h : d.files place = some content) : d.get? place ≠ some .directory := by
  rw [files_eq_some_iff.mp h]
  exact fun heq => Entry.noConfusion (Option.some.inj heq)

/-! ## Following paths -/

theorem follow_eq_ok {names q : List Text} (h : d.follow place names = .ok q) : landingFrom place names = q := by
  induction names generalizing place with
  | nil =>
    cases h
    rfl
  | cons name rest ih =>
    unfold follow at h
    split at h
    · cases h
    · cases h
    · rw [landingFrom, List.foldl_cons]
      split_ifs at h ⊢
      · exact ih h
      · exact ih h

theorem follow_append {names q : List Text} (h : d.follow place names = .ok q) (rest : List Text) :
    d.follow place (names ++ rest) = d.follow q rest := by
  induction names generalizing place with
  | nil =>
    cases h
    rfl
  | cons name names ih =>
    unfold follow at h
    rw [List.cons_append, follow]
    split at h
    · cases h
    · cases h
    · next hplace =>
      split_ifs at h ⊢ <;> exact ih h

theorem directory_of_follow {names q : List Text} (h : d.follow place names = .ok q)
    (hq : d.get? q = some .directory) : d.get? place = some .directory := by
  cases names with
  | nil =>
    cases h
    exact hq
  | cons name rest =>
    unfold follow at h
    split at h
    · cases h
    · cases h
    · assumption

theorem follow_of_keeps {names q : List Text} (hkeeps : Keeps d d') (h : d.follow place names = .ok q)
    (hq : d.get? q = some .directory) : d'.follow place names = .ok q := by
  induction names generalizing place with
  | nil => exact h
  | cons name rest ih =>
    have hplace := hkeeps place (directory_of_follow h hq)
    unfold follow at h ⊢
    rw [hplace]
    split at h
    · cases h
    · cases h
    · split_ifs at h with hdots hlong hmissing
      · rw [if_pos hdots]
        exact ih h
      · have hnext := hkeeps _ (directory_of_follow h hq)
        rw [if_neg hdots, if_neg hlong, hnext]
        exact ih h

theorem slot_eq_ok_iff : d.slot path = .ok (some place) ↔
    ∃ (init : List Text) (name : Text) (parent : List Text), path = init ++ [name] ∧
    d.follow [] init = .ok parent ∧ d.get? parent = some .directory ∧ name ≠ ".." ∧ isLong name = false ∧
      place = parent ++ [name] := by
  constructor
  · intro h
    unfold slot at h
    split at h
    · cases h
    · next name hname =>
      obtain ⟨init, rfl⟩ := List.getLast?_eq_some_iff.mp hname
      rw [List.dropLast_concat] at h
      split at h
      · cases h
      · cases h
      · cases h
      · next parent hlook hparent =>
        split_ifs at h with hdots hlong
        · cases h
        · cases h
          rw [look, hparent] at hlook
          refine ⟨init, name, parent, rfl, hparent, ?_, by simpa using hdots, by simpa using hlong, rfl⟩
          cases hget : d.get? parent <;> simp_all
  · rintro ⟨init, name, parent, rfl, hparent, hdirectory, hdots, hlong, rfl⟩
    simp [slot, look, hparent, hdirectory, hdots, hlong]

theorem slot_eq_ok (h : d.slot path = .ok (some place)) : landing path = place ∧ place ≠ [] := by
  obtain ⟨init, name, parent, rfl, hparent, -, hdots, -, rfl⟩ := slot_eq_ok_iff.mp h
  rw [landing_concat init hdots, landing, follow_eq_ok hparent]
  exact ⟨rfl, by simp⟩

def Leads (d : Disk) (path : List Text) : Prop := d.slot path = .ok (some (landing path))

theorem Leads.of_keeps (h : d.Leads path) (hkeeps : Keeps d d') : d'.Leads path := by
  obtain ⟨init, name, parent, hpath, hparent, hdirectory, hrest⟩ := slot_eq_ok_iff.mp h
  exact slot_eq_ok_iff.mpr ⟨init, name, parent, hpath, follow_of_keeps hkeeps hparent hdirectory,
    hkeeps parent hdirectory, hrest⟩

theorem look_of_leads (h : d.Leads path) (hfile : d.files (landing path) = some content) :
    d.look path = .ok (.file content) := by
  obtain ⟨init, name, parent, rfl, hparent, hdirectory, hdots, hlong, hplace⟩ := slot_eq_ok_iff.mp h
  have hget := files_eq_some_iff.mp hfile
  rw [hplace] at hget
  have hfollow : d.follow [] (init ++ [name]) = .ok (parent ++ [name]) := by
    rw [follow_append hparent]
    simp [follow, hdirectory, hdots, hlong, hget]
  rw [look, hfollow]
  simp [hget]

theorem files_of_look (h : d.look path = .ok (.file content)) : d.files (landing path) = some content := by
  unfold look at h
  split at h
  · cases h
  · next place hplace =>
    obtain rfl : landing path = place := follow_eq_ok hplace
    split at h
    · cases h
    · next entry hentry =>
      cases h
      exact files_eq_some_iff.mpr hentry

/-! ## Calls -/

theorem makeDirectory_eq_ok (h : d.makeDirectory path = .ok d') :
    d.get? (landing path) = none ∧ d' = d.put (landing path) .directory := by
  unfold makeDirectory at h
  split at h
  · cases h
  · split at h
    · cases h
    · cases h
    · next place hslot =>
      obtain ⟨rfl, -⟩ := slot_eq_ok hslot
      split_ifs at h with htaken
      cases h
      exact ⟨by simpa using htaken, rfl⟩

theorem create_eq_ok (h : d.create path = .ok d') :
    d.get? (landing path) = none ∧ d' = d.put (landing path) (.file .empty) := by
  unfold create at h
  split at h
  · cases h
  · split at h
    · cases h
    · cases h
    · next place hslot =>
      obtain ⟨rfl, -⟩ := slot_eq_ok hslot
      split_ifs at h with htaken
      cases h
      exact ⟨by simpa using htaken, rfl⟩

theorem write_eq_ok (h : d.write path content = .ok d') :
    landing path ≠ [] ∧ d' = d.put (landing path) (.file content) := by
  unfold write at h
  split at h
  · cases h
  · split at h
    · cases h
    · cases h
    · next place hslot =>
      obtain ⟨rfl, hplace⟩ := slot_eq_ok hslot
      cases h
      exact ⟨hplace, rfl⟩

theorem move_eq_ok (h : d.move path goal = .ok d') : d.Leads goal ∧ d.get? (landing goal) ≠ some .directory ∧
    ∃ content, d.files (landing path) = some content ∧
      d' = (d.erase (landing path)).put (landing goal) (.file content) := by
  unfold move at h
  split at h
  · cases h
  · split at h
    · cases h
    · cases h
    · cases h
    · cases h
    · next source place hsource hgoal =>
      obtain ⟨rfl, -⟩ := slot_eq_ok hsource
      obtain ⟨rfl, -⟩ := slot_eq_ok hgoal
      split at h
      · cases h
      · next content hcontent hgoalEntry =>
        cases h
        exact ⟨hgoal, fun heq => hgoalEntry heq, content, files_eq_some_iff.mpr hcontent, rfl⟩
      · cases h
      · cases h

/-- Two disks with the same files, of which the second has all directories of the first. -/
structure Widens (d d' : Disk) : Prop where
  files : d'.files = d.files
  keeps : Keeps d d'

theorem Widens.refl (d : Disk) : Widens d d := ⟨rfl, fun _ h => h⟩

theorem Widens.trans {d₁ d₂ d₃ : Disk} (h₁ : Widens d₁ d₂) (h₂ : Widens d₂ d₃) : Widens d₁ d₃ :=
  ⟨h₂.files.trans h₁.files, h₁.keeps.trans h₂.keeps⟩

theorem widens_of_makeDirectory (h : d.makeDirectory path = .ok d') : Widens d d' := by
  obtain ⟨hfree, rfl⟩ := makeDirectory_eq_ok h
  refine ⟨?_, keeps_put (by simp [hfree]) _⟩
  rw [files_put (ne_nil_of_free hfree), Entry.content?, ← files_eq_none_of_free hfree, Function.update_eq_self]

theorem widens_makeDirectories (d : Disk) (path : List Text) : Widens d (d.makeDirectories path).1 := by
  -- Where a refusal is settled, the disk is the one that the refused call was made on.
  have hsettled (d : Disk) (f : Option Fault) (p : Bool) : Widens d (if p then (d, none) else (d, f)).1 := by
    cases p <;> exact .refl d
  fun_induction makeDirectories d path with
  | case1 path _ hmade => exact widens_of_makeDirectory hmade
  | case2 => exact .refl d
  | case3 path _ _ _ _ hparents ih => rwa [hparents] at ih
  | case4 path _ _ parents hparents _ hmade ih =>
    rw [hparents] at ih
    exact ih.trans (widens_of_makeDirectory hmade)
  | case5 path _ _ _ parents hparents _ ih => rwa [hparents] at ih
  | case6 path _ _ _ _ parents hparents _ _ _ ih =>
    rw [hparents] at ih
    exact ih.trans (hsettled _ _ _)
  | case7 => exact hsettled _ _ _

theorem makeDirectories_of_there (h : d.makeDirectory path = .error .taken) (hthere : d.isDirectory path = true) :
    d.makeDirectories path = (d, none) := by
  unfold makeDirectories
  simp only [h, hthere, if_true]

theorem files_makeDirectories (d : Disk) (path : List Text) : (d.makeDirectories path).1.files = d.files :=
  (widens_makeDirectories d path).files

theorem files_of_create (h : d.create path = .ok d') :
    d.files (landing path) = none ∧ d'.files = Function.update d.files (landing path) (some .empty) := by
  obtain ⟨hfree, rfl⟩ := create_eq_ok h
  exact ⟨files_eq_none_of_free hfree, files_put (ne_nil_of_free hfree) _⟩

theorem files_of_write (h : d.write path content = .ok d') :
    d'.files = Function.update d.files (landing path) (some content) := by
  obtain ⟨hplace, rfl⟩ := write_eq_ok h
  exact files_put hplace _

theorem keeps_of_create (h : d.create path = .ok d') : Keeps d d' := by
  obtain ⟨hfree, rfl⟩ := create_eq_ok h
  exact keeps_put (by simp [hfree]) _

theorem keeps_of_write (h : d.write path content = .ok d') (hplace : d.get? (landing path) ≠ some .directory) :
    Keeps d d' := by
  obtain ⟨-, rfl⟩ := write_eq_ok h
  exact keeps_put hplace _

theorem files_of_move (h : d.move path goal = .ok d') : ∃ content, d.files (landing path) = some content ∧
    d'.files = Function.update (Function.update d.files (landing path) none) (landing goal) (some content) := by
  obtain ⟨hleads, -, content, hcontent, rfl⟩ := move_eq_ok h
  exact ⟨content, hcontent, by rw [files_put (slot_eq_ok hleads).2, files_erase]; rfl⟩

theorem keeps_of_move (h : d.move path goal = .ok d') : Keeps d d' := by
  obtain ⟨hleads, hgoal, content, hcontent, rfl⟩ := move_eq_ok h
  refine (keeps_erase (ne_directory_of_files hcontent)).trans (keeps_put ?_ _)
  rw [get?_erase _ _ _ (slot_eq_ok hleads).2]
  split_ifs
  · exact fun heq => nomatch heq
  · exact hgoal

/-! ## Refusals -/

section Refusals

variable {r : Reason}

theorem isSystems_of_follow {names : List Text} (h : d.follow place names = .error r) : r.isSystems = true := by
  induction names generalizing place with
  | nil => cases h
  | cons name rest ih =>
    rw [follow] at h
    split at h
    · cases h
      rfl
    · cases h
      rfl
    · split_ifs at h
      · exact ih h
      · cases h
        rfl
      · cases h
        rfl
      · exact ih h

theorem isSystems_of_look (h : d.look path = .error r) : r.isSystems = true := by
  unfold look at h
  split at h
  · next hnames =>
    cases h
    exact isSystems_of_follow hnames
  · split at h
    · cases h
      rfl
    · cases h

theorem isSystems_of_slot (h : d.slot path = .error r) : r.isSystems = true := by
  unfold slot at h
  split at h
  · cases h
  · split at h
    · next hparent =>
      cases h
      exact isSystems_of_look hparent
    · cases h
      rfl
    · next hparent =>
      cases h
      exact isSystems_of_follow hparent
    · split_ifs at h
      cases h
      rfl

/-- Only calls that are refused as such are not refused by the system. -/
theorem isSystems_of_move {goal : List Text} (hasked : d.refusal? (.move path goal) = none)
    (h : d.move path goal = .error r) : r.isSystems = true := by
  unfold move at h
  rw [hasked] at h
  dsimp only at h
  split at h
  · next hslot =>
    cases h
    exact isSystems_of_slot hslot
  · next hslot =>
    cases h
    exact isSystems_of_slot hslot
  · cases h
    rfl
  · cases h
    rfl
  · split at h <;> cases h <;> rfl

end Refusals

end Disk

end TypedClient.Files
