import Mathlib.Tactic.SplitIfs
import TypedClient.Files.Path
import TypedClient.Proofs.Joining

set_option autoImplicit false

namespace TypedClient.Path

theorem dots_notMem_follow (place path : List Text) (h : (".." : Text) ∉ place) :
    (".." : Text) ∉ path.foldl follow place := by
  induction path generalizing place with
  | nil => exact h
  | cons part rest ih =>
    rw [List.foldl_cons]
    apply ih
    unfold follow
    split_ifs with hempty hdots
    · exact h
    · exact fun hmem => h (List.dropLast_subset place hmem)
    · rw [List.mem_append, List.mem_singleton, not_or]
      exact ⟨h, fun heq => hdots (by simp [← heq])⟩

structure Proper (name : Text) : Prop where
  slash : slash ∉ name
  empty : name ≠ ""
  dot : name ≠ "."

theorem notMem_of_mem_splitOn {α : Type} [DecidableEq α] {c : α} {cs part : List α} (h : part ∈ cs.splitOn c) :
    c ∉ part := by
  induction cs generalizing part with
  | nil =>
    obtain rfl : part = [] := by simpa using h
    simp
  | cons x xs ih =>
    rw [List.splitOn, List.splitOnP_cons_eq_if_modifyHead] at h
    split_ifs at h with hx
    · rcases List.mem_cons.mp h with rfl | h
      · simp
      · exact ih h
    · cases hs : xs.splitOnP (· == c) with
      | nil => simp [hs] at h
      | cons head tail =>
        rw [hs, List.modifyHead_cons, List.mem_cons] at h
        rcases h with rfl | h
        · have hhead : c ∉ head := ih (by simp [List.splitOn, hs])
          rw [List.mem_cons, not_or]
          exact ⟨fun heq => hx (by simp [heq]), hhead⟩
        · exact ih (by simp [List.splitOn, hs, h])

theorem mem_parts {path part : Text} (h : part ∈ parts path) : slash ∉ part := notMem_of_mem_splitOn h

theorem proper_of_mem_names {path name : Text} (h : name ∈ names path) : Proper name := by
  obtain ⟨hpart, hname⟩ := List.mem_filter.mp h
  simp only [Bool.and_eq_true, bne_iff_ne, ne_eq] at hname
  exact ⟨mem_parts hpart, hname.1, hname.2⟩

theorem proper_of_mem_resolve {out name : Text} (h : name ∈ resolve [] out) : Proper name := by
  have hfollow (place ps : List Text) (hps : ∀ p ∈ ps, slash ∉ p) (hplace : ∀ n ∈ place, Proper n) :
      ∀ n ∈ ps.foldl follow place, Proper n := by
    induction ps generalizing place with
    | nil => exact hplace
    | cons part rest ih =>
      obtain ⟨hpart, hrest⟩ := List.forall_mem_cons.mp hps
      refine ih (follow place part) hrest fun n hn => ?_
      unfold follow at hn
      split_ifs at hn with hempty hdots
      · exact hplace n hn
      · exact hplace n (List.dropLast_subset place hn)
      · rcases List.mem_append.mp hn with hn | hn
        · exact hplace n hn
        · obtain rfl := List.mem_singleton.mp hn
          simp only [Bool.or_eq_true, beq_iff_eq, not_or] at hempty
          exact ⟨hpart, hempty.1, hempty.2⟩
  refine hfollow _ _ (fun p hp => mem_parts hp) ?_ name h
  split_ifs <;> simp

theorem proper_of_mem_under {directory : List Text} (h : ∀ name ∈ directory, Proper name) (path : Text) :
    ∀ name ∈ under directory path, Proper name := by
  intro name hname
  unfold under at hname
  split_ifs at hname
  · exact proper_of_mem_names hname
  · rcases List.mem_append.mp hname with hname | hname
    · exact h name hname
    · exact proper_of_mem_names hname

theorem parts_slash (front back : Text) : parts (front ++ "/" ++ back) = parts front ++ parts back := by
  have hsplit : front ++ "/" ++ back = front ++ slash :: back := List.append_assoc front _ back
  rw [parts, hsplit, List.splitOn_append_cons_self]
  rfl

theorem names_slash (path : Text) : names ("/" ++ path) = names path := by
  have hparts : parts ("/" ++ path) = ("" : Text) :: parts path := parts_slash "" path
  rw [names, hparts, List.filter_cons_of_neg (by simp), names]

theorem parts_intercalate {place : List Text} (h : ∀ name ∈ place, Proper name) (hsome : place ≠ []) :
    parts (Text.intercalate "/" place) = place := by
  exact List.splitOn_intercalate slash (fun name hname => (h name hname).slash) hsome

theorem names_intercalate {place : List Text} (h : ∀ name ∈ place, Proper name) :
    names (Text.intercalate "/" place) = place := by
  by_cases hsome : place = []
  · rw [hsome]
    decide
  · rw [names, parts_intercalate h hsome, List.filter_eq_self]
    intro name hname
    simp [(h name hname).empty, (h name hname).dot]

theorem names_absolute {place : List Text} (h : ∀ name ∈ place, Proper name) : names (absolute place) = place := by
  rw [absolute, names_slash, names_intercalate h]

open Text (isWhole isWhole_append isWhole_ofString)

theorem isWhole_of_mem_names {path name : Text} (h : isWhole path = true) (hname : name ∈ names path) :
    isWhole name = true := by
  have hjoined : Text.intercalate [slash] (parts path) = path := List.intercalate_splitOn slash
  rw [← hjoined] at h
  exact Text.isWhole_of_subset h (Text.infix_intercalate (List.mem_filter.mp hname).1).subset

theorem isWhole_absolute_iff {place : List Text} :
    isWhole (absolute place) = true ↔ ∀ name ∈ place, isWhole name = true := by
  constructor
  · intro h name hname
    refine Text.isWhole_of_subset h ?_
    exact List.Subset.trans (Text.infix_intercalate hname).subset (List.subset_append_right _ _)
  · intro h
    rw [absolute, isWhole_append, isWhole_ofString, Text.isWhole_intercalate (isWhole_ofString _) h]
    rfl

theorem isWhole_absolute_under {directory : List Text} (h : isWhole (absolute directory) = true) (path : String) :
    isWhole (absolute (under directory path)) = true := by
  have hnames (name : Text) (hname : name ∈ names path) : isWhole name = true :=
    isWhole_of_mem_names (isWhole_ofString path) hname
  rw [isWhole_absolute_iff] at h ⊢
  unfold under
  split
  · exact hnames
  · exact List.forall_mem_append.mpr ⟨h, hnames⟩

end TypedClient.Path
