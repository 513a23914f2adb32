import TypedClient.Proofs.Paths
import TypedClient.Text.Lines

set_option autoImplicit false

namespace TypedClient.Text

section Parts

variable {α β κ : Type} {p : α → Bool} {xs ys r q : List α}

theorem takeWhile_append_eq (hxs : ∀ c ∈ xs, p c = true) (hr : ∀ c ∈ r.head?, p c = false) :
    (xs ++ r).takeWhile p = xs := by
  rw [List.takeWhile_append_of_pos hxs]
  cases r with
  | nil => rw [List.takeWhile_nil, List.append_nil]
  | cons c r => rw [List.takeWhile_cons_of_neg (by simp [hr c rfl]), List.append_nil]

theorem dropWhile_append_eq (hxs : ∀ c ∈ xs, p c = true) (hr : ∀ c ∈ r.head?, p c = false) :
    (xs ++ r).dropWhile p = r := by
  rw [List.dropWhile_append_of_pos hxs]
  cases r with
  | nil => rfl
  | cons c r => exact List.dropWhile_cons_of_neg (by simp [hr c rfl])

theorem append_inj_of_forall (hxs : ∀ c ∈ xs, p c = true) (hys : ∀ c ∈ ys, p c = true)
    (hr : ∀ c ∈ r.head?, p c = false) (hq : ∀ c ∈ q.head?, p c = false) (h : xs ++ r = ys ++ q) :
    xs = ys ∧ r = q := by
  have heq : xs = ys := by rw [← takeWhile_append_eq hxs hr, h, takeWhile_append_eq hys hq]
  rw [heq] at h
  exact ⟨heq, List.append_cancel_left h⟩

/-- What follows a text opens with one of the given characters or is empty. -/
def OpensIn (opening : List α) (rest : List α) : Prop := ∀ c ∈ rest.head?, c ∈ opening

theorem OpensIn.mono {os ps : List α} (h : OpensIn os r) (hsub : os ⊆ ps) : OpensIn ps r :=
  fun c hc => hsub (h c hc)

theorem opensIn_cons_iff {os : List α} {c : α} : OpensIn os (c :: r) ↔ c ∈ os := by
  simp [OpensIn]

/-- Items are read back from the text that they make with separators between them, if each is read back whenever the
text ends or goes on with a separator or with what follows the last item. -/
theorem intercalate_inj {write : β → List α} {key : β → κ} {c : α} {sep os : List α} (hsep : c ∉ os)
    {xs ys : List β} (hxs : xs ≠ []) (hys : ys ≠ [])
    (hread : ∀ x ∈ xs, ∀ y ∈ ys, ∀ r q, OpensIn (c :: os) r → OpensIn (c :: os) q →
      write x ++ r = write y ++ q → key x = key y ∧ r = q)
    {r q : List α} (hr : OpensIn os r) (hq : OpensIn os q)
    (h : (c :: sep).intercalate (xs.map write) ++ r = (c :: sep).intercalate (ys.map write) ++ q) :
    xs.map key = ys.map key ∧ r = q := by
  have hwiden : os ⊆ c :: os := List.subset_cons_self c os
  induction xs generalizing ys with
  | nil => exact absurd rfl hxs
  | cons x xs ih =>
    obtain ⟨y, ys, rfl⟩ := List.exists_cons_of_ne_nil hys
    have hfirst := hread x List.mem_cons_self y List.mem_cons_self
    -- what follows the first item tells whether another one does
    have hnext : ∀ s, OpensIn (c :: os) (c :: s) := fun s => opensIn_cons_iff.mpr List.mem_cons_self
    rcases xs with _ | ⟨x', xs⟩ <;> rcases ys with _ | ⟨y', ys⟩ <;>
      simp only [List.map_cons, List.map_nil, List.intercalate_singleton, List.intercalate_cons_cons,
        List.append_assoc, List.cons_append] at h
    · obtain ⟨hkey, hrest⟩ := hfirst r q (hr.mono hwiden) (hq.mono hwiden) h
      exact ⟨by rw [List.map_singleton, List.map_singleton, hkey], hrest⟩
    · obtain ⟨-, rfl⟩ := hfirst _ _ (hr.mono hwiden) (hnext _) h
      exact absurd (opensIn_cons_iff.mp hr) hsep
    · obtain ⟨-, rfl⟩ := hfirst _ _ (hnext _) (hq.mono hwiden) h
      exact absurd (opensIn_cons_iff.mp hq) hsep
    · obtain ⟨hkey, hrest⟩ := hfirst _ _ (hnext _) (hnext _) h
      have htail := List.append_cancel_left (List.cons.inj hrest).2
      obtain ⟨hkeys, hend⟩ := ih (List.cons_ne_nil x' xs) (List.cons_ne_nil y' ys)
        (fun a ha b hb => hread a (List.mem_cons_of_mem x ha) b (List.mem_cons_of_mem y hb)) (by simpa using htail)
      exact ⟨List.cons_eq_cons.mpr ⟨hkey, hkeys⟩, hend⟩

end Parts

/-! ## Indented lines -/

theorem allBlank_indentation (size : Nat) (l : Text) :
    allBlank (List.replicate size (.char ' ') ++ l) = allBlank l := by
  have hblank : isBlank (.char ' ') = true := by decide
  simp [allBlank, hblank]

theorem indentLine_injective (size : Nat) : Function.Injective (indentLine size) := by
  intro l m h
  unfold indentLine at h
  split at h <;> split at h
  · exact h
  · next hl hm => rw [h, allBlank_indentation] at hl; exact absurd hl hm
  · next hl hm => rw [← h, allBlank_indentation] at hm; exact absurd hm hl
  · exact List.append_cancel_left h

theorem lines_injective : Function.Injective lines := by
  intro s t h
  rw [← joinLines_lines s, h, joinLines_lines]

theorem lines_of_notMem {l : Text} (h : .char '\n' ∉ l) : lines l = [l] := List.splitOn_eq_singleton h

theorem lines_append_newline (t rest : Text) : lines (t ++ .char '\n' :: rest) = lines t ++ lines rest :=
  List.splitOn_append_cons_self t rest

theorem lines_append_cons {l : Text} (h : .char '\n' ∉ l) (rest : Text) :
    lines (l ++ .char '\n' :: rest) = l :: lines rest := by
  rw [lines_append_newline, lines_of_notMem h, List.singleton_append]

theorem newline_notMem_of_mem_lines {t l : Text} (h : l ∈ lines t) : .char '\n' ∉ l := Path.notMem_of_mem_splitOn h

theorem lines_ne_nil (t : Text) : lines t ≠ [] := List.splitOn_ne_nil _ t

theorem lines_joinLines {ls : List Text} (h : ∀ l ∈ ls, .char '\n' ∉ l) (hsome : ls ≠ []) :
    lines (joinLines ls) = ls :=
  List.splitOn_intercalate _ h hsome

theorem lines_indent (size : Nat) (t : Text) : lines (indent size t) = (lines t).map (indentLine size) := by
  have hbreak : ∀ l ∈ (lines t).map (indentLine size), .char '\n' ∉ l := by
    refine List.forall_mem_map.mpr fun l hl => ?_
    have hline := newline_notMem_of_mem_lines hl
    unfold indentLine
    split
    · exact hline
    · simp [hline, List.mem_replicate]
  rw [indent, lines_joinLines hbreak (mt List.map_eq_nil_iff.mp (lines_ne_nil t))]

theorem indent_append_newline (size : Nat) (t rest : Text) :
    indent size (t ++ "\n" ++ rest) = indent size t ++ "\n" ++ indent size rest := by
  have hjoined : t ++ "\n" ++ rest = t ++ .char '\n' :: rest := List.append_assoc _ _ _
  have hsome (u : Text) : (lines u).map (indentLine size) ≠ [] := mt List.map_eq_nil_iff.mp (lines_ne_nil u)
  rw [indent, hjoined, lines_append_newline, List.map_append]
  exact intercalate_append (hsome t) (hsome rest)

theorem indent_joinLines (size : Nat) (ts : List Text) :
    indent size (joinLines ts) = joinLines (ts.map (indent size)) := by
  induction ts with
  | nil => rfl
  | cons t ts ih =>
    cases ts with
    | nil =>
      rw [joinLines, intercalate_singleton]
      exact (intercalate_singleton _ _).symm
    | cons u ts =>
      rw [joinLines_cons, indent_append_newline, ih]
      exact (joinLines_cons _ _ _).symm

theorem head?_indentLine_ne {size : Nat} (hsize : 0 < size) (l : Text) :
    (indentLine size l).head? ≠ some (.char '\x7d') := by
  have hbrace : isBlank (.char '\x7d') = false := by decide
  intro hhead
  unfold indentLine at hhead
  split at hhead
  · next hblank =>
    obtain ⟨rest, rfl⟩ := List.head?_eq_some_iff.mp hhead
    simp [allBlank, hbrace] at hblank
  · obtain ⟨n, rfl⟩ := Nat.exists_eq_add_one.mpr hsize
    simp [List.replicate_succ] at hhead

theorem indent_append_inj {size : Nat} (hsize : 0 < size) {s t r q : Text}
    (h : indent size s ++ .char '\n' :: .char '\x7d' :: r = indent size t ++ .char '\n' :: .char '\x7d' :: q) :
    s = t ∧ r = q := by
  let inside : Text → Bool := fun l => l.head? != some (.char '\x7d')
  have hinside : ∀ u, ∀ l ∈ (lines u).map (indentLine size), inside l = true := by
    refine fun u => List.forall_mem_map.mpr fun l _ => ?_
    simpa [inside] using head?_indentLine_ne hsize l
  have hclose : ∀ rest, ∀ l ∈ (lines (.char '\x7d' :: rest)).head?, inside l = false := by
    intro rest
    obtain ⟨l, ls, hls⟩ := List.exists_cons_of_ne_nil (lines_ne_nil rest)
    have hhead : lines (.char '\x7d' :: rest) = (.char '\x7d' :: l) :: ls := by
      rw [lines, List.splitOn_cons_eq_if_modifyHead]
      exact congrArg (List.modifyHead _) hls
    simp [hhead, inside]
  have hlines : ∀ u rest, lines (indent size u ++ .char '\n' :: .char '\x7d' :: rest)
      = (lines u).map (indentLine size) ++ lines (.char '\x7d' :: rest) := by
    intro u rest
    rw [← lines_indent, lines_append_newline]
  have hsplit := congrArg lines h
  rw [hlines, hlines] at hsplit
  obtain ⟨hbody, hrest⟩ := append_inj_of_forall (hinside s) (hinside t) (hclose r) (hclose q) hsplit
  have htexts := lines_injective ((List.map_inj_right fun _ _ hline => indentLine_injective size hline).mp hbody)
  exact ⟨htexts, (List.cons.inj (lines_injective hrest)).2⟩

end TypedClient.Text
