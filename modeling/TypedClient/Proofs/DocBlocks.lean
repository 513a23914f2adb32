import Mathlib.Data.List.DropRight
import TypedClient.Proofs.Indentation
import TypedClient.Proofs.Terminators
import TypedClient.Text.Comment

set_option autoImplicit false

namespace TypedClient.Text

/-! ## Broken terminators -/

theorem not_opens {l : Letter} {rest : Text} (h : ∀ r, l = .char '*' → rest = .char '/' :: r → False) :
    ¬ (l = .char '*' ∧ rest.head? = some (.char '/')) := by
  rintro ⟨hstar, hslash⟩
  obtain ⟨r, hr⟩ := List.head?_eq_some_iff.mp hslash
  exact h r hstar hr

theorem terminators_breakTerminators (t : Text) : terminators (breakTerminators t) = 0 := by
  fun_induction breakTerminators t with
  | case1 rest ih => simp [terminators, ih]
  | case2 c rest hne ih => rw [terminators, head?_breakTerminators, ih, if_neg (not_opens hne)]
  | case3 => rfl

theorem intercalate_cons_head (sep : Text) (l : Letter) (piece : Text) (pieces : List Text) :
    intercalate sep ((l :: piece) :: pieces) = l :: intercalate sep (piece :: pieces) := by
  cases pieces <;> simp

theorem exists_pieces (t : Text) : ∃ piece pieces, (∀ p ∈ piece :: pieces, terminators p = 0) ∧
    intercalate "*/" (piece :: pieces) = t ∧ intercalate "*\\/" (piece :: pieces) = breakTerminators t := by
  fun_induction breakTerminators t with
  | case1 rest ih =>
    obtain ⟨piece, pieces, hnone, hrest, hbroken⟩ := ih
    refine ⟨[], piece :: pieces, List.forall_mem_cons.mpr ⟨rfl, hnone⟩, ?_, ?_⟩
    · rw [intercalate_cons_cons, hrest]
      rfl
    · rw [intercalate_cons_cons, hbroken]
      rfl
  | case2 c rest hne ih =>
    obtain ⟨piece, pieces, hnone, rfl, hbroken⟩ := ih
    obtain ⟨hpiece, hpieces⟩ := List.forall_mem_cons.mp hnone
    -- the piece begins with a slash only if the rest does
    have hfirst : ¬ (c = .char '*' ∧ piece.head? = some (.char '/')) := by
      refine not_opens fun r hstar hslash => ?_
      rw [hslash, intercalate_cons_head] at hne
      exact hne _ hstar rfl
    refine ⟨c :: piece, pieces, List.forall_mem_cons.mpr ⟨?_, hpieces⟩, intercalate_cons_head _ _ _ _, ?_⟩
    · rw [terminators, if_neg hfirst, hpiece]
    · rw [intercalate_cons_head, hbroken]
  | case3 => exact ⟨[], [], by simp [terminators], rfl, rfl⟩

/-! ## Lines -/

theorem length_lines (t : Text) : (lines t).length = t.count (.char '\n') + 1 := by
  induction t with
  | nil => rfl
  | cons l t ih =>
    rw [lines, List.splitOn_cons_eq_if_modifyHead, List.count_cons]
    split_ifs
    · rw [List.length_cons]
      exact congrArg (· + 1) ih
    · rw [List.length_modifyHead]
      exact ih

theorem trimmed_trimEnd (l : Text) : Trimmed (trimEnd l) := by
  have hfirst := List.head?_dropWhile_not isBlank l.reverse
  rw [Trimmed, trimEnd, List.getLast?_reverse]
  cases hlast : (l.reverse.dropWhile isBlank).head? with
  | none => rfl
  | some c => rwa [hlast] at hfirst

theorem trimEnd_append {xs ys : Text} (h : trimEnd ys ≠ []) : trimEnd (xs ++ ys) = xs ++ trimEnd ys := by
  have hsome : (ys.reverse.dropWhile isBlank).isEmpty = false := by simpa [trimEnd] using h
  rw [trimEnd, List.reverse_append, List.dropWhile_append, hsome, if_neg Bool.false_ne_true, List.reverse_append,
    List.reverse_reverse, trimEnd]

theorem trimEnd_append_of_blank {xs ys : Text} (h : trimEnd ys = []) : trimEnd (xs ++ ys) = trimEnd xs := by
  have hnone : (ys.reverse.dropWhile isBlank).isEmpty = true := by simpa [trimEnd] using h
  rw [trimEnd, List.reverse_append, List.dropWhile_append, hnone, if_pos rfl, trimEnd]

theorem terminators_le_append (xs ys : Text) : terminators xs ≤ terminators (xs ++ ys) := by
  induction xs with
  | nil => exact Nat.zero_le _
  | cons c xs ih =>
    rw [List.cons_append, terminators, terminators]
    have hopens : c = .char '*' ∧ xs.head? = some (.char '/') →
        c = .char '*' ∧ (xs ++ ys).head? = some (.char '/') := by
      rintro ⟨hstar, hslash⟩
      rw [List.head?_append, hslash, Option.some_or]
      exact ⟨hstar, rfl⟩
    split_ifs with hxs hall
    · exact Nat.add_le_add_left ih 1
    · exact absurd (hopens hxs) hall
    all_goals omega

theorem terminators_joinLines_eq_zero_iff {ls : List Text} :
    terminators (joinLines ls) = 0 ↔ ∀ l ∈ ls, terminators l = 0 := by
  rw [terminators_joinLines]
  induction ls with
  | nil => simp [terminatorTotal]
  | cons l ls ih => rw [terminatorTotal_cons, Nat.add_eq_zero_iff, ih, List.forall_mem_cons]

/-! ## Starred lines -/

def unstarred : Text → Option (Text)
  | .char ' ' :: .char '*' :: .char ' ' :: rest => some rest
  | .char ' ' :: .char '*' :: rest => some rest
  | _ => none

theorem unstarred_commentLine (l : Text) : unstarred (commentLine l) = some (trimEnd l) := by
  rw [commentLine]
  by_cases hblank : trimEnd l = []
  · rw [trimEnd_append_of_blank hblank, hblank]
    decide
  · rw [trimEnd_append hblank]
    rfl

theorem exists_commentLine_append (l : Text) : ∃ blanks, commentLine l ++ blanks = " * " ++ l :=
  List.rdropWhile_prefix isBlank (" * " ++ l)

theorem newline_notMem_commentLine {l : Text} (h : .char '\n' ∉ l) : .char '\n' ∉ commentLine l := by
  obtain ⟨blanks, hblanks⟩ := exists_commentLine_append l
  have hwhole : .char '\n' ∉ commentLine l ++ blanks := by
    rw [hblanks, List.mem_append, not_or]
    exact ⟨by decide, h⟩
  exact fun hmem => hwhole (List.mem_append_left blanks hmem)

theorem terminators_commentLine {l : Text} (h : terminators l = 0) : terminators (commentLine l) = 0 := by
  obtain ⟨blanks, hblanks⟩ := exists_commentLine_append l
  have hwhole : terminators (commentLine l ++ blanks) = 0 := by
    rw [hblanks, terminators_append (.inl (by decide)), h]
    decide
  exact Nat.eq_zero_of_le_zero (hwhole ▸ terminators_le_append (commentLine l) blanks)

/-! ## Blocks -/

/-- The lines between the first and the last one of a documentation block. -/
def starredLines (t : Text) : List Text := (lines (breakTerminators t)).map commentLine

theorem newline_notMem_starredLines (t : Text) : ∀ l ∈ starredLines t, .char '\n' ∉ l :=
  List.forall_mem_map.mpr fun _ hl => newline_notMem_commentLine (newline_notMem_of_mem_lines hl)

theorem terminators_commentBody (t : Text) : terminators (commentBody t) = 0 := by
  have hbroken : ∀ l ∈ lines (breakTerminators t), terminators l = 0 := by
    rw [← terminators_joinLines_eq_zero_iff, joinLines_lines, terminators_breakTerminators]
  exact terminators_joinLines_eq_zero_iff.mpr
    (List.forall_mem_map.mpr fun l hl => terminators_commentLine (hbroken l hl))

theorem docBlock_eq (t : Text) :
    docBlock t = ("/**" : Text) ++ .char '\n' :: (commentBody t ++ .char '\n' :: ("**/" : Text)) :=
  List.append_assoc (_ : Text) (commentBody t) _

theorem terminators_docBlock (t : Text) : terminators (docBlock t) = 1 := by
  rw [docBlock, terminators_append (.inr (by decide)), terminators_append (.inl (by decide)), terminators_commentBody]
  rfl

theorem lines_docBlock (t : Text) : lines (docBlock t) = ("/**" : Text) :: starredLines t ++ [("**/" : Text)] := by
  have hbody : lines (commentBody t) = starredLines t :=
    lines_joinLines (newline_notMem_starredLines t) (mt List.map_eq_nil_iff.mp (lines_ne_nil _))
  rw [docBlock_eq, lines_append_cons (by decide), lines_append_newline, hbody, lines_of_notMem (by decide)]
  rfl

theorem trimmed_of_mem_docBlock {t l : Text} (h : l ∈ lines (docBlock t)) : Trimmed l := by
  rw [lines_docBlock, List.mem_append, List.mem_cons, List.mem_singleton] at h
  obtain (rfl | hl) | rfl := h
  · decide
  · obtain ⟨m, -, rfl⟩ := List.mem_map.mp hl
    exact trimmed_trimEnd _
  · decide

theorem map_unstarred (t : Text) :
    (starredLines t).map unstarred = (lines (breakTerminators t)).map fun l => some (trimEnd l) := by
  rw [starredLines, List.map_map]
  exact List.map_congr_left fun l _ => unstarred_commentLine l

/-- A documentation block holds one terminator, at its end. It has two lines more than its text, and none of its lines
ends in white space. Between the first and the last one stand the lines of the text with its terminators broken, each
behind a star and one blank and without the white space at its end. -/
theorem docBlock_laws (t : Text) :
    terminators (docBlock t) = 1 ∧ ("*/" : Text) <:+ docBlock t ∧
      (lines (docBlock t)).length = (lines t).length + 2 ∧
      (∀ l ∈ lines (docBlock t), Trimmed l) ∧
      ∃ pieces, (∀ p ∈ pieces, terminators p = 0) ∧ intercalate "*/" pieces = t ∧
        (lines (docBlock t)).tail.dropLast.map unstarred =
          (lines (intercalate "*\\/" pieces)).map fun l => some (l.rdropWhile isBlank) := by
  obtain ⟨piece, pieces, hnone, htext, hbroken⟩ := exists_pieces t
  refine ⟨terminators_docBlock t, ?_, ?_, fun l hl => trimmed_of_mem_docBlock hl,
    piece :: pieces, hnone, htext, ?_⟩
  · exact ⟨"/**\n" ++ commentBody t ++ "\n*", List.append_assoc _ _ _⟩
  · rw [lines_docBlock, List.length_append, List.length_cons, starredLines, List.length_map, length_lines, length_lines,
      count_newline_breakTerminators, List.length_singleton]
  · rw [lines_docBlock, List.cons_append, List.tail_cons, List.dropLast_concat, hbroken]
    exact map_unstarred t

/-- A text with a terminator right before a line feed, blanks at the end of a line and a blank line. -/
example : docBlock "a **/\n */ \t\n\n/b" = "/**\n * a **\\/\n *  *\\/\n *\n * /b\n**/" := by decide

end TypedClient.Text
