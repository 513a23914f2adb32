import TypedClient.Text.Lines

set_option autoImplicit false

namespace TypedClient.Text

variable {sep text : Text} {texts : List Text}

theorem intercalate_append {before after : List Text} (hbefore : before ≠ []) (hafter : after ≠ []) :
    intercalate sep (before ++ after) = intercalate sep before ++ sep ++ intercalate sep after := by
  induction before with
  | nil => exact absurd rfl hbefore
  | cons t rest ih =>
    cases rest with
    | nil =>
      obtain ⟨u, us, rfl⟩ := List.exists_cons_of_ne_nil hafter
      rw [List.singleton_append, intercalate_cons_cons, intercalate_singleton]
    | cons u rest =>
      rw [List.cons_append, List.cons_append, intercalate_cons_cons, ← List.cons_append, ih (by simp),
        intercalate_cons_cons]
      simp only [List.append_assoc]

theorem joinLines_cons (first second : Text) (rest : List Text) :
    joinLines (first :: second :: rest) = first ++ "\n" ++ joinLines (second :: rest) :=
  intercalate_cons_cons _ _ _ _

theorem infix_intercalate (hmem : text ∈ texts) : text <:+: intercalate sep texts := by
  induction texts with
  | nil => cases hmem
  | cons first rest ih =>
    cases rest with
    | nil =>
      obtain rfl := List.mem_singleton.mp hmem
      exact (intercalate_singleton sep text).symm ▸ List.infix_rfl
    | cons second rest =>
      rw [intercalate_cons_cons]
      rcases List.mem_cons.mp hmem with rfl | hmem
      · exact ((List.prefix_append _ _).trans (List.prefix_append _ _)).isInfix
      · exact (ih hmem).trans (List.suffix_append _ _).isInfix

/-! ## Encodings -/

theorem isWhole_of_subset {t u : Text} (h : isWhole t = true) (hsub : u ⊆ t) : isWhole u = true :=
  List.all_eq_true.mpr fun l hl => List.all_eq_true.mp h l (hsub hl)

theorem isWhole_intercalate (hsep : isWhole sep = true) (h : ∀ t ∈ texts, isWhole t = true) :
    isWhole (intercalate sep texts) = true := by
  induction texts with
  | nil => rfl
  | cons t rest ih =>
    obtain ⟨ht, hrest⟩ := List.forall_mem_cons.mp h
    cases rest with
    | nil => rwa [intercalate_singleton]
    | cons u rest =>
      rw [intercalate_cons_cons, isWhole_append, isWhole_append, ht, hsep, ih hrest]
      rfl

theorem isWhole_joinLines (h : ∀ t ∈ texts, isWhole t = true) : isWhole (joinLines texts) = true :=
  isWhole_intercalate (isWhole_ofString _) h

@[simp]
theorem isWhole_ofLines (ls : List String) : isWhole (ofLines ls) = true :=
  isWhole_joinLines (List.forall_mem_map.mpr fun s _ => isWhole_ofString s)

theorem isWhole_of_mem_lines {t line : Text} (h : isWhole t = true) (hline : line ∈ lines t) :
    isWhole line = true := by
  rw [← joinLines_lines t] at h
  exact isWhole_of_subset h (infix_intercalate hline).subset

theorem isWhole_indent (size : Nat) {t : Text} (h : isWhole t = true) : isWhole (indent size t) = true := by
  refine isWhole_joinLines (List.forall_mem_map.mpr fun line hline => ?_)
  have hwhole := isWhole_of_mem_lines h hline
  unfold indentLine
  split
  · exact hwhole
  · rw [isWhole_append, hwhole, Bool.and_true, isWhole, List.all_eq_true]
    intro l hl
    rw [List.eq_of_mem_replicate hl]
    rfl

end TypedClient.Text
