import Mathlib.Data.List.Forall2
import TypedClient.Proofs.Layout

set_option autoImplicit false

namespace TypedClient.Text

def Trimmed (l : Text) : Prop := l.getLast?.any isBlank = false

instance (l : Text) : Decidable (Trimmed l) := inferInstanceAs (Decidable (l.getLast?.any isBlank = false))

/-- What becomes of a line that is moved to the right: it stays as it is if all of it is white space, and has so many
blanks more in front otherwise. -/
structure Moved (size : Nat) (l m : Text) : Prop where
  blank : (∀ c ∈ l, isBlank c = true) → m = l
  written : (∃ c ∈ l, isBlank c = false) → m = List.replicate size (.char ' ') ++ l

theorem allBlank_iff {l : Text} : allBlank l = true ↔ ∀ c ∈ l, isBlank c = true := List.all_eq_true

theorem moved_indentLine (size : Nat) (l : Text) : Moved size l (indentLine size l) := by
  refine ⟨fun hblank => if_pos (allBlank_iff.mpr hblank), fun ⟨c, hc, hwritten⟩ => if_neg fun hblank => ?_⟩
  rw [allBlank_iff.mp hblank c hc] at hwritten
  exact Bool.noConfusion hwritten

theorem indentLine_indentLine (a b : Nat) (l : Text) :
    indentLine b (indentLine a l) = indentLine (a + b) l := by
  by_cases hblank : allBlank l = true
  · have hsame (n : Nat) : indentLine n l = l := if_pos hblank
    rw [hsame, hsame, hsame]
  · have hmoved (n : Nat) : indentLine n l = List.replicate n (.char ' ') ++ l := if_neg hblank
    have htwice : indentLine b (List.replicate a (.char ' ') ++ l) =
        List.replicate b (.char ' ') ++ (List.replicate a (.char ' ') ++ l) :=
      if_neg (by rwa [allBlank_indentation])
    rw [hmoved, hmoved, htwice, ← List.append_assoc, List.replicate_append_replicate, Nat.add_comm]

theorem trimmed_indentLine {l : Text} (h : Trimmed l) (size : Nat) : Trimmed (indentLine size l) := by
  unfold indentLine
  split_ifs with hblank
  · exact h
  · have hsome : l ≠ [] := by
      rintro rfl
      exact hblank rfl
    obtain ⟨c, hc⟩ := Option.ne_none_iff_exists'.mp (mt List.getLast?_eq_none_iff.mp hsome)
    rwa [Trimmed, List.getLast?_append, hc, Option.some_or, ← hc]

theorem indent_indent (a b : Nat) (t : Text) : indent b (indent a t) = indent (a + b) t := by
  rw [indent, lines_indent, List.map_map, indent]
  congr 3
  exact funext (indentLine_indentLine a b)

/-- Indentation keeps the number of lines, moves every line that holds more than white space and adds up. Lines that do
not end in white space still do not. -/
theorem indent_laws (t : Text) (a b : Nat) :
    (lines (indent a t)).length = (lines t).length ∧
      List.Forall₂ (Moved a) (lines t) (lines (indent a t)) ∧
      indent b (indent a t) = indent (a + b) t ∧
      ((∀ l ∈ lines t, Trimmed l) → ∀ l ∈ lines (indent a t), Trimmed l) := by
  rw [lines_indent]
  refine ⟨List.length_map _, ?_, indent_indent a b t, ?_⟩
  · rw [List.forall₂_map_right_iff, List.forall₂_same]
    exact fun l _ => moved_indentLine a l
  · exact fun h => List.forall_mem_map.mpr fun l hl => trimmed_indentLine (h l hl) a

theorem twiceMoved_trimmed :
    (∀ l ∈ lines (indent 2 "\x7b\n\n  a\n\x7d"), Trimmed l) ∧
      ∀ l ∈ lines (indent 4 (indent 2 "\x7b\n\n  a\n\x7d")), Trimmed l := by
  have hinner := (indent_laws "\x7b\n\n  a\n\x7d" 2 0).2.2.2 (by decide)
  exact ⟨hinner, (indent_laws (indent 2 "\x7b\n\n  a\n\x7d") 4 0).2.2.2 hinner⟩

end TypedClient.Text
