import TypedClient.Text.Lines

set_option autoImplicit false

/-!
# Documentation blocks

A text becomes a block comment with one starred line per line of text. A terminator inside the text is
broken up by a backslash, so that the only terminator of the block is its last one.
-/

namespace TypedClient.Text

def breakTerminators : Text → Text
  | .char '*' :: .char '/' :: rest => .char '*' :: .char '\\' :: .char '/' :: breakTerminators rest
  | l :: rest => l :: breakTerminators rest
  | [] => []

theorem head?_breakTerminators (t : Text) : (breakTerminators t).head? = t.head? := by
  fun_cases breakTerminators t <;> rfl

theorem count_newline_breakTerminators (t : Text) :
    (breakTerminators t).count (.char '\n') = t.count (.char '\n') := by
  fun_induction breakTerminators t with
  | case1 rest ih => simp [ih]
  | case2 l rest hne ih => rw [List.count_cons, List.count_cons, ih]
  | case3 => rfl

def commentLine (line : Text) : Text := trimEnd (" * " ++ line)

def commentBody (t : Text) : Text := joinLines ((lines (breakTerminators t)).map commentLine)

def docBlock (t : Text) : Text := "/**\n" ++ commentBody t ++ "\n**/"

end TypedClient.Text
