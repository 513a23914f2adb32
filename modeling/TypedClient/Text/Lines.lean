import TypedClient.Text.Blank

set_option autoImplicit false

namespace TypedClient.Text

def lines (t : Text) : List Text := t.splitOn (.char '\n')

def joinLines (ls : List Text) : Text := intercalate "\n" ls

def ofLines (ls : List String) : Text := joinLines (ls.map ofString)

theorem joinLines_lines (t : Text) : joinLines (lines t) = t := List.intercalate_splitOn _

def indentLine (size : Nat) (line : Text) : Text :=
  if allBlank line then line else List.replicate size (.char ' ') ++ line

def indent (size : Nat) (t : Text) : Text := joinLines ((lines t).map (indentLine size))

/-- Number of lines a reader sees: a final line feed opens no further line. -/
def lineCount (t : Text) : Nat :=
  if t.isEmpty then 0 else t.count (.char '\n') + (if t.getLast? = some (.char '\n') then 0 else 1)

end TypedClient.Text
