import TypedClient.Text.CharRange
import TypedClient.Text.Letter

set_option autoImplicit false

namespace TypedClient.Text

/-- Code points of white space: of bidirectional type whitespace or separator, or of category space separator. -/
def blankRanges : List (Nat × Nat) :=
  [(0x09, 0x0D), (0x1C, 0x20), (0x85, 0x85), (0xA0, 0xA0), (0x1680, 0x1680), (0x2000, 0x200A),
   (0x2028, 0x2029), (0x202F, 0x202F), (0x205F, 0x205F), (0x3000, 0x3000)]

def isBlank (l : Letter) : Bool := inRanges blankRanges l.code

/-- Whether a character is white space around a number: the separators among the control characters are
none. -/
def isSpace (c : Char) : Bool := isBlank c && !(0x1C ≤ c.toNat && c.toNat ≤ 0x1F)

/-- Drop the white space around a number. -/
def trimSpace (s : List Char) : List Char := ((s.dropWhile isSpace).reverse.dropWhile isSpace).reverse

def trimEnd (t : Text) : Text := (t.reverse.dropWhile isBlank).reverse

def trimStart (t : Text) : Text := t.dropWhile isBlank

def allBlank (t : Text) : Bool := t.all isBlank

end TypedClient.Text
