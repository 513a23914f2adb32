import TypedClient.Text.CharRange
import TypedClient.Text.IdentifierTable
import TypedClient.Text.Letter

set_option autoImplicit false

namespace TypedClient.Text

def isIdentifierStart (l : Letter) : Bool := inRanges identifierStartRanges l.code

def isIdentifierPart (l : Letter) : Bool :=
  isIdentifierStart l || inRanges identifierExtendRanges l.code

def isIdentifier (t : Text) : Bool :=
  match t with
  | [] => false
  | l :: rest => isIdentifierStart l && rest.all isIdentifierPart

/-- Letters, digits after the first place, the low line and the dollar sign of ASCII: the names a client
class may have. -/
def isAsciiName (s : String) : Bool :=
  match s.toList with
  | [] => false
  | c :: rest =>
    (c.isAlpha || c == '_' || c == '$') && rest.all fun d => d.isAlphanum || d == '_' || d == '$'

end TypedClient.Text
