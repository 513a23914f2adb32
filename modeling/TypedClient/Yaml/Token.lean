import TypedClient.Text.Utf8
import TypedClient.Yaml.Cursor
import TypedClient.Yaml.Fault

set_option autoImplicit false

namespace TypedClient.Yaml

/-- A line in front of a document that tells how to read it. -/
inductive Directive where
  | version (major : Nat)
  | handle (handle start : String)
  | other
  deriving DecidableEq, Repr

inductive Token where
  | directive (d : Directive)
  | documentStart
  | documentEnd
  | blockSequenceStart
  | blockMappingStart
  | blockEnd
  | flowSequenceStart
  | flowSequenceEnd
  | flowMappingStart
  | flowMappingEnd
  | key
  | value
  | blockEntry
  | flowEntry
  | reference (name : String)
  | anchor (name : String)
  | tag (handle : Option String) (suffix : String)
  | scalar (text : Text) (isPlain : Bool)
  | broken (fault : Fault)
  deriving DecidableEq, Repr

def isNameChar (c : Char) : Bool := c.isAlphanum || c == '-' || c == '_'

def readName (s : List Char) : Except Fault (String × List Char) :=
  match s.takeWhile isNameChar with
  | [] => .error .malformed
  | name => .ok (String.ofList name, s.dropWhile isNameChar)

def endsNodeName : List Char → Bool
  | [] => true
  | c :: _ => isGap c || "?:,]\x7d%@\x60".toList.contains c

def readNodeName (s : List Char) : Except Fault (String × List Char) :=
  match readName s with
  | .error f => .error f
  | .ok (name, rest) => if endsNodeName rest then .ok (name, rest) else .error .malformed

def isTagChar (c : Char) : Bool := c.isAlphanum || "-;/?:@&=+$,_.!~*'()[]".toList.contains c

def escapedBytes (bytes : List UInt8) : List Char → Except Fault (List UInt8 × List Char)
  | '%' :: a :: b :: rest => match Json.hexValue? a, Json.hexValue? b with
    | some a, some b => escapedBytes (UInt8.ofNat (16 * a + b) :: bytes) rest
    | _, _ => .error .malformed
  | '%' :: _ => .error .malformed
  | rest => .ok (bytes, rest)

/-- The text of a tag, perhaps with escapes; `fuel` bounds the number of parts. -/
def tagParts : Nat → List Char → List Char → Except Fault (List Char × List Char)
  | 0, done, s => .ok (done, s)
  | fuel + 1, done, s =>
    let done := done ++ s.takeWhile isTagChar
    match s.dropWhile isTagChar with
    | '%' :: rest => match escapedBytes [] ('%' :: rest) with
      | .error f => .error f
      | .ok (bytes, rest) => match Text.ofUtf8 ⟨bytes.reverse.toArray⟩ with
        | .error _ => .error .malformed
        | .ok text => tagParts fuel (done ++ text.toList) rest
    | rest => .ok (done, rest)

def readTagText (s : List Char) : Except Fault (String × List Char) :=
  match tagParts (s.length + 1) [] s with
  | .error f => .error f
  | .ok (text, rest) =>
    if rest.length = s.length then .error .malformed else .ok (String.ofList text, rest)

/-- The handle of a tag: an exclamation mark, two, or two with a name between them. -/
def readHandle (s : List Char) : Except Fault (String × List Char) :=
  match s with
  | '!' :: ' ' :: rest => .ok ("!", ' ' :: rest)
  | '!' :: rest => match rest.dropWhile isNameChar with
    | '!' :: after => .ok (String.ofList ('!' :: rest.takeWhile isNameChar ++ ['!']), after)
    | _ => .error .malformed
  | _ => .error .malformed

/-- Whether an exclamation mark stands in front of the next blank or line end. -/
def hasHandle (s : List Char) : Bool := (s.takeWhile fun c => c != ' ' && !isBreak c).contains '!'

def readTag (s : List Char) : Except Fault (Token × List Char) :=
  let parts : Except Fault (Option String × String × List Char) :=
    match s with
    | '<' :: rest => match readTagText rest with
      | .error f => .error f
      | .ok (text, '>' :: after) => .ok (none, text, after)
      | .ok _ => .error .malformed
    | s =>
      if gapOrEnd s then .ok (none, "!", s)
      else
        let handle := if hasHandle s then readHandle ('!' :: s) else .ok ("!", s)
        match handle with
        | .error f => .error f
        | .ok (handle, rest) => match readTagText rest with
          | .error f => .error f
          | .ok (text, after) => .ok (some handle, text, after)
  match parts with
  | .error f => .error f
  | .ok (handle, suffix, rest) => if blankOrEnd rest then .ok (.tag handle suffix, rest) else .error .malformed

/-- The rest of a line on which only a comment may stand; its end is read too. -/
def readLineEnd (s : List Char) : Except Fault (List Char) :=
  let s := s.dropWhile (· == ' ')
  let s := if s.head? == some '#' then s.dropWhile fun c => !isBreak c else s
  match s with
  | [] => .ok []
  | c :: rest => if isBreak c then .ok rest else .error .malformed

def readVersionNumber (s : List Char) : Except Fault (Nat × List Char) :=
  match s.takeWhile Char.isDigit with
  | [] => .error .malformed
  | digits =>
    if Json.maxDigits < digits.length then .error (.digits digits.length)
    else .ok (Decimal.natOf digits, s.dropWhile Char.isDigit)

def readVersion (s : List Char) : Except Fault (Directive × List Char) :=
  match readVersionNumber s with
  | .error f => .error f
  | .ok (major, '.' :: rest) => match readVersionNumber rest with
    | .error f => .error f
    | .ok (_, after) => if blankOrEnd after then .ok (.version major, after) else .error .malformed
  | .ok _ => .error .malformed

def readHandleRule (s : List Char) : Except Fault (Directive × List Char) :=
  match readHandle s with
  | .error f => .error f
  | .ok (handle, ' ' :: rest) => match readTagText (rest.dropWhile (· == ' ')) with
    | .error f => .error f
    | .ok (start, after) => if blankOrEnd after then .ok (.handle handle start, after) else .error .malformed
  | .ok _ => .error .malformed

def readDirective (s : List Char) : Except Fault (Directive × List Char) :=
  match readName s with
  | .error f => .error f
  | .ok (name, rest) =>
    if !blankOrEnd rest then .error .malformed
    else
      let parts : Except Fault (Directive × List Char) := match name with
        | "YAML" => readVersion (rest.dropWhile (· == ' '))
        | "TAG" => readHandleRule (rest.dropWhile (· == ' '))
        | _ => .ok (.other, rest.dropWhile fun c => !isBreak c)
      match parts with
      | .error f => .error f
      | .ok (d, rest) => match readLineEnd rest with
        | .error f => .error f
        | .ok rest => .ok (d, rest)

end TypedClient.Yaml
