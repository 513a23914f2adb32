set_option autoImplicit false

/-!
# Kinds of nodes

Every node is of a kind: the tag in front of it tells, or the text of a plain scalar does. The texts for
truth values, numbers and moments are those of version 1.1 of the format; a line end behind a text does not
change what it tells.
-/

namespace TypedClient.Yaml

inductive Kind where
  | null
  | bool
  | int
  | float
  | binary
  | timestamp
  | orderedMap
  | pairs
  | set
  | str
  | seq
  | map
  | merge
  /-- A key whose value is the value of the map where a scalar is wanted. -/
  | value
  | other
  deriving DecidableEq, Repr

def tagStart : String := "tag:yaml.org,2002:"

def Kind.ofTag (tag : String) : Kind :=
  let kinds : List (String × Kind) :=
    [("null", .null), ("bool", .bool), ("int", .int), ("float", .float), ("binary", .binary),
      ("timestamp", .timestamp), ("omap", .orderedMap), ("pairs", .pairs), ("set", .set), ("str", .str),
      ("seq", .seq), ("map", .map), ("merge", .merge), ("value", .value)]
  ((kinds.find? fun k => tag == tagStart ++ k.1).map (·.2)).getD .other

def dropLineEnd (s : List Char) : List Char :=
  match s.reverse with
  | '\n' :: c :: rest => (c :: rest).reverse
  | _ => s

def unsigned : List Char → List Char
  | '+' :: s => s
  | '-' :: s => s
  | s => s

/-- Whether a character is a digit or a low line, which may stand between digits. -/
def isDigitOrLine (c : Char) : Bool := c.isDigit || c == '_'

/-- Whether a text consists of parts of one or two digits below sixty, each behind a colon. -/
def isSixties : List Char → Bool
  | [':', a] => a.isDigit
  | ':' :: a :: ':' :: rest => a.isDigit && isSixties (':' :: rest)
  | ':' :: a :: b :: rest => '0' ≤ a && a ≤ '5' && b.isDigit && (rest.isEmpty || isSixties rest)
  | _ => false

/-- Whether a text is a whole number: binary, octal, decimal, hexadecimal or in parts of sixty. -/
def isInt (s : List Char) : Bool :=
  match unsigned s with
  | '0' :: 'b' :: rest => !rest.isEmpty && rest.all fun c => c == '0' || c == '1' || c == '_'
  | '0' :: 'x' :: rest =>
    !rest.isEmpty
      && rest.all fun c => isDigitOrLine c || ('a' ≤ c && c ≤ 'f') || ('A' ≤ c && c ≤ 'F')
  | '0' :: rest => rest.all fun c => ('0' ≤ c && c ≤ '7') || c == '_'
  | c :: rest =>
    c.isDigit
      && (rest.all isDigitOrLine || isSixties (rest.dropWhile isDigitOrLine))
  | [] => false

def isExponent : List Char → Bool
  | mark :: sign :: digits =>
    (mark == 'e' || mark == 'E') && (sign == '+' || sign == '-') && !digits.isEmpty
      && digits.all Char.isDigit
  | _ => false

/-- Whether a text is what may stand behind a point: digits and perhaps an exponent. -/
def isFraction (s : List Char) : Bool :=
  let rest := s.dropWhile isDigitOrLine
  rest.isEmpty || isExponent rest

def isFloat (s : List Char) : Bool :=
  let bare := unsigned s
  if [".inf", ".Inf", ".INF"].contains (String.ofList bare) then true
  else if [".nan", ".NaN", ".NAN"].contains (String.ofList s) then true
  else match bare.takeWhile (· != '.'), bare.dropWhile (· != '.') with
    | [], '.' :: d :: fraction => bare.length == s.length && d.isDigit && isFraction fraction
    | c :: whole, '.' :: fraction =>
      c.isDigit
        && (whole.all isDigitOrLine && isFraction fraction
          || isSixties (whole.dropWhile isDigitOrLine) && fraction.all isDigitOrLine)
    | _, _ => false

structure Stamp where
  year : List Char
  month : List Char
  day : List Char
  time : Option (List Char × List Char × List Char × List Char) := none
  /-- The distance from universal time: whether it is negative, and its hours and minutes. -/
  zone : Option (Bool × List Char × List Char) := none

def oneOrTwo : List Char → Option (List Char × List Char)
  | a :: b :: rest =>
    if !a.isDigit then none else if b.isDigit then some ([a, b], rest) else some ([a], b :: rest)
  | [a] => if a.isDigit then some ([a], []) else none
  | [] => none

def exactlyTwo : List Char → Option (List Char × List Char)
  | a :: b :: rest => if a.isDigit && b.isDigit then some ([a, b], rest) else none
  | _ => none

def mark (c : Char) : List Char → Option (List Char)
  | d :: rest => if c == d then some rest else none
  | [] => none

def zoneOf? : List Char → Option (Bool × List Char × List Char)
  | ['Z'] => some (false, [], [])
  | sign :: rest =>
    if sign == '+' || sign == '-' then do
      let (hours, rest) ← oneOrTwo rest
      match rest with
      | [] => some (sign == '-', hours, [])
      | rest =>
        let (minutes, rest) ← exactlyTwo (← mark ':' rest)
        if rest.isEmpty then some (sign == '-', hours, minutes) else none
    else none
  | [] => none

def Stamp.ofText? (text : List Char) : Option Stamp := do
  let s := dropLineEnd text
  let year := s.take 4
  if year.length < 4 || !year.all Char.isDigit then none
  let (month, s) ← oneOrTwo (← mark '-' (s.drop 4))
  let (day, s) ← oneOrTwo (← mark '-' s)
  match s with
  | [] => some { year, month, day }
  | c :: rest =>
    let isBlank (c : Char) : Bool := c == ' ' || c == '\t'
    if !(c == 'T' || c == 't' || isBlank c) then none
    let s := if isBlank c then rest.dropWhile isBlank else rest
    let (hour, s) ← oneOrTwo s
    let (minute, s) ← exactlyTwo (← mark ':' s)
    let (second, s) ← exactlyTwo (← mark ':' s)
    let (fraction, s) := match s with
      | '.' :: rest => (rest.takeWhile Char.isDigit, rest.dropWhile Char.isDigit)
      | s => ([], s)
    let time := some (hour, minute, second, fraction)
    match s with
    | [] => some { year, month, day, time }
    | s => do
      let zone ← zoneOf? (s.dropWhile isBlank)
      some { year, month, day, time, zone }

def isTimestamp (s : List Char) : Bool :=
  match Stamp.ofText? s with
  | some t => t.time.isSome || (dropLineEnd s).length == 10
  | none => false

/-- The kind that the text of a plain scalar tells. A sign of a name or a tag alone tells a kind that has no
values. -/
def Kind.ofPlain (text : String) : Kind :=
  let s := dropLineEnd text.toList
  let isOneOf (words : List String) : Bool := words.contains (String.ofList s)
  if isOneOf ["yes", "Yes", "YES", "no", "No", "NO", "true", "True", "TRUE", "false", "False", "FALSE", "on",
    "On", "ON", "off", "Off", "OFF"] then .bool
  else if isFloat s then .float
  else if isInt s then .int
  else if isOneOf ["<<"] then .merge
  else if isOneOf ["", "~", "null", "Null", "NULL"] then .null
  else if isTimestamp text.toList then .timestamp
  else if isOneOf ["="] then .value
  else if isOneOf ["!", "&", "*"] then .other
  else .str

end TypedClient.Yaml
