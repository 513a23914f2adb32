import TypedClient.Data.Basic
import TypedClient.Decimal.Reading

set_option autoImplicit false

/-!
# Reading JSON

The reader takes the whole text as plain data, or says what it expected and where. Beyond the standard it
takes `NaN`, `Infinity` and `-Infinity`, and halves of pairs in strings. A place is kept as the number of
characters that are left from it on.
-/

namespace TypedClient.Json

inductive Cause where
  | byteOrderMark
  | value
  | name
  | colon
  | comma
  | unterminated
  | control
  | escape
  | unit
  | extra
  | digits (count : Nat)
  /-- Arrays and objects in one another beyond the bound, which an array or an object goes over. -/
  | depth (isArray : Bool)
  deriving DecidableEq

/-- A cause, and how many characters were left where it was noticed. -/
structure Fault where
  cause : Cause
  left : Nat

def maxDigits : Nat := 4300

def maxDepth : Nat := 988

def isSpace (l : Letter) : Bool := l == .char ' ' || l == .char '\t' || l == .char '\n' || l == .char '\r'

def skipSpace (s : Text) : Text := s.dropWhile isSpace

def hexValue? (c : Char) : Option Nat :=
  if c.isDigit then some (c.toNat - 48)
  else if 'a' ≤ c && c ≤ 'f' then some (c.toNat - 87)
  else if 'A' ≤ c && c ≤ 'F' then some (c.toNat - 55)
  else none

def unit? : Text → Option (Nat × Text)
  | .char a :: .char b :: .char c :: .char d :: rest => do
    let a ← hexValue? a
    let b ← hexValue? b
    let c ← hexValue? c
    let d ← hexValue? d
    pure (((a * 16 + b) * 16 + c) * 16 + d, rest)
  | _ => none

def escaped? : Char → Option Char
  | '"' => some '"'
  | '\\' => some '\\'
  | '/' => some '/'
  | 'b' => some '\x08'
  | 'f' => some '\x0c'
  | 'n' => some '\n'
  | 'r' => some '\r'
  | 't' => some '\t'
  | _ => none

/-- A code point written by its 16-bit units, read behind `\u`. The place of a fault is the `u`. -/
def readUnits (s : Text) : Except Fault (Nat × Text) :=
  -- a string has to close, so the digits are never the last characters
  if (s.drop 4).isEmpty then .error ⟨.unit, s.length + 1⟩
  else
    match unit? s with
    | none => .error ⟨.unit, s.length + 1⟩
    | some (u, rest) =>
      if isHighHalf u && !(rest.drop 6).isEmpty then
        match rest with
        | .char '\\' :: .char 'u' :: more =>
          match unit? more with
          | none => .error ⟨.unit, more.length + 1⟩
          | some (v, after) =>
            if isLowHalf v then .ok (pairCode u v, after) else .ok (u, rest)
        | _ => .ok (u, rest)
      else .ok (u, rest)

/-- The rest of a string behind its opening quote; `opening` is the text from the quote on, `done` holds the
characters read so far, last first, and `fuel` bounds the number of characters. -/
def readString (opening : Text) : Nat → Text → Text → Except Fault (Text × Text)
  | 0, _, _ => .error ⟨.unterminated, opening.length⟩
  | fuel + 1, done, s =>
    match s with
    | [] => .error ⟨.unterminated, opening.length⟩
    | .char '"' :: rest => .ok (done.reverse, rest)
    | .char '\\' :: [] => .error ⟨.unterminated, opening.length⟩
    | .char '\\' :: .char 'u' :: rest =>
      match readUnits rest with
      | .error e => .error e
      | .ok (code, after) => readString opening fuel (Letter.ofCode code :: done) after
    | .char '\\' :: e :: rest =>
      match e.char?.bind escaped? with
      | some c => readString opening fuel (.char c :: done) rest
      | none => .error ⟨.escape, s.length⟩
    | l :: rest =>
      if l.code < 0x20 then .error ⟨.control, s.length⟩
      else readString opening fuel (l :: done) rest

def spanDigits : Text → List Char × Text
  | .char c :: rest =>
    if c.isDigit then
      let (digits, after) := spanDigits rest
      (c :: digits, after)
    else ([], .char c :: rest)
  | s => ([], s)

def fraction? : Text → Option (List Char × Text)
  | .char '.' :: rest =>
    match spanDigits rest with
    | ([], _) => none
    | (ds, after) => some (ds, after)
  | _ => none

/-- An exponent at the head of a text: a mark, perhaps a sign, and at least one digit. -/
def exponent? : Text → Option (Int × Text)
  | .char c :: rest =>
    if c == 'e' || c == 'E' then
      let (negative, rest) := match rest with
        | .char '-' :: r => (true, r)
        | .char '+' :: r => (false, r)
        | r => (false, r)
      match spanDigits rest with
      | ([], _) => none
      | (ds, after) =>
        let n : Int := Decimal.natOf ds
        some (if negative then -n else n, after)
    else none
  | _ => none

/-- A number at the head of a text. The place of a fault is the number's first character. -/
def readNumber (s : Text) : Except Fault (Scalar × Text) :=
  let (negative, body) := match s with
    | .char '-' :: r => (true, r)
    | r => (false, r)
  let whole := match body with
    | .char '0' :: r => some (['0'], r)
    | r =>
      match spanDigits r with
      | ([], _) => none
      | split => some split
  match whole with
  | none => .error ⟨.value, s.length⟩
  | some (ds, rest) =>
    let (frac, rest) := match fraction? rest with
      | some (f, r) => (some f, r)
      | none => (none, rest)
    let (ex, rest) := match exponent? rest with
      | some (e, r) => (some e, r)
      | none => (none, rest)
    if frac.isNone && ex.isNone then
      if maxDigits < ds.length then .error ⟨.digits ds.length, s.length⟩
      else
        let n : Int := Decimal.natOf ds
        .ok (.int (if negative then -n else n), rest)
    else .ok (.float (Decimal.ofParts negative ds (frac.getD []) (ex.getD 0)), rest)

def words : List (String × Scalar) :=
  [("null", .null), ("true", .bool true), ("false", .bool false), ("NaN", .float (0.0 / 0.0)),
   ("Infinity", .float (1.0 / 0.0)), ("-Infinity", .float (-1.0 / 0.0))]

def readAtom (s : Text) : Except Fault (Scalar × Text) :=
  match words.find? fun w => (w.1 : Text).isPrefixOf s with
  | some w => .ok (w.2, s.drop w.1.length)
  | none => readNumber s

def readText (fuel : Nat) (s rest : Text) : Except Fault (Scalar × Text) :=
  match readString s fuel [] rest with
  | .error e => .error e
  | .ok (t, after) => .ok (.text t, after)

mutual

/-- A value at the head of a text, with `depth` arrays and objects around it. A character takes at most two
units of `fuel`, so that the rest of it bounds the characters that are left. -/
def readValue (depth : Nat) : Nat → Text → Except Fault (Data × Text)
  | 0, s => .error ⟨.value, s.length⟩
  | fuel + 1, s =>
    match s with
    | .char '"' :: rest =>
      match readText (fuel + 1) s rest with
      | .error e => .error e
      | .ok (t, after) => .ok (.scalar t, after)
    | .char '[' :: rest =>
      if maxDepth ≤ depth then .error ⟨.depth true, s.length⟩
      else match skipSpace rest with
      | .char ']' :: after => .ok (.list [], after)
      | inner =>
        match readItems (depth + 1) fuel inner with
        | .error e => .error e
        | .ok (items, after) => .ok (.list items, after)
    | .char '{' :: rest =>
      if maxDepth ≤ depth then .error ⟨.depth false, s.length⟩
      else match skipSpace rest with
      | .char '}' :: after => .ok (.map [], after)
      | inner => readMembers (depth + 1) fuel [] inner
    | _ =>
      match readAtom s with
      | .error e => .error e
      | .ok (x, after) => .ok (.scalar x, after)

def readItems (depth : Nat) : Nat → Text → Except Fault (List Data × Text)
  | 0, s => .error ⟨.value, s.length⟩
  | fuel + 1, s =>
    match readValue depth fuel s with
    | .error e => .error e
    | .ok (item, rest) =>
      match skipSpace rest with
      | .char ']' :: after => .ok ([item], after)
      | .char ',' :: more =>
        match readItems depth fuel (skipSpace more) with
        | .error e => .error e
        | .ok (items, after) => .ok (item :: items, after)
      | other => .error ⟨.comma, other.length⟩

/-- The members of an object up to its closing brace. A repeated name keeps its first place and gets the
last value. -/
def readMembers (depth : Nat) :
    Nat → List (Scalar × Data) → Text → Except Fault (Data × Text)
  | 0, _, s => .error ⟨.value, s.length⟩
  | fuel + 1, done, s =>
    match s with
    | .char '"' :: rest =>
      match readText (fuel + 1) s rest with
      | .error e => .error e
      | .ok (name, after) =>
        match skipSpace after with
        | .char ':' :: more =>
          match readValue depth fuel (skipSpace more) with
          | .error e => .error e
          | .ok (value, rest) =>
            let done := Data.put done name value
            match skipSpace rest with
            | .char '}' :: after => .ok (.map done, after)
            | .char ',' :: more => readMembers depth fuel done (skipSpace more)
            | other => .error ⟨.comma, other.length⟩
        | other => .error ⟨.colon, other.length⟩
    | _ => .error ⟨.name, s.length⟩

end

def parse (s : Text) : Except Fault Data :=
  match s with
  | .char '\uFEFF' :: _ => .error ⟨.byteOrderMark, s.length⟩
  | _ =>
    match readValue 0 (2 * s.length + 2) (skipSpace s) with
    | .error e => .error e
    | .ok (j, rest) =>
      match skipSpace rest with
      | [] => .ok j
      | other => .error ⟨.extra, other.length⟩

def Cause.message : Cause → String
  | .byteOrderMark => "Unexpected UTF-8 BOM (decode using utf-8-sig)"
  | .value => "Expecting value"
  | .name => "Expecting property name enclosed in double quotes"
  | .colon => "Expecting ':' delimiter"
  | .comma => "Expecting ',' delimiter"
  | .unterminated => "Unterminated string starting at"
  | .control => "Invalid control character at"
  | .escape => "Invalid \\escape"
  | .unit => "Invalid \\uXXXX escape"
  | .extra => "Extra data"
  | .digits n =>
    "Exceeds the limit (" ++ toString maxDigits ++ " digits) for integer string conversion: value has "
      ++ toString n ++ " digits; use sys.set_int_max_str_digits() to increase the limit"
  | .depth isArray =>
    "maximum recursion depth exceeded while decoding a JSON " ++ (if isArray then "array" else "object")
      ++ " from a unicode string"

/-- The wording of a fault in a text, with its line and column, both counted from one. -/
def Fault.message (s : Text) (f : Fault) : String :=
  let pos := s.length - f.left
  let before := s.take pos
  let line := before.count (.char '\n') + 1
  let column := (before.reverse.takeWhile (· != .char '\n')).length + 1
  f.cause.message ++ ": line " ++ toString line ++ " column " ++ toString column
    ++ " (char " ++ toString pos ++ ")"

end TypedClient.Json
