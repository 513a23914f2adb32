import TypedClient.Data.Basic
import TypedClient.Text.Blank
import TypedClient.Text.Casing
import TypedClient.Text.DecimalDigit
import TypedClient.Yaml.Fault
import TypedClient.Yaml.Kind

set_option autoImplicit false

namespace TypedClient.Yaml

def digitValue? (c : Char) : Option Nat :=
  if c.isDigit then some (c.toNat - 48)
  else if 'a' ≤ c && c ≤ 'z' then some (c.toNat - 87)
  else if 'A' ≤ c && c ≤ 'Z' then some (c.toNat - 55)
  else none

def baseMark? (base : Nat) : Option Char :=
  if base = 2 then some 'b' else if base = 8 then some 'o' else if base = 16 then some 'x' else none

def dropBaseMark (base : Nat) : List Char → List Char
  | '0' :: c :: rest => if baseMark? base == some c.toLower then rest else '0' :: c :: rest
  | s => s

def natIn? (base : Nat) (s : List Char) : Option Nat :=
  if s.isEmpty then none
  else s.foldl (fun n c => n.bind fun n => (digitValue? c).bind fun d =>
    if d < base then some (base * n + d) else none) (some 0)

/-- The whole number that a text is in a base; blanks around it are passed over. Numbers of too many digits are
refused, unless the base is a power of two. -/
def wholeIn (base : Nat) (s : List Char) : Except Fault Int :=
  let bare := Text.plainDigits (Text.trimSpace s)
  let digits := dropBaseMark base (unsigned bare)
  let count := (digits.takeWhile Char.isDigit).length
  if base == 10 && Json.maxDigits < count then .error (.digits count)
  else match natIn? base digits with
    | none => .error (.notWhole base (String.ofList s))
    | some n => .ok (if bare.head? == some '-' then -(n : Int) else n)

def inSixties (parts : List Int) : Int := parts.foldl (fun n p => 60 * n + p) 0

def wholes : List (List Char) → Except Fault (List Int)
  | [] => .ok []
  | s :: rest => match wholeIn 10 s with
    | .error f => .error f
    | .ok n => match wholes rest with
      | .error f => .error f
      | .ok ns => .ok (n :: ns)

def withoutLines (text : String) : List Char := text.toList.filter (· != '_')

def intOf (text : String) : Except Fault Int :=
  let s := withoutLines text
  let magnitude : Except Fault Int := match unsigned s with
    | [] => .error .noDigits
    | '0' :: 'b' :: rest => wholeIn 2 rest
    | '0' :: 'x' :: rest => wholeIn 16 rest
    | '0' :: rest => wholeIn 8 ('0' :: rest)
    | bare => if bare.contains ':' then (wholes (bare.splitOn ':')).map inSixties else wholeIn 10 bare
  magnitude.map fun n => if s.head? == some '-' then -n else n

def decimal (s : List Char) : Except Fault Float :=
  match Decimal.ofText? (Text.plainDigits s) with
  | none => .error (.notDecimal (String.ofList s))
  | some x => .ok x

def decimals : List (List Char) → Except Fault (List Float)
  | [] => .ok []
  | s :: rest => match decimal s with
    | .error f => .error f
    | .ok x => match decimals rest with
      | .error f => .error f
      | .ok xs => .ok (x :: xs)

/-- The sum of parts of sixty, the lowest part first; `weight` is that of the first part. -/
def sumSixties (sum : Float) (weight : Nat) : List Float → Except Fault Float
  | [] => .ok sum
  | x :: rest =>
    let w := Decimal.nearest false weight 0
    if w.isInf then .error .hugeWeight else sumSixties (sum + x * w) (60 * weight) rest

def notANumber : List Char := ".nan".toList

/-- A text as the numbers with a point are read from it: in lower case and without low lines. -/
def floatText (text : String) : List Char := (Text.lower (String.ofList (withoutLines text))).toList

def floatOf (text : String) : Except Fault Float :=
  let s := floatText text
  let bare := unsigned s
  let signed (x : Float) : Float := if s.head? == some '-' then -x else x
  if s.isEmpty then .error .noDigits
  else if bare == ".inf".toList then .ok (signed (1.0 / 0.0))
  else if bare == notANumber then .ok (0.0 / 0.0)
  else if bare.contains ':' then
    match decimals (bare.splitOn ':') with
    | .error f => .error f
    | .ok xs => (sumSixties 0.0 1 xs.reverse).map signed
  else (decimal bare).map signed

def dateOf (year month day : Nat) : Except Fault Date :=
  if year = 0 then .error (.year year)
  else if month = 0 || 12 < month then .error .month
  else if day = 0 || monthDays year month < day then .error .day
  else .ok ⟨year, month, day⟩

def microseconds (fraction : List Char) : Nat :=
  Decimal.natOf (fraction.take 6 ++ List.replicate (6 - fraction.length) '0')

def offsetOf : Bool × List Char × List Char → Except Fault Int
  | (negative, hours, minutes) =>
    let n : Int := 60 * Decimal.natOf hours + Decimal.natOf minutes
    let n := if negative then -n else n
    if 1440 ≤ n.natAbs then .error (.offset n) else .ok n

def momentOf (t : Stamp) : Except Fault Scalar :=
  let date := dateOf (Decimal.natOf t.year) (Decimal.natOf t.month) (Decimal.natOf t.day)
  match t.time with
  | none => date.map .date
  | some (hour, minute, second, fraction) =>
    let offset : Except Fault (Option Int) := match t.zone with
      | none => .ok none
      | some z => (offsetOf z).map some
    match offset with
    | .error f => .error f
    | .ok offset => match date with
      | .error f => .error f
      | .ok date =>
        let hour := Decimal.natOf hour
        let minute := Decimal.natOf minute
        let second := Decimal.natOf second
        if 23 < hour then .error .hour
        else if 59 < minute then .error .minute
        else if 59 < second then .error .second
        else .ok (.moment ⟨date, hour, minute, second, microseconds fraction, offset⟩)

def sextet? (c : Char) : Option Nat :=
  if 'A' ≤ c && c ≤ 'Z' then some (c.toNat - 65)
  else if 'a' ≤ c && c ≤ 'z' then some (c.toNat - 71)
  else if c.isDigit then some (c.toNat + 4)
  else if c == '+' then some 62
  else if c == '/' then some 63
  else none

/-- Bytes written in base 64. `held` bits of `value` are read and not yet given out; `pads` counts the
equals signs in a row. Characters that mean nothing are passed over. -/
def bytesFrom (held value pads : Nat) : List Char → Option (List UInt8)
  | [] => if held = 0 then some [] else none
  | c :: rest =>
    if c == '=' then
      -- two or three sextets are read when four or two bits are held
      if held = 4 && 1 ≤ pads || held = 2 then some [] else bytesFrom held value (pads + 1) rest
    else match sextet? c with
      | none => bytesFrom held value pads rest
      | some s =>
        let value := 64 * value + s
        let held := held + 6
        if held < 8 then bytesFrom held value 0 rest
        else
          (bytesFrom (held - 8) (value % Decimal.twoTo (held - 8)) 0 rest).map
            (UInt8.ofNat (value / Decimal.twoTo (held - 8)) :: ·)

def boolWords : List (String × Bool) :=
  [("yes", true), ("no", false), ("true", true), ("false", false), ("on", true), ("off", false)]

def boolOf (text : String) : Except Fault Bool :=
  match boolWords.lookup (Text.lower text) with
  | some b => .ok b
  | none => .error (.notBool (Text.lower text))

def wholeScalar (kind : Kind) (text : String) : Except Fault Scalar :=
  match kind with
  | .null => .ok .null
  | .bool => (boolOf text).map .bool
  | .int => (intOf text).map .int
  | .float => (floatOf text).map .float
  | .str => .ok (.text text)
  | .timestamp => match Stamp.ofText? text.toList with
    | none => .error .notMoment
    | some t => momentOf t
  | .binary =>
    if text.toList.all fun c => c.toNat < 128 then
      match bytesFrom 0 0 0 text.toList with
      | some bytes => .ok (.bytes bytes)
      | none => .error .malformed
    else .error .malformed
  | _ => .error .malformed

/-- The value of a text with halves, which stand in no word, no number and no moment. -/
def tornScalar (kind : Kind) (text : Text) : Except Fault Scalar :=
  match kind with
  | .null => .ok .null
  | .bool => .error (.notBool text.quoted)
  | .int => .error (.notWhole 10 text)
  | .float => .error (.notDecimal text)
  | .str => .ok (.text text)
  | .timestamp => .error .notMoment
  | _ => .error .malformed

def scalarOf (kind : Kind) (text : Text) : Except Fault Scalar :=
  text.string?.elim (tornScalar kind text) (wholeScalar kind)

end TypedClient.Yaml
