import TypedClient.Decimal.Binary
import TypedClient.Text.Blank

set_option autoImplicit false

/-!
# Reading decimals

A decimal is read as the nearest 64-bit number. Exponents so large or so small that the answer is certain
are decided without the power of ten.
-/

namespace TypedClient.Decimal

def nearest (negative : Bool) (digits : Nat) (exponent : Int) : Float :=
  let size : Int := (toString digits).length
  let x :=
    if digits == 0 then Float.ofScientific 0 false 0
    else if 310 < exponent + size then 1.0 / 0.0
    else if exponent + size < -400 then Float.ofScientific 0 false 0
    else Float.ofScientific digits (exponent < 0) exponent.natAbs
  if negative then -x else x

def natOf (digits : List Char) : Nat := digits.foldl (fun n c => 10 * n + (c.toNat - 48)) 0

/-- The 64-bit number written with whole digits, fraction digits and an exponent. -/
def ofParts (negative : Bool) (whole fraction : List Char) (exponent : Int) : Float :=
  nearest negative (natOf (whole ++ fraction)) (exponent - fraction.length)

/-- An exponent that a text consists of: nothing, or a mark, perhaps a sign, and digits. -/
def exponentOf? : List Char → Option Int
  | [] => some 0
  | mark :: rest =>
    let (negative, digits) := match rest with
      | '-' :: r => (true, r)
      | '+' :: r => (false, r)
      | r => (false, r)
    if (mark == 'e' || mark == 'E') && !digits.isEmpty && digits.all Char.isDigit then
      let n : Int := natOf digits
      some (if negative then -n else n)
    else none

def unsignedOfText? (negative : Bool) (s : List Char) : Option Float :=
  let signed (x : Float) : Float := if negative then -x else x
  if ["inf", "infinity"].contains (String.ofList (s.map Char.toLower)) then some (signed (1.0 / 0.0))
  else if String.ofList (s.map Char.toLower) == "nan" then some (0.0 / 0.0)
  else
    let whole := s.takeWhile Char.isDigit
    let rest := s.dropWhile Char.isDigit
    let (fraction, rest) := match rest with
      | '.' :: r => (r.takeWhile Char.isDigit, r.dropWhile Char.isDigit)
      | r => ([], r)
    if whole.isEmpty && fraction.isEmpty then none
    else (exponentOf? rest).map (ofParts negative whole fraction)

/-- The 64-bit number that a text is: blanks around it, a sign, and words for the infinite and for what is
no number are taken. -/
def ofText? (s : List Char) : Option Float :=
  match Text.trimSpace s with
  | '-' :: r => unsignedOfText? true r
  | '+' :: r => unsignedOfText? false r
  | r => unsignedOfText? false r

end TypedClient.Decimal
