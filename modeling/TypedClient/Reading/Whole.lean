import TypedClient.Decimal.Reading
import TypedClient.Reading.Basic
import TypedClient.Text.Blank

set_option autoImplicit false

/-!
# Reading whole numbers

A whole number may be given as such, as a truth value, as a number whose fraction is zero, or as a text. A
text may have blanks around it, a sign, zeros in front, low lines between its digits and a fraction of
zeros. How many digits are taken is bounded, and a text that is a number as it stands is told apart from one
that becomes a number only when it is cleaned.
-/

namespace TypedClient.Reading

def maxDigits : Nat := 4300

def isLeadingDigit (c : Char) : Bool := c.isDigit && c != '0'

/-- Whether a text starts with a number that is too long: a sign and its digits, without zeros in front. What
stands behind the digits does not matter. -/
def startsTooLong (s : List Char) : Bool :=
  let digits := match s with
    | '-' :: rest => rest
    | s => s
  digits.head?.any isLeadingDigit
    && maxDigits < s.length - digits.length + (digits.takeWhile Char.isDigit).length

/-- Drop zeros in front of a number, with low lines among them. In front of a point the character there is
kept, and of nothing but zeros and low lines the last. -/
def dropZeros : List Char → Option (List Char)
  | [] => none
  | c :: rest =>
    if isLeadingDigit c || c == '-' then some (c :: rest)
    else if c != '0' then none
    else
      let isPassed (c : Char) : Bool := c == '0' || c == '_'
      let last := ((c :: rest).takeWhile isPassed).getLastD c
      match rest.dropWhile isPassed with
      | [] => some [last]
      | d :: tail =>
        if isLeadingDigit d || d == '-' then some (d :: tail)
        else if d == '.' then some (last :: d :: tail)
        else none

def dropFraction (s : List Char) : List Char :=
  match s.dropWhile (· != '.') with
  | '.' :: '0' :: zeros => if zeros.all (· == '0') then s.takeWhile (· != '.') else s
  | _ => s

def hasDoubleLine : List Char → Bool
  | '_' :: '_' :: _ => true
  | _ :: rest => hasDoubleLine rest
  | [] => false

def dropLines (s : List Char) : List Char :=
  if s.head? == some '_' || s.getLast? == some '_' || hasDoubleLine s then s else s.filter (· != '_')

def cleaned (s : List Char) : Option (List Char) :=
  let body : Option (List Char) := match Text.trimSpace s with
    | '+' :: '-' :: _ => none
    | '+' :: rest => some rest
    | s => some s
  (body.bind dropZeros).map fun s => dropLines (dropFraction s)

/-- The number that digits are, if there are only digits and not too many. -/
def natOfDigits? (s : List Char) : Option Nat :=
  if s.isEmpty || maxDigits < s.length || !s.all Char.isDigit then none else some (Decimal.natOf s)

def intOfText? (s : String) : Option Int :=
  match cleaned s.toList with
  | none => none
  | some ('-' :: digits) => (natOfDigits? digits).map fun n => -(n : Int)
  | some digits => (natOfDigits? digits).map fun n => (n : Int)

def int (d : Data) : Reading Int :=
  let ofText (s : String) : Reading Int :=
    if startsTooLong s.toList then fail .hugeInt
    else (intOfText? s).elim (fail .unreadableInt) .ok
  match d with
  | .scalar (.int n) => .ok n
  | .scalar (.bool b) => .ok (if b then 1 else 0)
  | .scalar (.text t) => t.string?.elim (fail .notUnicode) ofText
  | .scalar (.bytes b) => (String.fromUTF8? ⟨b.toArray⟩).elim (fail .unreadableInt) ofText
  | .scalar (.float x) => match Decimal.whole? x with
    | some n => if inWordRange n then .ok n else fail .hugeInt
    | none => fail (if x.isFinite then .fractionalInt else .infiniteInt)
  | _ => fail .notInt

def count (d : Data) : Reading Nat :=
  match int d with
  | .ok n => if n < 0 then fail .negative else .ok n.toNat
  | .bad issues => .bad issues

end TypedClient.Reading
