import TypedClient.Text.CharRange
import TypedClient.Text.Letter
import TypedClient.Text.PrintableTable

set_option autoImplicit false

namespace TypedClient.Text

def isPrintable (c : Char) : Bool := inRanges printableRanges c.toNat

def hexDigit (n : Nat) : Char := if n < 10 then Char.ofNat (48 + n) else Char.ofNat (87 + n)

def hexDigits : Nat → Nat → List Char
  | 0, _ => []
  | width + 1, n => hexDigits width (n / 16) ++ [hexDigit (n % 16)]

def quotedChar (quote : Char) (c : Char) : List Char :=
  if c == '\\' || c == quote then ['\\', c]
  else if c == '\n' then ['\\', 'n']
  else if c == '\r' then ['\\', 'r']
  else if c == '\t' then ['\\', 't']
  else if isPrintable c then [c]
  else if c.toNat < 0x100 then '\\' :: 'x' :: hexDigits 2 c.toNat
  else if c.toNat < 0x10000 then '\\' :: 'u' :: hexDigits 4 c.toNat
  else '\\' :: 'U' :: hexDigits 8 c.toNat

def quotedLetter (quote : Char) : Letter → List Char
  | .char c => quotedChar quote c
  | .half h => '\\' :: 'u' :: hexDigits 4 h.code

def quoteFor (t : Text) : Char :=
  if t.contains (.char '\'') && !t.contains (.char '"') then '"' else '\''

def quoted (t : Text) : String :=
  let q := quoteFor t
  String.ofList (q :: t.flatMap (quotedLetter q) ++ [q])

/-- A text with escapes for its halves. -/
def printable (t : Text) : String :=
  String.ofList (t.flatMap fun l => l.char?.elim (quotedLetter '\'' l) ([·]))

def quotedList (ts : List Text) : String := "[" ++ ", ".intercalate (ts.map quoted) ++ "]"

end TypedClient.Text
