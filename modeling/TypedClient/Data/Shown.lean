import TypedClient.Data.Basic
import TypedClient.Text.Quoted

set_option autoImplicit false

namespace TypedClient

namespace Scalar

def shownByte (quote : Char) (b : UInt8) : List Char :=
  let c := Char.ofNat b.toNat
  if c == '\\' || c == quote then ['\\', c]
  else if c == '\n' then ['\\', 'n']
  else if c == '\r' then ['\\', 'r']
  else if c == '\t' then ['\\', 't']
  else if 0x20 ≤ b && b ≤ 0x7E then [c]
  else '\\' :: 'x' :: Text.hexDigits 2 b.toNat

def shown : Scalar → String
  | .null => "None"
  | .bool b => if b then "True" else "False"
  | .int n => toString n
  | .float x => Decimal.shown x
  | .text s => Text.quoted s
  | .date d => "datetime.date(" ++ ", ".intercalate ([d.year, d.month, d.day].map toString) ++ ")"
  | .moment m =>
    let time := [m.hour, m.minute] ++ (if m.microsecond ≠ 0 then [m.second, m.microsecond]
      else if m.second ≠ 0 then [m.second] else [])
    "datetime.datetime("
      ++ ", ".intercalate (([m.date.year, m.date.month, m.date.day] ++ time).map toString)
      ++ m.offset.elim "" (fun o => if o = 0 then ", tzinfo=datetime.timezone.utc"
        else ", tzinfo=datetime.timezone(datetime.timedelta("
          ++ (if o < 0 then "days=-1, seconds=" ++ toString (86400 + 60 * o)
            else "seconds=" ++ toString (60 * o)) ++ "))") ++ ")"
  | .bytes b =>
    let q := Text.quoteFor (b.map fun x => .char (Char.ofNat x.toNat))
    String.ofList ('b' :: q :: b.flatMap (shownByte q) ++ [q])

def kindName : Scalar → String
  | .null => "NoneType"
  | .bool _ => "bool"
  | .int _ => "int"
  | .float _ => "float"
  | .text _ => "str"
  | .date _ => "date"
  | .moment _ => "datetime"
  | .bytes _ => "bytes"

end Scalar

namespace Data

mutual

def shown : Data → String
  | .scalar s => s.shown
  | .list items => "[" ++ ", ".intercalate (shownItems items) ++ "]"
  | .map entries => "\x7b" ++ ", ".intercalate (shownEntries entries) ++ "\x7d"
  | .set [] => "set()"
  | .set members => "\x7b" ++ ", ".intercalate (members.map Scalar.shown) ++ "\x7d"
  | .deeper => "..."

def shownItems : List Data → List String
  | [] => []
  | d :: rest => shown d :: shownItems rest

def shownEntries : List (Scalar × Data) → List String
  | [] => []
  | (k, d) :: rest => (k.shown ++ ": " ++ shown d) :: shownEntries rest

end

def plainText : Data → Text
  | .scalar (.text s) => s
  | .scalar (.date d) => d.digits
  | .scalar (.moment m) => m.digits " "
  | d => d.shown

def kindName : Data → String
  | .scalar s => s.kindName
  | .list _ => "list"
  | .map _ | .deeper => "dict"
  | .set _ => "set"

end Data

end TypedClient
