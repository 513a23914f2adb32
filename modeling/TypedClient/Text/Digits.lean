set_option autoImplicit false

namespace TypedClient.Text

def groupThrees : List Char → List Char
  | [] => []
  | c :: rest =>
    if rest.length % 3 == 0 && !rest.isEmpty then c :: ',' :: groupThrees rest
    else c :: groupThrees rest

def grouped (n : Nat) : String := String.ofList (groupThrees (toString n).toList)

def groupedInt (n : Int) : String := (if n < 0 then "-" else "") ++ grouped n.natAbs

def padLeft (width : Nat) (s : String) : String :=
  String.ofList (List.replicate (width - s.length) ' ') ++ s

def padRight (width : Nat) (s : String) : String :=
  s ++ String.ofList (List.replicate (width - s.length) ' ')

def zeroPadded (width : Nat) (n : Nat) : String :=
  let digits := toString n
  String.ofList (List.replicate (width - digits.length) '0') ++ digits

end TypedClient.Text
