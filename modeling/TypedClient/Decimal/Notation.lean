import TypedClient.Decimal.Shortest
import TypedClient.Text.Digits

set_option autoImplicit false

namespace TypedClient.Decimal

def Scaled.layout (d : Scaled) : String :=
  let ds := (toString d.digits).toList
  let n : Int := ds.length
  let lead : Int := d.exponent + n - 1
  if -4 ≤ lead && lead < 16 then
    if 0 ≤ d.exponent then String.ofList (ds ++ List.replicate d.exponent.toNat '0') ++ ".0"
    else if 0 ≤ lead then
      String.ofList (ds.take (lead + 1).toNat ++ ['.'] ++ ds.drop (lead + 1).toNat)
    else String.ofList ('0' :: '.' :: List.replicate (-lead - 1).toNat '0' ++ ds)
  else
    let mantissa := match ds with
      | [] => ""
      | [c] => String.ofList [c]
      | c :: rest => String.ofList (c :: '.' :: rest)
    let sign := if lead < 0 then "-" else "+"
    mantissa ++ "e" ++ sign ++ Text.zeroPadded 2 lead.natAbs

def shown (x : Float) : String :=
  let bits := x.toBits
  let sign := if isNegative bits then "-" else ""
  if x.isNaN then "nan"
  else if !isFinite bits then sign ++ "inf"
  else
    let b := Binary.ofBits bits
    if b.m == 0 then sign ++ "0.0" else sign ++ b.shortest.layout

def fixed (places : Nat) (x : Float) : String :=
  let bits := x.toBits
  let sign := if isNegative bits then "-" else ""
  if x.isNaN then "nan"
  else if !isFinite bits then sign ++ "inf"
  else
    let ds := (Text.zeroPadded (places + 1) ((Binary.ofBits bits).scaledRound places)).toList
    let point := ds.length - places
    if places == 0 then sign ++ String.ofList ds
    else sign ++ String.ofList (ds.take point ++ ['.'] ++ ds.drop point)

end TypedClient.Decimal
