set_option autoImplicit false

namespace TypedClient.Decimal

def twoTo (n : Nat) : Nat := Nat.pow 2 n

def tenTo (n : Nat) : Nat := Nat.pow 10 n

structure Binary where
  m : Nat
  q : Int
  narrowBelow : Bool

/-- Whether the bits are those of a number that is neither infinite nor undefined. -/
def isFinite (bits : UInt64) : Bool := (bits >>> 52) &&& 0x7FF != 0x7FF

def isNegative (bits : UInt64) : Bool := bits >>> 63 == 1

def Binary.ofBits (bits : UInt64) : Binary :=
  let e := ((bits >>> 52) &&& 0x7FF).toNat
  let f := (bits &&& 0xFFFFFFFFFFFFF).toNat
  if e == 0 then ⟨f, -1074, false⟩
  else ⟨twoTo 52 + f, (e : Int) - 1075, f == 0 && e > 1⟩

structure Scaled where
  digits : Nat
  exponent : Int

def compareScaled (a : Nat) (i : Int) (n : Nat) (j : Int) : Ordering :=
  compare (a * tenTo i.toNat * twoTo (-j).toNat) (n * twoTo j.toNat * tenTo (-i).toNat)

/-- Whether a decimal lies among the reals that round to the number, a half going to the even side. -/
def Binary.readsBack (x : Binary) (d : Scaled) : Bool :=
  let low := if x.narrowBelow then 4 * x.m - 1 else 4 * x.m - 2
  let high := 4 * x.m + 2
  let closed := x.m % 2 == 0
  let below := compareScaled d.digits d.exponent low (x.q - 2)
  let above := compareScaled d.digits d.exponent high (x.q - 2)
  (below == .gt || (closed && below == .eq)) && (above == .lt || (closed && above == .eq))

/-- A quotient rounded to the nearest natural number, a half going to the even one. -/
def roundHalfEven (num den : Nat) : Nat :=
  let q := num / den
  match compare (2 * (num % den)) den with
  | .lt => q
  | .gt => q + 1
  | .eq => if q % 2 == 0 then q else q + 1

def Binary.scaledRound (x : Binary) (places : Nat) : Nat :=
  roundHalfEven (x.m * tenTo places * twoTo x.q.toNat) (twoTo (-x.q).toNat)

def Binary.whole? (x : Binary) : Option Nat :=
  let den := twoTo (-x.q).toNat
  if x.m % den == 0 then some (x.m / den * twoTo x.q.toNat) else none

def whole? (x : Float) : Option Int :=
  let bits := x.toBits
  if isFinite bits then
    (Binary.ofBits bits).whole?.map fun n => if isNegative bits then -(n : Int) else n
  else none

end TypedClient.Decimal
