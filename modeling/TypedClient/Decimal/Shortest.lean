import TypedClient.Decimal.Binary

set_option autoImplicit false

/-!
# The fewest digits that read back

Among the decimals that read back to a number, the one with the fewest digits is taken, and of two the
nearer; an exact tie goes to the even digit.
-/

namespace TypedClient.Decimal

/-- The least `k` with `m · 2^q < 10^k`, searched upwards from a lower bound. -/
def scaleFrom (x : Binary) : Nat → Int → Int
  | 0, k => k
  | fuel + 1, k => if compareScaled 1 k x.m x.q == .gt then k else scaleFrom x fuel (k + 1)

def Binary.scale (x : Binary) : Int :=
  let log2 : Int := x.m.log2 + x.q
  -- 10^k is at least 2^(3k) and at most 2^(4k), so the estimate from below is short of the scale.
  scaleFrom x 8 (log2 * 30103 / 100000 - 1)

def Binary.floorOn (x : Binary) (exponent : Int) : Nat :=
  (x.m * twoTo x.q.toNat * tenTo (-exponent).toNat) / (twoTo (-x.q).toNat * tenTo exponent.toNat)

/-- The neighbour on the grid `10^exponent` that reads back, the nearer one if both do. -/
def Binary.onGrid? (x : Binary) (exponent : Int) : Option Scaled :=
  let n := x.floorOn exponent
  let down : Scaled := ⟨n, exponent⟩
  let up : Scaled := ⟨n + 1, exponent⟩
  match x.readsBack down && n != 0, x.readsBack up with
  | true, false => some down
  | false, true => some up
  | false, false => none
  | true, true =>
    -- compare twice the number with the sum of the two neighbours
    match compareScaled (2 * n + 1) exponent (2 * x.m) x.q with
    | .gt => some down
    | .lt => some up
    | .eq => some (if n % 2 == 0 then down else up)

def Scaled.strip : Nat → Scaled → Scaled
  | 0, d => d
  | fuel + 1, d =>
    if d.digits != 0 && d.digits % 10 == 0 then Scaled.strip fuel ⟨d.digits / 10, d.exponent + 1⟩ else d

def Binary.exact (x : Binary) : Scaled :=
  ⟨x.m * twoTo x.q.toNat * Nat.pow 5 (-x.q).toNat, -((-x.q).toNat : Int)⟩

/-- The decimal with the fewest digits that reads back to a number other than zero. -/
def Binary.shortest (x : Binary) : Scaled :=
  let k := x.scale
  match (List.range 17).findSome? fun n => x.onGrid? (k - (n + 1 : Nat)) with
  | some d => d.strip 20
  | none => x.exact

end TypedClient.Decimal
