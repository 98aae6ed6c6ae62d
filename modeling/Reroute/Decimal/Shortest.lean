/-!
# Shortest decimals

The fewest decimal digits that identify a binary floating-point number, found in
exact arithmetic on naturals: the reals that round to the number form an
interval, and the coarsest decimal grid with a point in it is taken.
-/

namespace Reroute.Decimal

/-- A finite positive binary number, `m * 2 ^ q`. -/
structure Binary where
  m : Nat
  q : Int
  /-- The gap to the number below is half the gap to the number above. -/
  narrowBelow : Bool

/-- The size of the finite number with the given bits, without its sign. -/
def Binary.ofBits (bits : UInt64) : Binary :=
  let e := ((bits >>> 52) &&& 0x7FF).toNat
  let f := (bits &&& 0xFFFFFFFFFFFFF).toNat
  if e = 0 then ⟨f, -1074, false⟩
  else ⟨0x10000000000000 + f, (e : Int) - 1075, f = 0 && 1 < e⟩

/-- A decimal number, `digits * 10 ^ exponent`. -/
structure Scaled where
  digits : Nat
  exponent : Int
  deriving Repr, DecidableEq

/-- Compares `a * 10 ^ i` with `n * 2 ^ j`. -/
def compareScaled (a : Nat) (i : Int) (n : Nat) (j : Int) : Ordering :=
  compare ((a * Nat.pow 10 i.toNat) <<< (-j).toNat) ((n * Nat.pow 10 (-i).toNat) <<< j.toNat)

/-- Whether `d` is among the reals that round to `x`, to nearest with ties to
even. -/
def Binary.readsBack (x : Binary) (d : Scaled) : Bool :=
  let low := if x.narrowBelow then 4 * x.m - 1 else 4 * x.m - 2
  let high := 4 * x.m + 2
  let closed := x.m % 2 = 0
  let below := compareScaled d.digits d.exponent low (x.q - 2)
  let above := compareScaled d.digits d.exponent high (x.q - 2)
  (below = .gt || (closed && below = .eq)) && (above = .lt || (closed && above = .eq))

/-- The quotient of `x` by `10 ^ e`, rounded down. -/
def Binary.onGrid (x : Binary) (e : Int) : Nat :=
  ((x.m * Nat.pow 10 (-e).toNat) <<< x.q.toNat) / (Nat.pow 10 e.toNat <<< (-x.q).toNat)

def Binary.scale (x : Binary) : Int :=
  let log2 : Int := x.q + x.m.log2
  let guess : Int := (log2 * 1233).fdiv 4096 - 1
  let fits (k : Int) : Bool := compareScaled 1 k x.m x.q = .gt
  match (List.range 6).find? fun i : Nat => fits (guess + i) with
  | some i => guess + i
  | none => guess + 6

/-- The point of the grid `10 ^ e` that reads back as `x`: of the two neighbours
of `x` the nearer one, and the even one of two that are equally near. -/
def Binary.pointOn? (x : Binary) (e : Int) : Option Scaled :=
  let n := x.onGrid e
  let low : Scaled := ⟨n, e⟩
  let high : Scaled := ⟨n + 1, e⟩
  match x.readsBack low, x.readsBack high with
  | true, false => some low
  | false, true => some high
  | false, false => none
  | true, true =>
    match compareScaled (2 * n + 1) e (2 * x.m) x.q with
    | .gt => some low
    | .lt => some high
    | .eq => some (if n % 2 = 0 then low else high)

def Scaled.trimZeros (d : Scaled) : Scaled :=
  if _h : 10 ≤ d.digits ∧ d.digits % 10 = 0 then
    trimZeros ⟨d.digits / 10, d.exponent + 1⟩
  else d
termination_by d.digits
decreasing_by omega

/-- The decimal with the fewest digits that reads back as `x`, for `x` above
zero. Seventeen digits suffice; the value itself stands in should they not. -/
def Binary.shortest (x : Binary) : Scaled :=
  let k := x.scale
  match (List.range 17).findSome? fun i : Nat => x.pointOn? (k - (i + 1)) with
  | some d => d.trimZeros
  | none => Scaled.trimZeros ⟨x.onGrid x.q, x.q⟩

end Reroute.Decimal
