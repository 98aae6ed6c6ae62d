import Reroute.Document.Datum

/-!
# The order of a set of numbers

The numbers of a set are shown in the order of a table, not in the order in which
they were written. Each number has a code, which is the number itself as long as
that is whole and small; it goes to the slot of the table that its code leads to,
and when that is taken, to the next free one on a walk through the table. Members
that are no numbers have no code, and a set with one of them is shown as it was
written.
-/

namespace Reroute.Datum

/-- The codes of numbers are remainders by this prime, 2 to the power of 61 less
one. -/
def codeModulus : Nat := (1 <<< 61) - 1

/-- The code of a number with a sign, from the remainder of its size. The code -1
is not in use. -/
def signedCode (negative : Bool) (n : Nat) : Int :=
  if !negative then n else if n = 1 then -2 else -n

/-- The code of a finite floating-point number: since 2 to the power of 61 leaves 1,
its exponent counts by its remainder. -/
def realCode (x : Float) : Int :=
  let bits := x.toBits
  let b := Decimal.Binary.ofBits (bits &&& 0x7FFFFFFFFFFFFFFF)
  signedCode (bits >>> 63 = 1) ((b.m <<< (b.q % 61).toNat) % codeModulus)

/-- The code of an infinite number without its sign. -/
def infiniteCode : Nat := 314159

/-- The code of a number or a truth value. -/
def code? : Datum → Option Int
  | .bool b => some (bitOf b)
  | .int i => some (signedCode (i < 0) (i.natAbs % codeModulus))
  | .real x =>
    if x == Decimal.infinity then some infiniteCode
    else if x == -Decimal.infinity then some (-infiniteCode)
    else some (realCode x)
  | _ => none

/-- A table: in each slot a member, or nothing. -/
abbrev Slots : Type := Array (Option Datum)

namespace Slots

/-- The first size of `size`, its double and so on that exceeds `least`; `rounds`
bounds the doublings. -/
def sizeAbove (least : Nat) : (rounds size : Nat) → Nat
  | 0, size => size
  | rounds + 1, size => if least < size then size else sizeAbove least rounds (2 * size)

/-- The number of slots for some members: 8, or the power of two above the double
of their number when 8 would leave too little room. -/
def capacity (members : Nat) : Nat :=
  if 5 * members < 21 then 8 else sizeAbove (2 * members) members 8

/-- How many slots behind the one that a walk came to are looked at along with it, if
the table has so many left. -/
def stretch : Nat := 9

/-- The first free slot among those looked at together at `i`. -/
def freeAt? (t : Slots) (i : Nat) : Option Nat :=
  let length := if i + stretch < t.size then stretch + 1 else 1
  (List.range' i length).find? fun j => (t.getD j none).isNone

/-- The free slot that a walk from `i` finds, where `rest` is what is left of the
code; `steps` bounds the walk. -/
def walk (t : Slots) : (steps rest i : Nat) → Nat
  | 0, _, i => i
  | steps + 1, rest, i =>
    match t.freeAt? i with
    | some j => j
    | none =>
      let rest := rest >>> 5
      t.walk steps rest ((5 * i + 1 + rest) % t.size)

def place (t : Slots) (member : Int × Datum) : Slots :=
  let rest := (member.1 % (1 <<< 64)).toNat
  t.setIfInBounds (t.walk (t.size + 16) rest (rest % t.size)) (some member.2)

end Slots

/-- The members of a set in the order in which they are shown. -/
def inSlots (members : List Datum) : List Datum :=
  match members.mapM fun m => m.code?.map fun c => (c, m) with
  | none => members
  | some coded =>
    let start : Slots := Array.replicate (Slots.capacity members.length) none
    (coded.foldl Slots.place start).toList.reduceOption

end Reroute.Datum
