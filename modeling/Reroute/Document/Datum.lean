import Reroute.Decimal.Notation
import Reroute.Document.Moment
import Reroute.Json.Basic
import Reroute.Text.Printable
import Reroute.Text.Basic

/-!
# Decoded documents

The values that a rules file can hold, whatever format it is written in, and the
form in which messages show them.

A container may hold itself. Such a container has a mark, and `again` stands for
the container with a mark around the place where it occurs. The parts of a
container are taken out of it with `items?`, `entries?` and `get?`, which put the
container in place of the references to it.
-/

namespace Reroute

/-- The brackets around the parts of a container. -/
inductive Bracket where
  | square
  | curly
  | round
  deriving Repr, DecidableEq

namespace Bracket

def enclose (s : List Char) : Bracket → List Char
  | .square => '[' :: s ++ [']']
  | .curly => '\x7b' :: s ++ ['\x7d']
  | .round => '(' :: s ++ [')']

def hint (b : Bracket) : List Char := b.enclose ['.', '.', '.']

end Bracket

/-- A decoded value. -/
inductive Datum where
  | null
  | bool (b : Bool)
  | int (i : Int)
  /-- A floating-point number, other than the value that is none. -/
  | real (x : Float)
  /-- The value that is no number: the usual one, or the one that was made at a
  mark. It differs from all others of its kind. -/
  | noNumber (mark : Option Nat)
  | str (s : Points)
  | bytes (b : List UInt8)
  | date (d : Date)
  | moment (m : Moment)
  | list (mark : Option Nat) (items : List Datum)
  | pair (mark : Option Nat) (first second : Datum)
  | map (mark : Option Nat) (entries : List (Datum × Datum))
  | set (items : List Datum)
  /-- The container with a mark, by its brackets. -/
  | again (mark : Nat) (bracket : Bracket)
  deriving Inhabited

namespace Datum

mutual

def ofJson : Json → Datum
  | .null => .null
  | .bool b => .bool b
  | .int i => .int i
  | .real x => if x.isNaN then .noNumber none else .real x
  | .str s => .str s
  | .arr vs => .list none (ofItems vs)
  | .obj ms => .map none (ofMembers ms)

def ofItems : List Json → List Datum
  | [] => []
  | v :: vs => ofJson v :: ofItems vs

def ofMembers : List (Points × Json) → List (Datum × Datum)
  | [] => []
  | (k, v) :: ms => (.str k, ofJson v) :: ofMembers ms

end

mutual

/-- The value with `outer`, whose mark is `mark`, in place of the references to
it. -/
def unroll (mark : Option Nat) (outer : Datum) : Datum → Datum
  | .again k bracket => if mark = some k then outer else .again k bracket
  | .list k vs => .list k (unrollAll mark outer vs)
  | .pair k a b => .pair k (unroll mark outer a) (unroll mark outer b)
  | .map k es => .map k (unrollEntries mark outer es)
  | v => v

def unrollAll (mark : Option Nat) (outer : Datum) : List Datum → List Datum
  | [] => []
  | v :: vs => unroll mark outer v :: unrollAll mark outer vs

def unrollEntries (mark : Option Nat) (outer : Datum) :
    List (Datum × Datum) → List (Datum × Datum)
  | [] => []
  | (k, v) :: es => (unroll mark outer k, unroll mark outer v) :: unrollEntries mark outer es

end

def items? (d : Datum) : Option (List Datum) :=
  match d with
  | .list mark vs => some (unrollAll mark d vs)
  | _ => none

def entries? (d : Datum) : Option (List (Datum × Datum)) :=
  match d with
  | .map mark es => some (unrollEntries mark d es)
  | _ => none

def isText (s : Points) : Datum → Bool
  | .str t => t = s
  | _ => false

def get? (name : Points) (d : Datum) : Option Datum :=
  d.entries?.bind fun es => (es.find? fun e => e.1.isText name).map (·.2)

def intEqReal (i : Int) (x : Float) : Bool :=
  let bits := x.toBits
  let size := bits &&& 0x7FFFFFFFFFFFFFFF
  if 0x7FF0000000000000 ≤ size then false
  else
    let b := Decimal.Binary.ofBits size
    let negative := bits >>> 63 = 1
    i.natAbs <<< (-b.q).toNat = b.m <<< b.q.toNat && (i = 0 || decide (i < 0) = negative)

/-- The number that a truth value equals. -/
def bitOf (b : Bool) : Int := if b then 1 else 0

/-- Whether two keys are the same: numbers and truth values by their size, texts
and bytes by their content, moments by the instant. -/
def sameKey : Datum → Datum → Bool
  | .null, .null => true
  | .bool a, .bool b => a = b
  | .bool a, .int i | .int i, .bool a => i = bitOf a
  | .bool a, .real x | .real x, .bool a => intEqReal (bitOf a) x
  | .int i, .int j => i = j
  | .int i, .real x | .real x, .int i => intEqReal i x
  | .real x, .real y => x == y
  | .noNumber a, .noNumber b => a = b
  | .str s, .str t => s = t
  | .bytes a, .bytes b => a = b
  | .date a, .date b => a = b
  | .moment a, .moment b => a.same b
  | _, _ => false

/-- The entries with what stands under `key` set to `v`: under the old key where
there is one, or at the end. -/
def put {α : Type} (key : Datum) (v : α) : List (Datum × α) → List (Datum × α)
  | [] => [(key, v)]
  | e :: es => if sameKey e.1 key then (e.1, v) :: es else e :: put key v es

/-! ## Showing a value -/

/-- Why a value cannot be shown. -/
inductive Unshown where
  /-- A number in it has too many digits. -/
  | tooLong
  /-- It is nested too deeply. -/
  | tooDeep
  deriving Repr, DecidableEq

/-- The form of a whole number, unless it is too long. -/
def showInt (i : Int) : Except Unshown (List Char) :=
  if Nat.pow 10 Text.maxDigits ≤ i.natAbs then .error .tooLong else .ok (Text.integer i)

/-- Texts with a comma and a space between them. -/
def commas (ts : List (List Char)) : List Char := Text.join [',', ' '] ts

def showOffset (minutes : Int) : List Char :=
  let seconds := minutes * 60
  if seconds = 0 then "datetime.timezone.utc".toList
  else
    let delta :=
      if seconds < 0 then "days=-1, seconds=".toList ++ Text.integer (seconds + 86400)
      else "seconds=".toList ++ Text.integer seconds
    "datetime.timezone(datetime.timedelta(".toList ++ delta ++ "))".toList

def showMoment (m : Moment) : List Char :=
  let numbers := m.numbers.map Text.decimal
  let parts := match m.offset with
    | some o => numbers ++ ["tzinfo=".toList ++ showOffset o]
    | none => numbers
  "datetime.datetime(".toList ++ commas parts ++ [')']

mutual

/-- The form of a value inside containers with the marks `around`, where `room`
levels may still be nested. A container inside itself is only hinted at. -/
def shownIn (room : Nat) (around : List Nat) : Datum → Except Unshown (List Char)
  | .null => .ok "None".toList
  | .bool true => .ok "True".toList
  | .bool false => .ok "False".toList
  | .int i => showInt i
  | .real x => .ok (Decimal.text x)
  | .noNumber _ => .ok "nan".toList
  | .str s => .ok (Text.quoted s)
  | .bytes b => .ok (Text.quotedBytes b)
  | .date d => .ok ("datetime.date(".toList ++ commas (d.numbers.map Text.decimal) ++ [')'])
  | .moment m => .ok (showMoment m)
  | .list mark vs =>
    if mark.any around.contains then .ok (Bracket.hint .square)
    else if room = 0 then .error .tooDeep
    else do
      let parts ← shownAll (room - 1) (mark.toList ++ around) vs
      return Bracket.square.enclose (commas parts)
  | .pair mark a b =>
    if mark.any around.contains then .ok (Bracket.hint .round)
    else if room = 0 then .error .tooDeep
    else do
      let first ← shownIn (room - 1) (mark.toList ++ around) a
      let second ← shownIn (room - 1) (mark.toList ++ around) b
      return Bracket.round.enclose (commas [first, second])
  | .map mark es =>
    if mark.any around.contains then .ok (Bracket.hint .curly)
    else if room = 0 then .error .tooDeep
    else do
      let parts ← shownEntries (room - 1) (mark.toList ++ around) es
      return Bracket.curly.enclose (commas parts)
  | .set vs =>
    if vs.isEmpty then .ok "set()".toList
    else if room = 0 then .error .tooDeep
    else do
      let parts ← shownAll (room - 1) around vs
      return Bracket.curly.enclose (commas parts)
  | .again _ bracket => .ok bracket.hint

def shownAll (room : Nat) (around : List Nat) : List Datum → Except Unshown (List (List Char))
  | [] => .ok []
  | v :: vs => do
    let first ← shownIn room around v
    let rest ← shownAll room around vs
    return first :: rest

def shownEntries (room : Nat) (around : List Nat) :
    List (Datum × Datum) → Except Unshown (List (List Char))
  | [] => .ok []
  | (k, v) :: es => do
    let key ← shownIn room around k
    let value ← shownIn room around v
    let rest ← shownEntries room around es
    return (key ++ ':' :: ' ' :: value) :: rest

end

/-- The number of levels that a value may be nested when it is shown. -/
def shownDepth : Nat := 988

/-- The form in which messages show a value. -/
def shown (d : Datum) : Except Unshown (List Char) := d.shownIn shownDepth []

/-- The plain form of a value: a text as it is, a date or a moment in digits, and
anything else as messages show it. -/
def plain : Datum → Except Unshown Points
  | .str s => .ok s
  | .date d => .ok (.ofList d.text)
  | .moment m => .ok (.ofList m.text)
  | d => d.shown.map .ofList

end Datum

end Reroute
