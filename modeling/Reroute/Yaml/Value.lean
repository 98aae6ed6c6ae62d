import Reroute.Document.Datum
import Reroute.Text.SmallLetters
import Reroute.Yaml.Tag

/-!
# Values of scalars

The value of a scalar text under each tag.
-/

namespace Reroute.Yaml

/-- A value that may not exist. -/
def orNoValue {α : Type} : Option α → Except Flaw α
  | some v => .ok v
  | none => .error .noValue

/-- The groups of a number in base sixty, as one number. -/
def sixtiethsValue (groups : List Int) : Int := groups.foldl (fun n d => 60 * n + d) 0

def unsignedValue : List Char → Except Flaw Int
  | [] => .error .empty
  | ['0'] => .ok 0
  | '0' :: 'b' :: s => orNoValue (Text.integer? 2 s)
  | '0' :: 'x' :: s => orNoValue (Text.integer? 16 s)
  | '0' :: s => orNoValue (Text.integer? 8 ('0' :: s))
  | s =>
    if s.contains ':' then
      orNoValue (((Text.splitAt ':' s).mapM (Text.integer? 10)).map sixtiethsValue)
    else orNoValue (Text.integer? 10 s)

def intValue (text : List Char) : Except Flaw Int :=
  match text.filter (· ≠ '_') with
  | [] => .error .empty
  | '-' :: s => (unsignedValue s).map fun n => -n
  | s => unsignedValue (unsigned s)

/-- The sum of groups of a number in base sixty, the last group first, where the
next one counts `base` times, as long as that is a floating-point number. -/
def sixtiethsSum : (base : Nat) → Float → List Float → Except Flaw Float
  | _, sum, [] => .ok sum
  | base, sum, d :: ds =>
    let unit := Float.ofNat base
    if unit == Decimal.infinity then .error .tooLarge
    else sixtiethsSum (60 * base) (sum + d * unit) ds

/-- The text of a floating-point number without underscores, in small letters. -/
def floatText (text : List Char) : List Char := (text.filter (· ≠ '_')).map Char.toLower

/-- Whether a text is the name of the value that is no number. -/
def namesNoNumber (text : List Char) : Bool := unsigned (floatText text) = ".nan".toList

def unsignedFloat (body : List Char) : Except Flaw Float :=
  if body = ".inf".toList then .ok Decimal.infinity
  else if body = ".nan".toList then .ok Decimal.notANumber
  else if body.contains ':' then do
    let groups ← orNoValue ((Text.splitAt ':' body).mapM Decimal.read?)
    sixtiethsSum 1 0 groups.reverse
  else orNoValue (Decimal.read? body)

def floatValue (text : List Char) : Except Flaw Float :=
  match floatText text with
  | [] => .error .empty
  | c :: s => (unsignedFloat (unsigned (c :: s))).map fun x => if c = '-' then -x else x

def boolValue (text : Points) : Except Flaw Bool :=
  let word := text.toLower
  if (["yes", "true", "on"].map Points.ofString).contains word then .ok true
  else if (["no", "false", "off"].map Points.ofString).contains word then .ok false
  else .error (.noTruth word)

def numeral (s : List Char) : Nat := Text.digitsValue 0 s

/-- The microseconds of a fraction of a second: its first six digits. -/
def microseconds (fraction : List Char) : Nat := numeral ((fraction ++ "000000".toList).take 6)

def offsetMinutes (o : OffsetText) : Int :=
  let minutes : Int := Int.ofNat (60 * numeral o.hours + numeral o.minutes)
  if o.negative then -minutes else minutes

def momentValue (text : List Char) : Except Flaw Datum :=
  match momentParts? (dropLastBreak text) with
  | none => .error .noMoment
  | some m =>
    match m.date.map numeral with
    | [year, month, day] => do
      let date ← orNoValue (Date.ofNumbers? year month day)
      match m.clock.map numeral with
      | [hour, minute, second] =>
        let moment ← orNoValue (Moment.ofNumbers? date hour minute second
          (microseconds m.fraction) (m.offset.map offsetMinutes))
        return .moment moment
      | _ => return .date date
    | _ => .error .noMoment

/-- The value of a digit of base 64. -/
def sixBits? (c : Char) : Option Nat :=
  if 'A' ≤ c && c ≤ 'Z' then some (c.toNat - 'A'.toNat)
  else if 'a' ≤ c && c ≤ 'z' then some (c.toNat - 'a'.toNat + 26)
  else if '0' ≤ c && c ≤ '9' then some (c.toNat - '0'.toNat + 52)
  else if c = '+' then some 62
  else if c = '/' then some 63
  else none

/-- The bytes of a text in base 64, where characters that are no digits are passed
over: `group` digits of the present group came already, with the bits `carry`
left of them, and `pads` signs of its end. `none` when the last group breaks
off. -/
def base64Bytes : (group carry pads : Nat) → List Char → Option (List UInt8)
  | group, _, _, [] => if group = 0 then some [] else none
  | group, carry, pads, c :: s =>
    if c = '=' then
      if 2 ≤ group && 4 ≤ group + pads + 1 then some []
      else base64Bytes group carry (if 2 ≤ group then pads + 1 else pads) s
    else match sixBits? c with
      | none => base64Bytes group carry pads s
      | some n =>
        let bits := 64 * carry + n
        match group with
        | 0 => base64Bytes 1 n 0 s
        | 1 => (base64Bytes 2 (bits % 16) 0 s).map (UInt8.ofNat (bits / 16) :: ·)
        | 2 => (base64Bytes 3 (bits % 4) 0 s).map (UInt8.ofNat (bits / 4) :: ·)
        | _ => (base64Bytes 0 0 0 s).map (UInt8.ofNat bits :: ·)

def binaryValue (text : List Char) : Except Flaw (List UInt8) :=
  if text.all fun c => c.toNat < 0x80 then
    match base64Bytes 0 0 0 text with
    | some bytes => .ok bytes
    | none => .error .malformed
  else .error .malformed

/-- The value of a scalar text under a tag, for the node with the number `mark`.
The tags of collections and the special ones give none. -/
def scalarValue (mark : Nat) (tag : Tag) (text : Points) : Except Flaw Datum :=
  let s := text.chars
  match tag with
  | .null => .ok .null
  | .bool => (boolValue text).map .bool
  | .int => (intValue s).map .int
  | .float => (floatValue s).map fun x =>
    if !x.isNaN then .real x
    else .noNumber (if namesNoNumber s then none else some mark)
  | .binary => (binaryValue s).map .bytes
  | .timestamp => momentValue s
  | .str => .ok (.str text)
  | _ => .error .malformed

end Reroute.Yaml
