import Reroute.Decimal.Shortest
import Reroute.Text.Digit

/-!
# Decimal notation

How a floating-point number is written, and which texts are read as one.
-/

namespace Reroute.Decimal

/-- The layout of a number: with the point inside or beside the digits while the
leading digit stands for `10 ^ e` with `-4 ≤ e < 16`, and with a signed exponent
of at least two digits otherwise. A whole number ends in `.0`. -/
def layout (d : Scaled) : List Char :=
  let digits := Text.decimal d.digits
  let lead : Int := d.exponent + digits.length - 1
  if -4 ≤ lead && lead < 16 then
    if 0 ≤ d.exponent then
      digits ++ List.replicate d.exponent.toNat '0' ++ ['.', '0']
    else if 0 ≤ lead then
      digits.take (lead.toNat + 1) ++ '.' :: digits.drop (lead.toNat + 1)
    else '0' :: '.' :: List.replicate (-lead - 1).toNat '0' ++ digits
  else
    let mantissa := match digits with
      | [] => []
      | [c] => [c]
      | c :: rest => c :: '.' :: rest
    let size := Text.decimal lead.natAbs
    mantissa ++ 'e' :: (if lead < 0 then '-' else '+') ::
      (if size.length < 2 then '0' :: size else size)

/-- The text of a floating-point number: the fewest digits that read back. -/
def text (x : Float) : List Char :=
  let bits := x.toBits
  let sign := if bits >>> 63 = 1 then ['-'] else []
  let size := bits &&& 0x7FFFFFFFFFFFFFFF
  if 0x7FF0000000000000 < size then "nan".toList
  else if size = 0x7FF0000000000000 then sign ++ "inf".toList
  else if size = 0 then sign ++ "0.0".toList
  else sign ++ layout (Binary.ofBits size).shortest

def infinity : Float := Float.ofBits 0x7FF0000000000000

def notANumber : Float := Float.ofBits 0x7FF8000000000000

/-- A run of decimal digits where a single underscore may stand between two of
them: their values, and what follows. -/
def digitRun : (afterDigit : Bool) → List Char → List Nat × List Char
  | _, [] => ([], [])
  | afterDigit, c :: s =>
    match Text.decimalValue? c with
    | some d => let (ds, rest) := digitRun true s; (d :: ds, rest)
    | none =>
      match c, afterDigit, s with
      | '_', true, d :: _ =>
        if (Text.decimalValue? d).isSome then digitRun false s else ([], c :: s)
      | _, _, _ => ([], c :: s)

/-- The number `digits * 10 ^ exponent`, rounded once. -/
def scaled (digits : Nat) (exponent : Int) : Float :=
  if digits = 0 then 0
  else if 400 < exponent + (Nat.log2 digits / 4 : Nat) then infinity
  else if exponent + (Nat.log2 digits : Nat) < -400 then 0
  else Float.ofScientific digits (exponent < 0) exponent.natAbs

/-- Reads a numeral with an optional fraction and an optional exponent. -/
def numeral? (s : List Char) : Option Float :=
  let (whole, afterWhole) := digitRun false s
  let (fraction, afterFraction) := match afterWhole with
    | '.' :: r => digitRun false r
    | _ => ([], afterWhole)
  let digits := (whole ++ fraction).foldl (fun n d => 10 * n + d) 0
  let shift : Int := -(fraction.length : Int)
  if whole.isEmpty && fraction.isEmpty then none
  else match afterFraction with
    | [] => some (scaled digits shift)
    | e :: r =>
      if e = 'e' || e = 'E' then
        let (negative, r) := match r with
          | '-' :: r => (true, r)
          | '+' :: r => (false, r)
          | _ => (false, r)
        match digitRun false r with
        | ([], _) => none
        | (ds, []) =>
          let n : Int := Int.ofNat (ds.foldl (fun n d => 10 * n + d) 0)
          some (scaled digits (shift + if negative then -n else n))
        | _ => none
      else none

/-- Reads a floating-point number: blanks at the ends and a sign are allowed, and
so are the names of the infinities and of the value that is no number. -/
def read? (s : List Char) : Option Float :=
  let t := Text.trim Text.isNumberBlank s
  let (negative, body) := match t with
    | '-' :: r => (true, r)
    | '+' :: r => (false, r)
    | _ => (false, t)
  let size := match String.ofList (body.map Char.toLower) with
    | "inf" | "infinity" => some infinity
    | "nan" => some notANumber
    | _ => numeral? body
  size.map fun x => if negative then -x else x

end Reroute.Decimal
