import Reroute.Text.Basic

/-!
# Digits

Decimal digits of every script, hexadecimal digits, and numerals: writing a
natural number or an integer in base ten, and reading one in any base up to 36.
-/

namespace Reroute.Text

/-- The digits zero of Unicode 14.0: each starts a run of ten decimal digits. -/
def digitZeros : List Nat :=
  [0x30, 0x660, 0x6F0, 0x7C0, 0x966, 0x9E6, 0xA66, 0xAE6, 0xB66, 0xBE6, 0xC66, 0xCE6, 0xD66,
   0xDE6, 0xE50, 0xED0, 0xF20, 0x1040, 0x1090, 0x17E0, 0x1810, 0x1946, 0x19D0, 0x1A80,
   0x1A90, 0x1B50, 0x1BB0, 0x1C40, 0x1C50, 0xA620, 0xA8D0, 0xA900, 0xA9D0, 0xA9F0, 0xAA50,
   0xABF0, 0xFF10, 0x104A0, 0x10D30, 0x11066, 0x110F0, 0x11136, 0x111D0, 0x112F0, 0x11450,
   0x114D0, 0x11650, 0x116C0, 0x11730, 0x118E0, 0x11950, 0x11C50, 0x11D50, 0x11DA0, 0x16A60,
   0x16AC0, 0x16B50, 0x1D7CE, 0x1D7D8, 0x1D7E2, 0x1D7EC, 0x1D7F6, 0x1E140, 0x1E2F0, 0x1E950,
   0x1FBF0]

/-- The value of a decimal digit of any script. -/
def decimalValue? (c : Char) : Option Nat :=
  (digitZeros.find? fun z => z ≤ c.toNat && c.toNat < z + 10).map (c.toNat - ·)

/-- The value of an ASCII letter as a digit above nine, in either case. -/
def letterValue? (c : Char) : Option Nat :=
  if 'a' ≤ c && c ≤ 'z' then some (c.toNat - 'a'.toNat + 10)
  else if 'A' ≤ c && c ≤ 'Z' then some (c.toNat - 'A'.toNat + 10)
  else none

def hexValue? (c : Char) : Option Nat :=
  if '0' ≤ c && c ≤ '9' then some (c.toNat - '0'.toNat)
  else if 'a' ≤ c && c ≤ 'f' then some (c.toNat - 'a'.toNat + 10)
  else if 'A' ≤ c && c ≤ 'F' then some (c.toNat - 'A'.toNat + 10)
  else none

/-- The digit of value `d`, for `d < 36`, with small letters. -/
def digitChar (d : Nat) : Char :=
  if d < 10 then Char.ofNat ('0'.toNat + d) else Char.ofNat ('a'.toNat + d - 10)

/-- The number that a run of hexadecimal digits stands for, after `acc`. -/
def hexNumber? (acc : Nat) : List Char → Option Nat
  | [] => some acc
  | c :: s => (hexValue? c).bind fun d => hexNumber? (16 * acc + d) s

/-- `n` with exactly `width` hexadecimal digits, the low ones. -/
def hexDigits (width n : Nat) : List Char :=
  (List.range width).reverse.map fun i => digitChar ((n >>> (4 * i)) % 16)

/-- `n` with exactly `width` hexadecimal digits, the low ones, in capitals. -/
def hexCapitals (width n : Nat) : List Char := (hexDigits width n).map Char.toUpper

def decimal (n : Nat) : List Char :=
  if _h : n < 10 then [digitChar n] else decimal (n / 10) ++ [digitChar (n % 10)]
termination_by n
decreasing_by omega

/-- `n` in base ten, with zeros in front up to `width` digits. -/
def padded (width n : Nat) : List Char :=
  let digits := decimal n
  List.replicate (width - digits.length) '0' ++ digits

/-- `i` in base ten, with a sign when it is negative. -/
def integer (i : Int) : List Char :=
  if i < 0 then '-' :: decimal i.natAbs else decimal i.natAbs

/-- The number that a run of ASCII digits stands for, after `acc`; other
characters do not occur in such a run. -/
def digitsValue (acc : Nat) (s : List Char) : Nat :=
  s.foldl (fun n c => 10 * n + (c.toNat - '0'.toNat)) acc

/-- The digits of a numeral: digits below `base`, where a single underscore may
stand between two of them. `afterDigit` tells that the last character was one. -/
def numeralDigits? (base : Nat) : (afterDigit : Bool) → List Char → Option (List Nat)
  | true, [] => some []
  | false, [] => none
  | afterDigit, c :: s =>
    if c = '_' then
      if afterDigit then numeralDigits? base false s else none
    else
      match (decimalValue? c <|> letterValue? c) with
      | some d =>
        if d < base then (numeralDigits? base true s).map (d :: ·) else none
      | none => none

/-- The letter of the marker of a base: `0x`, `0o` or `0b`. -/
def markerOf? : (base : Nat) → Option Char
  | 16 => some 'x'
  | 8 => some 'o'
  | 2 => some 'b'
  | _ => none

/-- The numeral after the marker of its base, if it has one, and after the
underscore behind that. The zero may be that of any script. -/
def afterMarker (base : Nat) (s : List Char) : List Char :=
  match s with
  | zero :: m :: rest =>
    if decimalValue? zero = some 0 && markerOf? base = some m.toLower then
      match rest with
      | '_' :: r => r
      | r => r
    else s
  | _ => s

/-- Reads a natural number in the given base, with the marker of that base or
without one. -/
def natural? (base : Nat) (s : List Char) : Option Nat :=
  (numeralDigits? base false (afterMarker base s)).map (List.foldl (fun n d => base * n + d) 0)

/-- The largest number of digits that a decimal numeral may have. -/
def maxDigits : Nat := 4300

/-- A blank character that may stand around a number: the four separators U+001C
to U+001F may not. -/
def isNumberBlank (c : Char) : Bool := isBlank c && !(0x1C ≤ c.toNat && c.toNat ≤ 0x1F)

/-- Reads an integer in the given base: blanks at the ends and one sign are
allowed. A numeral in base ten has at most `maxDigits` digits. -/
def integer? (base : Nat) (s : List Char) : Option Int :=
  let t := trim isNumberBlank s
  let (negative, body) := match t with
    | '-' :: r => (true, r)
    | '+' :: r => (false, r)
    | _ => (false, t)
  if base = 10 && maxDigits < (body.filter (· ≠ '_')).length then none
  else (natural? base body).map fun n => if negative then -(n : Int) else n

end Reroute.Text
