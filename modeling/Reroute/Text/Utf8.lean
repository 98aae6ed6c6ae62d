import Reroute.Text.Points

/-!
# UTF-8

Reading bytes as text: strictly, or with a replacement character for each longest
start of a character that leads nowhere; and reading the lines of bytes that arrive in
blocks. A block that is no UTF-8 ends the stream: the lines that are complete before it
are still read.
-/

namespace Reroute.Text

/-- A character of several bytes that has begun: how many bytes are still due,
where the next one must lie, and the bits read so far. -/
structure Begun where
  due : Nat
  low : Nat
  high : Nat
  bits : Nat

/-- What the first byte of a character of several bytes promises. -/
def begun? (b : Nat) : Option Begun :=
  if 0xC2 ≤ b && b ≤ 0xDF then some ⟨1, 0x80, 0xBF, b - 0xC0⟩
  else if b = 0xE0 then some ⟨2, 0xA0, 0xBF, 0⟩
  else if b = 0xED then some ⟨2, 0x80, 0x9F, 0xD⟩
  else if 0xE1 ≤ b && b ≤ 0xEF then some ⟨2, 0x80, 0xBF, b - 0xE0⟩
  else if b = 0xF0 then some ⟨3, 0x90, 0xBF, 0⟩
  else if 0xF1 ≤ b && b ≤ 0xF3 then some ⟨3, 0x80, 0xBF, b - 0xF0⟩
  else if b = 0xF4 then some ⟨3, 0x80, 0x8F, 4⟩
  else none

/-- Reads bytes as text, after the start `begun` of a character. A character that
the end of the bytes breaks off is read as `atEnd`. -/
def decodeLossyFrom (atEnd : List Char) : Option Begun → List UInt8 → List Char
  | none, [] => []
  | some _, [] => atEnd
  | begun, byte :: bytes =>
    let b := byte.toNat
    let fresh :=
      if b < 0x80 then (some (Char.ofNat b), none)
      else match begun? b with
        | some s => (none, some s)
        | none => (some replacement, none)
    let (out, next) : List Char × Option Begun :=
      match begun with
      | some s =>
        if s.low ≤ b && b ≤ s.high then
          let bits := 64 * s.bits + (b - 0x80)
          if s.due ≤ 1 then ([Char.ofNat bits], none)
          else ([], some ⟨s.due - 1, 0x80, 0xBF, bits⟩)
        else (replacement :: fresh.1.toList, fresh.2)
      | none => (fresh.1.toList, fresh.2)
    out ++ decodeLossyFrom atEnd next bytes

/-- Reads bytes as text, with replacement characters where they are no UTF-8. -/
def decodeLossy (bytes : ByteArray) : String :=
  String.ofList (decodeLossyFrom [replacement] none bytes.toList)

/-- The number of bytes in front of the first one that shows that they are no
UTF-8: all of them when only the end breaks a character off, and `none` when
nothing is wrong. -/
def faultFrom (before : Nat) : Option Begun → List UInt8 → Option Nat
  | none, [] => none
  | some _, [] => some before
  | some s, byte :: bytes =>
    let b := byte.toNat
    if s.low ≤ b && b ≤ s.high then
      faultFrom (before + 1)
        (if s.due ≤ 1 then none else some ⟨s.due - 1, 0x80, 0xBF, s.bits⟩) bytes
    else some before
  | none, byte :: bytes =>
    let b := byte.toNat
    if b < 0x80 then faultFrom (before + 1) none bytes
    else match begun? b with
      | some s => faultFrom (before + 1) (some s) bytes
      | none => some before

/-- Reads bytes as text; `none` when they are no UTF-8. -/
def decode? (bytes : ByteArray) : Option String := String.fromUTF8? bytes

/-! ## Lines of a stream -/

/-- The number of bytes in a block. -/
def blockSize : Nat := 8192

/-- Lines, and whether the stream turned out not to be text after them. -/
structure Streamed where
  lines : List (List Char)
  broken : Bool

/-- What ends a line of a stream. -/
inductive LineEnd where
  /-- A line feed and nothing else, as on the standard input. -/
  | feed
  /-- A line feed, a carriage return, or both, as in a file. -/
  | any
  deriving Repr, DecidableEq

/-- The text with its line ends written as line feeds. -/
def LineEnd.unify : LineEnd → List Char → List Char
  | .feed, s => s
  | .any, s => unifyLineEnds s

/-- The lines of a text that goes on, without the last one, which is not complete
yet. A carriage return at the end may still be the first half of a line end. -/
def completeLines (ending : LineEnd) (s : List Char) : List (List Char) :=
  let s := if s.getLast? = some '\r' then s.dropLast else s
  (splitAt '\n' (ending.unify s)).dropLast

def streamed (ending : LineEnd) (bytes : ByteArray) : Streamed :=
  let all := bytes.toList
  match faultFrom 0 none all with
  | none => ⟨lines (ending.unify (decodeLossyFrom [] none all)), false⟩
  | some n =>
    let sound := if n = all.length then n else n / blockSize * blockSize
    ⟨completeLines ending (decodeLossyFrom [] none (all.take sound)), true⟩

end Reroute.Text
