import Reroute.Json.Basic
import Reroute.Decimal.Notation
import Reroute.Text.Basic

/-!
# Reading JSON

A reader that tells where a text stops being JSON, and why. It also takes the
names of the infinities and of the value that is no number.

Each function reads from the front of a text and returns what follows. A fault
carries the number of characters that were left where it stands, so that its
place can be counted from the whole text.
-/

namespace Reroute.Json

/-- Why a text is not JSON. -/
inductive Flaw where
  | byteOrderMark
  | value
  | memberName
  | colon
  | comma
  | extra
  | openString
  | controlCharacter
  | escape
  | unitEscape
  /-- A numeral of more digits than a number may have. -/
  | tooLong (digits : Nat)
  /-- More arrays and objects inside each other than there may be. -/
  | tooDeep
  deriving Repr, DecidableEq

/-- A flaw, and the number of characters left where it stands. -/
structure Fault where
  flaw : Flaw
  left : Nat
  deriving Repr, DecidableEq

/-- What a reader of an `α` returns: the value and what follows it. -/
abbrev Reading (α : Type) : Type := Except Fault (α × List Char)

/-- The fault of the given kind in front of `s`. -/
def faultAt {α : Type} (flaw : Flaw) (s : List Char) : Except Fault α :=
  .error ⟨flaw, s.length⟩

def isSpace (c : Char) : Bool := c = ' ' || c = '\t' || c = '\n' || c = '\r'

def skipSpace (s : List Char) : List Char := s.dropWhile isSpace

/-- The character that a letter after a backslash stands for. -/
def unescape? : Char → Option Char
  | '"' => some '"'
  | '\\' => some '\\'
  | '/' => some '/'
  | 'b' => some (Char.ofNat 0x08)
  | 'f' => some (Char.ofNat 0x0C)
  | 'n' => some '\n'
  | 'r' => some '\r'
  | 't' => some '\t'
  | _ => none

/-- The units of a string after its opening quote, up to the closing one: the
code points of plain characters, and the units that escapes name. `whole` is all
that follows the opening quote. At least one character has to follow the four
digits of a unit. -/
def units (whole : List Char) : List Char → Reading (List Nat)
  | [] => .error ⟨.openString, whole.length + 1⟩
  | '"' :: s => .ok ([], s)
  | '\\' :: 'u' :: a :: b :: c :: d :: s =>
    if s.isEmpty then faultAt .unitEscape ('u' :: a :: b :: c :: d :: s)
    else match Text.hexNumber? 0 [a, b, c, d] with
      | none => faultAt .unitEscape ('u' :: a :: b :: c :: d :: s)
      | some n => (units whole s).map fun r => (n :: r.1, r.2)
  | '\\' :: 'u' :: s => faultAt .unitEscape ('u' :: s)
  | ['\\'] => .error ⟨.openString, whole.length + 1⟩
  | '\\' :: c :: s =>
    match unescape? c with
    | none => faultAt .escape ('\\' :: c :: s)
    | some e => (units whole s).map fun r => (e.toNat :: r.1, r.2)
  | c :: s =>
    if c.toNat < 0x20 then faultAt .controlCharacter (c :: s)
    else (units whole s).map fun r => (c.toNat :: r.1, r.2)

def stringTail (s : List Char) : Reading Points :=
  (units s s).map fun r => (.ofCodes (Text.joinUnits r.1), r.2)

def exponent? (s : List Char) : Option (Int × List Char) :=
  let read (negative : Bool) (s : List Char) : Option (Int × List Char) :=
    match s.span Char.isDigit with
    | ([], _) => none
    | (ds, rest) =>
      let n : Int := Int.ofNat (Text.digitsValue 0 ds)
      some (if negative then -n else n, rest)
  match s with
  | e :: '-' :: r => if e = 'e' || e = 'E' then read true r else none
  | e :: '+' :: r => if e = 'e' || e = 'E' then read false r else none
  | e :: r => if e = 'e' || e = 'E' then read false r else none
  | [] => none

/-- The digits of a fraction, when a point with a digit comes next. -/
def fraction? : List Char → Option (List Char × List Char)
  | '.' :: s =>
    match s.span Char.isDigit with
    | ([], _) => none
    | (ds, rest) => some (ds, rest)
  | _ => none

/-- The digits before the point: a zero, or a run of digits that starts with
another one. -/
def wholeDigits? : List Char → Option (List Char × List Char)
  | '0' :: s => some (['0'], s)
  | c :: s => if c.isDigit then some ((c :: s).span Char.isDigit) else none
  | [] => none

def numberAt (s : List Char) : Reading Json :=
  let (negative, body) := match s with
    | '-' :: r => (true, r)
    | _ => (false, s)
  match wholeDigits? body with
  | none => faultAt .value s
  | some (whole, r) =>
    let real (digits : List Char) (exponent : Int) (rest : List Char) : Reading Json :=
      let x := Decimal.scaled (Text.digitsValue 0 digits) exponent
      .ok (.real (if negative then -x else x), rest)
    match fraction? r with
    | some (part, r) =>
      match exponent? r with
      | some (e, rest) => real (whole ++ part) (e - part.length) rest
      | none => real (whole ++ part) (-part.length) r
    | none =>
      match exponent? r with
      | some (e, rest) => real whole e rest
      | none =>
        if Text.maxDigits < whole.length then faultAt (.tooLong whole.length) s
        else
          let n : Int := Int.ofNat (Text.digitsValue 0 whole)
          .ok (.int (if negative then -n else n), r)

/-- The values that are written as words. -/
def words : List (List Char × Json) :=
  [("null".toList, .null), ("true".toList, .bool true), ("false".toList, .bool false),
    ("NaN".toList, .real Decimal.notANumber), ("Infinity".toList, .real Decimal.infinity),
    ("-Infinity".toList, .real (-Decimal.infinity))]

def atomAt (s : List Char) : Reading Json :=
  match words.findSome? fun w => (w.1.isPrefixOf? s).map fun rest => (w.2, rest) with
  | some r => .ok r
  | none => numberAt s

mutual

/-- Reads a value inside which `room` levels may still be nested. Every step of
depth and every item uses up one unit of `fuel`. -/
def valueAt (fuel room : Nat) (s : List Char) : Reading Json :=
  match fuel with
  | 0 => faultAt .value s
  | fuel + 1 =>
    match s with
    | '"' :: r => (stringTail r).map fun p => (.str p.1, p.2)
    | '{' :: r =>
      if room = 0 then faultAt .tooDeep s
      else match skipSpace r with
        | '}' :: rest => .ok (.obj [], rest)
        | r => membersAt fuel (room - 1) [] r
    | '[' :: r =>
      if room = 0 then faultAt .tooDeep s
      else match skipSpace r with
        | ']' :: rest => .ok (.arr [], rest)
        | r => itemsAt fuel (room - 1) [] r
    | _ => atomAt s

/-- Reads the items of an array up to its end, after the items `done`, the latest
first. -/
def itemsAt (fuel room : Nat) (done : List Json) (s : List Char) : Reading Json :=
  match fuel with
  | 0 => faultAt .value s
  | fuel + 1 =>
    match valueAt fuel room s with
    | .error e => .error e
    | .ok (v, r) =>
      match skipSpace r with
      | ']' :: rest => .ok (.arr (v :: done).reverse, rest)
      | ',' :: rest => itemsAt fuel room (v :: done) (skipSpace rest)
      | r => faultAt .comma r

/-- Reads the members of an object up to its end, after the members `done`. -/
def membersAt (fuel room : Nat) (done : List (Points × Json)) (s : List Char) : Reading Json :=
  match fuel with
  | 0 => faultAt .memberName s
  | fuel + 1 =>
    match s with
    | '"' :: r =>
      match stringTail r with
      | .error e => .error e
      | .ok (name, r) =>
        match skipSpace r with
        | ':' :: r =>
          match valueAt fuel room (skipSpace r) with
          | .error e => .error e
          | .ok (v, r) =>
            match skipSpace r with
            | '}' :: rest => .ok (.obj (put name v done), rest)
            | ',' :: rest => membersAt fuel room (put name v done) (skipSpace rest)
            | r => faultAt .comma r
        | r => faultAt .colon r
    | r => faultAt .memberName r

end

/-- The number of levels that arrays and objects may be nested. -/
def maxDepth : Nat := 989

/-- Reads a whole text. Twice its length, and two more, is fuel enough: of two
steps at least one takes a character. -/
def read (s : List Char) : Except Fault Json :=
  if s.head? = some (Char.ofNat 0xFEFF) then faultAt .byteOrderMark s
  else match valueAt (2 * s.length + 2) maxDepth (skipSpace s) with
    | .error e => .error e
    | .ok (v, r) =>
      match skipSpace r with
      | [] => .ok v
      | rest => faultAt .extra rest

def Flaw.text : Flaw → String
  | .byteOrderMark => "Unexpected UTF-8 BOM (decode using utf-8-sig)"
  | .value => "Expecting value"
  | .memberName => "Expecting property name enclosed in double quotes"
  | .colon => "Expecting ':' delimiter"
  | .comma => "Expecting ',' delimiter"
  | .extra => "Extra data"
  | .openString => "Unterminated string starting at"
  | .controlCharacter => "Invalid control character at"
  | .escape => "Invalid \\escape"
  | .unitEscape => "Invalid \\uXXXX escape"
  | .tooDeep => "Nested too deeply"
  | .tooLong n =>
    "Exceeds the limit (4300 digits) for integer string conversion: value has " ++ toString n ++
      " digits; use sys.set_int_max_str_digits() to increase the limit"

def Fault.message (s : List Char) (f : Fault) : String :=
  match f.flaw with
  | .tooLong n => (Flaw.tooLong n).text
  | flaw =>
    let place := Text.placeAfter (s.take (s.length - f.left))
    flaw.text ++ ": line " ++ toString place.line ++ " column " ++ toString place.column ++
      " (char " ++ toString place.offset ++ ")"

end Reroute.Json
