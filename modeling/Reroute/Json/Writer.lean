import Reroute.Json.Basic
import Reroute.Decimal.Notation

/-!
# Writing JSON

Two written forms of a value, both in ASCII: over several lines, with the members
of an object in their order, and on one line without spaces, with the members
sorted by name. The second form is the same for two values that differ only in
the order of members.
-/

namespace Reroute.Json

/-- The escape of one 16-bit unit. -/
def unitEscape (n : Nat) : List Char := '\\' :: 'u' :: Text.hexDigits 4 n

/-- The escape of a code point by its 16-bit units. -/
def codeEscape (n : Nat) : List Char :=
  if n < 0x10000 then unitEscape n
  else unitEscape (Text.unitsOf n).1 ++ unitEscape (Text.unitsOf n).2

/-- One code point of a string. -/
def escaped (n : Nat) : List Char :=
  if 0x20 ≤ n && n ≤ 0x7E then
    let c := Char.ofNat n
    if c = '"' || c = '\\' then ['\\', c] else [c]
  else match n with
    | 0x0A => ['\\', 'n']
    | 0x0D => ['\\', 'r']
    | 0x09 => ['\\', 't']
    | 0x0C => ['\\', 'f']
    | 0x08 => ['\\', 'b']
    | n => codeEscape n

def string (s : Points) : List Char := '"' :: s.codes.flatMap escaped ++ ['"']

def number (x : Float) : List Char :=
  if x.isNaN then "NaN".toList
  else if x == Decimal.infinity then "Infinity".toList
  else if x == -Decimal.infinity then "-Infinity".toList
  else Decimal.text x

/-- The start of a new line, `depth` levels deep. -/
def newLine (depth : Nat) : List Char := '\n' :: List.replicate (2 * depth) ' '

mutual

/-- The value over several lines, two spaces a level, at the given depth. -/
def indentedAt (depth : Nat) : Json → List Char
  | .null => "null".toList
  | .bool true => "true".toList
  | .bool false => "false".toList
  | .int i => Text.integer i
  | .real x => number x
  | .str s => string s
  | .arr [] => ['[', ']']
  | .arr (v :: vs) =>
    '[' :: newLine (depth + 1) ++ indentedAt (depth + 1) v ++ indentedItems (depth + 1) vs ++
      newLine depth ++ [']']
  | .obj [] => ['{', '}']
  | .obj ((k, v) :: ms) =>
    '{' :: newLine (depth + 1) ++ string k ++ [':', ' '] ++ indentedAt (depth + 1) v ++
      indentedMembers (depth + 1) ms ++ newLine depth ++ ['}']

def indentedItems (depth : Nat) : List Json → List Char
  | [] => []
  | v :: vs => ',' :: newLine depth ++ indentedAt depth v ++ indentedItems depth vs

def indentedMembers (depth : Nat) : List (Points × Json) → List Char
  | [] => []
  | (k, v) :: ms =>
    ',' :: newLine depth ++ string k ++ [':', ' '] ++ indentedAt depth v ++
      indentedMembers depth ms

end

def indented (v : Json) : String := String.ofList (indentedAt 0 v)

/-- The file form of a value: over several lines, with a line feed at the end. -/
def fileText (v : Json) : String := String.ofList (indentedAt 0 v ++ ['\n'])

/-- Puts a named text into a list that is sorted by name. -/
def insertByName (m : Points × List Char) : List (Points × List Char) → List (Points × List Char)
  | [] => [m]
  | n :: ns => if n.1 < m.1 then n :: insertByName m ns else m :: n :: ns

def sortByName (ms : List (Points × List Char)) : List (Points × List Char) :=
  ms.foldr insertByName []

def withCommas : List (List Char) → List Char
  | [] => []
  | [t] => t
  | t :: ts => t ++ ',' :: withCommas ts

mutual

/-- The value on one line, without spaces, members sorted by name. -/
def canonical : Json → List Char
  | .null => "null".toList
  | .bool true => "true".toList
  | .bool false => "false".toList
  | .int i => Text.integer i
  | .real x => number x
  | .str s => string s
  | .arr vs => '[' :: withCommas (canonicalItems vs) ++ [']']
  | .obj ms =>
    '{' :: withCommas ((sortByName (canonicalMembers ms)).map fun m => string m.1 ++ ':' :: m.2) ++
      ['}']

def canonicalItems : List Json → List (List Char)
  | [] => []
  | v :: vs => canonical v :: canonicalItems vs

def canonicalMembers : List (Points × Json) → List (Points × List Char)
  | [] => []
  | (k, v) :: ms => (k, canonical v) :: canonicalMembers ms

end

end Reroute.Json
