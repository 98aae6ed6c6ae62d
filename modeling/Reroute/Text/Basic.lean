/-!
# Searching, blanks and lines

Cutting and splitting a text at a separator, trimming it of its blanks, and the lines
of a text with the place of a character in it. A text is a list of characters here, or
of whatever stands for one.
-/

namespace Reroute.Text

section Search

variable {α : Type} [DecidableEq α]

/-- The text before and the text after the first occurrence of `sep`. -/
def cut? (sep : List α) : List α → Option (List α × List α)
  | [] => if sep.isEmpty then some ([], []) else none
  | c :: s =>
    match sep.isPrefixOf? (c :: s) with
    | some rest => some ([], rest)
    | none => (cut? sep s).map fun p => (c :: p.1, p.2)

/-- The text before and the text after the last occurrence of `c`. -/
def cutLast? (c : α) (s : List α) : Option (List α × List α) :=
  match cut? [c] s.reverse with
  | some (after, before) => some (before.reverse, after.reverse)
  | none => none

/-- The pieces of the text between the occurrences of `c`; there is always at
least one. -/
def splitAt (c : α) : List α → List (List α)
  | [] => [[]]
  | d :: s =>
    if d = c then [] :: splitAt c s
    else match splitAt c s with
      | [] => [[d]]
      | piece :: pieces => (d :: piece) :: pieces

/-- The texts one after another with `sep` between them. -/
def join (sep : List α) : List (List α) → List α
  | [] => []
  | [s] => s
  | s :: t :: rest => s ++ sep ++ join sep (t :: rest)

end Search

section Trim

variable {α : Type} (blank : α → Bool)

def trimStart (s : List α) : List α := s.dropWhile blank

def trimEnd (s : List α) : List α := (s.reverse.dropWhile blank).reverse

/-- The text without the blanks at its two ends. -/
def trim (s : List α) : List α := trimEnd blank (trimStart blank s)

end Trim

/-- A blank character: one of the 25 characters of the Unicode property
`White_Space`, or one of the four separators U+001C to U+001F. -/
def isBlank (c : Char) : Bool :=
  let n := c.toNat
  (0x09 ≤ n && n ≤ 0x0D) || (0x1C ≤ n && n ≤ 0x20) || n == 0x85 || n == 0xA0 ||
    n == 0x1680 || (0x2000 ≤ n && n ≤ 0x200A) || n == 0x2028 || n == 0x2029 ||
    n == 0x202F || n == 0x205F || n == 0x3000

def allBlank (s : List Char) : Bool := s.all isBlank

/-- The text with every line end, of one or of two characters, written as a line
feed. -/
def unifyLineEnds : List Char → List Char
  | [] => []
  | '\r' :: '\n' :: s => '\n' :: unifyLineEnds s
  | c :: s => (if c = '\r' then '\n' else c) :: unifyLineEnds s

/-- The lines of the text without their line feeds; nothing stands after a last
line feed. -/
def lines (s : List Char) : List (List Char) :=
  let pieces := splitAt '\n' s
  if pieces.getLast? = some [] then pieces.dropLast else pieces

/-- A place in a text: line and column counted from 1, offset from 0. -/
structure Place where
  line : Nat
  column : Nat
  offset : Nat
  deriving Repr, DecidableEq

/-- The place that follows the text `before`. -/
def placeAfter (before : List Char) : Place :=
  { line := before.count '\n' + 1
    column := (before.reverse.takeWhile (· ≠ '\n')).length + 1
    offset := before.length }

end Reroute.Text
