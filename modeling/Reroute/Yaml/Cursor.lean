import Reroute.Text.Digit
import Reroute.Text.Points
import Reroute.Text.Basic

/-!
# A place in a YAML text

What is left of a text and where it begins: the number of characters before it,
its line and its column. A byte order mark takes no column.
-/

namespace Reroute.Yaml

/-- Why a text cannot be read. -/
inductive Flaw where
  /-- It is not YAML, or not YAML for a plain value. -/
  | malformed
  /-- A part of it names a value that does not exist, such as the 31st of June. -/
  | noValue
  /-- A number in it is too large to be looked at. -/
  | tooLarge
  /-- A scalar that has to hold a digit is empty. -/
  | empty
  /-- A scalar is no truth value. -/
  | noTruth (text : Points)
  /-- A scalar does not look like a moment. -/
  | noMoment
  /-- A map stands where the text of a moment has to be. -/
  | momentInMap
  /-- It is nested too deeply. -/
  | tooDeep
  deriving Repr, DecidableEq

/-- A line feed, a next-line character, or a line or paragraph separator. -/
def isBreak (c : Char) : Bool :=
  c = '\n' || c.toNat = 0x85 || c.toNat = 0x2028 || c.toNat = 0x2029

def endsLine : Option Char → Bool
  | none => true
  | some c => isBreak c

def endsWord : Option Char → Bool
  | none => true
  | some c => c = ' ' || isBreak c

def endsToken : Option Char → Bool
  | none => true
  | some c => c = ' ' || c = '\t' || isBreak c

/-- A character of the names of anchors, directives and tag handles. -/
def isNameChar (c : Char) : Bool := c.isAlphanum || c = '-' || c = '_'

/-- The rest of a text, and the place where it begins. -/
structure Cursor where
  rest : List Char
  index : Nat
  line : Nat
  column : Nat

namespace Cursor

def start (s : List Char) : Cursor := ⟨s, 0, 0, 0⟩

def peek (c : Cursor) : Option Char := c.rest.head?

/-- The character `n` places ahead. -/
def peekAt (c : Cursor) (n : Nat) : Option Char := c.rest[n]?

def advance (c : Cursor) : Cursor :=
  match c.rest with
  | [] => c
  | ch :: rest =>
    if isBreak ch then ⟨rest, c.index + 1, c.line + 1, 0⟩
    else ⟨rest, c.index + 1, c.line, if ch.toNat = 0xFEFF then c.column else c.column + 1⟩

def advanceBy (c : Cursor) : Nat → Cursor
  | 0 => c
  | n + 1 => c.advance.advanceBy n

/-- The longest run of characters of a kind, and the place after it. -/
def take (c : Cursor) (p : Char → Bool) : List Char × Cursor :=
  let run := c.rest.takeWhile p
  (run, c.advanceBy run.length)

/-- The place after the longest run of characters of a kind. -/
def skip (c : Cursor) (p : Char → Bool) : Cursor := (c.take p).2

def skipSpaces (c : Cursor) : Cursor := c.skip (· = ' ')

def skipLine (c : Cursor) : Cursor := c.skip fun ch => !isBreak ch

/-- The line break that follows and the place after it: a next-line character
counts as a line feed. -/
def takeBreak (c : Cursor) : List Char × Cursor :=
  match c.peek with
  | some ch =>
    if ch = '\n' || ch.toNat = 0x85 then (['\n'], c.advance)
    else if isBreak ch then ([ch], c.advance)
    else ([], c)
  | none => ([], c)

/-- Whether the three characters `mark` and then the end of a token follow. -/
def atMark (c : Cursor) (mark : Char) : Bool :=
  c.rest.take 3 = [mark, mark, mark] && endsToken (c.peekAt 3)

/-- Whether a line that begins or ends a document follows. -/
def atSeparator (c : Cursor) : Bool := c.atMark '-' || c.atMark '.'

end Cursor

/-- A reader of an `α`: from a place, the value and the place after it. -/
abbrev Reader (α : Type) : Type := Cursor → Except Flaw (α × Cursor)

end Reroute.Yaml
