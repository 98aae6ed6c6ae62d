import Reroute.Text.Points

/-!
# Panels

What is shown to the user: panels with a title, the colour of their border, and a
text in markup or a table. In markup a tag in brackets sets the style of what follows. A
backslash in front of a bracket takes this meaning away, and two backslashes stand
for one.
-/

namespace Reroute

/-- The colours and weights of what is shown. -/
inductive Style where
  | blue
  | green
  | yellow
  | cyan
  | magenta
  | dim
  | bold
  | plain
  deriving Repr, DecidableEq

namespace Style

def label : Style → String
  | .blue => "blue"
  | .green => "green"
  | .yellow => "yellow"
  | .cyan => "cyan"
  | .magenta => "magenta"
  | .dim => "dim"
  | .bold => "bold"
  | .plain => ""

end Style

/-- What happens to a text that is wider than its column. -/
inductive Overflow where
  | ellipsis
  | fold
  deriving Repr, DecidableEq

structure Column where
  header : String
  rightAligned : Bool
  overflow : Overflow
  style : Style
  deriving Repr, DecidableEq

namespace Column

def usual : Column := ⟨"", false, .ellipsis, .plain⟩

end Column

/-- A cell of a table: a text in markup, or a text as it is in a style. -/
inductive Cell where
  | markup (text : Points)
  | literal (text : Points) (style : Style)
  deriving Repr, DecidableEq

namespace Cell

/-- Whether a character only moves the place of writing on a terminal, or rings its
bell: bell, backspace, vertical tab, form feed and carriage return. -/
def isMotion (c : Code) : Bool := [0x07, 0x08, 0x0B, 0x0C, 0x0D].contains c.toNat

/-- The cell that shows a text in a style, without its characters of motion. -/
def ofText (text : Points) (style : Style) : Cell :=
  .literal ⟨text.toList.filter fun c => !isMotion c⟩ style

def text : Cell → Points
  | .markup text | .literal text _ => text

end Cell

structure Table where
  columns : List Column
  rows : List (List Cell)
  wide : Bool
  deriving Repr, DecidableEq

inductive Body where
  | text (markup : Points)
  | table (t : Table)
  deriving Repr, DecidableEq

structure Panel where
  title : String
  style : Style
  body : Body
  deriving Repr, DecidableEq

namespace Panel

/-- The texts in a panel that may come from the user. -/
def texts (p : Panel) : List Points :=
  match p.body with
  | .text markup => [markup]
  | .table t => t.rows.flatten.map Cell.text

/-- Whether the panel can be written: it is made of characters. -/
def isWritable (p : Panel) : Bool := p.texts.all Points.isWhole

end Panel

/-! ## Markup -/

namespace Markup

/-- A character that may begin a tag. -/
def beginsTag : Code → Bool :=
  Code.is fun c => ('a' ≤ c && c ≤ 'z') || c = '#' || c = '/' || c = '@'

/-- Whether a closing bracket follows before an opening one. -/
def closes : List Code → Bool
  | [] => false
  | c :: s => c = ']' || (c ≠ '[' && closes s)

/-- Whether what follows an opening bracket makes it a tag. -/
def isTag : List Code → Bool
  | c :: s => beginsTag c && closes s
  | [] => false

def backslashes (n : Nat) : List Code := List.replicate n (.char '\\')

/-- Escapes the tags of a text that follows `n` backslashes. -/
def escapeTags : (n : Nat) → List Code → List Code
  | n, [] => backslashes n
  | n, c :: s =>
    if c = '\\' then escapeTags (n + 1) s
    else if c = '[' && isTag s then backslashes (2 * n + 1) ++ c :: escapeTags 0 s
    else backslashes n ++ c :: escapeTags 0 s

/-- Adds a backslash to a text that ends in one but not in two. -/
def closeBackslash (s : List Code) : List Code :=
  match s.reverse with
  | [.char '\\'] => s ++ [.char '\\']
  | .char '\\' :: c :: _ => if c = '\\' then s else s ++ [.char '\\']
  | _ => s

def escape (s : Points) : Points := ⟨closeBackslash (escapeTags 0 s.toList)⟩

/-- The text of markup without its tags: what follows `n` backslashes, of which two
stand for one, and of which an odd one out makes a tag plain text. `inTag` tells
that the text up to the next closing bracket is a tag. -/
def withoutTags : (n : Nat) → (inTag : Bool) → List Code → List Code
  | n, _, [] => backslashes n
  | n, true, c :: s => withoutTags n (c ≠ ']') s
  | n, false, c :: s =>
    if c = '\\' then withoutTags (n + 1) false s
    else if c = '[' && isTag s then
      if n % 2 = 0 then backslashes (n / 2) ++ withoutTags 0 true s
      else backslashes (n / 2) ++ c :: withoutTags 0 false s
    else backslashes n ++ c :: withoutTags 0 false s

def shown (markup : Points) : Points := ⟨withoutTags 0 false markup.toList⟩

end Markup

/-! ## Panels as lines of text

Panels without borders and colours: the title, and the text or the rows below it. -/

namespace Panel

def cellText : Cell → Points
  | .markup m => Markup.shown m
  | .literal text _ => text

/-- The lines of a table: its headers, if it has any, and its rows. -/
def tableLines (t : Table) : List Points :=
  let headers := t.columns.map (·.header)
  let rows := t.rows.map fun row => Points.join "  " (row.map cellText)
  if headers.all String.isEmpty then rows
  else Points.join "  " (headers.map Points.ofString) :: rows

def lines (p : Panel) : List Points :=
  p.title :: match p.body with
    | .text m => [Markup.shown m]
    | .table t => tableLines t

end Panel

end Reroute
