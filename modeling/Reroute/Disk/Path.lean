import Reroute.Text.Points

/-!
# Paths

A path is a root and a list of names. Repeated slashes, slashes at the end and
the name `.` say nothing, so they are left out. A name is handed to the disk in UTF-8;
a low half of a pair from U+DC80 to U+DCFF stands for a byte in it that is no UTF-8.
-/

namespace Reroute

/-- A path: empty root for a relative one, and the names on the way. -/
structure Path where
  root : String
  parts : List Points
  deriving Repr, DecidableEq

namespace Path

def partsOf (s : List Code) : List Points :=
  ((Text.splitAt (.char '/') s).filter fun p => p ≠ [] && p ≠ [.char '.']).map Points.mk

/-- The path that a text names. Two slashes at the front, and no more, are a root
of their own. -/
def ofText (s : Points) : Path :=
  let root := match s.toList with
    | .char '/' :: .char '/' :: .char '/' :: _ => "/"
    | .char '/' :: .char '/' :: _ => "//"
    | .char '/' :: _ => "/"
    | _ => ""
  ⟨root, partsOf s.toList⟩

def text (p : Path) : Points :=
  if p.root = "" && p.parts.isEmpty then "." else (p.root : Points) ++ Points.join "/" p.parts

/-- Whether a code point can be handed to a disk: it is a character other than NUL, or it
stands for a byte. -/
def isHandable : Code → Bool
  | .char c => c ≠ '\x00'
  | .half n => 0x480 ≤ n.val && n.val < 0x500

/-- Whether the text of the path can be handed to a disk. -/
def isSpellable (p : Path) : Bool := p.parts.all fun part => part.toList.all isHandable

/-- The path of an entry of a directory, or of what a path leads to from it. -/
def append (p q : Path) : Path := if q.root = "" then ⟨p.root, p.parts ++ q.parts⟩ else q

def child (p : Path) (name : Points) : Path := ⟨p.root, p.parts ++ [name]⟩

def parent (p : Path) : Path := ⟨p.root, p.parts.dropLast⟩

/-- The last name, or the empty text. -/
def name (p : Path) : Points := p.parts.getLast?.getD ""

/-- The part of the last name from its last dot on; empty when the dot is its
first or last character. -/
def suffix (p : Path) : Points :=
  match Text.cutLast? (.char '.') p.name.toList with
  | some (_ :: _, c :: rest) => ⟨.char '.' :: c :: rest⟩
  | _ => ""

end Path

/-! ## The home directory

Paths with `~` for the home directory. -/

namespace Home

def withoutSlashes (s : List Code) : List Code := (s.reverse.dropWhile (· = .char '/')).reverse

/-- The path of the home directory of the given name; the root for an empty one.
A name with `~` in front would itself need a home directory, so there is none. -/
def path? (home : Points) : Option Path :=
  match withoutSlashes home.toList with
  | [] => some (Path.ofText "/")
  | .char '~' :: _ => none
  | s => some (Path.ofText ⟨s⟩)

/-- The text of a path with `~` for the home directory in front; `none` when there
is no home directory. -/
def compact? (home : Points) (text : Points) : Option Points := do
  let base := (← path? home).text
  if text = base then return "~"
  match (base ++ ("/" : Points)).toList.isPrefixOf? text.toList with
  | some rest => return ("~/" : Points) ++ ⟨rest⟩
  | none => return text

/-- The path that a path with `~` in front stands for; `none` when there is no home
directory, or that of somebody else is meant. -/
def expand? (home : Points) (p : Path) : Option Path :=
  match p.root, p.parts with
  | "", first :: rest =>
    if first = "~" then (path? home).map fun base => base.append ⟨"", rest⟩
    else if first.toList.head? = some (.char '~') then none
    else some p
  | _, _ => some p

end Home

end Reroute
