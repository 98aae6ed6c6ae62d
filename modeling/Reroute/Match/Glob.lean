import Reroute.Rule.Basic

/-!
# Globs

The meaning of the stars in a wildcard source. A star stands for any run of
characters. When the source spells out a scheme and a path, the `/` after its
host ends the host part, and a star in front of it does not cross a `/`. So
`https://*.example.com/*` never matches a URL that has `sub.example.com` in its
path only.

A glob has two readings here that belong together: a list of pieces, which
`accepts` runs on a URL, and the text of a regular expression.
-/

namespace Reroute.Glob

/-- The characters with a meaning of their own in a regular expression. -/
def metacharacters : List Code :=
  ['.', '*', '+', '?', '^', '$', '\x7b', '\x7d', '(', ')', '|', '[', ']', '\\']

def escapeChar (c : Code) : List Code := if metacharacters.contains c then ['\\', c] else [c]

/-- A text as a regular expression for itself. -/
def escape (s : List Code) : List Code := s.flatMap escapeChar

/-- The place of the `/` that ends the host part of a pattern. There is none
without a scheme at the front, and none without a path. -/
def hostEnd? (s : List Code) : Option Nat :=
  match Text.cut? Source.schemeSeparator s with
  | some (before, rest) =>
    if before.contains '/' then none
    else (rest.findIdx? (· = .char '/')).map (before.length + Source.schemeSeparator.length + ·)
  | none => none

/-- A piece of a glob: what one character of the pattern stands for. -/
inductive Piece where
  | one (c : Code)
  /-- A run of characters other than `/`. -/
  | hostRun
  /-- A run of any characters. -/
  | anyRun
  deriving Repr, DecidableEq

namespace Piece

/-- The regular expression for a piece. -/
def regex : Piece → List Code
  | .one c => escapeChar c
  | .hostRun => ("[^/]*" : Points).toList
  | .anyRun => (".*" : Points).toList

end Piece

def piece (inHost : Bool) (c : Code) : Piece :=
  if c = Source.star then if inHost then .hostRun else .anyRun else .one c

/-- The pieces of a pattern of which `left` characters still belong to the host
part. -/
def piecesFrom : (left : Nat) → List Code → List Piece
  | _, [] => []
  | left, c :: s => piece (0 < left) c :: piecesFrom (left - 1) s

def pieces (pattern : List Code) : List Piece :=
  piecesFrom ((hostEnd? pattern).getD 0) pattern

/-- The regular expression of a pattern. It is meant for a whole text, and its
dots for any character. -/
def regex (pattern : List Code) : List Code := (pieces pattern).flatMap Piece.regex

/-- For each end part of a text, the whole text first, whether `p` and then some
pieces `ps` accept it, given the same for `ps` alone. -/
def row (p : Piece) : List Code → List Bool → List Bool
  | _, [] => []
  | [], b :: _ => [match p with
    | .one _ => false
    | _ => b]
  | c :: s, b :: bs =>
    let rest := row p s bs
    (match p with
      | .one d => c = d && bs.headD false
      | .hostRun => b || (c ≠ '/' && rest.headD false)
      | .anyRun => b || rest.headD false) :: rest

/-- For each end part of a text, whether no pieces accept it: the empty one. -/
def emptyRow (s : List Code) : List Bool := List.replicate s.length false ++ [true]

/-- For each end part of a text, whether the pieces accept it. -/
def rows (s : List Code) : List Piece → List Bool
  | [] => emptyRow s
  | p :: ps => row p s (rows s ps)

def accepts (ps : List Piece) (s : List Code) : Bool := (rows s ps).headD false

def isMatch (pattern url : List Code) : Bool := accepts (pieces pattern) url

end Reroute.Glob
