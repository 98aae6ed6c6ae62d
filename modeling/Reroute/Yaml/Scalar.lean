import Reroute.Yaml.Token

/-!
# Scalars

The three ways to write a scalar over several lines: between quotes, as a block
under an indicator, and plain. In the first and the last a single line break
counts as a space, and of several ones the first is dropped.

Loops carry the number of rounds that are left, and never need more than there
are characters.
-/

namespace Reroute.Yaml

/-- The text for a line break and the ones after it, in a scalar whose lines are
joined. -/
def joinLines (first breaks : List Char) : List Char :=
  (if first ≠ ['\n'] then first else if breaks.isEmpty then [' '] else []) ++ breaks

def isBlankChar (c : Char) : Bool := c = ' ' || c = '\t'

/-! ## Quoted scalars -/

/-- The line breaks that follow in a quoted scalar, and the place of the next
character that is neither a blank nor a break. -/
def quotedBreaks : Nat → Reader (List Char)
  | 0, _ => .error .malformed
  | rounds + 1, c => do
    require (!c.atSeparator)
    let c := c.skip isBlankChar
    if c.peek.any isBreak then
      let (first, c) := c.takeBreak
      let (breaks, c) ← quotedBreaks rounds c
      return (first ++ breaks, c)
    else return ([], c)

/-- The blanks that follow in a quoted scalar, with the line breaks after them. -/
def quotedSpace (rounds : Nat) : Reader (List Char) := fun c => do
  let (blanks, c) := c.take isBlankChar
  match c.peek with
  | none => .error .malformed
  | some ch =>
    if isBreak ch then
      let (first, c) := c.takeBreak
      let (breaks, c) ← quotedBreaks rounds c
      return (joinLines first breaks, c)
    else return (blanks, c)

/-- The code point that a letter after a backslash stands for. -/
def escapedChar? : Char → Option Nat
  | '0' => some 0
  | 'a' => some 0x07
  | 'b' => some 0x08
  | 't' => some 0x09
  | '\t' => some 0x09
  | 'n' => some 0x0A
  | 'v' => some 0x0B
  | 'f' => some 0x0C
  | 'r' => some 0x0D
  | 'e' => some 0x1B
  | ' ' => some 0x20
  | '"' => some 0x22
  | '\\' => some 0x5C
  | '/' => some 0x2F
  | 'N' => some 0x85
  | '_' => some 0xA0
  | 'L' => some 0x2028
  | 'P' => some 0x2029
  | _ => none

/-- The number of digits that a letter after a backslash asks for. -/
def escapeWidth? : Char → Option Nat
  | 'x' => some 2
  | 'u' => some 4
  | 'U' => some 8
  | _ => none

/-- Reads a code point of `width` hexadecimal digits. -/
def codePoint (width : Nat) : Reader Nat := fun c => do
  let digits := c.rest.take width
  require (digits.length = width)
  match Text.hexNumber? 0 digits with
  | none => .error .malformed
  | some n =>
    if n ≤ 0x10FFFF then return (n, c.advanceBy width)
    else if n ≤ 0x7FFFFFFF then .error .noValue
    else .error .tooLarge

/-- Reads what a backslash stands for, the backslash first. -/
def escape (rounds : Nat) : Reader (List Nat) := fun c => do
  let c := c.advance
  match c.peek with
  | none => .error .malformed
  | some ch =>
    if isBreak ch then
      let (breaks, c) ← quotedBreaks rounds c.takeBreak.2
      return (breaks.map Char.toNat, c)
    else
      match escapedChar? ch, escapeWidth? ch with
      | some n, _ => return ([n], c.advance)
      | none, some width =>
        let (n, c) ← codePoint width c.advance
        return ([n], c)
      | none, none => .error .malformed

/-- The code points of a quoted scalar up to its closing quote. -/
def quotedCodes (double : Bool) : Nat → Reader (List Nat)
  | 0, _ => .error .malformed
  | rounds + 1, c => do
    match c.peek with
    | none => .error .malformed
    | some ch =>
      if isBlankChar ch || isBreak ch then
        let (space, c) ← quotedSpace (rounds + 1) c
        let (codes, c) ← quotedCodes double rounds c
        return (space.map Char.toNat ++ codes, c)
      else if double && ch = '\\' then
        let (these, c) ← escape (rounds + 1) c
        let (codes, c) ← quotedCodes double rounds c
        return (these ++ codes, c)
      else if double && ch = '"' then return ([], c.advance)
      else if !double && ch = '\'' then
        if c.peekAt 1 = some '\'' then
          let (codes, c) ← quotedCodes double rounds (c.advanceBy 2)
          return (ch.toNat :: codes, c)
        else return ([], c.advance)
      else
        let (codes, c) ← quotedCodes double rounds c.advance
        return (ch.toNat :: codes, c)

/-- Reads a quoted scalar, its opening quote first. -/
def quotedScalar (double : Bool) : Reader Token := fun c => do
  let (codes, c) ← quotedCodes double (c.rest.length + 1) c.advance
  return (.scalar false (.ofCodes codes), c)

/-! ## Block scalars -/

/-- What to do with the line breaks at the end of a block scalar. -/
inductive Chomp where
  | strip
  | clip
  | keep
  deriving Repr, DecidableEq

/-- Reads the sign for the end of a block scalar, if there is one. -/
def chomp? (c : Cursor) : Option Chomp × Cursor :=
  match c.peek with
  | some '+' => (some .keep, c.advance)
  | some '-' => (some .strip, c.advance)
  | _ => (none, c)

/-- Reads the digit for the indentation of a block scalar, if there is one. -/
def increment? : Reader (Option Nat) := fun c => do
  match c.peek with
  | some ch =>
    if ch.isDigit then
      require (ch ≠ '0')
      return (some (ch.toNat - '0'.toNat), c.advance)
    else return (none, c)
  | none => return (none, c)

/-- Reads the indicators of a block scalar: a sign and a digit, in either order. -/
def blockHeader : Reader (Chomp × Option Nat) := fun c => do
  let (sign, c) := chomp? c
  let (increment, c) ← increment? c
  let (sign, c) := match sign, increment with
    | none, some _ => chomp? c
    | _, _ => (sign, c)
  require (endsWord c.peek)
  return ((sign.getD .clip, increment), ← restOfLine c)

/-- The line breaks in front of a block scalar, the widest run of spaces on the
lines there, and the place of the first other character. -/
def blockIndentation : Nat → Nat → Cursor → List Char × Nat × Cursor
  | 0, widest, c => ([], widest, c)
  | rounds + 1, widest, c =>
    match c.peek with
    | some ch =>
      if ch = ' ' then
        let c := c.advance
        blockIndentation rounds (max widest c.column) c
      else if isBreak ch then
        let (first, c) := c.takeBreak
        let (breaks, widest, c) := blockIndentation rounds widest c
        (first ++ breaks, widest, c)
      else ([], widest, c)
    | none => ([], widest, c)

/-- The place after spaces, up to a column. -/
def indentTo (column : Nat) : Nat → Cursor → Cursor
  | 0, c => c
  | rounds + 1, c =>
    if c.column < column && c.peek = some ' ' then indentTo column rounds c.advance else c

def blockBreaks (column : Nat) : Nat → Cursor → List Char × Cursor
  | 0, c => ([], c)
  | rounds + 1, c =>
    let c := indentTo column column c
    if c.peek.any isBreak then
      let (first, c) := c.takeBreak
      let (breaks, c) := blockBreaks column rounds c
      (first ++ breaks, c)
    else ([], c)

/-- The lines of a block scalar, the break after the last of them, and the breaks
after that one. -/
structure BlockLines where
  text : List Char
  last : List Char
  after : List Char

/-- Reads the lines of a block scalar that begin at a column. `breaks` are the
line breaks in front of the first one. -/
def blockLines (folded : Bool) (column : Nat) :
    Nat → (breaks : List Char) → Cursor → BlockLines × Cursor
  | 0, breaks, c => (⟨[], [], breaks⟩, c)
  | rounds + 1, breaks, c =>
    if c.column = column && c.peek.isSome then
      let flush := !c.peek.any isBlankChar
      let (line, c) := c.take fun ch => !isBreak ch
      let (first, c) := c.takeBreak
      let (following, c) := blockBreaks column (rounds + 1) c
      if c.column = column && c.peek.isSome then
        let joint :=
          if folded && first = ['\n'] && flush && !c.peek.any isBlankChar then
            if following.isEmpty then [' '] else []
          else first
        let (more, c) := blockLines folded column rounds following c
        (⟨breaks ++ line ++ joint ++ more.text, more.last, more.after⟩, c)
      else (⟨breaks ++ line, first, following⟩, c)
    else (⟨[], [], breaks⟩, c)

/-- Reads a block scalar, its indicator first. Its lines stand to the right of
the column `indent`. -/
def blockScalar (folded : Bool) (indent : Int) : Reader Token := fun c => do
  let ((chomp, increment), c) ← blockHeader c.advance
  let rounds := c.rest.length + 1
  let least := max 1 (indent + 1).toNat
  let (column, breaks, c) := match increment with
    | none =>
      let (breaks, widest, c) := blockIndentation rounds 0 c
      (max least widest, breaks, c)
    | some n =>
      let column := least + n - 1
      let (breaks, c) := blockBreaks column rounds c
      (column, breaks, c)
  let (lines, c) := blockLines folded column rounds breaks c
  let tail := match chomp with
    | .strip => []
    | .clip => lines.last
    | .keep => lines.last ++ lines.after
  return (.scalar false (.ofList (lines.text ++ tail)), c)

/-! ## Plain scalars -/

/-- A character that has a meaning inside brackets. -/
def isFlowIndicator (c : Char) : Bool := c = ',' || c = '[' || c = ']' || c = '\x7b' || c = '\x7d'

/-- The longest run of characters that belongs to a plain scalar on its line. -/
def plainRun (inFlow : Bool) : List Char → List Char
  | [] => []
  | c :: s =>
    if endsToken (some c) then []
    else if c = ':' && (endsToken s.head? || (inFlow && s.head?.any isFlowIndicator)) then []
    else if inFlow && (c = '?' || isFlowIndicator c) then []
    else c :: plainRun inFlow s

/-- The line breaks that follow in a plain scalar, or `none` when a document ends
there. -/
def plainBreaks : Nat → Cursor → Option (List Char) × Cursor
  | 0, c => (none, c)
  | rounds + 1, c =>
    if c.peek = some ' ' then plainBreaks rounds c.advance
    else if c.peek.any isBreak then
      let (first, c) := c.takeBreak
      if c.atSeparator then (none, c)
      else
        let (breaks, c) := plainBreaks rounds c
        (breaks.map (first ++ ·), c)
    else (some [], c)

/-- The space that follows in a plain scalar, and whether a line ends in it. -/
def plainSpace (c : Cursor) : List Char × Bool × Cursor :=
  let (spaces, c) := c.take (· = ' ')
  if c.peek.any isBreak then
    let (first, c) := c.takeBreak
    if c.atSeparator then ([], true, c)
    else match plainBreaks (c.rest.length + 1) c with
      | (some breaks, c) => (joinLines first breaks, true, c)
      | (none, c) => ([], true, c)
  else (spaces, false, c)

/-- A plain scalar, whether the line ended after it, and the place there. On later
lines the scalar stands at or to the right of the column `indent`. -/
def plainFrom (inFlow : Bool) (indent : Int) :
    Nat → (space : List Char) → (atLineStart : Bool) → Cursor → List Char × Bool × Cursor
  | 0, _, atLineStart, c => ([], atLineStart, c)
  | rounds + 1, space, atLineStart, c =>
    let run := plainRun inFlow c.rest
    if c.peek = some '#' || run.isEmpty then ([], atLineStart, c)
    else
      let (next, broke, c) := plainSpace (c.advanceBy run.length)
      if next.isEmpty || c.peek = some '#' || (!inFlow && c.column < indent) then
        (space ++ run, broke, c)
      else
        let (more, broke, c) := plainFrom inFlow indent rounds next broke c
        (space ++ run ++ more, broke, c)

/-- A plain scalar, and whether the line ended after it. -/
def plainScalar (inFlow : Bool) (indent : Int) (c : Cursor) : Token × Bool × Cursor :=
  let (text, broke, c) := plainFrom inFlow indent (c.rest.length + 1) [] false c
  (.scalar true (.ofList text), broke, c)

end Reroute.Yaml
