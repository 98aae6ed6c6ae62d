import Reroute.Yaml.Scalar

/-!
# Scanning

The tokens of a text. A `:` after a token makes it the key of a map, so the
scanner remembers for each level of brackets the token that could become a key,
and puts a key token in front of it when the `:` arrives. A key lies on one line
and is not longer than 1024 characters.

Indentation opens and closes block collections: the scanner keeps the columns of
those that are open.
-/

namespace Reroute.Yaml

/-- A token that becomes a key if a `:` follows: its number among the tokens,
whether it has to become one, and its place. -/
structure Pending where
  token : Nat
  required : Bool
  index : Nat
  line : Nat
  column : Nat

/-- The state of the scanner: its place, the tokens so far with the last one
first, the level of brackets, the column of the innermost block collection and
those around it, whether a key may begin here, and the tokens that may become
keys, by level. -/
structure Scanner where
  cursor : Cursor
  tokens : List Token
  level : Nat
  indent : Int
  outer : List Int
  keyAllowed : Bool
  pending : List (Nat × Pending)

namespace Scanner

def start (text : List Char) : Scanner :=
  { cursor := Cursor.start text
    tokens := []
    level := 0
    indent := -1
    outer := []
    keyAllowed := true
    pending := [] }

def push (s : Scanner) (t : Token) : Scanner := { s with tokens := t :: s.tokens }

/-- Puts a token in front of the token number `n`. -/
def insert (s : Scanner) (n : Nat) (t : Token) : Scanner :=
  let after := s.tokens.length - n
  { s with tokens := s.tokens.take after ++ t :: s.tokens.drop after }

def goTo (s : Scanner) (c : Cursor) : Scanner := { s with cursor := c }

/-- Adds a token of `n` characters. -/
def pushMark (s : Scanner) (n : Nat) (t : Token) : Scanner :=
  (s.goTo (s.cursor.advanceBy n)).push t

/-- Whether a token lies too far back to become a key. -/
def isStale (s : Scanner) (k : Pending) : Bool :=
  k.line ≠ s.cursor.line || 1024 < s.cursor.index - k.index

/-- Forgets the tokens that can no longer become keys. -/
def dropStale (s : Scanner) : Except Flaw Scanner := do
  require (!s.pending.any fun e => s.isStale e.2 && e.2.required)
  return { s with pending := s.pending.filter fun e => !s.isStale e.2 }

/-- Forgets the token of this level that could become a key. -/
def dropPending (s : Scanner) : Except Flaw Scanner := do
  require (!s.pending.any fun e => e.1 = s.level && e.2.required)
  return { s with pending := s.pending.filter fun e => e.1 ≠ s.level }

/-- Remembers that the next token may become a key. -/
def savePending (s : Scanner) : Except Flaw Scanner := do
  if s.keyAllowed then
    let required := s.level = 0 && s.indent = s.cursor.column
    let t ← s.dropPending
    let key : Pending :=
      ⟨t.tokens.length, required, t.cursor.index, t.cursor.line, t.cursor.column⟩
    return { t with pending := (t.level, key) :: t.pending }
  else return s

def unwindFrom (column : Int) : List Int → Scanner → Scanner
  | outer, s =>
    if s.indent ≤ column then s
    else match outer with
      | [] => s
      | indent :: outer => unwindFrom column outer { s.push .blockEnd with indent, outer }

/-- Closes the block collections to the right of a column, outside brackets. -/
def unwind (s : Scanner) (column : Int) : Scanner :=
  if s.level = 0 then unwindFrom column s.outer s else s

/-- Opens a block collection at a column if it stands to the right of the
innermost one, outside brackets: `start` is put in front of the token number
`n`. -/
def indentAt (s : Scanner) (column n : Nat) (start : Token) : Scanner :=
  if s.level = 0 && s.indent < column then
    { s.insert n start with indent := column, outer := s.indent :: s.outer }
  else s

def fetchEnd (s : Scanner) : Except Flaw Scanner := do
  let s ← (s.unwind (-1)).dropPending
  return { s.push .streamEnd with keyAllowed := false, pending := [] }

def fetchDirective (s : Scanner) : Except Flaw Scanner := do
  let s ← (s.unwind (-1)).dropPending
  let (d, c) ← directive s.cursor
  return { (s.goTo c).push (.directive d) with keyAllowed := false }

def fetchSeparator (s : Scanner) (t : Token) : Except Flaw Scanner := do
  let s ← (s.unwind (-1)).dropPending
  return { s.pushMark 3 t with keyAllowed := false }

def fetchOpening (s : Scanner) (t : Token) : Except Flaw Scanner := do
  let s ← s.savePending
  return { s.pushMark 1 t with level := s.level + 1, keyAllowed := true }

def fetchClosing (s : Scanner) (t : Token) : Except Flaw Scanner := do
  let s ← s.dropPending
  return { s.pushMark 1 t with level := s.level - 1, keyAllowed := false }

def fetchComma (s : Scanner) : Except Flaw Scanner := do
  let s ← s.dropPending
  return { s.pushMark 1 .flowEntry with keyAllowed := true }

def fetchEntry (s : Scanner) : Except Flaw Scanner := do
  require (s.level ≠ 0 || s.keyAllowed)
  let s := s.indentAt s.cursor.column s.tokens.length .blockSequenceStart
  let s ← s.dropPending
  return { s.pushMark 1 .blockEntry with keyAllowed := true }

def fetchKey (s : Scanner) : Except Flaw Scanner := do
  require (s.level ≠ 0 || s.keyAllowed)
  let s := s.indentAt s.cursor.column s.tokens.length .blockMappingStart
  let s ← s.dropPending
  return { s.pushMark 1 .key with keyAllowed := s.level = 0 }

/-- Scans the indicator of a value, which may turn an earlier token into a key. -/
def fetchValue (s : Scanner) : Except Flaw Scanner := do
  match s.pending.lookup s.level with
  | some key =>
    let s := { s with pending := s.pending.filter fun e => e.1 ≠ s.level }
    let s := (s.insert key.token .key).indentAt key.column key.token .blockMappingStart
    return { s.pushMark 1 .value with keyAllowed := false }
  | none =>
    require (s.level ≠ 0 || s.keyAllowed)
    let s := s.indentAt s.cursor.column s.tokens.length .blockMappingStart
    let s ← s.dropPending
    return { s.pushMark 1 .value with keyAllowed := s.level = 0 }

def fetchNode (s : Scanner) (read : Reader Token) : Except Flaw Scanner := do
  let s ← s.savePending
  let (t, c) ← read s.cursor
  return { (s.goTo c).push t with keyAllowed := false }

def fetchBlockScalar (s : Scanner) (folded : Bool) : Except Flaw Scanner := do
  let s ← s.dropPending
  let (t, c) ← blockScalar folded s.indent s.cursor
  return { (s.goTo c).push t with keyAllowed := true }

def fetchPlain (s : Scanner) : Except Flaw Scanner := do
  let s ← s.savePending
  let (t, atLineStart, c) := plainScalar (s.level ≠ 0) (s.indent + 1) s.cursor
  return { (s.goTo c).push t with keyAllowed := atLineStart }

/-- Characters that do not begin a plain scalar. -/
def indicators : List Char :=
  ['-', '?', ':', ',', '[', ']', '\x7b', '\x7d', '#', '&', '*', '!', '|', '>', '\'', '"', '%',
   '@', '\x60']

/-- Whether a plain scalar may begin with `ch`, given what follows it. -/
def beginsPlain (inFlow : Bool) (ch : Char) (next : Option Char) : Bool :=
  !(endsToken (some ch) || indicators.contains ch) ||
    (!endsToken next && (ch = '-' || (!inFlow && (ch = '?' || ch = ':'))))

/-- The place of the next token, and whether a line ended on the way. Tabs are
not passed over. -/
def nextToken : Nat → Cursor → Bool × Cursor
  | 0, c => (false, c)
  | rounds + 1, c =>
    let c := skipComment c.skipSpaces
    if c.peek.any isBreak then (true, (nextToken rounds c.takeBreak.2).2) else (false, c)

/-- Moves to the next token. A byte order mark may begin the text. -/
def approach (s : Scanner) : Except Flaw Scanner := do
  let c := s.cursor
  let c := if c.index = 0 && c.peek.any (·.toNat = 0xFEFF) then c.advance else c
  let (lineEnded, c) := nextToken (c.rest.length + 1) c
  let s := { s with cursor := c, keyAllowed := s.keyAllowed || (lineEnded && s.level = 0) }
  let s ← s.dropStale
  return s.unwind c.column

/-- Scans the token at the place of `s`. -/
def fetch (s : Scanner) : Except Flaw Scanner :=
  let c := s.cursor
  match c.peek with
  | none => s.fetchEnd
  | some ch =>
    let next := c.peekAt 1
    let atLineStart := c.column = 0
    let standsAlone := s.level ≠ 0 || endsToken next
    if ch = '%' && atLineStart then s.fetchDirective
    else if atLineStart && c.atMark '-' then s.fetchSeparator .documentStart
    else if atLineStart && c.atMark '.' then s.fetchSeparator .documentEnd
    else if ch = '[' then s.fetchOpening .flowSequenceStart
    else if ch = '\x7b' then s.fetchOpening .flowMappingStart
    else if ch = ']' then s.fetchClosing .flowSequenceEnd
    else if ch = '\x7d' then s.fetchClosing .flowMappingEnd
    else if ch = ',' then s.fetchComma
    else if ch = '-' && endsToken next then s.fetchEntry
    else if ch = '?' && standsAlone then s.fetchKey
    else if ch = ':' && standsAlone then s.fetchValue
    else if ch = '*' then s.fetchNode fun c => (anchorName c).map fun r => (.alias r.1, r.2)
    else if ch = '&' then s.fetchNode fun c => (anchorName c).map fun r => (.anchor r.1, r.2)
    else if ch = '!' then s.fetchNode tag
    else if ch = '|' && s.level = 0 then s.fetchBlockScalar false
    else if ch = '>' && s.level = 0 then s.fetchBlockScalar true
    else if ch = '\'' then s.fetchNode (quotedScalar false)
    else if ch = '"' then s.fetchNode (quotedScalar true)
    else if beginsPlain (s.level ≠ 0) ch next then s.fetchPlain
    else .error .malformed

/-- The tokens of which nothing can be a key any more, first one first. -/
def settled (s : Scanner) : List Token :=
  let all := s.tokens.reverse
  match ((s.pending.filter fun e => !s.isStale e.2).map (·.2.token)).min? with
  | some n => all.take n
  | none => all

def run : Nat → Scanner → List Token × Option Flaw
  | 0, s => (s.settled, some .malformed)
  | rounds + 1, s =>
    match s.approach >>= fetch with
    | .error flaw => (s.settled, some flaw)
    | .ok s => if s.tokens.head? = some .streamEnd then (s.settled, none) else run rounds s

end Scanner

def isAllowed (c : Char) : Bool :=
  let n := c.toNat
  n = 0x09 || n = 0x0A || n = 0x0D || (0x20 ≤ n && n ≤ 0x7E) || n = 0x85 ||
    (0xA0 ≤ n && n ≤ 0xD7FF) || (0xE000 ≤ n && n ≤ 0xFFFD) || 0x10000 ≤ n

/-- The tokens of a text, and what is wrong with the text after them. -/
def scan (text : List Char) : List Token × Option Flaw :=
  if text.all isAllowed then Scanner.run (text.length + 2) (Scanner.start text)
  else ([], some .malformed)

end Reroute.Yaml
