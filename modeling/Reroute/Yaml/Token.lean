import Reroute.Yaml.Cursor

/-!
# Tokens

The tokens of a YAML text, and the readers of directives, anchors and tags.
-/

namespace Reroute.Yaml

/-- A line that says how to read the document after it. -/
inductive Directive where
  | version (major : Nat)
  | tag (handle head : String)
  | other
  deriving Repr, DecidableEq

inductive Token where
  | streamEnd
  | directive (d : Directive)
  | documentStart
  | documentEnd
  | blockSequenceStart
  | blockMappingStart
  | blockEnd
  | flowSequenceStart
  | flowMappingStart
  | flowSequenceEnd
  | flowMappingEnd
  | flowEntry
  | blockEntry
  | key
  | value
  | alias (name : String)
  | anchor (name : String)
  | tag (handle : Option String) (tail : String)
  /-- A scalar, which is plain when it has neither quotes nor an indicator. -/
  | scalar (plain : Bool) (text : Points)
  deriving Repr, DecidableEq

/-- Accepts the place if it fulfils a condition. -/
def require (fits : Bool) : Except Flaw Unit := if fits then .ok () else .error .malformed

/-- The place after a comment, if one follows. -/
def skipComment (c : Cursor) : Cursor := if c.peek = some '#' then c.skipLine else c

/-- The rest of a line that may only hold spaces and a comment. -/
def restOfLine (c : Cursor) : Except Flaw Cursor := do
  let c := skipComment c.skipSpaces
  require (endsLine c.peek)
  return c.takeBreak.2

def name : Reader String := fun c => do
  let (run, c) := c.take isNameChar
  require (!run.isEmpty)
  return (String.ofList run, c)

/-- The characters other than blanks that may follow an anchor. -/
def anchorEnds : List Char := ['?', ':', ',', ']', '\x7d', '%', '@', '\x60']

/-- Reads an anchor or an alias, its indicator first. -/
def anchorName : Reader String := fun c => do
  let (name, c) ← name c.advance
  require (endsToken c.peek || c.peek.any anchorEnds.contains)
  return (name, c)

def versionNumber : Reader Nat := fun c => do
  let (run, c) := c.take Char.isDigit
  require (!run.isEmpty)
  if Text.maxDigits < run.length then .error .noValue
  else return (Text.digitsValue 0 run, c)

/-- Reads the handle of a tag: `!`, or a name between two of them. -/
def tagHandle : Reader String := fun c => do
  require (c.peek = some '!')
  let c := c.advance
  if c.peek = some ' ' then return ("!", c)
  else
    let (run, c) := c.take isNameChar
    require (c.peek = some '!')
    return (String.ofList ('!' :: run ++ ['!']), c.advance)

def isAddressChar (c : Char) : Bool :=
  c.isAlphanum || "-;/?:@&=+$,_.!~*'()[]%".toList.contains c

/-- The characters that an address stands for, where `%` and two digits stand for
a byte; each run of such bytes has to be UTF-8. -/
def unescapeAddress (bytes : List UInt8) : List Char → Option (List Char)
  | '%' :: a :: b :: s =>
    match Text.hexNumber? 0 [a, b] with
    | some n => unescapeAddress (bytes ++ [UInt8.ofNat n]) s
    | none => none
  | '%' :: _ => none
  | c :: s => do
    let before ← String.fromUTF8? ⟨bytes.toArray⟩
    return before.toList ++ c :: (← unescapeAddress [] s)
  | [] => (String.fromUTF8? ⟨bytes.toArray⟩).map String.toList

def tagAddress : Reader String := fun c => do
  let (run, c) := c.take isAddressChar
  require (!run.isEmpty)
  match unescapeAddress [] run with
  | some address => return (String.ofList address, c)
  | none => .error .malformed

def tag : Reader Token := fun c => do
  let (token, c) ←
    if c.peekAt 1 = some '<' then do
      let (address, c) ← tagAddress (c.advanceBy 2)
      require (c.peek = some '>')
      pure (Token.tag none address, c.advance)
    else if endsToken (c.peekAt 1) then
      pure (Token.tag none "!", c.advance)
    else do
      let word := c.rest.tail.takeWhile fun ch => !endsWord (some ch)
      let (handle, c) ←
        if word.contains '!' then tagHandle c else pure ("!", c.advance)
      let (address, c) ← tagAddress c
      pure (Token.tag (some handle) address, c)
  require (endsWord c.peek)
  return (token, c)

def directive : Reader Directive := fun c => do
  let (name, c) ← name c.advance
  require (endsWord c.peek)
  let (d, c) ←
    if name = "YAML" then do
      let (major, c) ← versionNumber c.skipSpaces
      require (c.peek = some '.')
      let (_, c) ← versionNumber c.advance
      require (endsWord c.peek)
      pure (Directive.version major, c)
    else if name = "TAG" then do
      let (handle, c) ← tagHandle c.skipSpaces
      require (c.peek = some ' ')
      let (head, c) ← tagAddress c.skipSpaces
      require (endsWord c.peek)
      pure (Directive.tag handle head, c)
    else pure (Directive.other, c.skipLine)
  return (d, ← restOfLine c)

end Reroute.Yaml
