import Reroute.Rule.Basic
import Reroute.Yaml.Tag

/-!
# Writing YAML

Rule lists as YAML: one map for each rule, with its two texts. A text is written
plain where that reads back, in single quotes otherwise, and in double quotes when
it holds what only those can escape. Lines are broken at spaces after the column
80.
-/

namespace Reroute.Yaml

def width : Nat := 80

def laterColumn : Nat := 4

def newLine : List Char := '\n' :: List.replicate laterColumn ' '

/-! ## Choosing the quotes -/

inductive Style where
  | plain
  | single
  | double
  deriving Repr, DecidableEq

def isSpecial (c : Char) : Bool := c ≠ '\n' && !(0x20 ≤ c.toNat && c.toNat ≤ 0x7E)

/-- Whether a text holds two characters next to each other. -/
def hasPair (a b : Char) : List Char → Bool
  | c :: d :: s => (c = a && d = b) || hasPair a b (d :: s)
  | _ => false

/-- Whether a plain text may not begin like this. -/
def beginsBadly : List Char → Bool
  | [] => false
  | c :: s =>
    (indicators.contains c && !(['-', '?', ':'].contains c)) ||
      (['-', '?', ':'].contains c && endsToken s.head?) || (c :: s).take 3 = ['-', '-', '-'] ||
      (c :: s).take 3 = ['.', '.', '.']
where
  /-- Characters that mean something at the start of a text. -/
  indicators : List Char :=
    ['-', '?', ':', ',', '[', ']', '\x7b', '\x7d', '#', '&', '*', '!', '|', '>', '\'', '"', '%',
     '@', '\x60']

/-- Whether a plain text would end in the middle: at a colon with a blank after it
or at a number sign with a blank in front of it. -/
def breaksOff : List Char → Bool
  | c :: d :: s =>
    (d = '#' && endsToken (some c)) || (d = ':' && endsToken s.head?) || breaksOff (d :: s)
  | _ => false

/-- How a text is written. -/
def styleOf (text : String) : Style :=
  let s := text.toList
  if s.any isSpecial || hasPair ' ' '\n' s || hasPair '\n' ' ' s then .double
  else if implicitTag text ≠ .str || beginsBadly s || breaksOff s || s.contains '\n' ||
      s.head? = some ' ' || s.getLast? = some ' ' then .single
  else .plain

/-! ## Writing a text -/

/-- Writes the runs of spaces, of line breaks and of other characters of a text,
from a column on. A lone space between two of them may become a line break.
`first` tells that nothing of the text is written yet. -/
def writeRuns (doubled : Char → List Char) : (column : Nat) → (first : Bool) →
    List (List Char) → List Char
  | _, _, [] => []
  | column, first, run :: rest =>
    match run with
    | [] => writeRuns doubled column first rest
    | c :: _ =>
      if run = [' '] && width < column && !first && !rest.isEmpty then
        newLine ++ writeRuns doubled laterColumn false rest
      else if c = '\n' then
        '\n' :: run ++ List.replicate laterColumn ' ' ++ writeRuns doubled laterColumn false rest
      else
        let out := run.flatMap doubled
        out ++ writeRuns doubled (column + out.length) false rest

def runKind (c : Char) : Nat := if c = ' ' then 0 else if c = '\n' then 1 else 2

def runs (s : List Char) : List (List Char) := s.splitBy fun a b => runKind a = runKind b

/-- The letter after a backslash that stands for a code point. -/
def escapeLetter? : Nat → Option Char
  | 0x00 => some '0'
  | 0x07 => some 'a'
  | 0x08 => some 'b'
  | 0x09 => some 't'
  | 0x0A => some 'n'
  | 0x0B => some 'v'
  | 0x0C => some 'f'
  | 0x0D => some 'r'
  | 0x1B => some 'e'
  | 0x22 => some '"'
  | 0x5C => some '\\'
  | 0x85 => some 'N'
  | 0xA0 => some '_'
  | 0x2028 => some 'L'
  | 0x2029 => some 'P'
  | _ => none

/-- The escape of a code point in double quotes, if it needs one. -/
def doubleEscape? (n : Nat) : Option (List Char) :=
  match escapeLetter? n with
  | some letter => some ['\\', letter]
  | none =>
    if 0x20 ≤ n && n ≤ 0x7E then none
    else if n < 0x100 then some ('\\' :: 'x' :: Text.hexCapitals 2 n)
    else if n < 0x10000 then some ('\\' :: 'u' :: Text.hexCapitals 4 n)
    else some ('\\' :: 'U' :: Text.hexCapitals 8 n)

/-- Writes a text for double quotes from a column on. `word` is written next; a
line may be broken in front of the next character when that is a space or follows
an escape. A space at the start of a line is marked. -/
def writeDouble (column : Nat) (word : List Char) (first : Bool) : List Nat → List Char
  | [] => word
  | n :: s =>
    let inside := !first && !s.isEmpty
    match doubleEscape? n with
    | some e =>
      let column := column + word.length + e.length
      if inside && width + 1 < column then
        let mark := if s.head? = some 0x20 then ['\\'] else []
        word ++ e ++ '\\' :: newLine ++ mark ++
          writeDouble (laterColumn + mark.length) [] false s
      else word ++ e ++ writeDouble column [] false s
    | none =>
      let c := Char.ofNat n
      if inside && (c = ' ' || word.isEmpty) && width < column + word.length then
        let mark := if c = ' ' then ['\\'] else []
        word ++ '\\' :: newLine ++ mark ++ writeDouble (laterColumn + mark.length) [c] false s
      else writeDouble column (word ++ [c]) false s

/-- Writes a text after a space, from a column on. -/
def writeText (column : Nat) (text : Points) : List Char :=
  let s := text.chars
  match styleOf text.toString with
  | .plain => ' ' :: writeRuns (fun c => [c]) (column + 1) true (runs s)
  | .single =>
    let twice (c : Char) : List Char := if c = '\'' then [c, c] else [c]
    ' ' :: '\'' :: writeRuns twice (column + 2) true (runs s) ++ ['\'']
  | .double => ' ' :: '"' :: writeDouble (column + 2) [] true text.codes ++ ['"']

def writeEntry (head : String) (text : Points) : List Char :=
  head.toList ++ writeText head.toList.length text ++ ['\n']

/-- A rule list as YAML. -/
def write (rules : List Rule) : String :=
  match rules with
  | [] => "[]\n"
  | rules =>
    String.ofList (rules.flatMap fun r =>
      writeEntry "- from:" r.source ++ writeEntry "  to:" r.destination)

end Reroute.Yaml
