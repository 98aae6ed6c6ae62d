import Reroute.Yaml.Scalar

/-!
# Tags

What a tag says about a node, and which tag a plain scalar without one has.
-/

namespace Reroute.Yaml

/-- The kinds of values that a node can be tagged as. -/
inductive Tag where
  | null
  | bool
  | int
  | float
  | binary
  | timestamp
  | omap
  | pairs
  | set
  | str
  | seq
  | map
  /-- The key whose value is merged into the map. -/
  | merge
  /-- The key whose value stands for the map. -/
  | value
  /-- A kind that is no plain value. -/
  | foreign
  deriving Repr, DecidableEq

namespace Tag

/-- The head of the addresses of the known tags. -/
def knownHead : String := "tag:yaml.org,2002:"

def known : List (String × Tag) :=
  [("null", .null), ("bool", .bool), ("int", .int), ("float", .float), ("binary", .binary),
   ("timestamp", .timestamp), ("omap", .omap), ("pairs", .pairs), ("set", .set), ("str", .str),
   ("seq", .seq), ("map", .map), ("merge", .merge), ("value", .value)]

def ofAddress (address : String) : Tag :=
  ((known.find? fun e => knownHead ++ e.1 = address).map (·.2)).getD .foreign

end Tag

/-! ## Plain scalars

Each of these tells whether the whole text has a form. -/

def unsigned : List Char → List Char
  | '+' :: s | '-' :: s => s
  | s => s

def isDigitOrGap (c : Char) : Bool := c.isDigit || c = '_'

/-- A colon and a number below 60, again and again, up to the end. -/
def areSixtieths : List Char → Bool
  | [':', d] => d.isDigit
  | ':' :: d :: ':' :: s => d.isDigit && areSixtieths (':' :: s)
  | ':' :: t :: d :: s =>
    '0' ≤ t && t ≤ '5' && d.isDigit && (s.isEmpty || areSixtieths s)
  | _ => false

def isExponent : List Char → Bool
  | [] => true
  | e :: sign :: d :: s =>
    (e = 'e' || e = 'E') && (sign = '+' || sign = '-') && d.isDigit && s.all Char.isDigit
  | _ => false

def looksLikeFloat (s : List Char) : Bool :=
  let body := unsigned s
  let (whole, rest) := body.span isDigitOrGap
  let wholeFits := whole.head?.any Char.isDigit
  let named := ["inf", "Inf", "INF"].any fun n => body = '.' :: n.toList
  let noNumber := ["nan", "NaN", "NAN"].any fun n => s = '.' :: n.toList
  let pointed := match rest with
    | '.' :: r =>
      let (fraction, e) := r.span isDigitOrGap
      isExponent e && (wholeFits ||
        (whole.isEmpty && body = s && fraction.head?.any Char.isDigit))
    | _ => false
  let sixtieths := match Text.cutLast? '.' rest with
    | some (groups, fraction) => wholeFits && areSixtieths groups && fraction.all isDigitOrGap
    | none => false
  pointed || sixtieths || named || noNumber

def looksLikeInt (s : List Char) : Bool :=
  let body := unsigned s
  let decimal := match body with
    | ['0'] => true
    | d :: r =>
      let (_, rest) := r.span isDigitOrGap
      '1' ≤ d && d ≤ '9' && (rest.isEmpty || areSixtieths rest)
    | [] => false
  let marked := match body with
    | '0' :: 'b' :: r => !r.isEmpty && r.all fun c => c = '0' || c = '1' || c = '_'
    | '0' :: 'x' :: r => !r.isEmpty && r.all fun c => (Text.hexValue? c).isSome || c = '_'
    | '0' :: r => !r.isEmpty && r.all fun c => ('0' ≤ c && c ≤ '7') || c = '_'
    | _ => false
  decimal || marked

def truthSpellings : List String :=
  ["yes", "Yes", "YES", "no", "No", "NO", "true", "True", "TRUE", "false", "False", "FALSE",
   "on", "On", "ON", "off", "Off", "OFF"]

/-- The spellings of the null value, other than the empty text. -/
def nullSpellings : List String := ["~", "null", "Null", "NULL"]

/-- The numbers of a date and what follows it: a year of four digits, a month and
a day of one or two. -/
def dateParts? (s : List Char) : Option (List (List Char) × List Char) :=
  let (year, s) := s.span Char.isDigit
  match s with
  | '-' :: s =>
    let (month, s) := s.span Char.isDigit
    match s with
    | '-' :: s =>
      let (day, s) := s.span Char.isDigit
      if year.length = 4 && 1 ≤ month.length && month.length ≤ 2 && 1 ≤ day.length &&
          day.length ≤ 2 then
        some ([year, month, day], s)
      else none
    | _ => none
  | _ => none

/-- An offset from universal time: its sign, hours and minutes. -/
structure OffsetText where
  negative : Bool
  hours : List Char
  minutes : List Char

/-- The parts of a moment: the numbers of its date, those of its clock, its
fraction, and its offset. -/
structure MomentText where
  date : List (List Char)
  clock : List (List Char)
  fraction : List Char
  offset : Option OffsetText

/-- Reads an offset at the end of a moment; `none` inside stands for no offset. -/
def offset? (s : List Char) : Option (Option OffsetText) :=
  let signed (negative : Bool) (s : List Char) : Option (Option OffsetText) :=
    let (hours, s) := s.span Char.isDigit
    if hours.isEmpty || 2 < hours.length then none
    else match s with
      | [] => some (some ⟨negative, hours, []⟩)
      | [':', a, b] =>
        if a.isDigit && b.isDigit then some (some ⟨negative, hours, [a, b]⟩) else none
      | _ => none
  match s.dropWhile isBlankChar with
  | [] => if s.isEmpty then some none else none
  | ['Z'] => some (some ⟨false, ['0'], []⟩)
  | '+' :: r => signed false r
  | '-' :: r => signed true r
  | _ => none

/-- Reads the clock of a moment after its date. -/
def clockParts? (date : List (List Char)) (s : List Char) : Option MomentText :=
  let clock := match s with
    | 'T' :: r | 't' :: r => some r
    | c :: r => if isBlankChar c then some (r.dropWhile isBlankChar) else none
    | [] => none
  match clock with
  | none => none
  | some s =>
    let (hour, s) := s.span Char.isDigit
    match s with
    | ':' :: m :: n :: ':' :: p :: q :: s =>
      if 1 ≤ hour.length && hour.length ≤ 2 && [m, n, p, q].all Char.isDigit then
        let (fraction, s) := match s with
          | '.' :: r => r.span Char.isDigit
          | _ => ([], s)
        (offset? s).map fun offset => ⟨date, [hour, [m, n], [p, q]], fraction, offset⟩
      else none
    | _ => none

/-- Reads the parts of a date or a moment. -/
def momentParts? (s : List Char) : Option MomentText :=
  match dateParts? s with
  | some (date, []) => some ⟨date, [], [], none⟩
  | some (date, rest) => clockParts? date rest
  | none => none

/-- A date in full, or a moment. -/
def looksLikeMoment (s : List Char) : Bool :=
  match momentParts? s with
  | some m => !m.clock.isEmpty || m.date.map List.length = [4, 2, 2]
  | none => false

/-- The text without one line feed at its end. -/
def dropLastBreak (s : List Char) : List Char := if s.getLast? = some '\n' then s.dropLast else s

/-- The tag of a plain scalar. -/
def implicitTag (text : String) : Tag :=
  let s := dropLastBreak text.toList
  let word := String.ofList s
  if text.isEmpty || nullSpellings.contains word then .null
  else if truthSpellings.contains word then .bool
  else if looksLikeFloat s then .float
  else if looksLikeInt s then .int
  else if looksLikeMoment s then .timestamp
  else if word = "<<" then .merge
  else if word = "=" then .value
  else if word = "!" || word = "&" || word = "*" then .foreign
  else .str

end Reroute.Yaml
