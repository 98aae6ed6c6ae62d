import Reroute.Json.Basic
import Reroute.Text.Basic

/-!
# Redirect rules

A rule sends the URLs that its source describes to its destination.

A bare path such as `https://www.example.com/search` is meant for everything
under it, a file such as `https://a.example/page.html` for that page alone, and
no rule says which. So the kind is read off the text: a `*` anywhere makes a
wildcard; a bare host, a trailing `/` or a last path segment without a dot makes
a leading source; everything else is matched whole.
-/

namespace Reroute

/-- A redirect rule, as it is stored. -/
structure Rule where
  source : Points
  destination : Points
  deriving Repr, DecidableEq

namespace Rule

def toJson (r : Rule) : Json := .obj [("from", .str r.source), ("to", .str r.destination)]

def listToJson (rules : List Rule) : Json := .arr (rules.map toJson)

end Rule

/-- How the source of a rule is matched. -/
inductive Kind where
  /-- The URL is the source. -/
  | whole
  /-- The URL is an instance of the source, whose stars stand for runs. -/
  | wildcard
  /-- The URL starts with the source; what follows is kept. -/
  | leading
  deriving Repr, DecidableEq

namespace Kind

def label : Kind → String
  | .whole => "exact"
  | .wildcard => "wildcard"
  | .leading => "prefix"

end Kind

namespace Source

/-- The character that stands for a run in a wildcard source. -/
def star : Code := '*'

def schemeSeparator : List Code := [':', '/', '/']

/-- The text after the first `://`, or the whole text when there is none. -/
def afterScheme (s : List Code) : List Code :=
  match Text.cut? schemeSeparator s with
  | some (_, rest) => rest
  | none => s

/-- Everything from the first `/` after the host on; empty without a path. -/
def urlPath (s : List Code) : List Code := (afterScheme s).dropWhile (· ≠ '/')

/-- Whether the text ends in a dot with letters or digits after it. -/
def endsInExtension (s : List Code) : Bool :=
  match s.reverse.span (Code.is Char.isAlphanum) with
  | (_ :: _, .char '.' :: _) => true
  | _ => false

/-- Whether the path looks like a file with an extension. -/
def looksLikeFile (s : List Code) : Bool := endsInExtension (urlPath s)

def hasQueryOrFragment (s : List Code) : Bool := s.contains '?' || s.contains '#'

def endsInSlash (s : List Code) : Bool := s.getLast? = some (.char '/')

/-- The part that has no `/` when the source is a bare host. Without a scheme
this leaves two characters out. -/
def hostPart (s : List Code) : List Code :=
  match Text.cut? schemeSeparator s with
  | some (_, rest) => rest
  | none => s.drop 2

/-- Whether the source is a bare host or ends in `/`, and has neither a query,
nor a fragment, nor a file extension. -/
def isLikelyPrefix (s : List Code) : Bool :=
  !hasQueryOrFragment s && !looksLikeFile s && (endsInSlash s || !(hostPart s).contains '/')

/-- The text after the last `/` of the path, when there is some. -/
def finalSegment? (s : List Code) : Option (List Code) :=
  match Text.cutLast? (.char '/') (urlPath s) with
  | some (_, c :: segment) => some (c :: segment)
  | _ => none

/-- Whether the source ends in a path segment, and its path has no dot. -/
def endsWithPathSegment (s : List Code) : Bool :=
  (finalSegment? s).isSome && !(urlPath s).contains '.'

def kind (s : List Code) : Kind :=
  if s.contains star then .wildcard
  else if isLikelyPrefix s || endsWithPathSegment s then .leading
  else .whole

end Source

namespace Rule

def kind (r : Rule) : Kind := Source.kind r.source.toList

end Rule

end Reroute
