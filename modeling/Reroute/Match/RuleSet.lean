import Reroute.Digest.Sha256
import Reroute.Json.Writer
import Reroute.Match.Glob
import Reroute.Text.Printable

/-!
# Rule sets

A matcher is a rule with its kind made out. It rewrites the URLs it accepts, and in a
list of matchers the first one that accepts a URL rewrites it. A rule set is a rule list
with its matchers and its version: a digest of the stored form, so two lists with one
version hold the same rules in the same order.
-/

namespace Reroute

/-- A rule that is ready to be matched. -/
inductive Matcher where
  | whole (literal destination : Points)
  | wildcard (pattern destination : Points)
  | leading (start replacement : Points)
  deriving Repr, DecidableEq

namespace Matcher

def kind : Matcher → Kind
  | .whole _ _ => .whole
  | .wildcard _ _ => .wildcard
  | .leading _ _ => .leading

def ofKind (k : Kind) (source destination : Points) : Matcher :=
  match k with
  | .whole => .whole source destination
  | .wildcard => .wildcard source destination
  | .leading => .leading source destination

def texts : Matcher → Points × Points
  | .whole a b | .wildcard a b | .leading a b => (a, b)

def ofRule (r : Rule) : Matcher := ofKind r.kind r.source r.destination

/-- Where a URL is sent, if the matcher accepts it. -/
def rewrite? (m : Matcher) (url : Points) : Option Points :=
  match m with
  | .whole literal destination => if url = literal then some destination else none
  | .wildcard pattern destination =>
    if Glob.isMatch pattern.toList url.toList then some destination else none
  | .leading start replacement =>
    (start.toList.isPrefixOf? url.toList).map fun rest => replacement ++ ⟨rest⟩

end Matcher

/-- Where a URL is sent, and the place of the matcher that sends it there,
counted from 0, if it is known. -/
structure Redirect where
  destination : Points
  index : Option Nat
  deriving Repr, DecidableEq

namespace Redirect

/-- Two redirects are the same if they lead to the same place. -/
def same (a b : Redirect) : Bool := a.destination = b.destination

/-- The redirect by the first entry of a list that sends the URL anywhere, where
`index` entries stand in front of them. To ask an entry may fail, which ends the
search. -/
def firstFrom {m : Type → Type} [Monad m] {α : Type} (rewrite : α → m (Option Points)) :
    (index : Nat) → List α → m (Option Redirect)
  | _, [] => pure none
  | index, x :: xs => do
    match ← rewrite x with
    | some destination => return some ⟨destination, some index⟩
    | none => firstFrom rewrite (index + 1) xs

end Redirect

namespace Matcher

/-- The redirect by the first of the matchers that accepts the URL, where `index`
matchers stand in front of them. No matcher fails. -/
def firstFrom (url : Points) (index : Nat) (ms : List Matcher) : Option Redirect :=
  Id.run (Redirect.firstFrom (fun m => pure (m.rewrite? url)) index ms)

def first (ms : List Matcher) (url : Points) : Option Redirect := firstFrom url 0 ms

end Matcher

/-- An entry of a list that is to be matched: a matcher, or a rule whose kind
nobody has made out. -/
inductive Candidate where
  | ready (m : Matcher)
  | raw (r : Rule)
  deriving Repr, DecidableEq

/-- A rule was met where a matcher is needed. -/
structure NotReady where
  rule : Rule
  deriving Repr, DecidableEq

def NotReady.message (e : NotReady) : String :=
  "Unsupported compiled rule: Rule(source=" ++ Text.quotedString e.rule.source ++
    ", destination=" ++ Text.quotedString e.rule.destination ++ ")"

namespace Candidate

/-- Where a URL is sent, if the entry is a matcher that accepts it. -/
def rewrite? : Candidate → Points → Except NotReady (Option Points)
  | .ready m, url => .ok (m.rewrite? url)
  | .raw r, _ => .error ⟨r⟩

/-- The redirect by the first of the entries that accepts the URL. A raw rule in
front of it is an error. -/
def firstFrom (url : Points) (index : Nat) (cs : List Candidate) :
    Except NotReady (Option Redirect) :=
  Redirect.firstFrom (fun c => c.rewrite? url) index cs

def first (cs : List Candidate) (url : Points) : Except NotReady (Option Redirect) :=
  firstFrom url 0 cs

end Candidate

/-- The digest of a value: of its canonical text, which no order of members
changes. -/
def Json.fingerprint (v : Json) : String :=
  Digest.sha256 (String.ofList v.canonical).toUTF8.toList

def Rule.version (rules : List Rule) : String := (listToJson rules).fingerprint

structure RuleSet where
  rules : List Rule
  matchers : List Matcher
  version : String
  deriving Repr, DecidableEq

namespace RuleSet

def ofRules (rules : List Rule) : RuleSet :=
  { rules := rules
    matchers := rules.map Matcher.ofRule
    version := Rule.version rules }

/-- The redirect of a URL by the first rule that accepts it. -/
def redirect? (s : RuleSet) (url : Points) : Option Redirect := Matcher.first s.matchers url

def size (s : RuleSet) : Nat := s.matchers.length

end RuleSet

end Reroute
