import Reroute.Match.RuleSet

/-!
# Request rules for a browser

The rules in the form that a browser takes for rewriting requests itself. A
leading source becomes a regular expression with one group for the rest of the
URL, which the substitution appends to the destination. The other kinds keep
their source as a URL filter.
-/

namespace Reroute.NetRequest

/-- What a request is tested against. -/
inductive Filter where
  | regex (text : Points)
  | url (text : Points)
  deriving Repr, DecidableEq

inductive Target where
  | substitution (text : Points)
  | url (text : Points)
  deriving Repr, DecidableEq

structure Entry where
  id : Nat
  filter : Filter
  target : Target
  deriving Repr, DecidableEq

def priority : Nat := 1

def resourceTypes : List String := ["main_frame", "sub_frame"]

/-- The regular expression for the URLs that start with `start`, with a group for
the rest. -/
def leadingFilter (start : Points) : Points :=
  ("^" : Points) ++ ⟨Glob.escape start.toList⟩ ++ ("(.*)$" : Points)

/-- The request rule for a rule of the store. It holds the texts as they are
stored, halves of pairs included. -/
def ofRule (r : Rule) (id : Nat) : Entry :=
  match (Matcher.ofRule r).kind with
  | .leading =>
    ⟨id, .regex (leadingFilter r.source), .substitution (r.destination ++ ("\\1" : Points))⟩
  | .whole | .wildcard => ⟨id, .url r.source, .url r.destination⟩

/-- The request rules for rules in front of which `count` others stand. -/
def ofRulesFrom : (count : Nat) → List Rule → List Entry
  | _, [] => []
  | count, r :: rs => ofRule r (count + 1) :: ofRulesFrom (count + 1) rs

/-- The request rules for a rule list, numbered from 1. -/
def ofRules (rules : List Rule) : List Entry := ofRulesFrom 0 rules

namespace Entry

/-- A request rule as a browser takes it. -/
def toJson (e : Entry) : Json :=
  let redirect : Points × Json := match e.target with
    | .substitution t => ("regexSubstitution", .str t)
    | .url t => ("url", .str t)
  let condition : Points × Json := match e.filter with
    | .regex t => ("regexFilter", .str t)
    | .url t => ("urlFilter", .str t)
  .obj [
    ("id", .int e.id),
    ("priority", .int priority),
    ("action", .obj [("type", .str "redirect"), ("redirect", .obj [redirect])]),
    ("condition", .obj [("resourceTypes", .arr (resourceTypes.map .text)), condition])]

end Entry

/-- A rule list as a browser takes it. -/
def toJson (rules : List Rule) : Json := .arr ((ofRules rules).map Entry.toJson)

end Reroute.NetRequest
