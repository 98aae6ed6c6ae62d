import Reroute.Document.Datum
import Reroute.Rule.Basic

/-!
# The shape of a rule list

A rule list is a list of maps, each with the two texts `from` and `to` and
nothing else. Of a value with another shape the first violation is told: item by
item, and in an item its kind, then its texts, then what is missing, then what is
too much.
-/

namespace Reroute.Shape

/-- How a value differs from what has to stand in its place. -/
inductive Violation where
  | notList (found : Datum)
  | notMap (found : Datum)
  | notText (found : Datum)
  | missing (name : String)
  /-- Keys that do not belong to a rule. -/
  | unexpected (keys : List Datum)

/-- A violation, in the item with the given number and under the given key, if it
lies in one. -/
structure Fault where
  item : Option Nat
  key : Option String
  violation : Violation

def wrongType (found : Datum) (wanted : String) : Except Datum.Unshown String := do
  return String.ofList (← found.shown) ++ " is not of type '" ++ wanted ++ "'"

/-- Puts a key with its text into a list that is sorted by the texts. -/
def insertByText (key : Points × Datum) : List (Points × Datum) → List (Points × Datum)
  | [] => [key]
  | k :: ks => if k.1 < key.1 then k :: insertByText key ks else key :: k :: ks

/-- The keys sorted by their texts; keys with the same text stay in order. -/
def sortByText (keys : List Datum) : Except Datum.Unshown (List Datum) := do
  let named ← keys.mapM fun k => k.plain.map fun text => (text, k)
  return (named.foldr insertByText []).map (·.2)

def Violation.text : Violation → Except Datum.Unshown String
  | .notList found => wrongType found "array"
  | .notMap found => wrongType found "object"
  | .notText found => wrongType found "string"
  | .missing name => .ok (Text.quotedString name ++ " is a required property")
  | .unexpected keys => do
    let shown ← (← sortByText keys).mapM Datum.shown
    return "Additional properties are not allowed (" ++ String.ofList (Datum.commas shown) ++
      (if keys.length = 1 then " was" else " were") ++ " unexpected)"

/-- A fault in words, with its place. -/
def Fault.text (f : Fault) : Except Datum.Unshown String := do
  let place := (f.item.map toString).toList ++ f.key.toList
  let text ← f.violation.text
  return if place.isEmpty then text else text ++ " at " ++ ".".intercalate place

def sourceKey : String := "from"

def destinationKey : String := "to"

/-- Checks that what stands under a key, if anything does, is a text. -/
def textUnder (index : Nat) (key : String) (item : Datum) : Except Fault (Option Points) :=
  match item.get? key with
  | none => .ok none
  | some (.str s) => .ok (some s)
  | some found => .error ⟨some index, some key, .notText found⟩

/-- The keys of a map that do not belong to a rule. -/
def unexpectedKeys (entries : List (Datum × Datum)) : List Datum :=
  (entries.map (·.1)).filter fun k => !k.isText sourceKey && !k.isText destinationKey

/-- The rule that an item describes. -/
def ruleOf (index : Nat) (item : Datum) : Except Fault Rule :=
  match item.entries? with
  | none => .error ⟨some index, none, .notMap item⟩
  | some entries => do
    let source ← textUnder index sourceKey item
    let destination ← textUnder index destinationKey item
    match source, destination, unexpectedKeys entries with
    | none, _, _ => .error ⟨some index, none, .missing sourceKey⟩
    | _, none, _ => .error ⟨some index, none, .missing destinationKey⟩
    | some source, some destination, [] => .ok ⟨source, destination⟩
    | _, _, keys => .error ⟨some index, none, .unexpected keys⟩

/-- The rules that items describe, the first of which has the number `index`. -/
def rulesFrom : (index : Nat) → List Datum → Except Fault (List Rule)
  | _, [] => .ok []
  | index, item :: items => do
    let rule ← ruleOf index item
    let rules ← rulesFrom (index + 1) items
    return rule :: rules

/-- What stands under the key `rules` of a map, or the value itself. -/
def unwrap (d : Datum) : Datum := (d.get? "rules").getD d

/-- The rule list that a value describes; the null value describes none. The list
may stand under the key `rules` of a map. -/
def parse (d : Datum) : Except Fault (List Rule) :=
  match d with
  | .null => .ok []
  | d =>
    match (unwrap d).items? with
    | some items => rulesFrom 0 items
    | none => .error ⟨none, none, .notList (unwrap d)⟩

/-- Why a map makes no rule, even with any values taken as texts. -/
inductive LooseFault where
  | missing (key : String)
  | unshown (why : Datum.Unshown)
  deriving Repr, DecidableEq

def looseText (d : Datum) (key : String) : Except LooseFault Points :=
  match d.get? key with
  | none => .error (.missing key)
  | some v => v.plain.mapError .unshown

/-- The rule of a map, with any values as texts. -/
def looseRule (d : Datum) : Except LooseFault Rule := do
  return ⟨← looseText d sourceKey, ← looseText d destinationKey⟩

end Reroute.Shape
