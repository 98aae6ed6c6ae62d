import Reroute.Document.Slots
import Reroute.Yaml.Composer
import Reroute.Yaml.Merge
import Reroute.Yaml.Value

/-!
# Reading YAML

The value that a text describes. The nodes of a document are met level by level,
from the root on: a scalar is valued when it is first met and keeps that value
wherever it stands, and a collection is filled when the level below it has its
turn. So of several flaws the one nearest to the root counts, and on one level the
first.
-/

namespace Reroute.Yaml

namespace Tag

def isCollection : Tag → Bool
  | .seq | .map | .omap | .pairs | .set => true
  | _ => false

end Tag

namespace Graph

/-- The text that stands for a node where a scalar is needed: its own, or that
under the value key of a map, through `depth` maps at most. -/
def scalarText (g : Graph) : (depth : Nat) → Nat → Except Flaw Points
  | 0, _ => .error .tooDeep
  | depth + 1, id =>
    match (g.find id).content with
    | .scalar text => .ok text
    | .items _ => .error .malformed
    | .entries es =>
      match es.find? fun e => g.tagOf e.1 = .value with
      | some e => scalarText g depth e.2
      | none => .error .malformed

/-- The value of a node that is tagged as a scalar. -/
def scalarOf (g : Graph) (id : Nat) : Except Flaw Datum := do
  let text ← g.scalarText maxMerges id
  if g.tagOf id = .timestamp && (g.entries? id).isSome then throw .momentInMap
  scalarValue id (g.tagOf id) text

end Graph

/-- What a node has become: a value, or a collection. -/
inductive Part where
  | value (d : Datum)
  | collection

/-- What fills a collection: the numbers of the nodes in it. Each pair has a mark
of its own. -/
inductive Filling where
  | items (nodes : List Nat)
  | entries (pairs : List (Datum × Nat))
  | keys (keys : List Datum)
  | pairs (pairs : List (Nat × Nat × Nat))

/-- The state of the reading: the nodes with the merges made so far, what they
have become, what fills the collections among them, the next mark for a pair, and
the collections to be filled on the next level, the last one first. -/
structure Builder where
  graph : Graph
  parts : Array (Option Part)
  fillings : Array (Option Filling)
  mark : Nat
  next : List Nat

namespace Builder

def start (g : Graph) : Builder :=
  { graph := g
    parts := Array.replicate g.size none
    fillings := Array.replicate g.size none
    mark := g.size
    next := [] }

def part? (b : Builder) (id : Nat) : Option Part := b.parts.getD id none

def setPart (b : Builder) (id : Nat) (p : Part) : Builder :=
  { b with parts := b.parts.setIfInBounds id (some p) }

/-- Meets a node. A collection is filled on the next level. -/
def meet (b : Builder) (id : Nat) : Except Flaw Builder :=
  match b.part? id with
  | some _ => .ok b
  | none =>
    if (b.graph.tagOf id).isCollection then
      .ok { b.setPart id .collection with next := id :: b.next }
    else (b.graph.scalarOf id).map fun d => b.setPart id (.value d)

/-- The value of a node that may be a key: a collection may not. -/
def keyOf (b : Builder) (id : Nat) : Except Flaw Datum :=
  match b.part? id with
  | some (.value d) => .ok d
  | _ => .error .malformed

def fillWith (b : Builder) (id : Nat) (f : Filling) : Builder :=
  { b with fillings := b.fillings.setIfInBounds id (some f) }

/-- Meets the entries of a map, and gives them with their keys as values. The last
one of several entries with the same key counts. -/
def meetEntries (b : Builder) (es : List (Nat × Nat)) :
    Except Flaw (Builder × List (Datum × Nat)) :=
  es.foldlM (fun (s : Builder × List (Datum × Nat)) e => do
    let b ← s.1.meet e.1
    let key ← b.keyOf e.1
    let b ← b.meet e.2
    return (b, Datum.put key e.2 s.2)) (b, [])

/-- Meets the items of an ordered map or a list of pairs, each a map with one
entry. -/
def meetPairs (b : Builder) (ids : List Nat) :
    Except Flaw (Builder × List (Nat × Nat × Nat)) := do
  let (b, pairs) ← ids.foldlM (fun (s : Builder × List (Nat × Nat × Nat)) id => do
    match s.1.graph.entries? id with
    | some [e] =>
      let b ← (← s.1.meet e.1).meet e.2
      return ({ b with mark := b.mark + 1 }, (b.mark, e) :: s.2)
    | _ => throw .malformed) (b, [])
  return (b, pairs.reverse)

/-- Makes the merges of a map and meets its entries. -/
def meetMap (b : Builder) (id : Nat) : Except Flaw (Builder × List (Datum × Nat)) := do
  require (b.graph.entries? id).isSome
  let graph ← b.graph.flatten id
  { b with graph }.meetEntries ((graph.entries? id).getD [])

def fill (b : Builder) (id : Nat) : Except Flaw Builder := do
  match b.graph.tagOf id, b.graph.items? id with
  | .seq, some ids =>
    return (← ids.foldlM meet b).fillWith id (.items ids)
  | .omap, some ids | .pairs, some ids =>
    let (b, pairs) ← b.meetPairs ids
    return b.fillWith id (.pairs pairs)
  | .map, none =>
    let (b, entries) ← b.meetMap id
    return b.fillWith id (.entries entries)
  | .set, none =>
    let (b, entries) ← b.meetMap id
    return b.fillWith id (.keys (entries.map (·.1)))
  | _, _ => throw .malformed

def levels : (rounds : Nat) → Builder → Except Flaw Builder
  | 0, b => .ok b
  | rounds + 1, b =>
    if b.next.isEmpty then .ok b
    else do levels rounds (← b.next.reverse.foldlM fill { b with next := [] })

def document (d : Document) : Except Flaw Builder := do
  levels (d.graph.size + 1) (← (start d.graph).meet d.root)

/-! ## The value of a node -/

/-- A value, and whether it refers to a container around it or in it. -/
structure Unfolded where
  value : Datum
  cyclic : Bool

/-- A step of unfolding. The values of the collections that refer to nothing
around them are kept, for they may stand in many places. -/
abbrev Unfold (α : Type) : Type := StateM (Array (Option Datum)) α

/-- A container, which needs a mark only when something refers to it. -/
def container (mark : Nat) (parts : List Unfolded) (make : Option Nat → List Datum → Datum) :
    Unfolded :=
  let cyclic := parts.any (·.cyclic)
  ⟨make (if cyclic then some mark else none) (parts.map (·.value)), cyclic⟩

def bracketOf : Filling → Bracket
  | .entries _ | .keys _ => .curly
  | .items _ | .pairs _ => .square

/-- The value of a filled collection, given that of each node in it. -/
def unfoldFilling (unfold : Nat → Unfold Unfolded) (id : Nat) : Filling → Unfold Unfolded
  | .items ids => do return container id (← ids.mapM unfold) .list
  | .entries es => do
    let values ← es.mapM fun e => unfold e.2
    return container id values fun mark vs => .map mark ((es.map (·.1)).zip vs)
  | .keys keys => return ⟨.set (Datum.inSlots keys), false⟩
  | .pairs ps => do
    let pairs ← ps.mapM fun p => do
      let first ← unfold p.2.1
      let second ← unfold p.2.2
      let cyclic := first.cyclic || second.cyclic
      let mark := if cyclic then some p.1 else none
      return (⟨.pair mark first.value second.value, cyclic⟩ : Unfolded)
    return container id pairs .list

/-- The value of a node inside the collections `around`, the innermost one first;
`depth` bounds their number. -/
def unfold (b : Builder) : (depth : Nat) → (around : List Nat) → Nat → Unfold Unfolded
  | 0, _, _ => return ⟨.null, false⟩
  | depth + 1, around, id => do
    match b.part? id, b.fillings.getD id none with
    | some (.value d), _ => return ⟨d, false⟩
    | _, none => return ⟨.null, false⟩
    | _, some filling =>
      if around.contains id then return ⟨.again id (bracketOf filling), true⟩
      match (← get).getD id none with
      | some d => return ⟨d, false⟩
      | none =>
        let u ← unfoldFilling (b.unfold depth (id :: around)) id filling
        if !u.cyclic then modify fun kept => kept.setIfInBounds id (some u.value)
        return u

def valueOf (b : Builder) (id : Nat) : Datum :=
  let n := b.graph.size
  ((b.unfold (n + 1) [] id).run (Array.replicate n none)).1.value

end Builder

/-- The value that a text describes; no document is the null value. -/
def read (text : List Char) : Except Flaw Datum := do
  match ← compose text with
  | none => return .null
  | some d => return (← Builder.document d).valueOf d.root

end Reroute.Yaml
