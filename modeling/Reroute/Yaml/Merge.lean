import Reroute.Yaml.Graph

/-!
# Merging maps

A map takes over the entries of other maps under its merge keys: they stand in
front of its own, in the order of the merge keys. Of several maps under one key
the entries of the last one come first, so that those of the first one count. A
map that is taken over makes its own merges before. A map that takes over itself
makes those of its merges that are left, and then takes over what it has.
-/

namespace Reroute.Yaml.Graph

/-- The number of maps that may be taken over inside each other. -/
def maxMerges : Nat := 970

/-- The entries under a merge key, where `flatten` makes the merges of a map. -/
def takenOver (flatten : Graph → Nat → Except Flaw Graph) (g : Graph) (value : Nat) :
    Except Flaw (Graph × List (Nat × Nat)) :=
  match (g.find value).content with
  | .scalar _ => .error .malformed
  | .entries _ => do
    let g ← flatten g value
    return (g, (g.entries? value).getD [])
  | .items ids => do
    let (g, lists) ← ids.foldlM (fun (s : Graph × List (List (Nat × Nat))) id => do
      require (s.1.entries? id).isSome
      let g ← flatten s.1 id
      return (g, (g.entries? id).getD [] :: s.2)) (g, [])
    return (g, lists.flatten)

/-- Puts the entries that a map takes over in front of those it has. -/
def takeOver (g : Graph) (id : Nat) (taken : List (Nat × Nat)) : Graph :=
  if taken.isEmpty then g
  else g.setContent id (.entries (taken ++ (g.entries? id).getD []))

/-- Makes the merges of a map among its last entries. `passed` are the entries in
front of them, the last one first, and `taken` are those taken over so far. A
value key becomes a text. When the map made its merges itself meanwhile, nothing
is left to do. -/
def flattenFrom (flatten : Graph → Nat → Except Flaw Graph) (id : Nat) :
    (passed taken : List (Nat × Nat)) → List (Nat × Nat) → Graph → Except Flaw Graph
  | _, taken, [], g => .ok (g.takeOver id taken)
  | passed, taken, e :: es, g =>
    match g.tagOf e.1 with
    | .merge => do
      let left := passed.reverse ++ es
      let (g, these) ← takenOver flatten (g.setContent id (.entries left)) e.2
      if g.entries? id = some left then flattenFrom flatten id passed (taken ++ these) es g
      else return g.takeOver id (taken ++ these)
    | .value => flattenFrom flatten id (e :: passed) taken es (g.setTag e.1 .str)
    | _ => flattenFrom flatten id (e :: passed) taken es g

/-- Makes the merges of a map, where `depth` maps may be taken over inside each
other. -/
def flattenWithin : (depth : Nat) → Graph → Nat → Except Flaw Graph
  | 0, _, _ => .error .tooDeep
  | depth + 1, g, id =>
    match g.entries? id with
    | some es => flattenFrom (flattenWithin depth) id [] [] es g
    | none => .ok g

def flatten (g : Graph) (id : Nat) : Except Flaw Graph := flattenWithin maxMerges g id

end Reroute.Yaml.Graph
