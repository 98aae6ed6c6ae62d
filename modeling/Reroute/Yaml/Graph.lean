import Reroute.Yaml.Tag

/-!
# Node graphs

The nodes of a document by their numbers. An alias is one more reference to a
number, so a node may stand in several places, and a collection may hold itself.
-/

namespace Reroute.Yaml

/-- What a node holds: a text, or the numbers of other nodes. -/
inductive Content where
  | scalar (text : Points)
  | items (nodes : List Nat)
  | entries (pairs : List (Nat × Nat))
  deriving Repr, DecidableEq

structure Node where
  tag : Tag
  content : Content
  deriving Repr, DecidableEq

abbrev Graph : Type := Array Node

namespace Graph

/-- The node with a number; a number without a node stands for the null node. -/
def find (g : Graph) (id : Nat) : Node := g.getD id ⟨.null, .scalar ""⟩

def tagOf (g : Graph) (id : Nat) : Tag := (g.find id).tag

def setTag (g : Graph) (id : Nat) (tag : Tag) : Graph := g.modify id fun n => { n with tag }

def setContent (g : Graph) (id : Nat) (content : Content) : Graph :=
  g.modify id fun n => { n with content }

def entries? (g : Graph) (id : Nat) : Option (List (Nat × Nat)) :=
  match (g.find id).content with
  | .entries es => some es
  | _ => none

def items? (g : Graph) (id : Nat) : Option (List Nat) :=
  match (g.find id).content with
  | .items ns => some ns
  | _ => none

end Graph

/-- A document: the number of its root, and its nodes. -/
structure Document where
  root : Nat
  graph : Graph

end Reroute.Yaml
