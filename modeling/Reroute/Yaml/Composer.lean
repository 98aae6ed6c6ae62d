import Reroute.Yaml.Graph
import Reroute.Yaml.Scanner

/-!
# Composing a document

The nodes that the tokens of a text describe. A text holds at most one document.

Every function of the grammar carries the number of calls that may still be
nested; each call takes a token or leads to one that does, so three for each
token are enough.
-/

namespace Reroute.Yaml

/-- The state of the composer: the tokens that are left, what is wrong with the
text after them, the nodes so far, those with anchors, the addresses of the tag
handles, and the number of collections that may still be nested. -/
structure Composer where
  tokens : List Token
  flaw : Flaw
  graph : Graph
  anchors : List (String × Nat)
  handles : List (String × String)
  room : Nat

/-- A step of the composer. -/
abbrev Compose (α : Type) : Type := StateT Composer (Except Flaw) α

/-- The number of collections that may be nested. -/
def maxDepth : Nat := 490

namespace Compose

/-- The next token. -/
def peek : Compose Token := do
  let s ← get
  match s.tokens with
  | t :: _ => return t
  | [] => throw s.flaw

/-- Passes over the next token. -/
def skip : Compose Unit := modify fun s => { s with tokens := s.tokens.tail }

/-- Passes over a token that has to come next. -/
def expect (t : Token) : Compose Unit := do
  if (← peek) = t then skip else throw .malformed

/-- Passes over a token if it comes next, and tells whether it did. -/
def accept (t : Token) : Compose Bool := do
  if (← peek) = t then
    skip
    return true
  else return false

/-- Whether one of some tokens comes next. -/
def atAny (ts : List Token) : Compose Bool := do
  let t ← peek
  return ts.contains t

/-- Adds a node, and gives its number. No two nodes of a document have the same
anchor. -/
def add (tag : Tag) (content : Content) (anchor : Option String) : Compose Nat := do
  let id := (← get).graph.size
  modify fun s => { s with graph := s.graph.push ⟨tag, content⟩ }
  match anchor with
  | none => return id
  | some a =>
    if (← get).anchors.any (·.1 = a) then throw .malformed
    modify fun s => { s with anchors := (a, id) :: s.anchors }
    return id

/-- The null node that stands where nothing is written. -/
def addEmpty : Compose Nat := add .null (.scalar "") none

/-- Composes something one level deeper. -/
def inside {α : Type} (step : Compose α) : Compose α := do
  let room := (← get).room
  if room = 0 then throw .tooDeep
  modify fun s => { s with room := room - 1 }
  let a ← step
  modify fun s => { s with room }
  return a

/-- Adds a collection, and fills it with what `content` composes. -/
def addCollection (tag : Tag) (empty : Content) (anchor : Option String)
    (content : Compose Content) : Compose Nat := do
  let id ← add tag empty anchor
  let content ← inside content
  modify fun s => { s with graph := s.graph.setContent id content }
  return id

/-- Adds a sequence. -/
def addItems (tag : Tag) (anchor : Option String) (items : Compose (List Nat)) : Compose Nat :=
  addCollection tag (.items []) anchor (.items <$> items)

/-- Adds a map. -/
def addEntries (tag : Tag) (anchor : Option String) (entries : Compose (List (Nat × Nat))) :
    Compose Nat :=
  addCollection tag (.entries []) anchor (.entries <$> entries)

/-- The anchor that comes next, if there is one. -/
def anchor? : Compose (Option String) := do
  match ← peek with
  | .anchor a =>
    skip
    return some a
  | _ => return none

/-- The handle, if it has one, and the rest of the tag that comes next, if there is
one. -/
def tag? : Compose (Option (Option String × String)) := do
  match ← peek with
  | .tag handle rest =>
    skip
    return some (handle, rest)
  | _ => return none

/-- The full text of a tag. -/
def fullTag (handle : Option String) (rest : String) : Compose String := do
  match handle with
  | none => return rest
  | some h =>
    match (← get).handles.lookup h with
    | some head => return head ++ rest
    | none => throw .malformed

/-- The anchor and the tag of a node, in either order. -/
def properties : Compose (Option String × Option String) := do
  let before ← anchor?
  let tag ← tag?
  let anchor ← if before.isNone && tag.isSome then anchor? else pure before
  match tag with
  | none => return (anchor, none)
  | some (handle, rest) => return (anchor, some (← fullTag handle rest))

/-- The tag of a collection. -/
def collectionTag (tag : Option String) (usual : Tag) : Tag :=
  match tag with
  | none | some "!" => usual
  | some address => Tag.ofAddress address

/-- The tag of a scalar. -/
def scalarTag (tag : Option String) (plain : Bool) (text : Points) : Tag :=
  match tag with
  | none => if plain then implicitTag text.toString else .str
  | some "!" => implicitTag text.toString
  | some address => Tag.ofAddress address

/-- Where a node stands, which says what it may be. -/
inductive Place where
  /-- Inside brackets. -/
  | flow
  /-- In a block. -/
  | block
  /-- In a block map, where a sequence need not be indented. -/
  | blockValue
  deriving Repr, DecidableEq

mutual

/-- Composes a node. -/
def node (place : Place) : Nat → Compose Nat
  | 0 => throw .malformed
  | calls + 1 => do
    match ← peek with
    | .alias a =>
      skip
      match (← get).anchors.lookup a with
      | some id => return id
      | none => throw .malformed
    | _ =>
      let (anchor, tag) ← properties
      match ← peek with
      | .scalar plain text =>
        skip
        add (scalarTag tag plain text) (.scalar text) anchor
      | .flowSequenceStart =>
        skip
        addItems (collectionTag tag .seq) anchor (flowItems true calls)
      | .flowMappingStart =>
        skip
        addEntries (collectionTag tag .map) anchor (flowEntries true calls)
      | .blockEntry =>
        if place = .blockValue then
          addItems (collectionTag tag .seq) anchor (looseItems calls)
        else bare anchor tag
      | .blockSequenceStart =>
        if place = .flow then bare anchor tag
        else
          skip
          addItems (collectionTag tag .seq) anchor (blockItems calls)
      | .blockMappingStart =>
        if place = .flow then bare anchor tag
        else
          skip
          addEntries (collectionTag tag .map) anchor (blockEntries calls)
      | _ => bare anchor tag
where
  /-- The empty node that an anchor or a tag alone stands for. -/
  bare (anchor tag : Option String) : Compose Nat := do
    if anchor.isNone && tag.isNone then throw .malformed
    else add (scalarTag tag true "") (.scalar "") anchor

/-- Composes a node, or the empty one in front of some tokens. -/
def nodeUnless (stops : List Token) (place : Place) : Nat → Compose Nat
  | 0 => throw .malformed
  | calls + 1 => do
    if ← atAny stops then addEmpty else node place calls

/-- Composes the items of a block sequence, up to its end. -/
def blockItems : Nat → Compose (List Nat)
  | 0 => throw .malformed
  | calls + 1 => do
    if ← accept .blockEntry then
      let n ← nodeUnless [.blockEntry, .blockEnd] .block calls
      return n :: (← blockItems calls)
    else
      expect .blockEnd
      return []

/-- Composes the items of a sequence that is not indented. -/
def looseItems : Nat → Compose (List Nat)
  | 0 => throw .malformed
  | calls + 1 => do
    if ← accept .blockEntry then
      let n ← nodeUnless [.blockEntry, .key, .value, .blockEnd] .block calls
      return n :: (← looseItems calls)
    else return []

/-- Composes the entries of a block map, up to its end. -/
def blockEntries : Nat → Compose (List (Nat × Nat))
  | 0 => throw .malformed
  | calls + 1 => do
    let stops : List Token := [.key, .value, .blockEnd]
    if ← accept .key then
      let k ← nodeUnless stops .blockValue calls
      let v ← if ← accept .value then nodeUnless stops .blockValue calls else addEmpty
      return (k, v) :: (← blockEntries calls)
    else
      expect .blockEnd
      return []

/-- Composes the items of a sequence in brackets, up to the closing one. A key
among them makes a map of one entry. -/
def flowItems (first : Bool) : Nat → Compose (List Nat)
  | 0 => throw .malformed
  | calls + 1 => do
    if ← accept .flowSequenceEnd then return []
    else
      if !first then expect .flowEntry
      if ← accept .key then
        let n ← addEntries .map none do
          let k ← nodeUnless [.value, .flowEntry, .flowSequenceEnd] .flow calls
          let v ←
            if ← accept .value then nodeUnless [.flowEntry, .flowSequenceEnd] .flow calls
            else addEmpty
          return [(k, v)]
        return n :: (← flowItems false calls)
      else if ← accept .flowSequenceEnd then return []
      else
        let n ← node .flow calls
        return n :: (← flowItems false calls)

/-- Composes the entries of a map in brackets, up to the closing one. -/
def flowEntries (first : Bool) : Nat → Compose (List (Nat × Nat))
  | 0 => throw .malformed
  | calls + 1 => do
    if ← accept .flowMappingEnd then return []
    else
      if !first then expect .flowEntry
      if ← accept .key then
        let k ← nodeUnless [.value, .flowEntry, .flowMappingEnd] .flow calls
        let v ←
          if ← accept .value then nodeUnless [.flowEntry, .flowMappingEnd] .flow calls
          else addEmpty
        return (k, v) :: (← flowEntries false calls)
      else if ← accept .flowMappingEnd then return []
      else
        let k ← node .flow calls
        return (k, ← addEmpty) :: (← flowEntries false calls)

end

/-- The tag handles that every document has. -/
def usualHandles : List (String × String) := [("!", "!"), ("!!", Tag.knownHead)]

/-- Reads the directives in front of a document. `versioned` tells that a version
came already. -/
def directives (versioned : Bool) (handles : List (String × String)) : Nat → Compose Unit
  | 0 => throw .malformed
  | calls + 1 => do
    match ← peek with
    | .directive (.version major) =>
      if versioned || major ≠ 1 then throw .malformed
      skip
      directives true handles calls
    | .directive (.tag handle head) =>
      if handles.any (·.1 = handle) then throw .malformed
      skip
      directives versioned ((handle, head) :: handles) calls
    | .directive .other =>
      skip
      directives versioned handles calls
    | _ => modify fun s => { s with handles := handles ++ usualHandles }

/-- Passes over the marks at the end of a document. -/
def documentEnds : Nat → Compose Unit
  | 0 => throw .malformed
  | calls + 1 => do if ← accept .documentEnd then documentEnds calls

/-- Composes the document after its directives. -/
def explicitDocument (calls : Nat) : Compose Nat := do
  directives false [] calls
  expect .documentStart
  match ← peek with
  | .directive _ | .documentStart | .documentEnd | .streamEnd => addEmpty
  | _ => node .block calls

/-- Composes the only document of a text; there need not be one. -/
def document (calls : Nat) : Compose (Option Nat) := do
  match ← peek with
  | .streamEnd => return none
  | .directive _ | .documentStart => finish (← explicitDocument calls)
  | _ => finish (← node .block calls)
where
  /-- Makes sure that nothing follows the document. -/
  finish (root : Nat) : Compose (Option Nat) := do
    documentEnds calls
    if (← peek) = .streamEnd then return some root
    else
      directives false [] calls
      throw .malformed

end Compose

/-- The document of a text; there need not be one. -/
def compose (text : List Char) : Except Flaw (Option Document) := do
  let (tokens, flaw) := scan text
  let composer : Composer :=
    { tokens := tokens
      flaw := flaw.getD .malformed
      graph := #[]
      anchors := []
      room := maxDepth
      handles := Compose.usualHandles }
  let (root, composer) ← (Compose.document (3 * tokens.length + 3)).run composer
  return root.map fun root => ⟨root, composer.graph⟩

end Reroute.Yaml
