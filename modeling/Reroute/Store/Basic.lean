import Reroute.RuleFile.Format
import Reroute.Url.Destination

/-!
# The rule store

A rule list in the file `rules.json` of a directory, and the operations on it. A
missing file is the empty list. An operation that fails leaves the file as it
was: the list is read and the new one is made out before anything is written.
-/

namespace Reroute

/-- A rule store in a directory. -/
structure Store where
  root : Path
  deriving Repr, DecidableEq

/-- A step on the disk that may fail. What it did to the disk before it failed
stays. -/
abbrev OnDisk (α : Type) : Type := ExceptT Failure (StateM Disk) α

namespace OnDisk

def look {α : Type} (f : Disk → Except Failure α) : OnDisk α := fun disk => (f disk, disk)

/-- Writes a file into a directory that is made if need be. -/
def save (p : Path) (text : String) : OnDisk Unit := fun disk =>
  match disk.save p text.toUTF8 with
  | (disk, none) => (.ok (), disk)
  | (disk, some fault) => (.error (.disk fault), disk)

end OnDisk

/-- The time of the last change of a file, and its size. -/
structure Stamp where
  time : Int
  size : Nat
  deriving Repr, DecidableEq

namespace Store

def fileName : Points := "rules.json"

def path (s : Store) : Path := s.root.child fileName

/-- The size of a directory: one block. -/
def directorySize : Nat := 4096

/-- The stamp of the file; `none` when it is missing. -/
def stamp (s : Store) (disk : Disk) : Except Failure (Option Stamp) :=
  match disk.status s.path with
  | .ok (.file bytes time) => .ok (some ⟨time, bytes.size⟩)
  | .ok .directory => .ok (some ⟨0, directorySize⟩)
  | .error .notFound => .ok none
  | .error fault => .error (.disk fault)

def list (s : Store) (disk : Disk) : Except Failure (List Rule) :=
  match disk.present s.path with
  | .ok true => RuleFile.load disk s.path
  | .ok false => .ok []
  | .error fault => .error (.disk fault)

def savedLine (s : Store) (rules : List Rule) : LogLine :=
  ⟨.debug, "Saved " ++ toString rules.length ++ " rules to " ++ s.path.text⟩

/-- Saves a rule list. -/
def save (s : Store) (rules : List Rule) : OnDisk (List LogLine) := do
  OnDisk.save s.path (RuleFile.encode .json rules)
  return [s.savedLine rules]

/-- The rule that the two texts make, if they may be added to a list. Blanks at
their ends are dropped. -/
def newRule (source destination : Points) : Except Failure Rule :=
  let source := source.trimmed
  let destination := destination.trimmed
  if source.isEmpty || destination.isEmpty then .error .emptyText
  else if Url.isDestination destination then .ok ⟨source, destination⟩
  else .error (.badDestination destination)

def hasSource (rules : List Rule) (source : Points) : Bool := rules.any (·.source = source)

/-- Appends a rule. No two rules may have the same source. -/
def add (s : Store) (source destination : Points) : OnDisk (Logged Rule) := do
  let rule ← OnDisk.look fun _ => newRule source destination
  let rules ← OnDisk.look s.list
  if hasSource rules rule.source then throw (.duplicate rule.source)
  let log ← s.save (rules ++ [rule])
  return ⟨rule, log⟩

/-- The rule with a number, counted from 1. -/
def ruleAt? (rules : List Rule) (position : Int) : Option Rule :=
  if position < 1 then none else rules[position.toNat - 1]?

/-- Removes the rule with a number, counted from 1. -/
def remove (s : Store) (position : Int) : OnDisk (Logged Rule) := do
  let rules ← OnDisk.look s.list
  match ruleAt? rules position with
  | none => throw (.noRule position)
  | some rule =>
    let log ← s.save (rules.eraseIdx (position.toNat - 1))
    return ⟨rule, log⟩

def clear (s : Store) : OnDisk (Logged Nat) := do
  let rules ← OnDisk.look s.list
  let log ← s.save []
  return ⟨rules.length, log⟩

/-- How many rules an import added, and how many it left out. -/
structure Imported where
  added : Nat
  skipped : Nat
  deriving Repr, DecidableEq

/-- A list with new rules behind it, where those with a source that the list
already has are left out. -/
def merge : List Rule → List Rule → List Rule × Imported
  | rules, [] => (rules, ⟨0, 0⟩)
  | rules, rule :: incoming =>
    if hasSource rules rule.source then
      let (merged, n) := merge rules incoming
      (merged, { n with skipped := n.skipped + 1 })
    else
      let (merged, n) := merge (rules ++ [rule]) incoming
      (merged, { n with added := n.added + 1 })

/-- Appends the rules of a file, or puts them in the place of the list. -/
def importFrom (s : Store) (p : Path) (replace : Bool) : OnDisk (Logged Imported) := do
  let incoming ← OnDisk.look fun disk => RuleFile.load disk p
  let rules ← if replace then pure [] else OnDisk.look s.list
  let (merged, counts) := merge rules incoming
  let log ← s.save merged
  return ⟨counts, log⟩

/-- Writes the rules to a file, and tells how many there are. -/
def exportTo (s : Store) (p : Path) : OnDisk Nat := do
  let rules ← OnDisk.look s.list
  match RuleFile.formatOf? p with
  | none => throw (.unsupported p)
  | some format =>
    OnDisk.save p (RuleFile.encode format rules)
    return rules.length

end Store

end Reroute
