import Reroute.Match.RuleSet
import Reroute.Store.Basic

/-!
# The redirect service

Evaluates URLs against the stored rules. The service keeps a rule set and the
stamp of the file it was read from. When the stamp changes the list is read again,
and when its version differs too, a new rule set takes the place of the old one.
The stamp and the list are read before anything is assigned.
-/

namespace Reroute

/-- A rule set, and how many the service has had up to it. -/
structure Snapshot where
  ruleSet : RuleSet
  generation : Nat
  deriving Repr, DecidableEq

/-- A redirect service: its store, and the rule set and stamp it holds. -/
structure Service where
  store : Store
  stamp : Option Stamp
  held : Option Snapshot
  deriving Repr, DecidableEq

/-- A service at work, and the lines logged so far. -/
structure Serving where
  service : Service
  log : List LogLine

/-- A step of a service that may fail. What it assigned and logged before it failed
stays. -/
abbrev OnService (α : Type) : Type := ExceptT Failure (StateM Serving) α

namespace OnService

variable {α : Type}

/-- What a step gives to a service, and the service after it with the lines logged. -/
def serve (step : OnService α) (s : Service) : Except Failure α × Serving := step ⟨s, []⟩

def service : OnService Service := fun w => (.ok w.service, w)

/-- Goes on with a value, unless there is none. -/
def read (r : Except Failure α) : OnService α := fun w => (r, w)

def assign (change : Service → Service) : OnService Unit :=
  fun w => (.ok (), { w with service := change w.service })

def log (lines : List LogLine) : OnService Unit :=
  fun w => (.ok (), { w with log := w.log ++ lines })

end OnService

namespace Service

open OnService

def fresh (store : Store) : Service := ⟨store, none, none⟩

/-- How many rule sets the service has had. -/
def count (s : Service) : Nat := (s.held.map Snapshot.generation).getD 0

def createdLine (r : Rule) : LogLine :=
  ⟨.debug, "Creating " ++ r.kind.label ++ " rule: " ++ r.source ++ " -> " ++ r.destination⟩

def updatedLine (s : RuleSet) : LogLine :=
  ⟨.info, "Redirect rules updated: " ++ toString s.rules.length ++ " rules (version " ++
    String.ofList (s.version.toList.take 12) ++ ")"⟩

/-- Puts the rule set of a list in the place of the one that is held. -/
def replace (rules : List Rule) : OnService Snapshot := do
  let next : Snapshot := ⟨RuleSet.ofRules rules, (← service).count + 1⟩
  log (rules.map createdLine)
  assign fun s => { s with held := some next }
  log [updatedLine next.ruleSet]
  return next

/-- Takes in a list that was read at a stamp. -/
def take (stamp : Option Stamp) (rules : List Rule) : OnService Snapshot := do
  let current ←
    match (← service).held with
    | some held => if held.ruleSet.version = Rule.version rules then pure held else replace rules
    | none => replace rules
  assign fun s => { s with stamp }
  return current

/-- Brings the service up to date, and gives what it answers from. -/
def refresh (disk : Disk) : OnService Snapshot := do
  let s ← service
  let stamp ← read (s.store.stamp disk)
  let again : OnService Snapshot := do take stamp (← read (s.store.list disk))
  match s.held with
  | some held => if stamp = s.stamp then return held else again
  | none => again

def answerLine (url : Points) : Option Redirect → LogLine
  | some r => ⟨.info, "Redirecting from " ++ url ++ " to " ++ r.destination⟩
  | none => ⟨.debug, "No rule matched " ++ url⟩

def evaluate (disk : Disk) (url : Points) : OnService (Option Redirect) := do
  let answer := (← refresh disk).ruleSet.redirect? url
  log [answerLine url answer]
  return answer

def rewrite (disk : Disk) (url : Points) : OnService Points := do
  match ← evaluate disk url with
  | some redirect => return redirect.destination
  | none => return url

def evaluateAll (disk : Disk) : List Points → OnService (List (Points × Option Redirect))
  | [] => return []
  | url :: urls => do
    let answer ← evaluate disk url
    return (url, answer) :: (← evaluateAll disk urls)

end Service

/-- URLs that are still to be evaluated, one at a time. -/
structure Batch where
  urls : List Points
  deriving Repr, DecidableEq

namespace Batch

/-- A pull from a batch: the batch and the service after it, the lines it logged,
and the URL with its redirect, `none` at the end, or the failure. -/
structure Pull where
  batch : Batch
  service : Service
  log : List LogLine
  result : Except Failure (Option (Points × Option Redirect))

/-- Evaluates the next URL against the rules stored now. After a failure the
batch is at its end. -/
def next (b : Batch) (s : Service) (disk : Disk) : Pull :=
  match b.urls with
  | [] => ⟨b, s, [], .ok none⟩
  | url :: urls =>
    match (Service.evaluate disk url).serve s with
    | (.ok answer, after) => ⟨⟨urls⟩, after.service, after.log, .ok (some (url, answer))⟩
    | (.error e, after) => ⟨⟨[]⟩, after.service, after.log, .error e⟩

end Batch

end Reroute
