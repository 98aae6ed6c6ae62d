import Reroute.Command.Outcome
import Reroute.Match.NetRequest
import Reroute.Panel.Views
import Reroute.Serve.Service
import Reroute.Text.Alphanumeric

/-!
# Running a call

What a call of the program does, from its words, its environment and the disk.
-/

namespace Reroute.Command

/-- A call that has found its command: the environment, the verbosity, and the
directory of the rules as it was named. -/
structure Call where
  environment : Environment
  verbosity : Nat
  root : Option Points

namespace Call

/-- The directory of the rules; `none` when it lies in a home directory that is not
known. -/
def rootPath? (c : Call) : Option Path := do
  let home := c.environment.home
  match c.root with
  | some text => Home.expand? home (Path.ofText text)
  | none => Home.expand? home (((← Home.path? home).child ".config").child program)

/-- Goes on with the rule store, if its directory is known. -/
def withStore (c : Call) (disk : Disk) (f : Store → Outcome) : Outcome :=
  match c.rootPath? with
  | some root => f ⟨root⟩
  | none => { Outcome.start disk with ending := .noHome }

/-- Runs a step on the store and shows what it gives. -/
def change {α : Type} (c : Call) (disk : Disk) (step : Store → OnDisk (Logged α))
    (view : α → Option (List Panel)) : Outcome :=
  c.withStore disk fun store =>
    match (step store).run disk with
    | (.ok r, disk) =>
      ((Outcome.start disk).logged c.verbosity r.log).showing? (view r.value)
    | (.error f, disk) => (Outcome.start disk).fail f

def list (c : Call) (disk : Disk) : Outcome :=
  c.withStore disk fun store =>
    match store.list disk with
    | .ok rules => (Outcome.start disk).showing (View.rules rules (rules.map Rule.diagnose))
    | .error f => (Outcome.start disk).fail f

def add (c : Call) (disk : Disk) (source destination : Points) : Outcome :=
  c.change disk (fun store => store.add source destination) fun r => some (View.saved r r.diagnose)

def remove (c : Call) (disk : Disk) (position : Int) : Outcome :=
  c.change disk (fun store => store.remove position) fun r => some [View.removed r]

def clear (c : Call) (disk : Disk) : Outcome :=
  c.change disk Store.clear fun n => some [View.cleared n]

def explain (disk : Disk) (source destination : Points) : Outcome :=
  let r : Rule := ⟨source, destination⟩
  (Outcome.start disk).showing (View.explained r r.diagnose)

def importRules (c : Call) (disk : Disk) (p : Path) (replace : Bool) : Outcome :=
  c.change disk (fun store => store.importFrom p replace) fun n =>
    (View.transfer? c.environment.home "Imported" p.text n.added n.skipped).map ([·])

def exportRules (c : Call) (disk : Disk) (p : Path) : Outcome :=
  c.change disk (fun store => return ⟨← store.exportTo p, []⟩) fun n =>
    (View.transfer? c.environment.home "Exported" p.text n 0).map ([·])

/-- Shows where URLs go. The exit code is 1 when none goes anywhere. -/
def matchUrls (c : Call) (disk : Disk) (urls : List Points) : Outcome :=
  c.withStore disk fun store =>
    let (results, after) := (Service.evaluateAll disk urls).serve (Service.fresh store)
    let o := (Outcome.start disk).logged c.verbosity after.log
    match results with
    | .error f => o.fail f
    | .ok results =>
      (o.exit (if results.any (·.2.isSome) then 0 else 1)).showing [View.matched results]

/-- Rewrites a URL after the outcome `o`; an error is the outcome of a call that ends
with it. -/
def rewriteUrl (c : Call) (onlyMatched : Bool) (service : Service) (o : Outcome) (url : Points) :
    Except Outcome (Service × Outcome) := do
  let (result, after) := (Service.evaluate o.disk url).serve service
  let o := o.logged c.verbosity after.log
  match result with
  | .error f => .error (o.fail f)
  | .ok (some redirect) => return (after.service, ← o.print redirect.destination)
  | .ok none => return (after.service, ← if onlyMatched then .ok o else o.print url)

/-- Rewrites the URLs on lines. A blank line holds none. -/
def rewriteLines (c : Call) (onlyMatched : Bool) :
    Service → Outcome → List (List Char) → Except Outcome (Service × Outcome)
  | service, o, [] => .ok (service, o)
  | service, o, line :: lines => do
    let url := Points.ofList (Text.trim Text.isBlank line)
    if url.isEmpty then c.rewriteLines onlyMatched service o lines
    else
      let (service, o) ← c.rewriteUrl onlyMatched service o url
      c.rewriteLines onlyMatched service o lines

def rewriteStreams (c : Call) (onlyMatched : Bool) :
    Service → Outcome → List Text.Streamed → Outcome
  | _, o, [] => o
  | service, o, stream :: streams =>
    match c.rewriteLines onlyMatched service o stream.lines with
    | .error o => o
    | .ok (service, o) =>
      if stream.broken then o.fail .notText
      else c.rewriteStreams onlyMatched service o streams

/-- What the system says about a fault of the disk. -/
def reason : DiskFault → String
  | .notFound => "No such file or directory"
  | .notDirectory => "Not a directory"
  | .isDirectory => "Is a directory"
  | .alreadyExists => "File exists"
  | .nameTooLong => "File name too long"
  | .notPath => "Not a path"

/-- The streams that are named, where a hyphen is the standard input. That one is
at its end once it was read. -/
def openStreams (disk : Disk) : (input : ByteArray) → List Points →
    Except Fault (List Text.Streamed)
  | _, [] => .ok []
  | input, name :: names =>
    if name = "-" then
      (openStreams disk ByteArray.empty names).map (Text.streamed .feed input :: ·)
    else
      match disk.readTyped name with
      | .ok bytes => (openStreams disk input names).map (Text.streamed .any bytes :: ·)
      | .error .notPath => .error .noPath
      | .error fault => .error (.invalid "[FILE]..." ("'" ++ Disk.shownName name ++ "': " ++ reason fault))

def netRequest (c : Call) (disk : Disk) (output : Points) : Outcome :=
  c.withStore disk fun store =>
    let o := Outcome.start disk
    match store.list disk with
    | .error f => o.fail f
    | .ok rules =>
      let o := o.logged c.verbosity (rules.map Service.createdLine)
      let text := (NetRequest.toJson rules).fileText
      if output = "-" then { o with out := o.out ++ text }
      else match disk.writeTyped output text.toUTF8 with
        | .ok disk => { o with disk }
        | .error .notPath => o.fail (.disk .notPath)
        | .error fault =>
          o.complain ("Could not open file " ++ Text.quotedString (Disk.shownName output) ++ ": " ++ reason fault)

def clearQuestion : String := "Are you sure you want to remove all rules? [y/N]: "

def position (word : Points) : Except Fault Int :=
  match Text.integer? 10 word.chars with
  | some n => .ok n
  | none =>
    .error (.invalid "POSITION" (Text.quotedString word ++ " is not a valid integer."))

/-- Reads the path of a file. `present` tells that something has to be there. -/
def filePath (disk : Disk) (present : Bool) (word : Points) : Except Fault Path :=
  let wrong (text : String) : Except Fault Path :=
    .error (.invalid "PATH" ("File " ++ Text.quotedString (Disk.shownName word) ++ text))
  match disk.statusTyped word with
  | .ok .directory => wrong " is a directory."
  | .error .notPath => .error .noPath
  | .error _ => if present then wrong " does not exist." else .ok (Path.ofText word)
  | .ok (.file _ _) => .ok (Path.ofText word)

/-- Ends with a fault, or goes on. -/
def check {α : Type} (disk : Disk) (spec : Spec) (r : Except Fault α) (f : α → Outcome) :
    Outcome :=
  match r with
  | .ok v => f v
  | .error fault => (Outcome.start disk).misused spec fault

/-- Removes all rules after a question, unless the words answer it. -/
def askedClear (c : Call) (disk : Disk) (spec : Spec) (w : Words) (left : List Points) :
    Outcome :=
  let go : Outcome := check disk spec (noneLeft left) fun _ => c.clear disk
  if w.has .yes then go
  else
    let input := Text.streamed .feed c.environment.input
    match ask clearQuestion input.broken input.lines with
    | (printed, .yes) => { go with out := printed ++ go.out }
    | (printed, .no) => { Outcome.start disk with out := printed, ending := .code 1 }
    | (printed, .broken) =>
      { Outcome.start disk with out := printed, ending := .failed .notText }

def act (c : Call) (disk : Disk) (a : Action) (w : Words) : Outcome :=
  let spec := a.spec
  check disk spec (bindWords spec.arguments w.others) fun (values, left) =>
    let done (f : Outcome) : Outcome := check disk spec (noneLeft left) fun _ => f
    match a, values with
    | .list, _ => done (c.list disk)
    | .add, [[source], [destination]] => done (c.add disk source destination)
    | .remove, [[word]] =>
      check disk spec (position word) fun n => done (c.remove disk n)
    | .clear, _ => c.askedClear disk spec w left
    | .explain, [[source], destination] =>
      done (explain disk source (destination.headD ""))
    | .importRules, [[word]] =>
      check disk spec (filePath disk true word) fun p =>
        done (c.importRules disk p (w.has .replace))
    | .exportRules, [[word]] =>
      check disk spec (filePath disk false word) fun p => done (c.exportRules disk p)
    | .matchUrls, [urls] => done (c.matchUrls disk urls)
    | .rewrite, [names] =>
      let names : List Points := if names.isEmpty then ["-"] else names
      check disk spec (openStreams disk c.environment.input names) fun streams =>
        done (c.withStore disk fun store =>
          c.rewriteStreams (w.has .onlyMatched) (Service.fresh store) (Outcome.start disk) streams)
    | .netRequest, [output] => done (c.netRequest disk (output.headD "-"))
    | _, _ => Outcome.start disk

/-- Runs an action with the words after its name. -/
def perform (c : Call) (disk : Disk) (a : Action) (words : List Points) : Outcome :=
  check disk a.spec (readWords a.spec true none words) fun w =>
    if w.has .help then (Outcome.start disk).help a.spec else c.act disk a w

/-- The directory of the rules that a call names, in its words or else in the
environment. It may not be a file. -/
def namedRoot (env : Environment) (disk : Disk) (w : Words) : Except Fault (Option Points) :=
  let fromEnvironment := env.root.filter fun text => !text.isEmpty
  match (w.value? .root).or fromEnvironment with
  | none => .ok none
  | some text =>
    match disk.statusTyped text with
    | .error .notPath => .error .noPath
    | .ok (.file _ _) =>
      .error (.invalid "--root" ("Directory " ++ Text.quotedString (Disk.shownName text) ++ " is a file."))
    | _ => .ok (some text)

/-- Whether a name looks like an option: it starts with neither a letter nor a
number. -/
def looksLikeOption (name : Points) : Bool :=
  match name.toList with
  | c :: _ => !c.is Text.isAlphanumeric
  | [] => false

/-- The fault of a name that is no command of a group, followed by further words.
What looks like an option is read as one once more. -/
def unknown (c : Call) (disk : Disk) (group : Spec) (name : Points) (rest : List Points) :
    Outcome :=
  let fault : Fault := .noCommand name (closeWords name (group.members.map (·.1)))
  let refused : Outcome := (Outcome.start disk).misused group fault
  if !looksLikeOption name then refused
  else check disk group (readWords group false none (name :: rest)) fun w =>
    if w.has .help then (Outcome.start disk).help group
    else if group.path.isEmpty then
      check disk group (namedRoot c.environment disk w) fun _ => refused
    else refused

def performRules (c : Call) (disk : Disk) (words : List Points) : Outcome :=
  let group := rulesGroup
  if words.isEmpty then (Outcome.start disk).helpForNothing group
  else check disk group (readWords group false none words) fun w =>
    if w.has .help then (Outcome.start disk).help group
    else match w.others with
      | [] => (Outcome.start disk).misused group .noCommandGiven
      | name :: rest =>
        match ruleActions.find? fun a => (a.word : Points) = name with
        | some a => c.perform disk a rest
        | none => c.unknown disk group name rest

def performTop (c : Call) (disk : Disk) (name : Points) (rest : List Points) : Outcome :=
  match topActions.find? fun a => (a.word : Points) = name with
  | some a => c.perform disk a rest
  | none =>
    if rulesGroup.path.map Points.ofString = [name] then c.performRules disk rest
    else c.unknown disk topGroup name rest

end Call

def run (env : Environment) (disk : Disk) (words : List Points) : Outcome :=
  if words.isEmpty then (Outcome.start disk).helpForNothing topGroup
  else Call.check disk topGroup (readWords topGroup false none words) fun w =>
    if w.has .help then (Outcome.start disk).help topGroup
    else Call.check disk topGroup (Call.namedRoot env disk w) fun root =>
      match w.others with
      | [] => (Outcome.start disk).misused topGroup .noCommandGiven
      | name :: rest => Call.performTop ⟨env, w.count .verbose, root⟩ disk name rest

end Reroute.Command
