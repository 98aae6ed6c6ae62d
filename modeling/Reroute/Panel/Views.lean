import Reroute.Disk.Path
import Reroute.Match.RuleSet
import Reroute.Panel.Basic
import Reroute.Rule.Diagnosis

/-!
# Views

The panels that tell of rules, of what was done to them, and of where URLs go.
Texts of the user never act as markup.
-/

namespace Reroute.View

def kindStyle : Kind → Style
  | .whole => .cyan
  | .wildcard => .magenta
  | .leading => .green

def kindCell (k : Kind) : Cell := .literal k.label (kindStyle k)

def flagCell (b : Bool) : Cell := if b then .literal "yes" .green else .literal "no" .dim

/-- A cell with a text in no special style. -/
def plainCell (text : Points) : Cell := .ofText text .plain

/-- The markup of a rule after a label. -/
def ruleLine (label : Points) (r : Rule) : Points :=
  label ++ ": [bold]" ++ Markup.escape r.source ++ "[/bold] -> " ++
    Markup.escape r.destination

/-- How often a kind occurs, if it does. -/
def chip? (diagnoses : List Diagnosis) (k : Kind) : Option String :=
  match (diagnoses.filter (·.kind = k)).length with
  | 0 => none
  | n + 1 => some (k.label ++ "=" ++ toString (n + 1))

/-- A table with a bold first column and a second one. -/
def grid (second : Column) (rows : List (List Cell)) : Table :=
  ⟨[{ Column.usual with style := .bold }, second], rows, false⟩

def summary (diagnoses : List Diagnosis) : Table :=
  let chips := [Kind.whole, .leading, .wildcard].filterMap (chip? diagnoses)
  let kinds := if chips.isEmpty then "none" else "  ".intercalate chips
  grid .usual [
    [.markup "Rules", .markup (toString diagnoses.length)],
    [.markup "Kinds", .markup kinds]]

def ruleColumns : List Column :=
  [⟨"#", true, .ellipsis, .bold⟩, ⟨"from", false, .fold, .plain⟩, ⟨"to", false, .fold, .plain⟩,
   ⟨"kind", false, .ellipsis, .plain⟩, ⟨"notes", false, .fold, .yellow⟩]

def ruleRow (position : Nat) (r : Rule) (d : Diagnosis) : List Cell :=
  [.markup (toString position), plainCell r.source, plainCell r.destination,
   kindCell d.kind, plainCell (Points.join "\n" d.warnings)]

/-- The rows of rules and their diagnoses, the first of which has the given
number. -/
def ruleRows : (position : Nat) → List (Rule × Diagnosis) → List (List Cell)
  | _, [] => []
  | position, (r, d) :: rest => ruleRow position r d :: ruleRows (position + 1) rest

def rules (rs : List Rule) (diagnoses : List Diagnosis) : List Panel :=
  if rs.isEmpty then
    [⟨"rules", .yellow, .text "No rules configured.\n- url-redirector rules add <from> <to>"⟩]
  else
    [⟨"overview", .blue, .table (summary diagnoses)⟩,
     ⟨"rules", .cyan, .table ⟨ruleColumns, ruleRows 1 (rs.zip diagnoses), true⟩⟩]

/-- The panel with the warnings of a diagnosis, if it has any. -/
def notes (d : Diagnosis) : List Panel :=
  if d.warnings.isEmpty then []
  else
    let items := d.warnings.map fun w => ("- " : Points) ++ Markup.escape w
    [⟨"notes", .yellow, .text (Points.join "\n" items)⟩]

def saved (r : Rule) (d : Diagnosis) : List Panel :=
  ⟨"rule", .green, .text (ruleLine "Rule added" r ++ "\nMatched as: " ++ d.kind.label)⟩ :: notes d

def removed (r : Rule) : Panel := ⟨"rule", .yellow, .text (ruleLine "Removed rule" r)⟩

def cleared (count : Int) : Panel :=
  ⟨"rules", .yellow, .text ("Removed " ++ toString count ++ " rules.")⟩

def explained (r : Rule) (d : Diagnosis) : List Panel :=
  let table := grid { Column.usual with overflow := .fold } [
    [.markup "From", plainCell r.source],
    [.markup "To", plainCell r.destination],
    [.markup "Kind", kindCell d.kind],
    [.markup "Likely prefix", flagCell d.likelyPrefix],
    [.markup "Bare path segment", flagCell d.pathSegment]]
  ⟨"classification", .blue, .table table⟩ :: notes d

def matchColumns : List Column :=
  [⟨"url", false, .fold, .plain⟩, ⟨"destination", false, .fold, .plain⟩,
   ⟨"rule", true, .ellipsis, .plain⟩]

/-- The row of a URL. Rules are numbered from 1. -/
def matchRow (url : Points) : Option Redirect → List Cell
  | none => [plainCell url, .literal "no match" .dim, plainCell ""]
  | some r =>
    [plainCell url, .ofText r.destination .green,
     plainCell ((r.index.map fun i => toString (i + 1)).getD "")]

def matched (results : List (Points × Option Redirect)) : Panel :=
  ⟨"matches", .blue, .table ⟨matchColumns, results.map fun e => matchRow e.1 e.2, true⟩⟩

/-- The panel that tells of rules that went into a file or came from one; `none`
when there is no home directory to shorten the path by. -/
def transfer? (home verb path : Points) (count skipped : Int) : Option Panel := do
  let short ← Home.compact? home path
  let text := verb ++ " " ++ toString count ++ " rules: " ++ Markup.escape short
  let more :=
    if skipped = 0 then ""
    else "\nSkipped " ++ toString skipped ++ " rules with an existing pattern."
  return ⟨"rules", .green, .text (text ++ more)⟩

end Reroute.View
