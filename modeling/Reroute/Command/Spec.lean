/-!
# Commands

The commands of the program with their options and arguments, and the texts that
tell of them.
-/

namespace Reroute.Command

inductive Switch where
  | root
  | verbose
  | help
  | replace
  | onlyMatched
  | yes
  deriving Repr, DecidableEq

/-- An option: its names, whether a value follows, and how the help shows it. -/
structure OptionSpec where
  switch : Switch
  long : String
  short : Option Char
  takesValue : Bool
  shown : String
  help : List String
  deriving Repr, DecidableEq

/-- How many words an argument takes. -/
inductive Arity where
  | one
  | optional
  | oneOrMore
  | any
  deriving Repr, DecidableEq

structure ArgumentSpec where
  name : String
  arity : Arity
  deriving Repr, DecidableEq

/-- A command: the words that lead to it, what it does, its options, and how its
arguments are shown. A group of commands also lists those. -/
structure Spec where
  path : List String
  help : String
  options : List OptionSpec
  arguments : List ArgumentSpec
  members : List (String × String)
  deriving Repr, DecidableEq

def program : String := "url-redirector"

def helpOption : OptionSpec :=
  ⟨.help, "--help", some 'h', false, "-h, --help", ["Show this message and exit."]⟩

inductive Action where
  | list
  | add
  | remove
  | clear
  | explain
  | importRules
  | exportRules
  | matchUrls
  | rewrite
  | netRequest
  deriving Repr, DecidableEq

namespace Action

/-- The command of an action, without the help option. -/
def bare : Action → Spec
  | .list => ⟨["rules", "list"], "List rules in evaluation order.", [], [], []⟩
  | .add =>
    ⟨["rules", "add"], "Append a rule redirecting FROM to TO.", [],
      [⟨"FROM", .one⟩, ⟨"TO", .one⟩], []⟩
  | .remove =>
    ⟨["rules", "remove"], "Remove the rule at POSITION (1-based, as listed).", [],
      [⟨"POSITION", .one⟩], []⟩
  | .clear =>
    ⟨["rules", "clear"], "Remove every rule.",
      [⟨.yes, "--yes", none, false, "--yes", ["Confirm the action without prompting."]⟩], [], []⟩
  | .explain =>
    ⟨["rules", "explain"], "Show how a FROM pattern would be matched.", [],
      [⟨"FROM", .one⟩, ⟨"TO", .optional⟩], []⟩
  | .importRules =>
    ⟨["rules", "import"], "Append rules from a JSON or YAML file.",
      [⟨.replace, "--replace", none, false, "--replace",
        ["Replace the current rules instead of appending."]⟩],
      [⟨"PATH", .one⟩], []⟩
  | .exportRules =>
    ⟨["rules", "export"], "Write the rules to a JSON or YAML file.", [], [⟨"PATH", .one⟩], []⟩
  | .matchUrls =>
    ⟨["match"], "Show where each URL would be redirected.", [], [⟨"URL...", .oneOrMore⟩], []⟩
  | .rewrite =>
    ⟨["rewrite"], "Rewrite URLs read line by line from FILES or stdin.",
      [⟨.onlyMatched, "--only-matched", none, false, "--only-matched",
        ["Drop URLs that no rule matches."]⟩],
      [⟨"[FILE]...", .any⟩], []⟩
  | .netRequest =>
    ⟨["export-dnr"], "Write rules as Chrome declarativeNetRequest dynamic rules.", [],
      [⟨"[OUTPUT]", .optional⟩], []⟩

def spec (a : Action) : Spec := { a.bare with options := a.bare.options ++ [helpOption] }

def word (a : Action) : String := a.bare.path.getLast?.getD ""

/-- The command as its group lists it. -/
def member (a : Action) : String × String := (a.word, a.bare.help)

end Action

def ruleActions : List Action :=
  [.add, .clear, .explain, .exportRules, .importRules, .list, .remove]

def rulesGroup : Spec :=
  ⟨["rules"], "Manage redirect rules.", [helpOption], [], ruleActions.map Action.member⟩

def topActions : List Action := [.netRequest, .matchUrls, .rewrite]

def topGroup : Spec :=
  { path := []
    help := "Rewrite URLs with exact, wildcard and prefix rules."
    options := [
      ⟨.root, "--root", none, true, "--root DIRECTORY",
        ["Directory holding rules.json (default: ~/.config/url-", "redirector)."]⟩,
      ⟨.verbose, "--verbose", some 'v', false, "-v, --verbose",
        ["Log redirects (-v) or rule compilation (-vv)."]⟩,
      helpOption]
    arguments := []
    members := topActions.map Action.member ++ [("rules", rulesGroup.help)] }

namespace Spec

def callText (s : Spec) : String := " ".intercalate (program :: s.path)

def usage (s : Spec) : String :=
  let arguments :=
    if s.members.isEmpty then s.arguments.map (·.name) else ["COMMAND", "[ARGS]..."]
  "Usage: " ++ " ".intercalate (s.callText :: "[OPTIONS]" :: arguments)

/-- The lines of two columns, the second of which may go on over several lines. -/
def rows (entries : List (String × List String)) : List String :=
  let width := (entries.map fun e => e.1.length).foldl max 0 + 2
  let line (first second : String) : String :=
    "  " ++ first ++ "".pushn ' ' (width - first.length) ++ second
  entries.flatMap fun e => line e.1 (e.2.headD "") :: e.2.tail.map (line "")

def helpText (s : Spec) : String :=
  let members :=
    if s.members.isEmpty then []
    else "" :: "Commands:" :: rows (s.members.map fun m => (m.1, [m.2]))
  "\n".intercalate ([s.usage, "", "  " ++ s.help, "", "Options:"] ++
    rows (s.options.map fun o => (o.shown, o.help)) ++ members)

end Spec

end Reroute.Command
