import Reroute.Command.Words
import Reroute.Failure
import Reroute.Panel.Basic
import Reroute.Text.Utf8

/-!
# Outcomes of a call

What a call of the program prints, shows and leaves on the disk, and how it ends. The
standard output takes characters only: half of a surrogate pair ends the call. For errors
and log lines such a half is escaped.
-/

namespace Reroute.Command

/-- Where a call runs: the home directory, the directory of the rules if the
environment names one, and what arrives on the standard input. -/
structure Environment where
  home : Points
  root : Option Points
  input : ByteArray

inductive Ending where
  /-- With an exit code. -/
  | code (n : Nat)
  /-- With a failure that is no message for the user. -/
  | failed (f : Failure)
  /-- There is no home directory, or that of somebody else is meant. -/
  | noHome
  /-- With a text that cannot be written, for a half of a pair in it. -/
  | unwritable
  deriving DecidableEq

structure Outcome where
  disk : Disk
  out : String
  err : String
  panels : List Panel
  ending : Ending

namespace Outcome

/-- The outcome of a call that did nothing yet. -/
def start (disk : Disk) : Outcome := ⟨disk, "", "", [], .code 0⟩

def exit (o : Outcome) (n : Nat) : Outcome := { o with ending := .code n }

end Outcome

/-- What follows the rest of a control sequence of a terminal: parameters, then
fillers, then one final character. -/
def afterSequence? (s : List Code) : Option (List Code) :=
  let s := s.dropWhile (Code.is fun c => '0' ≤ c && c ≤ '?')
  match s.dropWhile (Code.is fun c => ' ' ≤ c && c ≤ '/') with
  | c :: rest => if c.is fun c => '@' ≤ c && c ≤ '~' then some rest else none
  | [] => none

/-- The text without control sequences. `skipped` characters at its front belong
to one. -/
def withoutSequences : (skipped : Nat) → List Code → List Code
  | _, [] => []
  | skipped + 1, _ :: s => withoutSequences skipped s
  | 0, c :: s =>
    if c.toNat = 0x1B then
      match s with
      | .char '[' :: t =>
        match afterSequence? t with
        | some rest => withoutSequences (s.length - rest.length) s
        | none => c :: withoutSequences 0 s
      | _ => c :: withoutSequences 0 s
    else c :: withoutSequences 0 s

/-- A line as it is printed: without control sequences. -/
def printedLine (s : Points) : Points := ⟨withoutSequences 0 s.toList⟩ ++ ("\n" : Points)

/-- A text for errors: a half of a pair is written by its number. -/
def escapedHalves (s : Points) : String :=
  String.ofList (s.toList.flatMap fun c => match c with
    | .char c => [c]
    | .half n => Text.codeEscape (Code.half n).toNat)

namespace Outcome

/-- Prints a line, if it can be written. -/
def print (o : Outcome) (line : Points) : Except Outcome Outcome :=
  match (printedLine line).string? with
  | some text => .ok { o with out := o.out ++ text }
  | none => .error { o with ending := .unwritable }

def printError (o : Outcome) (line : Points) : Outcome :=
  { o with err := o.err ++ escapedHalves (printedLine line) }

def logged (o : Outcome) (verbosity : Nat) (log : List LogLine) : Outcome :=
  let wanted (l : LogLine) : Bool := match l.level with
    | .info => 1 ≤ verbosity
    | .debug => 2 ≤ verbosity
  { o with err := o.err ++ String.join ((log.filter wanted).map fun l => escapedHalves l.text ++ "\n") }

/-- Shows panels one after another, up to one that cannot be written. -/
def showing (o : Outcome) : List Panel → Outcome
  | [] => o
  | p :: panels =>
    if p.isWritable then showing { o with panels := o.panels ++ [p] } panels
    else { o with ending := .unwritable }

/-- Shows panels, unless it takes a home directory to draw them and there is none. -/
def showing? (o : Outcome) : Option (List Panel) → Outcome
  | some panels => o.showing panels
  | none => { o with ending := .noHome }

def complain (o : Outcome) (message : Points) : Outcome :=
  (o.printError ("Error: " ++ message)).exit 2

def fail (o : Outcome) (f : Failure) : Outcome :=
  match f.message? with
  | some message => o.complain message
  | none => { o with ending := .failed f }

/-- Ends with a fault in the words of a call. -/
def misused (o : Outcome) (spec : Spec) (fault : Fault) : Outcome :=
  match fault.message? with
  | none => o.fail (.disk .notPath)
  | some message =>
    let o :=
      if fault.showsUsage then
        o.printError (spec.usage ++ "\nTry '" ++ spec.callText ++ " --help' for help.\n")
      else o
    o.complain message

def help (o : Outcome) (spec : Spec) : Outcome :=
  { o with out := o.out ++ spec.helpText ++ "\n" }

/-- Ends with the help for a group that was called with no words at all. -/
def helpForNothing (o : Outcome) (spec : Spec) : Outcome := (o.printError spec.helpText).exit 2

end Outcome

/-! ## Confirmation

A question is asked until the answer is yes or no. An empty answer means no. -/

inductive Consent where
  | yes
  | no
  /-- The input is no text. -/
  | broken
  deriving Repr, DecidableEq

def answer? (line : List Char) : Option Bool :=
  match String.ofList ((Text.trim Text.isBlank line).map Char.toLower) with
  | "y" | "yes" => some true
  | "n" | "no" | "" => some false
  | _ => none

/-- Asks a question. The end of the input means no. Gives what is printed and what
becomes of the question. -/
def ask (question : String) (broken : Bool) : List (List Char) → String × Consent
  | [] => (question, if broken then .broken else .no)
  | line :: lines =>
    match answer? line with
    | some true => (question, .yes)
    | some false => (question, .no)
    | none =>
      let (printed, consent) := ask question broken lines
      (question ++ "Error: invalid input\n" ++ printed, consent)

end Reroute.Command
