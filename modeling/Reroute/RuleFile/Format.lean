import Reroute.Failure
import Reroute.Json.Reader
import Reroute.Json.Writer
import Reroute.RuleFile.Shape
import Reroute.Text.Utf8
import Reroute.Yaml.Reader
import Reroute.Yaml.Writer

/-!
# Rule files

Rule lists in files of JSON or of YAML, told apart by the suffix of their name.
-/

namespace Reroute.RuleFile

inductive Format where
  | json
  | yaml
  deriving Repr, DecidableEq

/-- The format that a suffix stands for, in any case of letters. -/
def formatOf? (p : Path) : Option Format :=
  match String.ofList (p.suffix.chars.map Char.toLower) with
  | ".json" => some .json
  | ".yaml" | ".yml" => some .yaml
  | _ => none

/-- The text of a file, with every line end written as a line feed. -/
def textOf (bytes : ByteArray) : Except Failure (List Char) :=
  match Text.decode? bytes with
  | some s => .ok (Text.unifyLineEnds s.toList)
  | none => .error .notText

/-- The value that a text describes. A blank text describes the null value. -/
def decode (p : Path) (format : Format) (s : List Char) : Except Failure Datum :=
  match format with
  | .json =>
    if Text.allBlank s then .ok .null
    else match Json.read s with
      | .ok v => .ok (Datum.ofJson v)
      | .error fault =>
        .error (if fault.flaw = .tooDeep then .tooDeep else .badJson p (fault.message s))
  | .yaml =>
    match Yaml.read s with
    | .ok d => .ok d
    | .error .malformed => .error .badYaml
    | .error .tooDeep => .error .tooDeep
    | .error flaw => .error (.badValue flaw)

/-- The rule list that a value from the file `p` describes. -/
def rulesOf (p : Path) (d : Datum) : Except Failure (List Rule) :=
  (Shape.parse d).mapError fun fault =>
    match fault.text with
    | .ok text => .badShape p text
    | .error .tooLong => .tooLong
    | .error .tooDeep => .tooDeep

/-- The rule list in the bytes of the file `p`. That they are text comes first,
then the suffix, then the rest. -/
def parse (p : Path) (bytes : ByteArray) : Except Failure (List Rule) := do
  let s ← textOf bytes
  match formatOf? p with
  | none => .error (.unsupported p)
  | some format => rulesOf p (← decode p format s)

def load (disk : Disk) (p : Path) : Except Failure (List Rule) := do
  parse p (← Failure.ofDisk (disk.read p))

def encode (format : Format) (rules : List Rule) : String :=
  match format with
  | .json => (Rule.listToJson rules).fileText
  | .yaml => Yaml.write rules

end Reroute.RuleFile
