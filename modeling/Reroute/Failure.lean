import Reroute.Disk.Basic
import Reroute.Yaml.Cursor

/-!
# Failures and log lines

Why an operation on rules fails, and what it tells about itself on the way. Some
failures are told to the user in a message; the others come from the disk or from inside
a file and have none.
-/

namespace Reroute

inductive Failure where
  /-- The disk refuses. -/
  | disk (fault : DiskFault)
  /-- A file is not UTF-8. -/
  | notText
  /-- A file is not JSON. -/
  | badJson (path : Path) (detail : String)
  /-- A file is not YAML. -/
  | badYaml
  /-- A value in a YAML file does not exist. -/
  | badValue (flaw : Yaml.Flaw)
  /-- A number is too long to be shown. -/
  | tooLong
  /-- A file is nested too deeply to be read or shown. -/
  | tooDeep
  /-- A file is not a rule list. -/
  | badShape (path : Path) (detail : String)
  /-- A file has another suffix than those of JSON and YAML. -/
  | unsupported (path : Path)
  /-- A rule has an empty text. -/
  | emptyText
  /-- A rule leads to something that is no destination. -/
  | badDestination (destination : Points)
  /-- A rule has the source of another one. -/
  | duplicate (source : Points)
  /-- There is no rule with this number. -/
  | noRule (position : Int)
  deriving DecidableEq

namespace Failure

def message? : Failure → Option Points
  | .disk _ | .notText | .badValue _ | .tooLong | .tooDeep => none
  | .badJson path detail => some ("Invalid JSON format (" ++ detail ++ "): " ++ path.text)
  | .badYaml => some "Invalid YAML format"
  | .badShape path detail => some ("Invalid rules schema (" ++ detail ++ "): " ++ path.text)
  | .unsupported path => some ("Unsupported rules file type: " ++ path.text)
  | .emptyText => some "Please fill in both the source pattern and the destination."
  | .badDestination destination =>
    some ("Please enter a valid destination URL: " ++ destination)
  | .duplicate source => some ("A rule with this pattern already exists: " ++ source)
  | .noRule position => some ("Rule not found at position " ++ toString position)

/-- A step that may fail, from one that names its flaw otherwise. -/
def ofDisk {α : Type} (r : Except DiskFault α) : Except Failure α := r.mapError .disk

end Failure

/-- How much a log line matters. -/
inductive Level where
  | debug
  | info
  deriving Repr, DecidableEq

def Level.label : Level → String
  | .debug => "DEBUG"
  | .info => "INFO"

structure LogLine where
  level : Level
  message : Points
  deriving Repr, DecidableEq

def LogLine.text (l : LogLine) : Points := l.level.label ++ " " ++ l.message

/-- A value, and the lines logged on the way to it. -/
structure Logged (α : Type) where
  value : α
  log : List LogLine

end Reroute
