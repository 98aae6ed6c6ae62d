import Reroute.Command.Run

/-!
# The program

Reads what a call can reach of the disk, runs the call, and carries out what it
changed.
-/

namespace Reroute.Program

def placeText (place : Place) : String :=
  match place.map Points.toString with
  | "/" :: names => "/" ++ "/".intercalate names
  | [] => "."
  | names => "/".intercalate names

/-- What stands at a place. -/
def probe (place : Place) : IO (Option Entry) := do
  try
    let bytes ← IO.FS.readBinFile (placeText place)
    return some (.file bytes 0)
  catch _ =>
    try
      let found ← IO.FS.realPath (placeText place)
      return if ← found.isDir then some .directory else none
    catch _ => return none

/-- Takes in what stands along some names from a place. -/
def surveyFrom (disk : Disk) (place : Place) : List Points → IO Disk
  | [] => return disk
  | name :: rest => do
    let next := if name = ".." then Disk.above place else place ++ [name]
    match ← probe next with
    | some e => surveyFrom (disk.put next e) next rest
    | none => surveyFrom disk next rest

def survey (disk : Disk) (p : Path) : IO Disk := surveyFrom disk (Disk.startOf p) p.parts

/-- The texts in a word of a call that may name a path. -/
def namesIn (word : Points) : List Points :=
  match Command.splitValue word.toList with
  | (_, some value) => [word, value]
  | (_, none) => [word]

/-- The paths that a call may reach. -/
def reachable (env : Command.Environment) (words : List Points) : List Path :=
  let named := (words.flatMap namesIn ++ env.root.toList).map Path.ofText
  let usual := (Home.path? env.home).map fun home =>
    (home.child ".config").child Command.program
  let roots := (usual.toList ++ named).filterMap (Home.expand? env.home) ++ named
  named ++ roots.map fun root => root.child Store.fileName

def readsInput (words : List Points) : Bool :=
  words.contains ("rewrite" : Points) || words.contains ("clear" : Points)

/-- Carries out what is new at a place. -/
def carryOut (before : Disk) (change : Place × Entry) : IO Unit := do
  match before.entry? change.1, change.2 with
  | some .directory, .directory => return ()
  | _, .directory => IO.FS.createDirAll (placeText change.1)
  | some (.file old _), .file new _ =>
    if old == new then return () else IO.FS.writeBinFile (placeText change.1) new
  | _, .file new _ => IO.FS.writeBinFile (placeText change.1) new

def call (words : List Points) : IO UInt32 := do
  let input ← if readsInput words then (← IO.getStdin).readToEnd else pure ""
  let env : Command.Environment :=
    { home := ((← IO.getEnv "HOME").getD "/" : String)
      root := (← IO.getEnv "URL_REDIRECTOR_ROOT").map Points.ofString
      input := input.toUTF8 }
  let disk ← (reachable env words).foldlM survey Disk.empty
  let outcome := Command.run env disk words
  for change in outcome.disk.entries.reverse do carryOut disk change
  IO.print outcome.out
  for panel in outcome.panels do
    for line in panel.lines do IO.println line.toString
  IO.eprint outcome.err
  match outcome.ending with
  | .code n => return UInt32.ofNat n
  | .failed _ | .noHome =>
    IO.eprintln "Error: the rules cannot be reached"
    return 1
  | .unwritable =>
    IO.eprintln "Error: a text cannot be written"
    return 1

end Reroute.Program

def main (words : List String) : IO UInt32 := Reroute.Program.call (words.map Reroute.Points.ofString)
