import Reroute.Disk.Path
import Reroute.Text.Utf8

/-!
# A disk

Files and directories by name, and the steps on them: reading, writing, making
directories. Each file has the time of its last change, which is the time of the
disk's clock when it was written. Relative paths start at the working directory,
which always exists.
-/

namespace Reroute

/-- Why a step on the disk fails. -/
inductive DiskFault where
  | notFound
  | notDirectory
  | isDirectory
  | alreadyExists
  /-- A name, or the path as a whole, is longer than a disk allows. -/
  | nameTooLong
  /-- The text cannot be handed to a disk, so it is no path. -/
  | notPath
  deriving Repr, DecidableEq

/-- What stands under a name. -/
inductive Entry where
  | file (bytes : ByteArray) (time : Int)
  | directory

/-- The names on the way from the working directory, or from the root after a
first name `/`. -/
abbrev Place : Type := List Points

/-- The entries of a disk, and the time of its clock. -/
structure Disk where
  entries : List (Place × Entry)
  now : Int

namespace Disk

def empty : Disk := ⟨[], 0⟩

/-- A place that exists on every disk: the working directory, those around it, and
the root. -/
def isBase (place : Place) : Bool := place = [("/" : Points)] || place.all (· = "..")

def entry? (d : Disk) (place : Place) : Option Entry :=
  if isBase place then some .directory else d.entries.lookup place

def put (d : Disk) (place : Place) (e : Entry) : Disk :=
  { d with entries := (place, e) :: d.entries.filter fun old => old.1 ≠ place }

def erase (d : Disk) (place : Place) : Disk :=
  { d with entries := d.entries.filter fun old => old.1 ≠ place }

def above (place : Place) : Place :=
  if place = [("/" : Points)] then place
  else if place.all (· = "..") then ".." :: place
  else place.dropLast

/-- The number of bytes that a name may have. -/
def maxName : Nat := 255

/-- The number of bytes that the text of a path may have. -/
def maxPath : Nat := 4095

/-- The bytes of a code point in a name. -/
def bytesOf : Code → List UInt8
  | .char c => String.utf8EncodeChar c
  | .half n => [UInt8.ofNat n]

def byteSize (text : Points) : Nat := (text.toList.flatMap bytesOf).length

def isLong (name : Points) : Bool := maxName < byteSize name

/-- Checks what can be said of a path before the disk is looked at. -/
def accept (p : Path) : Except DiskFault Unit :=
  if !p.isSpellable then .error .notPath
  else if maxPath < byteSize p.text then .error .nameTooLong
  else .ok ()

/-- The place that is reached from a place along some names, where all but the
last one have to be directories. -/
def walk (d : Disk) : Place → List Points → Except DiskFault Place
  | place, [] => .ok place
  | place, name :: rest =>
    match d.entry? place with
    | none => .error .notFound
    | some (.file _ _) => .error .notDirectory
    | some .directory =>
      if isLong name then .error .nameTooLong
      else d.walk (if name = ".." then above place else place ++ [name]) rest

/-- Where the names of a path start. -/
def startOf (p : Path) : Place := if p.root = "" then [] else ["/"]

def locate (d : Disk) (p : Path) : Except DiskFault Place := do
  accept p
  d.walk (startOf p) p.parts

/-- What a path leads to. -/
def status (d : Disk) (p : Path) : Except DiskFault Entry := do
  match d.entry? (← d.locate p) with
  | some e => return e
  | none => .error .notFound

/-- Whether a path leads to anything. That a name is too long is no answer. -/
def present (d : Disk) (p : Path) : Except DiskFault Bool :=
  match d.status p with
  | .ok _ => .ok true
  | .error .nameTooLong => .error .nameTooLong
  | .error _ => .ok false

def read (d : Disk) (p : Path) : Except DiskFault ByteArray := do
  match ← d.status p with
  | .file bytes _ => return bytes
  | .directory => .error .isDirectory

def write (d : Disk) (p : Path) (bytes : ByteArray) : Except DiskFault Disk := do
  let place ← d.locate p
  match d.entry? place with
  | some .directory => .error .isDirectory
  | _ => return d.put place (.file bytes d.now)

def remove (d : Disk) (p : Path) : Except DiskFault Disk := do
  let place ← d.locate p
  match d.entry? place with
  | none => .error .notFound
  | some .directory => .error .isDirectory
  | some (.file _ _) => return d.erase place

/-- Makes the directories along some names from a place, as far as they do not
exist yet. Those made before a fault stay. -/
def makeAlong : Disk → Place → List Points → Disk × Option DiskFault
  | d, _, [] => (d, none)
  | d, place, name :: rest =>
    if name = ".." then d.makeAlong (above place) rest
    else if isLong name then (d, some .nameTooLong)
    else
      let next := place ++ [name]
      match d.entry? next with
      | some .directory => d.makeAlong next rest
      | some (.file _ _) => (d, some (if rest.isEmpty then .alreadyExists else .notDirectory))
      | none => (d.put next .directory).makeAlong next rest

/-- Makes a directory and those around it, as far as they do not exist yet. -/
def makeDirectories (d : Disk) (p : Path) : Disk × Option DiskFault :=
  match accept p with
  | .error fault => (d, some fault)
  | .ok _ => d.makeAlong (startOf p) p.parts

/-- Writes a file into a directory that is made if need be. -/
def save (d : Disk) (p : Path) (bytes : ByteArray) : Disk × Option DiskFault :=
  match d.makeDirectories p.parent with
  | (d, some fault) => (d, some fault)
  | (d, none) =>
    match d.write p bytes with
    | .ok d => (d, none)
    | .error fault => (d, some fault)

/-! ## Paths as they are typed

A path in the words of a call names a directory when it ends in a slash or in
`/.`, and the empty text names nothing. -/

/-- A path as messages show it: what is no UTF-8 in it reads as U+FFFD. -/
def shownName (text : Points) : String :=
  Text.decodeLossy ⟨(text.toList.flatMap bytesOf).toArray⟩

/-- Whether the text of a path asks for a directory. -/
def asksForDirectory (text : Points) : Bool :=
  match text.toList.reverse with
  | .char '/' :: _ => true
  | .char '.' :: .char '/' :: _ => true
  | _ => false

def statusTyped (d : Disk) (text : Points) : Except DiskFault Entry :=
  if text.isEmpty then .error .notFound
  else match d.status (Path.ofText text) with
    | .ok (.file bytes time) =>
      if asksForDirectory text then .error .notDirectory else .ok (.file bytes time)
    | r => r

def readTyped (d : Disk) (text : Points) : Except DiskFault ByteArray := do
  match ← d.statusTyped text with
  | .file bytes _ => return bytes
  | .directory => .error .isDirectory

def writeTyped (d : Disk) (text : Points) (bytes : ByteArray) : Except DiskFault Disk :=
  if text.isEmpty then .error .notFound
  else if asksForDirectory text then
    match d.statusTyped text with
    | .ok _ | .error .notFound => .error .isDirectory
    | .error fault => .error fault
  else d.write (Path.ofText text) bytes

end Disk

end Reroute
