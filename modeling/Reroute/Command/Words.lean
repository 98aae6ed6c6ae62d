import Reroute.Command.Spec
import Reroute.Text.Printable

/-!
# The words of a call

Which options the words after a command give, and which words are left for its
arguments. Two hyphens alone end the options. In front of a command inside a
group the first word that is no option ends them too. A word that is not known is
answered with the known ones that it may be a slip of the pen for.
-/

namespace Reroute.Command

/-! ## Close words

Two words are compared by their longest common part, and again on both sides of it. -/

def commonStart : List Code → List Code → Nat
  | a :: s, b :: t => if a = b then commonStart s t + 1 else 0
  | _, _ => 0

/-- A common part of two texts: where it starts in each of them, and its length. -/
structure Common where
  left : Nat
  right : Nat
  size : Nat

/-- The longest common part of two texts, the first one of several. -/
def longestCommon (s t : List Code) : Common :=
  (List.range s.length).foldl (fun best i =>
    (List.range t.length).foldl (fun best j =>
      let size := commonStart (s.drop i) (t.drop j)
      if best.size < size then ⟨i, j, size⟩ else best) best) ⟨0, 0, 0⟩

/-- The number of characters in the common parts of two texts; `rounds` bounds
the nesting. -/
def commonCount : (rounds : Nat) → List Code → List Code → Nat
  | 0, _, _ => 0
  | rounds + 1, s, t =>
    let c := longestCommon s t
    if c.size = 0 then 0
    else
      c.size + commonCount rounds (s.take c.left) (t.take c.right) +
        commonCount rounds (s.drop (c.left + c.size)) (t.drop (c.right + c.size))

/-- How much two words have in common: the number of common characters, and that of
all characters of both. -/
structure Likeness where
  common : Nat
  total : Nat

namespace Likeness

def ofWords (word : Points) (known : String) : Likeness :=
  let s := (Points.ofString known).toList
  let t := word.toList
  ⟨commonCount (s.length + 1) s t, s.length + t.length⟩

/-- Whether three fifths of two words are common to them. -/
def isClose (l : Likeness) : Bool := 3 * l.total ≤ 10 * l.common

/-- Whether the first likeness is smaller: its common part is. -/
def isLess (l m : Likeness) : Bool := l.common * m.total < m.common * l.total

end Likeness

/-- Whether a known word comes before another one among close words: the more alike
first, of equally alike ones the later in the alphabet. -/
def isCloser (a b : Likeness × String) : Bool :=
  if a.1.isLess b.1 then false else b.1.isLess a.1 || b.2 ≤ a.2

def mostClose : Nat := 3

/-- The closest known words to a word, in the order of the alphabet. -/
def closeWords (word : Points) (known : List String) : List String :=
  let rated := known.map fun k => (Likeness.ofWords word k, k)
  let close := (rated.filter fun e => e.1.isClose).mergeSort isCloser
  ((close.take mostClose).map (·.2)).mergeSort fun a b => a ≤ b

/-! ## Faults -/

/-- Why the words of a call make no sense. -/
inductive Fault where
  | noOption (name : Points) (close : List String)
  | noCommand (name : Points) (close : List String)
  | noCommandGiven
  | missing (argument : String)
  | extra (words : List Points)
  | invalid (parameter reason : String)
  /-- A word has to name a path, and cannot. -/
  | noPath
  | needsValue (option : Points)
  | takesNoValue (option : Points)
  deriving Repr, DecidableEq

namespace Fault

def hint (close : List String) : String :=
  match close with
  | [] => ""
  | [word] => " Did you mean " ++ Text.quotedString word ++ "?"
  | words =>
    " (Did you mean one of: " ++ ", ".intercalate (words.map fun (w : String) => Text.quotedString w) ++ "?)"

/-- A fault in words; `none` when the user is told nothing. -/
def message? : Fault → Option Points
  | .noOption name close =>
    some ("No such option " ++ Text.quotedString name ++ "." ++ hint close)
  | .noCommand name close =>
    some ("No such command " ++ Text.quotedString name ++ "." ++ hint close)
  | .noCommandGiven => some "Missing command."
  | .missing argument => some ("Missing argument '" ++ argument ++ "'.")
  | .extra [word] => some ("Got unexpected extra argument (" ++ word ++ ")")
  | .extra words => some ("Got unexpected extra arguments (" ++ Points.join " " words ++ ")")
  | .invalid parameter reason => some ("Invalid value for '" ++ parameter ++ "': " ++ reason)
  | .noPath => none
  | .needsValue option => some ("Option " ++ Text.quotedString option ++ " requires an argument.")
  | .takesNoValue option =>
    some ("Option " ++ Text.quotedString option ++ " does not take a value.")

def showsUsage : Fault → Bool
  | .needsValue _ | .takesNoValue _ | .noPath => false
  | _ => true

end Fault

/-- The words of a call: the options that are given, with their values, and the
other words. -/
structure Words where
  given : List (Switch × Points)
  others : List Points
  deriving Repr, DecidableEq

namespace Words

def has (w : Words) (s : Switch) : Bool := w.given.any (·.1 = s)

/-- How often an option is given. -/
def count (w : Words) (s : Switch) : Nat := (w.given.filter (·.1 = s)).length

/-- The last value that is given for an option. -/
def value? (w : Words) (s : Switch) : Option Points := w.given.reverse.lookup s

end Words

/-! ## Reading words -/

/-- An option that still needs its value, with the name it was called by. -/
structure Awaiting where
  switch : Switch
  name : Points

/-- The options in one word, and the one that needs the next word. -/
structure OptionWord where
  given : List (Switch × Points)
  awaiting : Option Awaiting

def shortOptions (spec : Spec) : List Code → Except Fault OptionWord
  | [] => .ok ⟨[], none⟩
  | c :: s =>
    let name : Points := ⟨[.char '-', c]⟩
    match spec.options.find? fun o => o.short.map Code.char = some c with
    | none => .error (.noOption name [])
    | some o =>
      if o.takesValue then
        if s.isEmpty then .ok ⟨[], some ⟨o.switch, name⟩⟩
        else .ok ⟨[(o.switch, ⟨s⟩)], none⟩
      else
        (shortOptions spec s).map fun r => { r with given := (o.switch, "") :: r.given }

def splitValue (word : List Code) : Points × Option Points :=
  match Text.cut? [.char '='] word with
  | some (name, value) => (⟨name⟩, some ⟨value⟩)
  | none => (⟨word⟩, none)

def optionWord (spec : Spec) (word : List Code) : Except Fault OptionWord :=
  let (name, value) := splitValue word
  match spec.options.find? fun o => (o.long : Points) = name with
  | some o =>
    match o.takesValue, value with
    | true, some v => .ok ⟨[(o.switch, v)], none⟩
    | true, none => .ok ⟨[], some ⟨o.switch, name⟩⟩
    | false, some _ => .error (.takesNoValue name)
    | false, none => .ok ⟨[(o.switch, "")], none⟩
  | none =>
    match word with
    | .char '-' :: .char '-' :: _ => .error (.noOption name (closeWords name (spec.options.map (·.long))))
    | _ => shortOptions spec word.tail

/-- Reads the words after a command. `mixed` tells that options may stand behind
other words. -/
def readWords (spec : Spec) (mixed : Bool) :
    Option Awaiting → List Points → Except Fault Words
  | some a, [] => .error (.needsValue a.name)
  | some a, word :: rest =>
    (readWords spec mixed none rest).map fun w => { w with given := (a.switch, word) :: w.given }
  | none, [] => .ok ⟨[], []⟩
  | none, word :: rest =>
    if word = "--" then .ok ⟨[], rest⟩
    else
      match word.toList with
      | .char '-' :: _ :: _ =>
        match optionWord spec word.toList with
        | .error fault => .error fault
        | .ok r =>
          (readWords spec mixed r.awaiting rest).map fun w =>
            { w with given := r.given ++ w.given }
      | _ =>
        if mixed then
          (readWords spec mixed none rest).map fun w => { w with others := word :: w.others }
        else .ok ⟨[], word :: rest⟩

/-- The words of each argument, and those that are left. -/
def bindWords : List ArgumentSpec → List Points → Except Fault (List (List Points) × List Points)
  | [], words => .ok ([], words)
  | a :: as, words => do
    let (these, left) ←
      match a.arity, words with
      | .one, [] | .oneOrMore, [] => .error (.missing a.name)
      | .one, w :: rest | .optional, w :: rest => .ok ([w], rest)
      | .optional, [] => .ok ([], [])
      | .oneOrMore, ws | .any, ws => .ok (ws, [])
    let (more, left) ← bindWords as left
    return (these :: more, left)

/-- The fault of words that no argument takes, if there are any. -/
def noneLeft (left : List Points) : Except Fault Unit :=
  if left.isEmpty then .ok () else .error (.extra left)

end Reroute.Command
