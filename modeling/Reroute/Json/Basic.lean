import Reroute.Text.Points

/-!
# JSON values

An object keeps its members in the order in which their names first arrived; a
later member of the same name replaces the value and keeps the place.
-/

namespace Reroute

inductive Json where
  | null
  | bool (b : Bool)
  | int (i : Int)
  | real (x : Float)
  | str (s : Points)
  | arr (items : List Json)
  | obj (members : List (Points × Json))
  deriving Inhabited

namespace Json

/-- The members with the value of `name` set to `v`: in the place of the old
value, or at the end. -/
def put (name : Points) (v : Json) : List (Points × Json) → List (Points × Json)
  | [] => [(name, v)]
  | m :: ms => if m.1 = name then (name, v) :: ms else m :: put name v ms

def get? (name : Points) : Json → Option Json
  | .obj members => members.lookup name
  | _ => none

def text (s : String) : Json := .str s

end Json

end Reroute
