import Reroute.Match.NetRequest
import Reroute.Proofs.Match.Regex

/-!
# What a filter captures

The filter of a leading rule is a regular expression with anchors and a group, for a text of
one line. Such expressions are read here and applied from the start of a text, with all their
ways to match in the order in which they are tried: a starred item takes as many characters
as it can, and then one less each time (`captures`). A dot is no line feed here.

The filter for a start is read as that start, character by character, and one group
(`nodes?_leadingFilter`). So there is one way at most to match it, and what its group
captures is what the leading rule appends (`captures_leadingFilter`).
-/

namespace Reroute.Regex

/-- A part of a regular expression with anchors and groups. -/
inductive Node where
  /-- The start of the text. -/
  | start
  /-- The end of the text, or the line feed that ends it. -/
  | finish
  | item (i : Item)
  /-- Items in brackets, whose part of the text is captured. -/
  | group (items : List Item)
  deriving Repr, DecidableEq

def Node.isGroup : Node → Bool
  | .group _ => true
  | _ => false

/-! ## Reading -/

/-- The item at the front of a regular expression, and what follows it. -/
def item? (s : List Code) : Option (Item × List Code) := do
  let (a, s) ← atom? s
  let (starred, s) := star? s
  return (⟨a, starred⟩, s)

/-- The items up to the bracket that ends a group, of which there are at most `count`, and
what follows it. -/
def groupUpTo? : (count : Nat) → List Code → Option (List Item × List Code)
  | _, ')' :: s => some ([], s)
  | 0, _ => none
  | count + 1, s => do
    let (i, s) ← item? s
    let (items, s) ← groupUpTo? count s
    return (i :: items, s)

/-- The node at the front of a regular expression, and what follows it. -/
def node? : List Code → Option (Node × List Code)
  | '^' :: s => some (.start, s)
  | '$' :: s => some (.finish, s)
  | '(' :: s => do
    let (items, s) ← groupUpTo? s.length s
    return (.group items, s)
  | s => do
    let (i, s) ← item? s
    return (.item i, s)

/-- The nodes of a regular expression, of which there are at most `count`. -/
def nodesUpTo? : (count : Nat) → List Code → Option (List Node)
  | _, [] => some []
  | 0, _ => none
  | count + 1, s => do
    let (n, s) ← node? s
    return n :: (← nodesUpTo? count s)

/-- The nodes of a regular expression, when it is of the kind that is read here. -/
def nodes? (regex : List Code) : Option (List Node) := nodesUpTo? regex.length regex

/-! ## Matching -/

def Atom.takes : Atom → Code → Bool
  | .char c, d => d = c
  | .any, d => d ≠ '\n'
  | .other c, d => d ≠ c

/-- The parts that an item may take from the front of a text, the longest first, each with
what it leaves. -/
def Item.parts (i : Item) : List Code → List (List Code × List Code)
  | [] => if i.starred then [([], [])] else []
  | c :: s =>
    if i.starred then
      (if i.atom.takes c then (i.parts s).map fun p => (c :: p.1, p.2) else []) ++ [([], c :: s)]
    else if i.atom.takes c then [([c], s)]
    else []

def partsOf : List Item → List Code → List (List Code × List Code)
  | [], s => [([], s)]
  | i :: is, s => (i.parts s).flatMap fun p =>
    (partsOf is p.2).map fun q => (p.1 ++ q.1, q.2)

/-- What the groups capture when the nodes match at `s`, an end part of the text, in each of
the ways to match, and in the order in which these are tried. -/
def captures (text : List Code) : List Node → List Code → List (List (List Code))
  | [], _ => [[]]
  | .start :: ns, s => if s = text then captures text ns s else []
  | .finish :: ns, s => if s = [] ∨ s = [('\n' : Code)] then captures text ns s else []
  | .item i :: ns, s => (i.parts s).flatMap fun p => captures text ns p.2
  | .group is :: ns, s => (partsOf is s).flatMap fun p => (captures text ns p.2).map (p.1 :: ·)

/-- A regular expression is applied from the start of a text: what its groups capture in each
of the ways to match. -/
def waysOn (nodes : List Node) (text : List Code) : List (List (List Code)) :=
  captures text nodes text

def literal (c : Code) : Node := .item ⟨.char c, false⟩

/-- A run of characters of one line. -/
def lineRun : Item := ⟨.any, true⟩

theorem captures_literals (text : List Code) (start : List Code) (ns : List Node) (s : List Code) :
    captures text (start.map literal ++ ns) s =
      ((start.isPrefixOf? s).map (captures text ns)).getD [] := by
  induction start generalizing s with
  | nil => rfl
  | cons c start ih =>
    rw [List.map_cons, List.cons_append, literal, captures]
    cases s with
    | nil => rfl
    | cons d s =>
      by_cases same : d = c
      · simp [Item.parts, Atom.takes, List.isPrefixOf?, same, ih]
      · simp [Item.parts, Atom.takes, List.isPrefixOf?, same, Ne.symm same]

/-- Of all the parts of a line that a run may take, only the longest leaves the end. -/
theorem flatMap_lineRun {α : Type} {s : List Code} (line : ('\n' : Code) ∉ s) (f : List Code → α) :
    ((lineRun.parts s).flatMap fun p => if p.2 = [] ∨ p.2 = [('\n' : Code)] then [f p.1] else []) =
      [f s] := by
  induction s generalizing f with
  | nil => rfl
  | cons c s ih =>
    rw [List.mem_cons, not_or] at line
    have takes : lineRun.atom.takes c = true := by simpa [lineRun, Atom.takes] using Ne.symm line.1
    have stays : ¬(c :: s = [] ∨ c :: s = [('\n' : Code)]) := by
      simp [Ne.symm line.1]
    have longer := ih line.2 fun part => f (c :: part)
    rw [Item.parts, if_pos (show lineRun.starred = true from rfl), if_pos takes,
      List.flatMap_append, List.flatMap_singleton, if_neg stays, List.append_nil,
      List.flatMap_map]
    exact longer

theorem captures_lineRun (text : List Code) {s : List Code} (line : ('\n' : Code) ∉ s) :
    captures text [.group [lineRun], .finish] s = [[s]] := by
  rw [← flatMap_lineRun line fun part => [part]]
  simp only [captures, partsOf, List.flatMap_assoc, List.map_cons, List.map_nil,
    List.append_nil, List.flatMap_singleton]
  refine List.flatMap_congr fun p _ => ?_
  split <;> rfl

end Regex

namespace Glob

/-! ## Reading a filter -/

theorem item?_escapeChar (c : Code) {rest : List Code} (h : rest.head? ≠ some ('*' : Code)) :
    Regex.item? (escapeChar c ++ rest) = some (⟨.char c, false⟩, rest) := by
  rw [Regex.item?, atom?_escapeChar]
  simp [star?_of_head? h]

/-- A character that is escaped is read as itself, also where anchors and groups are. -/
theorem node?_escapeChar (c : Code) {rest : List Code} (h : rest.head? ≠ some ('*' : Code)) :
    Regex.node? (escapeChar c ++ rest) = some (Regex.literal c, rest) := by
  have item := item?_escapeChar c h
  have node : Regex.node? (escapeChar c ++ rest) =
      (Regex.item? (escapeChar c ++ rest)).map fun p => (.item p.1, p.2) := by
    -- The characters that start something else are escaped.
    have other (m : Code) (special : metacharacters.contains m = true) (plain : m ≠ '\\')
        (s : List Code) : escapeChar c ++ rest ≠ m :: s := by
      intro same
      unfold escapeChar at same
      split at same
      · exact plain (List.cons.inj same).1.symm
      · next noSpecial => exact noSpecial ((List.cons.inj same).1 ▸ special)
    rw [Regex.node?]
    · cases Regex.item? (escapeChar c ++ rest) <;> rfl
    · exact other '^' rfl (by decide)
    · exact other '$' rfl (by decide)
    · exact other '(' rfl (by decide)
  rw [node, item]
  rfl

theorem escape_cons (c : Code) (s : List Code) : escape (c :: s) = escapeChar c ++ escape s :=
  List.flatMap_cons

theorem length_le_escape (s : List Code) : s.length ≤ (escape s).length := by
  have pieces := length_le_flatMap_regex (s.map Piece.one)
  rwa [List.length_map, List.flatMap_map] at pieces

theorem head?_escape_append (s : List Code) {rest : List Code} (h : rest.head? ≠ some ('*' : Code)) :
    (escape s ++ rest).head? ≠ some ('*' : Code) := by
  have first := head?_flatMap_regex (s.map Piece.one)
  rw [List.flatMap_map] at first
  rw [List.head?_append]
  cases found : (escape s).head? with
  | none => exact h
  | some c =>
    rw [Option.some_or, ← found]
    exact first

theorem nodesUpTo?_escape (s : List Code) (count : Nat) (rest : List Code)
    (h : rest.head? ≠ some ('*' : Code)) : Regex.nodesUpTo? (count + s.length) (escape s ++ rest) =
      (Regex.nodesUpTo? count rest).map (s.map Regex.literal ++ ·) := by
  induction s with
  | nil =>
    show Regex.nodesUpTo? count rest = _
    cases Regex.nodesUpTo? count rest <;> rfl
  | cons c s ih =>
    obtain ⟨d, t, hd, -⟩ := regex_eq_cons (.one c)
    have node := node?_escapeChar c (head?_escape_append s h)
    have read : escapeChar c ++ (escape s ++ rest) = d :: (t ++ (escape s ++ rest)) :=
      congrArg (· ++ (escape s ++ rest)) hd
    rw [escape_cons, List.append_assoc, List.length_cons, ← Nat.add_assoc]
    rw [read] at node ⊢
    simp only [Regex.nodesUpTo?, node, ih, Option.bind_eq_bind, Option.bind_some]
    cases Regex.nodesUpTo? count rest <;> rfl

end Glob

namespace NetRequest

/-- The nodes of the filter for a start. -/
def filterNodes (start : List Code) : List Regex.Node :=
  .start :: (start.map Regex.literal ++ [.group [Regex.lineRun], .finish])

/-- The filter for a start can be read: as that start, whatever characters are in it, and as
one group for the rest. -/
theorem nodes?_leadingFilter (start : Points) :
    Regex.nodes? (leadingFilter start).toList = some (filterNodes start.toList) := by
  have text : (leadingFilter start).toList =
      ('^' : Code) :: (Glob.escape start.toList ++ ("(.*)$" : Points).toList) := rfl
  -- Room for the characters, the group and the end is left behind the first node.
  obtain ⟨more, room⟩ : ∃ more, (Glob.escape start.toList ++ ("(.*)$" : Points).toList).length =
      more + 2 + start.toList.length := by
    have enough := Glob.length_le_escape start.toList
    refine ⟨(Glob.escape start.toList).length - start.toList.length + 3, ?_⟩
    rw [List.length_append]
    show _ + 5 = _
    omega
  have rest : Regex.nodesUpTo? (more + 2) ("(.*)$" : Points).toList =
      some [.group [Regex.lineRun], .finish] := by
    cases more <;> rfl
  rw [text, Regex.nodes?, List.length_cons, room]
  show (Regex.nodesUpTo? _ _ >>= fun ns => some (.start :: ns)) = _
  rw [Glob.nodesUpTo?_escape _ _ _ (by decide), rest]
  rfl

/-- A filter has one way to match a line that starts with its start, and none to match any
other: its group captures what follows the start. -/
theorem waysOn_filterNodes (start : List Code) {url : List Code} (line : ('\n' : Code) ∉ url) :
    Regex.waysOn (filterNodes start) url =
      ((start.isPrefixOf? url).map fun rest => [[rest]]).getD [] := by
  rw [Regex.waysOn, filterNodes, Regex.captures, if_pos rfl, Regex.captures_literals]
  cases found : start.isPrefixOf? url with
  | none => rfl
  | some rest =>
    have whole := List.isPrefixOf?_eq_some_iff_append_eq.mp found
    have lineRest : ('\n' : Code) ∉ rest := fun feed => line (whole ▸ List.mem_append_right _ feed)
    exact Regex.captures_lineRun url lineRest

/-- The filter of a leading rule can be read, and it has one group. On a URL of one line it
matches exactly when the URL starts with the start of the rule, that is, when the rule
rewrites the URL; and in every way to match, its group captures what the rule appends to its
replacement: the URL without the start. -/
theorem captures_leadingFilter (start replacement url : Points)
    (line : ('\n' : Code) ∉ url.toList) :
    ∃ nodes, Regex.nodes? (leadingFilter start).toList = some nodes ∧
      nodes.countP Regex.Node.isGroup = 1 ∧
      (Regex.waysOn nodes url.toList ≠ [] ↔ start.toList <+: url.toList) ∧
      (start.toList <+: url.toList ↔ (Matcher.leading start replacement).rewrite? url ≠ none) ∧
      ∀ groups ∈ Regex.waysOn nodes url.toList, ∃ rest, groups = [rest] ∧
        rest = url.toList.drop start.toList.length ∧
        (Matcher.leading start replacement).rewrite? url =
          some (replacement ++ (⟨rest⟩ : Points)) := by
  refine ⟨filterNodes start.toList, nodes?_leadingFilter start, ?_, ?_⟩
  · have literals : (start.toList.map Regex.literal).countP Regex.Node.isGroup = 0 := by
      rw [List.countP_map, List.countP_eq_zero]
      intro c _
      exact Bool.false_ne_true
    rw [filterNodes, List.countP_cons, List.countP_append, literals]
    rfl
  rw [waysOn_filterNodes start.toList line, Matcher.rewrite?]
  cases found : start.toList.isPrefixOf? url.toList with
  | none =>
    have apart : ¬start.toList <+: url.toList := by
      rw [← List.isPrefixOf_iff_prefix, ← List.isSome_isPrefixOf?_eq_isPrefixOf, found]
      exact Bool.false_ne_true
    simp [apart]
  | some rest =>
    have whole := List.isPrefixOf?_eq_some_iff_append_eq.mp found
    have starts : start.toList <+: url.toList := ⟨rest, whole⟩
    have isRest : rest = url.toList.drop start.toList.length := by
      rw [← whole, List.drop_left]
    refine ⟨by simp [starts], by simp [starts], ?_⟩
    intro groups ways
    obtain rfl : groups = [rest] := by simpa using ways
    exact ⟨rest, rfl, isRest, rfl⟩

theorem captures_leadingFilter_special :
    let start : Points := "h://(a)\\*"
    let url : Points := "h://(a)\\*b"
    ('\n' : Code) ∉ url.toList ∧ ∃ nodes, Regex.nodes? (leadingFilter start).toList = some nodes ∧
      Regex.waysOn nodes url.toList ≠ [] ∧
      ∀ groups ∈ Regex.waysOn nodes url.toList, groups = [("b" : Points).toList] := by
  intro start url
  have line : ('\n' : Code) ∉ url.toList := by decide
  have starts : start.toList <+: url.toList := ⟨("b" : Points).toList, by decide⟩
  have behind : url.toList.drop start.toList.length = ("b" : Points).toList := by decide
  obtain ⟨nodes, read, -, ways, -, group⟩ := captures_leadingFilter start "h://c" url line
  refine ⟨line, nodes, read, ways.mpr starts, ?_⟩
  intro groups hgroups
  obtain ⟨rest, rfl, isRest, -⟩ := group groups hgroups
  rw [isRest, behind]

end NetRequest

end Reroute
