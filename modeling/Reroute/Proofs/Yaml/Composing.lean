import Reroute.Proofs.Yaml.Entries
import Reroute.Yaml.Composer

/-!
# Nodes of a written rule list

The composer takes the tokens of a rule list from the front and adds nodes at the end: the
list, then for each rule its map with the four texts. Each layer of the grammar leaves the
tokens behind it as they are, so the layers compose (`document_listTokens`).
-/

namespace Reroute.Yaml

/-! ## The nodes -/

def textNode (text : Points) : Node := ⟨.str, .scalar text⟩

/-- The nodes of a rule, the map first, where it is the node number `n`. -/
def ruleNodes (n : Nat) (texts : String × String) : List Node :=
  [⟨.map, .entries [(n + 1, n + 2), (n + 3, n + 4)]⟩, textNode "from", textNode texts.1,
    textNode "to", textNode texts.2]

theorem length_ruleNodes (n : Nat) (texts : String × String) : (ruleNodes n texts).length = 5 := rfl

/-- The nodes of the rules from the number `n` on. -/
def rulesNodes (n : Nat) : List (String × String) → List Node
  | [] => []
  | texts :: rules => ruleNodes n texts ++ rulesNodes (n + 5) rules

/-- The numbers of the maps of the rules from `n` on. -/
def ruleIds (n : Nat) : List (String × String) → List Nat
  | [] => []
  | _ :: rules => n :: ruleIds (n + 5) rules

def listNodes (rules : List (String × String)) : List Node :=
  ⟨.seq, .items (ruleIds 1 rules)⟩ :: rulesNodes 1 rules

namespace Compose

/-- The state in front of some tokens, with the nodes so far. -/
def before (ts : List Token) (nodes : List Node) (room : Nat) : Composer :=
  ⟨ts, .malformed, nodes.toArray, [], usualHandles, room⟩

variable {ts : List Token} {nodes : List Node} {room calls : Nat} {place : Place}

theorem bind_eq {α β : Type} {m : Compose α} {f : α → Compose β} {s s' : Composer} {a : α}
    (h : m s = .ok (a, s')) : (m >>= f) s = f a s' := by
  simp [bind, StateT.bind, Except.bind, h]

theorem add_eq (tag : Tag) (content : Content) :
    add tag content none (before ts nodes room) =
      .ok (nodes.length, before ts (nodes ++ [⟨tag, content⟩]) room) := by
  have added : add tag content none (before ts nodes room) = .ok (nodes.toArray.size,
      { before ts nodes room with graph := nodes.toArray.push ⟨tag, content⟩ }) := rfl
  rw [added, List.size_toArray, List.push_toArray]
  rfl

/-- A collection holds what its step gives; the nodes that the step adds stand behind it. -/
theorem addCollection_eq {tag : Tag} {empty content : Content} {step : Compose Content}
    {ts' : List Token} {more : List Node}
    (h : step (before ts (nodes ++ [⟨tag, empty⟩]) room) =
      .ok (content, before ts' (nodes ++ ⟨tag, empty⟩ :: more) room)) :
    addCollection tag empty none step (before ts nodes (room + 1)) =
      .ok (nodes.length, before ts' (nodes ++ ⟨tag, content⟩ :: more) (room + 1)) := by
  have deeper : inside step (before ts (nodes ++ [⟨tag, empty⟩]) (room + 1)) =
      .ok (content, before ts' (nodes ++ ⟨tag, empty⟩ :: more) (room + 1)) := by
    show (step >>= fun a => do
      modify fun s => { s with room := room + 1 }
      return a) (before ts (nodes ++ [⟨tag, empty⟩]) room) = _
    rw [bind_eq h]
    rfl
  have filled : (nodes ++ ⟨tag, empty⟩ :: more).modify nodes.length
      (fun n => { n with content }) = nodes ++ ⟨tag, content⟩ :: more := by
    simp [List.modify_eq_take_drop]
  have set : addCollection tag empty none step (before ts nodes (room + 1)) =
      .ok (nodes.length, { before ts' (nodes ++ ⟨tag, empty⟩ :: more) (room + 1) with
        graph := (nodes ++ ⟨tag, empty⟩ :: more).toArray.modify nodes.length
          fun n => { n with content } }) := by
    rw [addCollection, bind_eq (add_eq tag empty), bind_eq deeper]
    rfl
  rw [set, List.modify_toArray, filled]
  rfl

theorem node_scalar (plain : Bool) (text : Points) :
    node place (calls + 1) (before (.scalar plain text :: ts) nodes room) =
      .ok (nodes.length,
        before ts (nodes ++ [⟨scalarTag none plain text, .scalar text⟩]) room) := by
  rw [node]
  exact add_eq _ _

theorem scalarTag_isPlain (text : String) :
    scalarTag none (Scanner.isPlain text) text = .str := by
  rw [scalarTag, Scanner.isPlain]
  rcases styleOf_cases text with style | ⟨style, -⟩ | ⟨style, -, str⟩
  · simp [style]
  · simp [style]
  · simpa [style, Points.toString_ofString] using str

theorem nodeUnless_eq {stops : List Token} {t : Token} (other : stops.contains t = false) :
    nodeUnless stops place (calls + 1) (before (t :: ts) nodes room) =
      node place calls (before (t :: ts) nodes room) := by
  have told : atAny stops (before (t :: ts) nodes room) =
      .ok (false, before (t :: ts) nodes room) := by
    rw [← other]
    rfl
  rw [nodeUnless, bind_eq told]
  rfl

theorem nodeUnless_text {stops : List Token} {plain : Bool} {text : Points}
    (other : stops.contains (.scalar plain text) = false) (str : scalarTag none plain text = .str) :
    nodeUnless stops place (calls + 2) (before (.scalar plain text :: ts) nodes room) =
      .ok (nodes.length, before ts (nodes ++ [textNode text]) room) := by
  rw [nodeUnless_eq other, node_scalar, str]
  rfl

theorem blockEntries_cons {plain plain' : Bool} {k v : Points} {s : Composer}
    {others : List (Nat × Nat)} (key : scalarTag none plain k = .str)
    (value : scalarTag none plain' v = .str)
    (rest : blockEntries (calls + 2) (before ts (nodes ++ [textNode k, textNode v]) room) =
      .ok (others, s)) :
    blockEntries (calls + 3)
        (before (.key :: .scalar plain k :: .value :: .scalar plain' v :: ts) nodes room) =
      .ok ((nodes.length, nodes.length + 1) :: others, s) := by
  let stops : List Token := [.key, .value, .blockEnd]
  have first : nodeUnless stops .blockValue (calls + 2)
      (before (.scalar plain k :: .value :: .scalar plain' v :: ts) nodes room) = _ :=
    nodeUnless_text rfl key
  have valued : (accept .value >>= fun valued =>
      if valued then nodeUnless stops .blockValue (calls + 2) else addEmpty)
      (before (.value :: .scalar plain' v :: ts) (nodes ++ [textNode k]) room) =
        .ok (nodes.length + 1, before ts (nodes ++ [textNode k, textNode v]) room) := by
    have second : nodeUnless stops .blockValue (calls + 2)
        (before (.scalar plain' v :: ts) (nodes ++ [textNode k]) room) = _ :=
      nodeUnless_text rfl value
    rw [List.append_assoc, List.length_append] at second
    exact second
  rw [blockEntries]
  show (nodeUnless stops .blockValue (calls + 2) >>= fun k => (accept .value >>= fun valued =>
    if valued then nodeUnless stops .blockValue (calls + 2) else addEmpty) >>= fun v =>
      blockEntries (calls + 2) >>= fun es => pure ((k, v) :: es))
    (before (.scalar plain k :: .value :: .scalar plain' v :: ts) nodes room) = _
  rw [bind_eq first, bind_eq valued, bind_eq rest]
  rfl

theorem blockEntries_end :
    blockEntries (calls + 1) (before (.blockEnd :: ts) nodes room) =
      .ok ([], before ts nodes room) := by
  rw [blockEntries]
  rfl

theorem nodeUnless_rule (texts : String × String) :
    nodeUnless [.blockEntry, .blockEnd] .block (calls + 7)
        (before ((ruleTokens texts).tail ++ .blockEnd :: ts) nodes (room + 1)) =
      .ok (nodes.length, before ts (nodes ++ ruleNodes nodes.length texts) (room + 1)) := by
  have key (word : String) (usual : implicitTag word = .str) : scalarTag none true word = .str := by
    rw [scalarTag, Points.toString_ofString]
    exact usual
  have entries : blockEntries (calls + 5) (before ((ruleTokens texts).tail.tail ++ .blockEnd :: ts)
      (nodes ++ [⟨.map, .entries []⟩]) room) = .ok ([(nodes.length + 1, nodes.length + 2),
        (nodes.length + 3, nodes.length + 4)], before ts (nodes ++ ⟨.map, .entries []⟩ ::
          [textNode "from", textNode texts.1, textNode "to", textNode texts.2]) room) := by
    have back : blockEntries (calls + 3) (before (.blockEnd :: ts)
        (nodes ++ [⟨.map, .entries []⟩] ++ [textNode "from", textNode texts.1] ++
          [textNode "to", textNode texts.2]) room) = _ :=
      blockEntries_end
    have second := blockEntries_cons (key "to" (by decide +kernel)) (scalarTag_isPlain texts.2) back
    have first := blockEntries_cons (key "from" (by decide +kernel)) (scalarTag_isPlain texts.1)
      second
    simpa [ruleTokens, Nat.add_assoc] using first
  have step : (Content.entries <$> blockEntries (calls + 5))
      (before ((ruleTokens texts).tail.tail ++ .blockEnd :: ts) (nodes ++ [⟨.map, .entries []⟩])
        room) = .ok (.entries [(nodes.length + 1, nodes.length + 2),
        (nodes.length + 3, nodes.length + 4)], before ts (nodes ++ ⟨.map, .entries []⟩ ::
          [textNode "from", textNode texts.1, textNode "to", textNode texts.2]) room) := by
    rw [← bind_pure_comp, bind_eq entries]
    rfl
  rw [ruleTokens, List.tail_cons, List.cons_append, nodeUnless_eq rfl, node]
  exact addCollection_eq step

theorem blockItems_rules (rules : List (String × String)) :
    blockItems (calls + 8 + rules.length)
        (before (rules.flatMap (fun texts => ruleTokens texts ++ [.blockEnd]) ++ .blockEnd :: ts)
          nodes (room + 1)) =
      .ok (ruleIds nodes.length rules,
        before ts (nodes ++ rulesNodes nodes.length rules) (room + 1)) := by
  induction rules generalizing nodes with
  | nil =>
    rw [rulesNodes, List.append_nil, List.length_nil, Nat.add_zero, blockItems]
    rfl
  | cons texts rules ih =>
    let left := rules.flatMap (fun texts => ruleTokens texts ++ [.blockEnd]) ++ .blockEnd :: ts
    have rest : blockItems (calls + 8 + rules.length) (before left
        (nodes ++ ruleNodes nodes.length texts) (room + 1)) = _ := ih
    rw [List.length_append, length_ruleNodes, List.append_assoc] at rest
    have rule : nodeUnless [.blockEntry, .blockEnd] .block (calls + 8 + rules.length)
        (before ((ruleTokens texts).tail ++ .blockEnd :: left) nodes (room + 1)) =
        .ok (nodes.length, before left (nodes ++ ruleNodes nodes.length texts) (room + 1)) := by
      have calls' : calls + 8 + rules.length = (calls + 1 + rules.length) + 7 := by omega
      rw [calls']
      exact nodeUnless_rule texts
    have split : (texts :: rules).flatMap (fun texts => ruleTokens texts ++ [.blockEnd]) ++
        .blockEnd :: ts = .blockEntry :: ((ruleTokens texts).tail ++ .blockEnd :: left) := by
      simp [left, ruleTokens]
    rw [split, List.length_cons, ← Nat.add_assoc, blockItems]
    show (nodeUnless [.blockEntry, .blockEnd] .block (calls + 8 + rules.length) >>= fun n =>
      blockItems (calls + 8 + rules.length) >>= fun ns => pure (n :: ns))
      (before ((ruleTokens texts).tail ++ .blockEnd :: left) nodes (room + 1)) = _
    rw [bind_eq rule, bind_eq rest]
    rfl

theorem finish_eq (root : Nat) :
    document.finish (calls + 1) root (before [.streamEnd] nodes room) =
      .ok (some root, before [.streamEnd] nodes room) := by
  have ends : documentEnds (calls + 1) (before [.streamEnd] nodes room) =
      .ok ((), before [.streamEnd] nodes room) := by
    rw [documentEnds]
    rfl
  rw [document.finish, bind_eq ends]
  rfl

theorem document_listTokens (rules : List (String × String)) :
    document (calls + 10 + rules.length) (before (listTokens rules) [] (room + 2)) =
      .ok (some 0, before [.streamEnd] (listNodes rules) (room + 2)) := by
  let left := rules.flatMap (fun texts => ruleTokens texts ++ [.blockEnd]) ++
    [.blockEnd, .streamEnd]
  have items : blockItems (calls + 9 + rules.length)
      (before left [⟨.seq, .items []⟩] (room + 1)) = .ok (ruleIds 1 rules,
        before [.streamEnd] (⟨.seq, .items []⟩ :: rulesNodes 1 rules) (room + 1)) := by
    have calls' : calls + 9 + rules.length = (calls + 1) + 8 + rules.length := by omega
    rw [calls']
    exact blockItems_rules rules
  have step : (Content.items <$> blockItems (calls + 9 + rules.length))
      (before left ([] ++ [⟨.seq, .items []⟩]) (room + 1)) = .ok (.items (ruleIds 1 rules),
        before [.streamEnd] ([] ++ ⟨.seq, .items []⟩ :: rulesNodes 1 rules) (room + 1)) := by
    rw [List.nil_append, ← bind_pure_comp, bind_eq items]
    rfl
  have calls' : calls + 10 + rules.length = (calls + 9 + rules.length) + 1 := by omega
  have root : node .block (calls + 10 + rules.length)
      (before (.blockSequenceStart :: left) [] (room + 2)) =
        .ok (0, before [.streamEnd] (listNodes rules) (room + 2)) := by
    rw [calls', node]
    exact addCollection_eq step
  show (node .block (calls + 10 + rules.length) >>= document.finish (calls + 10 + rules.length))
    (before (.blockSequenceStart :: left) [] (room + 2)) = _
  rw [bind_eq root, calls']
  exact finish_eq 0

theorem document_brackets :
    document (calls + 2) (before [.flowSequenceStart, .flowSequenceEnd, .streamEnd] [] (room + 1)) =
      .ok (some 0, before [.streamEnd] (listNodes []) (room + 1)) := by
  have items : flowItems true (calls + 1)
      (before [.flowSequenceEnd, .streamEnd] [⟨.seq, .items []⟩] room) =
        .ok ([], before [.streamEnd] [⟨.seq, .items []⟩] room) := by
    rw [flowItems]
    rfl
  have step : (Content.items <$> flowItems true (calls + 1))
      (before [.flowSequenceEnd, .streamEnd] ([] ++ [⟨.seq, .items []⟩]) room) =
        .ok (.items [], before [.streamEnd] ([] ++ [⟨.seq, .items []⟩]) room) := by
    rw [List.nil_append, ← bind_pure_comp, bind_eq items]
    rfl
  have root : node .block (calls + 2)
      (before [.flowSequenceStart, .flowSequenceEnd, .streamEnd] [] (room + 1)) =
        .ok (0, before [.streamEnd] (listNodes []) (room + 1)) := by
    rw [node]
    exact addCollection_eq step
  show (node .block (calls + 2) >>= document.finish (calls + 2))
    (before [.flowSequenceStart, .flowSequenceEnd, .streamEnd] [] (room + 1)) = _
  rw [bind_eq root]
  exact finish_eq 0

end Compose

theorem length_listTokens (rules : List (String × String)) :
    rules.length + 3 ≤ (listTokens rules).length := by
  have flat : rules.length ≤
      (rules.flatMap fun texts => ruleTokens texts ++ [Token.blockEnd]).length := by
    induction rules with
    | nil => exact Nat.le_refl 0
    | cons texts rules ih =>
      rw [List.flatMap_cons, List.length_append, List.length_append, List.length_cons,
        List.length_singleton]
      omega
  simp only [listTokens, List.length_append, List.length_cons, List.length_nil]
  omega

/-- A text is composed when it was scanned without a flaw. -/
theorem compose_eq {text : List Char} {ts : List Token} {nodes : List Node}
    (scanned : scan text = (ts, none))
    (composed : Compose.document (3 * ts.length + 3) (Compose.before ts [] maxDepth) =
      .ok (some 0, Compose.before [.streamEnd] nodes maxDepth)) :
    compose text = .ok (some ⟨0, nodes.toArray⟩) := by
  rw [compose, scanned]
  show (Compose.document (3 * ts.length + 3) (Compose.before ts [] maxDepth) >>= fun r =>
    pure (r.1.map fun root => (⟨root, r.2.graph⟩ : Document))) = _
  rw [composed]
  rfl

theorem compose_of_scan {text : List Char} {rules : List (String × String)}
    (h : scan text = (listTokens rules, none)) :
    compose text = .ok (some ⟨0, (listNodes rules).toArray⟩) := by
  have many := length_listTokens rules
  obtain ⟨calls, enough⟩ : ∃ calls, 3 * (listTokens rules).length + 3 = calls + 10 + rules.length :=
    ⟨3 * (listTokens rules).length + 3 - 10 - rules.length, by omega⟩
  refine compose_eq h ?_
  rw [enough]
  exact Compose.document_listTokens rules

theorem compose_brackets {text : List Char}
    (h : scan text = ([.flowSequenceStart, .flowSequenceEnd, .streamEnd], none)) :
    compose text = .ok (some ⟨0, (listNodes []).toArray⟩) :=
  compose_eq h Compose.document_brackets

end Reroute.Yaml
