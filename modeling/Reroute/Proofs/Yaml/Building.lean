import Reroute.Proofs.Yaml.Composing
import Reroute.Yaml.Reader

/-!
# The value of a written rule list

The nodes of a rule list are met on three levels: the list, the maps of its rules, and
their texts. What stands at the numbers of one rule is a segment of each table of the
reader, so a step on a rule changes its segments and nothing in front of them or behind
them.
-/

namespace Reroute.Yaml

/-! ## Segments -/

section Segments

variable {α : Type} {pre segment post : List α} {n k : Nat}

theorem getD_segment {a d : α} (at' : pre.length = n) (here : segment[k]? = some a) :
    (pre ++ segment ++ post).toArray.getD (n + k) d = a := by
  obtain ⟨inside, -⟩ := List.getElem?_eq_some_iff.mp here
  subst at'
  rw [Array.getD_eq_getD_getElem?, List.getElem?_toArray, List.append_assoc,
    List.getElem?_append_right (Nat.le_add_right ..), Nat.add_sub_cancel_left,
    List.getElem?_append_left inside, here]
  rfl

theorem setIfInBounds_segment (at' : pre.length = n) (inside : k < segment.length) (a : α) :
    (pre ++ segment ++ post).toArray.setIfInBounds (n + k) a =
      (pre ++ segment.set k a ++ post).toArray := by
  subst at'
  simp [inside]

end Segments

def metMap : List (Option Part) := [some .collection, none, none, none, none]

def textPart (text : Points) : Option Part := some (.value (.str text))

def metRule (texts : String × String) : List (Option Part) :=
  [some .collection, textPart "from", textPart texts.1, textPart "to", textPart texts.2]

def ruleEntries (n : Nat) : List (Datum × Nat) := [(.str "from", n + 2), (.str "to", n + 4)]

/-- What fills the collections of a rule. -/
def ruleFilling (n : Nat) : List (Option Filling) :=
  some (.entries (ruleEntries n)) :: List.replicate 4 none

/-- What fills the collections of the rules from the number `n` on. -/
def rulesFillings (n : Nat) : List (String × String) → List (Option Filling)
  | [] => []
  | _ :: rules => ruleFilling n ++ rulesFillings (n + 5) rules

/-- A table for some rules in which nothing stands yet. -/
def blank {α : Type} (rules : List (String × String)) : List (Option α) :=
  rules.flatMap fun _ => List.replicate 5 none

theorem blank_eq {α : Type} (rules : List (String × String)) :
    (blank rules : List (Option α)) = List.replicate (5 * rules.length) none := by
  induction rules with
  | nil => rfl
  | cons texts rules ih =>
    rw [blank, List.flatMap_cons, ← blank, ih, List.length_cons, Nat.mul_succ, Nat.add_comm,
      List.replicate_add]

/-! ## Where the nodes of a rule stand -/

/-- The nodes of a rule stand from the number `n` on. -/
def RuleAt (g : Graph) (n : Nat) (texts : String × String) : Prop :=
  ∀ (k : Nat) (node : Node), (ruleNodes n texts)[k]? = some node → g.find (n + k) = node

def RulesAt (g : Graph) : (n : Nat) → List (String × String) → Prop
  | _, [] => True
  | n, texts :: rules => RuleAt g n texts ∧ RulesAt g (n + 5) rules

theorem rulesAt_append {front : List Node} {n : Nat} (rules : List (String × String))
    (at' : front.length = n) : RulesAt (front ++ rulesNodes n rules).toArray n rules := by
  induction rules generalizing front n with
  | nil => trivial
  | cons texts rules ih =>
    have later : (front ++ ruleNodes n texts).length = n + 5 := by
      rw [List.length_append, at', length_ruleNodes]
    rw [rulesNodes, ← List.append_assoc]
    exact ⟨fun k node here => getD_segment at' here, ih later⟩

namespace RuleAt

variable {g : Graph} {n : Nat} {texts : String × String}

theorem find (h : RuleAt g n texts) :
    g.find n = ⟨.map, .entries [(n + 1, n + 2), (n + 3, n + 4)]⟩ := h 0 _ rfl

theorem tagOf (h : RuleAt g n texts) : g.tagOf n = .map := by rw [Graph.tagOf, h.find]

theorem entries? (h : RuleAt g n texts) :
    g.entries? n = some [(n + 1, n + 2), (n + 3, n + 4)] := by
  rw [Graph.entries?, h.find]

theorem items? (h : RuleAt g n texts) : g.items? n = none := by rw [Graph.items?, h.find]

/-- Neither key is one of a merge, so the map keeps its entries. -/
theorem flatten (h : RuleAt g n texts) : g.flatten n = .ok g := by
  have first : g.tagOf (n + 1) = .str := by
    rw [Graph.tagOf, h 1 _ rfl]
    rfl
  have second : g.tagOf (n + 3) = .str := by
    rw [Graph.tagOf, h 3 _ rfl]
    rfl
  rw [Graph.flatten, show Graph.maxMerges = 969 + 1 from rfl, Graph.flattenWithin, h.entries?]
  simp only [Graph.flattenFrom, first, second]
  rfl

end RuleAt

namespace Builder

/-- The state with a graph, the parts of its nodes and what fills them. -/
def laid (g : Graph) (parts : List (Option Part)) (fillings : List (Option Filling)) (mark : Nat)
    (next : List Nat) : Builder :=
  ⟨g, parts.toArray, fillings.toArray, mark, next⟩

/-! ## One node -/

theorem meet_collection {b : Builder} {id : Nat} (unmet : b.part? id = none)
    (collection : (b.graph.tagOf id).isCollection = true) :
    b.meet id = .ok { b.setPart id .collection with next := id :: b.next } := by
  rw [meet, unmet]
  exact if_pos collection

theorem meet_scalar {b : Builder} {id : Nat} {d : Datum} (unmet : b.part? id = none)
    (scalar : (b.graph.tagOf id).isCollection = false) (value : b.graph.scalarOf id = .ok d) :
    b.meet id = .ok (b.setPart id (.value d)) := by
  rw [meet, unmet, scalar, value]
  rfl

theorem fill_map {b : Builder} {id : Nat} (tag : b.graph.tagOf id = .map)
    (items : b.graph.items? id = none) :
    b.fill id = (do
      let (b, entries) ← b.meetMap id
      return b.fillWith id (.entries entries)) := by
  rw [fill, tag, items]

theorem fill_seq {b : Builder} {id : Nat} {ids : List Nat} (tag : b.graph.tagOf id = .seq)
    (items : b.graph.items? id = some ids) :
    b.fill id = (do return (← ids.foldlM meet b).fillWith id (.items ids)) := by
  rw [fill, tag, items]

section Rule

variable {g : Graph} {pre parts post : List (Option Part)}
  {filled unfilled fillings : List (Option Filling)} {n k mark : Nat} {next : List Nat}

theorem meet_text {text : Points} (node : g.find (n + k) = textNode text) (parted : pre.length = n)
    (free : parts[k]? = some none) :
    (laid g (pre ++ parts ++ post) fillings mark next).meet (n + k) =
      .ok (laid g (pre ++ parts.set k (textPart text) ++ post) fillings mark next) := by
  have unmet : (laid g (pre ++ parts ++ post) fillings mark next).part? (n + k) = none :=
    getD_segment parted free
  have tag : g.tagOf (n + k) = .str := by
    rw [Graph.tagOf, node]
    rfl
  have whole : g.scalarText Graph.maxMerges (n + k) = .ok text := by
    rw [show Graph.maxMerges = 969 + 1 from rfl, Graph.scalarText, node]
    rfl
  have value : g.scalarOf (n + k) = .ok (.str text) := by
    rw [Graph.scalarOf, whole, tag]
    rfl
  have scalar : (g.tagOf (n + k)).isCollection = false := by
    rw [tag]
    rfl
  obtain ⟨inside, -⟩ := List.getElem?_eq_some_iff.mp free
  rw [meet_scalar unmet scalar value, setPart, laid]
  dsimp only
  rw [setIfInBounds_segment parted inside]
  rfl

theorem keyOf_text {text : Points} (parted : pre.length = n)
    (there : parts[k]? = some (textPart text)) :
    (laid g (pre ++ parts ++ post) fillings mark next).keyOf (n + k) = .ok (.str text) := by
  have part : (laid g (pre ++ parts ++ post) fillings mark next).part? (n + k) =
      some (.value (.str text)) := getD_segment parted there
  rw [keyOf, part]

variable {texts : String × String}

theorem meetEntries_rule (rule : RuleAt g n texts) (parted : pre.length = n) :
    (laid g (pre ++ metMap ++ post) fillings mark next).meetEntries
        [(n + 1, n + 2), (n + 3, n + 4)] =
      .ok (laid g (pre ++ metRule texts ++ post) fillings mark next, ruleEntries n) := by
  let state (parts : List (Option Part)) : Builder :=
    laid g (pre ++ parts ++ post) fillings mark next
  let one := metMap.set 1 (textPart "from")
  let two := one.set 2 (textPart texts.1)
  let three := two.set 3 (textPart "to")
  have met₁ : (state metMap).meet (n + 1) = .ok (state one) := meet_text (rule 1 _ rfl) parted rfl
  have key₁ : (state one).keyOf (n + 1) = .ok (.str "from") := keyOf_text parted rfl
  have met₂ : (state one).meet (n + 2) = .ok (state two) := meet_text (rule 2 _ rfl) parted rfl
  have met₃ : (state two).meet (n + 3) = .ok (state three) := meet_text (rule 3 _ rfl) parted rfl
  have key₂ : (state three).keyOf (n + 3) = .ok (.str "to") := keyOf_text parted rfl
  have met₄ : (state three).meet (n + 4) = .ok (state (metRule texts)) :=
    meet_text (rule 4 _ rfl) parted rfl
  show meetEntries (state metMap) [(n + 1, n + 2), (n + 3, n + 4)] = _
  simp only [meetEntries, List.foldlM_cons, List.foldlM_nil, met₁, key₁, met₂, met₃, key₂, met₄,
    bind, Except.bind, pure, Except.pure]
  rfl

theorem meetMap_rule (rule : RuleAt g n texts) (parted : pre.length = n) :
    (laid g (pre ++ metMap ++ post) fillings mark next).meetMap n =
      .ok (laid g (pre ++ metRule texts ++ post) fillings mark next, ruleEntries n) := by
  let b := laid g (pre ++ metMap ++ post) fillings mark next
  show (require (g.entries? n).isSome >>= fun _ => g.flatten n >>= fun graph =>
    meetEntries { b with graph } ((graph.entries? n).getD [])) = _
  rw [rule.entries?, rule.flatten]
  show b.meetEntries ((g.entries? n).getD []) = _
  rw [rule.entries?]
  exact meetEntries_rule rule parted

theorem fill_rule (rule : RuleAt g n texts) (parted : pre.length = n) (fills : filled.length = n) :
    (laid g (pre ++ metMap ++ post) (filled ++ List.replicate 5 none ++ unfilled) mark
        next).fill n =
      .ok (laid g (pre ++ metRule texts ++ post) (filled ++ ruleFilling n ++ unfilled) mark
        next) := by
  have set : (filled ++ List.replicate 5 none ++ unfilled).toArray.setIfInBounds n
      (some (.entries (ruleEntries n))) = (filled ++ ruleFilling n ++ unfilled).toArray :=
    setIfInBounds_segment (k := 0) fills (by simp) _
  rw [fill_map rule.tagOf rule.items?, meetMap_rule rule parted]
  show Except.ok (fillWith _ n (.entries (ruleEntries n))) = _
  rw [fillWith, laid]
  dsimp only
  rw [set]
  rfl

theorem meet_map (rule : RuleAt g n texts) (parted : pre.length = n) :
    (laid g (pre ++ List.replicate 5 none ++ post) fillings mark next).meet n =
      .ok (laid g (pre ++ metMap ++ post) fillings mark (n :: next)) := by
  have unmet : (laid g (pre ++ List.replicate 5 none ++ post) fillings mark next).part? n = none :=
    getD_segment (k := 0) parted rfl
  have collection : (g.tagOf n).isCollection = true := by
    rw [rule.tagOf]
    rfl
  have set : (pre ++ List.replicate 5 none ++ post).toArray.setIfInBounds n (some .collection) =
      (pre ++ metMap ++ post).toArray :=
    setIfInBounds_segment (k := 0) parted (by simp) _
  rw [meet_collection unmet collection, setPart, laid]
  dsimp only
  rw [set]
  rfl

end Rule

/-! ## All rules -/

section Rules

variable {g : Graph} {pre : List (Option Part)} {filled fillings : List (Option Filling)}
  {n mark : Nat} {next : List Nat}

theorem foldlM_meet (rules : List (String × String)) (placed : RulesAt g n rules)
    (parted : pre.length = n) :
    (ruleIds n rules).foldlM meet (laid g (pre ++ blank rules) fillings mark next) =
      .ok (laid g (pre ++ rules.flatMap fun _ => metMap) fillings mark
        ((ruleIds n rules).reverse ++ next)) := by
  induction rules generalizing pre n next with
  | nil => rfl
  | cons texts rules ih =>
    obtain ⟨rule, placed⟩ := placed
    have parted' : (pre ++ metMap).length = n + 5 := by
      rw [List.length_append, parted]
      rfl
    have here : (laid g (pre ++ List.replicate 5 none ++ blank rules) fillings mark next).meet n =
        _ := meet_map rule parted
    have rest : (ruleIds (n + 5) rules).foldlM meet
        (laid g (pre ++ metMap ++ blank rules) fillings mark (n :: next)) = _ := ih placed parted'
    rw [ruleIds, List.foldlM_cons, blank, List.flatMap_cons, ← blank, ← List.append_assoc, here]
    show (ruleIds (n + 5) rules).foldlM meet _ = _
    rw [rest]
    simp

theorem foldlM_fill (rules : List (String × String)) (placed : RulesAt g n rules)
    (parted : pre.length = n) (fills : filled.length = n) :
    (ruleIds n rules).foldlM fill
        (laid g (pre ++ rules.flatMap fun _ => metMap) (filled ++ blank rules) mark next) =
      .ok (laid g (pre ++ rules.flatMap metRule) (filled ++ rulesFillings n rules) mark next) := by
  induction rules generalizing pre filled n with
  | nil => rfl
  | cons texts rules ih =>
    obtain ⟨rule, placed⟩ := placed
    have parted' : (pre ++ metRule texts).length = n + 5 := by
      rw [List.length_append, parted]
      rfl
    have fills' : (filled ++ ruleFilling n).length = n + 5 := by
      rw [List.length_append, fills]
      rfl
    have here : (laid g (pre ++ metMap ++ rules.flatMap fun _ => metMap)
        (filled ++ List.replicate 5 none ++ blank rules) mark next).fill n = _ :=
      fill_rule rule parted fills
    have rest : (ruleIds (n + 5) rules).foldlM fill
        (laid g (pre ++ metRule texts ++ rules.flatMap fun _ => metMap)
          (filled ++ ruleFilling n ++ blank rules) mark next) = _ := ih placed parted' fills'
    rw [ruleIds, List.foldlM_cons, blank, List.flatMap_cons, List.flatMap_cons, ← blank,
      ← List.append_assoc, ← List.append_assoc, here]
    show (ruleIds (n + 5) rules).foldlM fill _ = _
    rw [rest]
    simp [rulesFillings]

end Rules

/-! ## All levels -/

theorem levels_of_next {b : Builder} (done : b.next = []) (rounds : Nat) :
    levels rounds b = .ok b := by
  cases rounds with
  | zero => rfl
  | succ rounds =>
    rw [levels, done]
    rfl

theorem levels_succ (rounds : Nat) (b : Builder) :
    levels (rounds + 1) b = b.next.reverse.foldlM fill { b with next := [] } >>= levels rounds := by
  by_cases done : b.next = []
  · rw [levels_of_next done]
    have same : { b with next := [] } = b := by rw [← done]
    rw [done, same]
    exact (levels_of_next done rounds).symm
  · have more : b.next.isEmpty = false := by simpa using done
    rw [levels, more]
    rfl

theorem length_rulesNodes (n : Nat) (rules : List (String × String)) :
    (rulesNodes n rules).length = 5 * rules.length := by
  induction rules generalizing n with
  | nil => rfl
  | cons texts rules ih =>
    rw [rulesNodes, List.length_append, ih, length_ruleNodes, List.length_cons]
    omega

theorem length_listNodes (rules : List (String × String)) :
    (listNodes rules).length = 5 * rules.length + 1 := by
  rw [listNodes, List.length_cons, length_rulesNodes]

theorem rulesAt_listNodes (rules : List (String × String)) :
    RulesAt (listNodes rules).toArray 1 rules :=
  have front : [(⟨.seq, .items (ruleIds 1 rules)⟩ : Node)].length = 1 := rfl
  rulesAt_append rules front

section Levels

variable (rules : List (String × String))

/-- The state in which the root was met. -/
def rooted : Builder :=
  laid (listNodes rules).toArray (some .collection :: blank rules) (none :: blank rules)
    (listNodes rules).length [0]

/-- The state in which the maps of the rules were met. -/
def listed : Builder :=
  laid (listNodes rules).toArray (some .collection :: rules.flatMap fun _ => metMap)
    (some (.items (ruleIds 1 rules)) :: blank rules) (listNodes rules).length
    (ruleIds 1 rules).reverse

/-- The state in which all is met. -/
def valued : Builder :=
  laid (listNodes rules).toArray (some .collection :: rules.flatMap metRule)
    (some (.items (ruleIds 1 rules)) :: rulesFillings 1 rules) (listNodes rules).length []

theorem meet_root : (start (listNodes rules).toArray).meet 0 = .ok (rooted rules) := by
  have start' : start (listNodes rules).toArray = laid (listNodes rules).toArray
      (none :: blank rules) (none :: blank rules) (listNodes rules).length [] := by
    rw [start, List.size_toArray, length_listNodes, laid, blank_eq, blank_eq,
      ← List.replicate_succ, ← List.replicate_succ]
    simp
  rw [start']
  exact meet_collection rfl rfl

theorem fill_root : fill { rooted rules with next := [] } 0 = .ok (listed rules) := by
  have items : (ruleIds 1 rules).foldlM meet (laid (listNodes rules).toArray
      ([some .collection] ++ blank rules) (none :: blank rules) (listNodes rules).length []) = _ :=
    foldlM_meet rules (rulesAt_listNodes rules) rfl
  rw [List.append_nil] at items
  rw [fill_seq rfl rfl]
  show ((ruleIds 1 rules).foldlM meet (laid (listNodes rules).toArray
    ([some .collection] ++ blank rules) (none :: blank rules) (listNodes rules).length
      []) >>= _) = _
  rw [items]
  rfl

theorem fill_maps :
    (ruleIds 1 rules).foldlM fill { listed rules with next := [] } = .ok (valued rules) :=
  have filled : (ruleIds 1 rules).foldlM fill (laid (listNodes rules).toArray
      ([some .collection] ++ rules.flatMap fun _ => metMap)
      ([some (.items (ruleIds 1 rules))] ++ blank rules) (listNodes rules).length []) = _ :=
    foldlM_fill rules (rulesAt_listNodes rules) rfl rfl
  filled

/-- The list is met, then the maps of its rules, then their texts. -/
theorem document_listNodes : document ⟨0, (listNodes rules).toArray⟩ = .ok (valued rules) := by
  have rounds : (listNodes rules).toArray.size + 1 = 5 * rules.length + 1 + 1 := by
    rw [List.size_toArray, length_listNodes]
  rw [document, rounds]
  show ((start (listNodes rules).toArray).meet 0 >>= levels (5 * rules.length + 1 + 1)) = _
  rw [meet_root]
  show levels (5 * rules.length + 1 + 1) (rooted rules) = _
  rw [levels_succ]
  show ((fill { rooted rules with next := [] } 0 >>= pure) >>= levels (5 * rules.length + 1)) = _
  rw [bind_pure, fill_root]
  show levels (5 * rules.length + 1) (listed rules) = _
  rw [levels_succ]
  show ((ruleIds 1 rules).reverse.reverse.foldlM fill { listed rules with next := [] } >>=
    levels (5 * rules.length)) = _
  rw [List.reverse_reverse, fill_maps]
  exact levels_of_next rfl _

end Levels

/-! ## Unfolding -/

def ruleValue (texts : String × String) : Datum :=
  .map none [(.str "from", .str texts.1), (.str "to", .str texts.2)]

variable {b : Builder} {depth id n : Nat} {around : List Nat} {kept : Array (Option Datum)}

theorem unfold_text {text : Points} (part : b.part? id = some (.value (.str text))) :
    (b.unfold (depth + 1) around id).run kept = (⟨.str text, false⟩, kept) := by
  rw [unfold, part]
  rfl

/-- A collection that was not valued yet keeps its value, unless it refers to itself. -/
theorem unfold_collection {filling : Filling} {u : Unfolded} {kept' : Array (Option Datum)}
    (part : b.part? id = some .collection) (filled : b.fillings.getD id none = some filling)
    (outside : id ∉ around) (fresh : kept.getD id none = none)
    (inside : (unfoldFilling (b.unfold depth (id :: around)) id filling).run kept = (u, kept'))
    (acyclic : u.cyclic = false) :
    (b.unfold (depth + 1) around id).run kept = (u, kept'.setIfInBounds id (some u.value)) := by
  rw [unfold, part, filled]
  have fresh' : kept[id]?.getD none = none := by
    rw [← Array.getD_eq_getD_getElem?]
    exact fresh
  simp only [outside, List.contains_eq_mem, decide_false, Bool.false_eq_true, if_false,
    StateT.run_bind, StateT.run_get, pure_bind, Array.getD_eq_getD_getElem?, fresh', inside]
  show (if !u.cyclic then do
      modify fun kept => kept.setIfInBounds id (some u.value)
      pure u
    else pure u : Unfold Unfolded).run kept' = _
  rw [acyclic]
  rfl

theorem unfold_rule {texts : String × String} (part : b.part? n = some .collection)
    (filled : b.fillings.getD n none = some (.entries (ruleEntries n)))
    (source : b.part? (n + 2) = some (.value (.str texts.1)))
    (destination : b.part? (n + 4) = some (.value (.str texts.2)))
    (outside : n ∉ around) (fresh : kept.getD n none = none) :
    (b.unfold (depth + 2) around n).run kept =
      (⟨ruleValue texts, false⟩, kept.setIfInBounds n (some (ruleValue texts))) := by
  refine unfold_collection part filled outside fresh ?_ rfl
  simp only [unfoldFilling, ruleEntries, List.mapM_cons, List.mapM_nil, StateT.run_bind,
    unfold_text source, unfold_text destination]
  rfl

section Rules

variable {g : Graph} {pre : List (Option Part)} {fillings : List (Option Filling)} {mark : Nat}
  {next : List Nat}

theorem mapM_unfold (rules : List (String × String)) (parted : pre.length = n)
    (fills : fillings.length = n) (inner : 0 < n) (fresh : ∀ j, n ≤ j → kept.getD j none = none) :
    ∃ kept', ((ruleIds n rules).mapM ((laid g (pre ++ rules.flatMap metRule)
        (fillings ++ rulesFillings n rules) mark next).unfold (depth + 2) [0])).run kept =
      (rules.map fun texts => ⟨ruleValue texts, false⟩, kept') := by
  induction rules generalizing pre fillings n kept with
  | nil => exact ⟨kept, rfl⟩
  | cons texts rules ih =>
    have here : ((laid g (pre ++ metRule texts ++ rules.flatMap metRule)
        (fillings ++ ruleFilling n ++ rulesFillings (n + 5) rules) mark next).unfold (depth + 2)
          [0] n).run kept = _ :=
      unfold_rule (getD_segment (k := 0) parted rfl) (getD_segment (k := 0) fills rfl)
        (getD_segment parted rfl) (getD_segment parted rfl) (by simp; omega)
        (fresh n (Nat.le_refl n))
    have parted' : (pre ++ metRule texts).length = n + 5 := by
      rw [List.length_append, parted]
      rfl
    have fills' : (fillings ++ ruleFilling n).length = n + 5 := by
      rw [List.length_append, fills]
      rfl
    have fresh' : ∀ j, n + 5 ≤ j →
        (kept.setIfInBounds n (some (ruleValue texts))).getD j none = none := by
      intro j later
      have other : n ≠ j := by omega
      rw [Array.getD_eq_getD_getElem?, Array.getElem?_setIfInBounds_ne other,
        ← Array.getD_eq_getD_getElem?]
      exact fresh j (by omega)
    obtain ⟨kept', rest⟩ := ih parted' fills' (by omega) fresh'
    refine ⟨kept', ?_⟩
    rw [ruleIds, List.mapM_cons, List.flatMap_cons, rulesFillings, ← List.append_assoc,
      ← List.append_assoc, StateT.run_bind, here]
    show ((ruleIds (n + 5) rules).mapM _ >>= fun us =>
      pure (⟨ruleValue texts, false⟩ :: us) : Unfold (List Unfolded)).run _ = _
    rw [StateT.run_bind, rest]
    rfl

end Rules

theorem valueOf_valued (rules : List (String × String)) :
    (valued rules).valueOf 0 = .list none (rules.map ruleValue) := by
  by_cases empty : rules = []
  · rw [empty]
    rfl
  obtain ⟨depth, size⟩ : ∃ depth, (listNodes rules).length = depth + 2 := by
    obtain ⟨texts, rules, rfl⟩ := List.exists_cons_of_ne_nil empty
    exact ⟨_, rfl⟩
  let none' : Array (Option Datum) := Array.replicate (depth + 2) none
  have fresh (j : Nat) : none'.getD j none = none := by
    simp only [none', Array.getD_eq_getD_getElem?, Array.getElem?_replicate]
    split <;> rfl
  obtain ⟨kept, items⟩ : ∃ kept, ((ruleIds 1 rules).mapM
      ((valued rules).unfold (depth + 2) [0])).run none' =
        (rules.map fun texts => ⟨ruleValue texts, false⟩, kept) :=
    have unfolded : ∃ kept, ((ruleIds 1 rules).mapM ((laid (listNodes rules).toArray
        ([some .collection] ++ rules.flatMap metRule)
        ([some (.items (ruleIds 1 rules))] ++ rulesFillings 1 rules) (listNodes rules).length
          []).unfold (depth + 2) [0])).run none' = _ :=
      mapM_unfold rules rfl rfl Nat.one_pos fun j _ => fresh j
    unfolded
  have made : container 0 (rules.map fun texts => ⟨ruleValue texts, false⟩) .list =
      ⟨.list none (rules.map ruleValue), false⟩ := by
    simp [container, Function.comp_def]
  have list : (unfoldFilling ((valued rules).unfold (depth + 2) [0]) 0
      (.items (ruleIds 1 rules))).run none' =
      (⟨.list none (rules.map ruleValue), false⟩, kept) := by
    rw [unfoldFilling, StateT.run_bind, items]
    exact Prod.ext made rfl
  have root : ((valued rules).unfold (depth + 3) [] 0).run none' = _ :=
    unfold_collection rfl rfl List.not_mem_nil (fresh 0) list rfl
  rw [valueOf, show (valued rules).graph.size = depth + 2 from size, root]

end Builder

theorem read_of_compose {text : List Char} {rules : List (String × String)}
    (h : compose text = .ok (some ⟨0, (listNodes rules).toArray⟩)) :
    read text = .ok (.list none (rules.map Builder.ruleValue)) := by
  rw [read, h]
  show (Builder.document ⟨0, (listNodes rules).toArray⟩ >>= fun b => pure (b.valueOf 0)) = _
  rw [Builder.document_listNodes]
  exact congrArg Except.ok (Builder.valueOf_valued rules)

end Reroute.Yaml
