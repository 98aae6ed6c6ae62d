import Reroute.Proofs.Document.Shown
import Reroute.Proofs.RuleFile.RoundTrip

/-!
# The grammar of rule lists

A rule list is an array of objects with the names `from` and `to`, both with a text under
them (`IsRule`), and it may stand under the name `rules` of an object. What is wrong with any
other value is a list of faults (`faults`): every item is checked, and every rule of the
grammar in it, in one order. The checks give the rules of a list and the first fault of
everything else (`parse_eq_grammar`).
-/

namespace Reroute

namespace Datum

/-! ## Members -/

theorem get?_ofJson (v : Json) (name : Points) : (ofJson v).get? name = (v.get? name).map ofJson := by
  have lookup (ms : List (Points × Json)) :
      ms.lookup name = (ms.find? fun m => m.1 = name).map (·.2) := by
    induction ms with
    | nil => rfl
    | cons m ms ih =>
      obtain ⟨k, w⟩ := m
      by_cases same : k = name
      · simp [same]
      · have apart : (name == k) = false := by simpa using Ne.symm same
        simp [List.lookup_cons, apart, same, ih]
  rcases entries?_ofJson v with ⟨ms, rfl⟩ | none
  · rw [get?_ofJson_obj, Json.get?, lookup, Option.map_map]
    rfl
  · have noMember : v.get? name = .none := by
      cases v with
      | obj ms => simp [entries?_ofJson_obj] at none
      | _ => rfl
    simp [get?, none, noMember]

end Datum

namespace Shape

/-- What has to be a rule list: what stands under the name `rules` of an object, or the value
itself. -/
def listed (v : Json) : Json := (v.get? "rules").getD v

/-- An object describes a rule: `from` and `to` are its names, and the texts of the rule stand
under them. -/
def IsRule (v : Json) (r : Rule) : Prop :=
  ∃ members, v = .obj members ∧
    (∀ m ∈ members, m.1 = (sourceKey : Points) ∨ m.1 = (destinationKey : Points)) ∧
    v.get? sourceKey = some (.str r.source) ∧ v.get? destinationKey = some (.str r.destination)

def textFaults (index : Nat) (key : String) (v : Json) : List Fault :=
  match v.get? key with
  | none | some (.str _) => []
  | some found => [⟨some index, some key, .notText (.ofJson found)⟩]

def missingFaults (index : Nat) (key : String) (v : Json) : List Fault :=
  match v.get? key with
  | none => [⟨some index, none, .missing key⟩]
  | some _ => []

def extraNames (members : List (Points × Json)) : List Points :=
  (members.map (·.1)).filter fun name => name ≠ (sourceKey : Points) ∧ name ≠ (destinationKey : Points)

def extraFaults (index : Nat) (members : List (Points × Json)) : List Fault :=
  match extraNames members with
  | [] => []
  | names => [⟨some index, none, .unexpected (names.map .str)⟩]

/-- What is wrong with an item, in order: its kind; else its texts, then what is missing, then
what is too much. -/
def itemFaults (index : Nat) : Json → List Fault
  | .obj members =>
    let v := Json.obj members
    textFaults index sourceKey v ++ textFaults index destinationKey v ++
      missingFaults index sourceKey v ++ missingFaults index destinationKey v ++
      extraFaults index members
  | v => [⟨some index, none, .notMap (.ofJson v)⟩]

/-- What is wrong with items of which the first has the number `index`, item by item. -/
def faultsFrom (index : Nat) (items : List Json) : List Fault :=
  (items.zipIdx index).flatMap fun p => itemFaults p.2 p.1

def faults : Json → List Fault
  | .arr items => faultsFrom 0 items
  | v => [⟨none, none, .notList (.ofJson v)⟩]

def IsRuleList (v : Json) (rules : List Rule) : Prop :=
  ∃ items, v = .arr items ∧ List.Forall₂ IsRule items rules

/-- A value describes a rule list: the null value none, and any other value the list that it
holds. -/
def Describes (v : Json) (rules : List Rule) : Prop :=
  v = .null ∧ rules = [] ∨ IsRuleList (listed v) rules

/-! ## Items -/

/-- A text is found as one, and all else is found as what it is. -/
theorem textUnder_of_get? (index : Nat) {key : String} {v found : Json}
    (h : v.get? key = some found) :
    (∃ s, found = .str s ∧ textUnder index key (.ofJson v) = .ok (some s)) ∨
      (∀ s, found ≠ .str s) ∧ textUnder index key (.ofJson v) =
        .error ⟨some index, some key, .notText (.ofJson found)⟩ := by
  unfold textUnder
  rw [Datum.get?_ofJson, h, Option.map_some]
  split
  · contradiction
  · next s same =>
    rw [Datum.eq_str_of_ofJson (Option.some.inj same)]
    exact .inl ⟨s, rfl, rfl⟩
  · next w other same =>
    obtain rfl := Option.some.inj same
    exact .inr ⟨fun s text => other s (by rw [text]; rfl), rfl⟩

theorem textUnder_cases (index : Nat) (key : String) (v : Json) :
    (v.get? key = none ∧ textUnder index key (.ofJson v) = .ok none ∧
        textFaults index key v = [] ∧
        missingFaults index key v = [⟨some index, none, .missing key⟩]) ∨
      (∃ s, v.get? key = some (.str s) ∧ textUnder index key (.ofJson v) = .ok (some s) ∧
        textFaults index key v = [] ∧ missingFaults index key v = []) ∨
      ∃ f, (∀ s, v.get? key ≠ some (.str s)) ∧ textUnder index key (.ofJson v) = .error f ∧
        textFaults index key v = [f] := by
  cases found : v.get? key with
  | none =>
    refine .inl ⟨rfl, ?_, by rw [textFaults, found], by rw [missingFaults, found]⟩
    rw [textUnder, Datum.get?_ofJson, found]
    rfl
  | some w =>
    rcases textUnder_of_get? index found with ⟨s, rfl, checked⟩ | ⟨noText, checked⟩
    · exact .inr (.inl ⟨s, rfl, checked, by rw [textFaults, found], by rw [missingFaults, found]⟩)
    · refine .inr (.inr ⟨_, fun s same => noText s (Option.some.inj same), checked, ?_⟩)
      rw [textFaults, found]
      split
      · contradiction
      · next s same => exact absurd (Option.some.inj same) (noText s)
      · next same => rw [Option.some.inj same]

theorem unexpectedKeys_ofJson (members : List (Points × Json)) :
    unexpectedKeys (members.map fun m => (.str m.1, Datum.ofJson m.2)) =
      (extraNames members).map .str := by
  simp [unexpectedKeys, extraNames, List.filter_map, Function.comp_def, Datum.isText]

theorem extraNames_eq_nil_iff (members : List (Points × Json)) :
    extraNames members = [] ↔
      ∀ m ∈ members, m.1 = (sourceKey : Points) ∨ m.1 = (destinationKey : Points) := by
  simp only [extraNames, List.filter_eq_nil_iff, List.forall_mem_map, decide_eq_true_eq,
    not_and_or, not_not]

theorem ruleOf_of_not_obj (index : Nat) {v : Json} (h : ∀ members, v ≠ .obj members) :
    ruleOf index (.ofJson v) = .error ⟨some index, none, .notMap (.ofJson v)⟩ ∧
      itemFaults index v = [⟨some index, none, .notMap (.ofJson v)⟩] := by
  rcases Datum.entries?_ofJson v with ⟨members, rfl⟩ | none
  · exact absurd rfl (h members)
  · refine ⟨by rw [ruleOf, none], ?_⟩
    cases v with
    | obj members => exact absurd rfl (h members)
    | _ => rfl

/-- An item is checked as the grammar says: it is a rule, or it has a first fault. -/
theorem ruleOf_cases (index : Nat) (v : Json) :
    (∃ r, ruleOf index (.ofJson v) = .ok r ∧ itemFaults index v = [] ∧
        ∀ r', IsRule v r' ↔ r' = r) ∨
      ∃ f, ruleOf index (.ofJson v) = .error f ∧ (itemFaults index v).head? = some f ∧
        ∀ r, ¬IsRule v r := by
  by_cases isMap : ∃ members, v = .obj members
  · obtain ⟨members, rfl⟩ := isMap
    have noRule (h : ∀ s t : Points, (Json.obj members).get? sourceKey = some (.str s) →
        (Json.obj members).get? destinationKey ≠ some (.str t)) (r : Rule) :
        ¬IsRule (.obj members) r :=
      fun ⟨_, _, _, source, destination⟩ => h _ _ source destination
    simp only [ruleOf, Datum.entries?_ofJson_obj, unexpectedKeys_ofJson, itemFaults]
    -- Both texts are checked before anything is missed, so a fault of the second one comes
    -- before a first one that is missing.
    rcases textUnder_cases index sourceKey (.obj members) with
      ⟨absent, source, noFault, missing⟩ | ⟨s, found, source, noFault, present⟩ |
        ⟨f, noText, source, fault⟩
    · rcases textUnder_cases index destinationKey (.obj members) with
        ⟨_, destination, noFault', _⟩ | ⟨t, _, destination, noFault', _⟩ |
          ⟨f, _, destination, fault⟩
      · exact .inr ⟨_, by rw [source, destination]; rfl, by rw [noFault, noFault', missing]; rfl,
          noRule fun s t hs _ => by simp [absent] at hs⟩
      · exact .inr ⟨_, by rw [source, destination]; rfl, by rw [noFault, noFault', missing]; rfl,
          noRule fun s t hs _ => by simp [absent] at hs⟩
      · exact .inr ⟨f, by rw [source, destination]; rfl, by rw [noFault, fault]; rfl,
          noRule fun s t hs _ => by simp [absent] at hs⟩
    · rcases textUnder_cases index destinationKey (.obj members) with
        ⟨absent, destination, noFault', missing⟩ | ⟨t, found', destination, noFault', present'⟩ |
          ⟨f, noText, destination, fault⟩
      · exact .inr ⟨_, by rw [source, destination]; rfl,
          by rw [noFault, noFault', present, missing]; rfl,
          noRule fun s t _ ht => by simp [absent] at ht⟩
      · cases extra : extraNames members with
        | nil =>
          refine .inl ⟨⟨s, t⟩, by rw [source, destination]; rfl, ?_, fun r => ⟨?_, ?_⟩⟩
          · rw [noFault, noFault', present, present', extraFaults, extra]
            rfl
          · rintro ⟨_, _, _, source, destination⟩
            simp only [found, found', Option.some.injEq, Json.str.injEq] at source destination
            rw [source, destination]
          · rintro rfl
            exact ⟨members, rfl, (extraNames_eq_nil_iff members).mp extra, found, found'⟩
        | cons name names =>
          refine .inr ⟨_, by rw [source, destination]; rfl, ?_, ?_⟩
          · rw [noFault, noFault', present, present', extraFaults, extra]
            rfl
          · rintro r ⟨_, same, only, -⟩
            obtain rfl := Json.obj.inj same
            rw [(extraNames_eq_nil_iff _).mpr only] at extra
            contradiction
      · exact .inr ⟨f, by rw [source, destination]; rfl, by rw [noFault, fault]; rfl,
          noRule fun s t _ => noText t⟩
    · exact .inr ⟨f, by rw [source]; rfl, by rw [fault]; rfl, noRule fun s t hs _ => noText s hs⟩
  · obtain ⟨checked, fault⟩ := ruleOf_of_not_obj index fun members same => isMap ⟨members, same⟩
    refine .inr ⟨_, checked, by rw [fault]; rfl, ?_⟩
    rintro r ⟨members, same, -⟩
    exact isMap ⟨members, same⟩

/-! ## Lists -/

theorem rulesFrom_cases (index : Nat) (items : List Json) :
    (∃ rules, rulesFrom index (items.map .ofJson) = .ok rules ∧ faultsFrom index items = [] ∧
        ∀ rules', List.Forall₂ IsRule items rules' ↔ rules' = rules) ∨
      ∃ f, rulesFrom index (items.map .ofJson) = .error f ∧
        (faultsFrom index items).head? = some f ∧ ∀ rules, ¬List.Forall₂ IsRule items rules := by
  induction items generalizing index with
  | nil => exact .inl ⟨[], rfl, rfl, fun rules => List.forall₂_nil_left_iff⟩
  | cons v items ih =>
    have split : faultsFrom index (v :: items) = itemFaults index v ++ faultsFrom (index + 1) items := by
      rw [faultsFrom, List.zipIdx_cons, List.flatMap_cons]
      rfl
    rw [List.map_cons, rulesFrom, split]
    rcases ruleOf_cases index v with ⟨r, first, clean, only⟩ | ⟨f, first, fault, noRule⟩
    · rcases ih (index + 1) with ⟨rules, rest, clean', only'⟩ | ⟨f, rest, fault, noRules⟩
      · refine .inl ⟨r :: rules, by rw [first, rest]; rfl, by rw [clean, clean']; rfl, fun all => ?_⟩
        rw [List.forall₂_cons_left_iff]
        constructor
        · rintro ⟨r', rules', isRule, areRules, rfl⟩
          rw [(only r').mp isRule, (only' rules').mp areRules]
        · rintro rfl
          exact ⟨r, rules, (only r).mpr rfl, (only' rules).mpr rfl, rfl⟩
      · refine .inr ⟨f, by rw [first, rest]; rfl, by rw [clean]; exact fault, fun all h => ?_⟩
        obtain ⟨_, rules', _, areRules, _⟩ := List.forall₂_cons_left_iff.mp h
        exact noRules rules' areRules
    · refine .inr ⟨f, by rw [first]; rfl, by rw [List.head?_append, fault]; rfl, fun all h => ?_⟩
      obtain ⟨r', _, isRule, _⟩ := List.forall₂_cons_left_iff.mp h
      exact noRule r' isRule

theorem unwrap_ofJson (v : Json) : unwrap (.ofJson v) = .ofJson (listed v) := by
  rw [unwrap, Datum.get?_ofJson, listed]
  cases v.get? "rules" <;> rfl

theorem parse_of_ne_null {v : Json} (h : v ≠ .null) :
    parse (.ofJson v) = match (Datum.ofJson (listed v)).items? with
      | some items => rulesFrom 0 items
      | none => .error ⟨none, none, .notList (.ofJson (listed v))⟩ := by
  rw [← unwrap_ofJson]
  unfold parse
  split
  · next null =>
    refine absurd ?_ h
    cases v with
    | null => rfl
    | real x =>
      simp only [Datum.ofJson] at null
      split at null <;> contradiction
    | _ => simp [Datum.ofJson] at null
  · rfl

/-- A value that is not null is checked as the list that it holds is. -/
theorem parse_cases_of_ne_null {v : Json} (h : v ≠ .null) :
    (∃ rules, parse (.ofJson v) = .ok rules ∧
        ∀ rules', IsRuleList (listed v) rules' ↔ rules' = rules) ∨
      ∃ f, parse (.ofJson v) = .error f ∧ (faults (listed v)).head? = some f ∧
        ∀ rules, ¬IsRuleList (listed v) rules := by
  rw [parse_of_ne_null h]
  by_cases isList : ∃ items, listed v = .arr items
  · obtain ⟨items, list⟩ := isList
    have same (rules : List Rule) : IsRuleList (listed v) rules ↔ List.Forall₂ IsRule items rules := by
      simp [IsRuleList, list]
    simp only [same]
    rw [list, Datum.items?_ofJson_arr]
    rcases rulesFrom_cases 0 items with ⟨rules, checked, -, only⟩ | failed
    · exact .inl ⟨rules, checked, only⟩
    · exact .inr failed
  · have noItems : (Datum.ofJson (listed v)).items? = none := by
      cases found : (Datum.ofJson (listed v)).items? with
      | none => rfl
      | some items =>
        obtain ⟨vs, list, -⟩ := Datum.exists_of_items?_ofJson found
        exact absurd ⟨vs, list⟩ isList
    have fault : faults (listed v) = [⟨none, none, .notList (.ofJson (listed v))⟩] := by
      cases list : listed v with
      | arr items => exact absurd ⟨items, list⟩ isList
      | _ => rfl
    refine .inr ⟨_, by rw [noItems], by rw [fault]; rfl, fun rules => ?_⟩
    rintro ⟨items, list, -⟩
    exact isList ⟨items, list⟩

theorem parse_cases (v : Json) :
    (∃ rules, parse (.ofJson v) = .ok rules ∧ ∀ rules', Describes v rules' ↔ rules' = rules) ∨
      ∃ f, parse (.ofJson v) = .error f ∧ (faults (listed v)).head? = some f ∧
        ∀ rules, ¬Describes v rules := by
  by_cases null : v = .null
  · subst null
    refine .inl ⟨[], rfl, fun rules => ⟨?_, fun nothing => .inl ⟨rfl, nothing⟩⟩⟩
    rintro (⟨-, nothing⟩ | ⟨items, list, -⟩)
    · exact nothing
    · contradiction
  · have same (rules : List Rule) : Describes v rules ↔ IsRuleList (listed v) rules := by
      simp [Describes, null]
    simp only [same]
    exact parse_cases_of_ne_null null

/-! ## Faults in words -/

/-- The value is short enough, and flat enough, to be shown. -/
def Tellable (v : Json) : Prop := v.Short ∧ v.depth ≤ Datum.shownDepth

theorem Tellable.item {items : List Json} (h : Tellable (.arr items)) {v : Json}
    (mem : v ∈ items) : Tellable v := by
  have deep := h.2
  have inner := Json.depth_le_itemsDepth mem
  rw [Json.depth] at deep
  exact ⟨(Json.itemsShort_iff items).mp h.1 v mem, by omega⟩

theorem Tellable.get? {v w : Json} (h : Tellable v) {name : Points} (found : v.get? name = some w) :
    Tellable w := by
  cases v with
  | obj members =>
    obtain ⟨before, after, whole, -⟩ := List.lookup_eq_some_iff.mp found
    have mem : (name, w) ∈ members := by simp [whole]
    have deep := h.2
    have inner : w.depth ≤ Json.membersDepth members := Json.depth_le_membersDepth mem
    rw [Json.depth] at deep
    exact ⟨(Json.membersShort_iff members).mp h.1 _ mem, by omega⟩
  | _ => contradiction

theorem Tellable.listed {v : Json} (h : Tellable v) : Tellable (listed v) := by
  unfold Shape.listed
  cases found : v.get? "rules" with
  | none => exact h
  | some w => exact h.get? found

theorem exists_wrongType {v : Json} (h : Tellable v) (wanted : String) :
    ∃ text, wrongType (.ofJson v) wanted = .ok text := by
  obtain ⟨t, shown⟩ := Datum.shownIn_ofJson [] v Datum.shownDepth h.1 h.2
  exact ⟨_, by rw [wrongType, Datum.shown, shown]; rfl⟩

theorem mem_of_mem_insertByText {k e : Points × Datum} {ks : List (Points × Datum)}
    (h : e ∈ insertByText k ks) : e = k ∨ e ∈ ks := by
  induction ks with
  | nil => exact .inl (List.mem_singleton.mp h)
  | cons l ks ih =>
    rw [insertByText] at h
    split at h
    · rcases List.mem_cons.mp h with rfl | later
      · exact .inr List.mem_cons_self
      · exact (ih later).imp_right (List.mem_cons_of_mem l)
    · exact List.mem_cons.mp h

theorem mem_of_mem_foldr_insertByText {e : Points × Datum} {ks : List (Points × Datum)}
    (h : e ∈ ks.foldr insertByText []) : e ∈ ks := by
  induction ks with
  | nil => exact h
  | cons k ks ih =>
    rcases mem_of_mem_insertByText h with rfl | later
    · exact List.mem_cons_self
    · exact List.mem_cons_of_mem k (ih later)

theorem exists_sortByText (names : List Points) :
    ∃ sorted : List Points, sortByText (names.map Datum.str) = .ok (sorted.map Datum.str) := by
  let named := names.map fun name => (name, Datum.str name)
  have plain : (names.map Datum.str).mapM (fun k => k.plain.map fun text => (text, k)) =
      Except.ok named := by
    rw [List.mapM_map]
    exact List.mapM_pure
  have texts : ∀ e ∈ named.foldr insertByText [], e.2 = .str e.1 := by
    intro e he
    obtain ⟨name, -, rfl⟩ := List.mem_map.mp (mem_of_mem_foldr_insertByText he)
    rfl
  refine ⟨(named.foldr insertByText []).map (·.1), ?_⟩
  rw [sortByText, plain, List.map_map]
  exact congrArg Except.ok (List.map_congr_left texts)

theorem exists_text_of_violation (item : Option Nat) (key : Option String) {violation : Violation}
    (h : ∃ text, violation.text = .ok text) :
    ∃ text, Fault.text ⟨item, key, violation⟩ = .ok text := by
  obtain ⟨text, told⟩ := h
  exact ⟨_, by rw [Fault.text, told]; rfl⟩

theorem exists_unexpected (names : List Points) :
    ∃ text, (Violation.unexpected (names.map .str)).text = .ok text := by
  obtain ⟨sorted, found⟩ := exists_sortByText names
  have shown : (sorted.map Datum.str).mapM Datum.shown = .ok (sorted.map Text.quoted) := by
    rw [List.mapM_map]
    exact List.mapM_pure
  exact ⟨_, by rw [Violation.text, found]; exact congrArg (Except.map _) shown⟩

theorem exists_text_of_mem_itemFaults (index : Nat) {v : Json} (h : Tellable v) {f : Fault}
    (mem : f ∈ itemFaults index v) : ∃ text, f.text = .ok text := by
  by_cases isMap : ∃ members, v = .obj members
  · obtain ⟨members, rfl⟩ := isMap
    have ofText (key : String) (mem : f ∈ textFaults index key (.obj members)) :
        ∃ text, f.text = .ok text := by
      unfold textFaults at mem
      split at mem
      · contradiction
      · contradiction
      · next w _ found =>
        rw [List.mem_singleton.mp mem]
        exact exists_text_of_violation _ _ (exists_wrongType (h.get? found) "string")
    have ofMissing (key : String) (mem : f ∈ missingFaults index key (.obj members)) :
        ∃ text, f.text = .ok text := by
      unfold missingFaults at mem
      split at mem
      · rw [List.mem_singleton.mp mem]
        exact exists_text_of_violation _ _ ⟨_, rfl⟩
      · contradiction
    simp only [itemFaults, List.mem_append] at mem
    rcases mem with (((source | destination) | source) | destination) | extra
    · exact ofText sourceKey source
    · exact ofText destinationKey destination
    · exact ofMissing sourceKey source
    · exact ofMissing destinationKey destination
    · unfold extraFaults at extra
      split at extra
      · contradiction
      · rw [List.mem_singleton.mp extra]
        exact exists_text_of_violation _ _ (exists_unexpected _)
  · rw [(ruleOf_of_not_obj index fun members same => isMap ⟨members, same⟩).2] at mem
    rw [List.mem_singleton.mp mem]
    exact exists_text_of_violation _ _ (exists_wrongType h "object")

/-- Every fault of a value that can be shown is told in words. -/
theorem exists_text_of_mem_faults {v : Json} (h : Tellable v) {f : Fault} (mem : f ∈ faults v) :
    ∃ text, f.text = .ok text := by
  by_cases isList : ∃ items, v = .arr items
  · obtain ⟨items, rfl⟩ := isList
    obtain ⟨⟨item, index⟩, place, mem⟩ := List.mem_flatMap.mp mem
    exact exists_text_of_mem_itemFaults index (h.item (List.fst_mem_of_mem_zipIdx place)) mem
  · have fault : f = ⟨none, none, .notList (.ofJson v)⟩ := by
      cases v with
      | arr items => exact absurd ⟨items, rfl⟩ isList
      | _ => exact List.mem_singleton.mp mem
    rw [fault]
    exact exists_text_of_violation none none (exists_wrongType h "array")

end Shape

namespace RuleFile

theorem rulesOf_of_ok (p : Path) {d : Datum} {rules : List Rule} (h : Shape.parse d = .ok rules) :
    rulesOf p d = .ok rules := by
  rw [rulesOf, h]
  rfl

theorem rulesOf_of_error (p : Path) {d : Datum} {fault : Shape.Fault} {text : String}
    (h : Shape.parse d = .error fault) (told : fault.text = .ok text) :
    rulesOf p d = .error (.badShape p text) := by
  simp [rulesOf, h, told, Except.mapError]

/-- The rule list in a value is the one that the grammar finds there, if there is one. Any other
value has a fault, and the first one is told, with its place, unless a value in it is too much
to be shown. What is written for a rule list describes it, also under the name `rules`. -/
theorem parse_eq_grammar (p : Path) (v : Json) :
    (∀ rules, rulesOf p (.ofJson v) = .ok rules ↔ Shape.Describes v rules) ∧
    ((∀ rules, ¬Shape.Describes v rules) → ∃ fault,
      (Shape.faults (Shape.listed v)).head? = some fault ∧
      Shape.parse (.ofJson v) = .error fault ∧
      (Shape.Tellable v → ∃ text, fault.text = .ok text ∧
        rulesOf p (.ofJson v) = .error (.badShape p text))) ∧
    ∀ rules, rulesOf p (.ofJson (Rule.listToJson rules)) = .ok rules ∧
      rulesOf p (.ofJson (.obj [("rules", Rule.listToJson rules)])) = .ok rules := by
  refine ⟨?_, ?_, fun rules => ⟨rulesOf_of_ok p (Shape.parse_listToJson rules),
    rulesOf_of_ok p ((Shape.parse_wrapped _).trans (Shape.parse_listToJson rules))⟩⟩
  · intro rules
    rcases Shape.parse_cases v with ⟨rules', checked, only⟩ | ⟨fault, checked, -, noRules⟩
    · rw [rulesOf_of_ok p checked, only, Except.ok.injEq, eq_comm]
    · refine ⟨fun ok => ?_, fun describes => absurd describes (noRules rules)⟩
      simp [rulesOf, checked, Except.mapError] at ok
  · intro noRules
    rcases Shape.parse_cases v with ⟨rules, -, only⟩ | ⟨fault, checked, first, -⟩
    · exact absurd ((only rules).mpr rfl) (noRules rules)
    · refine ⟨fault, first, checked, fun tellable => ?_⟩
      obtain ⟨text, told⟩ :=
        Shape.exists_text_of_mem_faults tellable.listed (List.mem_of_mem_head? first)
      exact ⟨text, told, rulesOf_of_error p checked told⟩

theorem parse_eq_grammar_secondItem :
    let p : Path := ⟨"", ["r.json"]⟩
    let v : Json := .obj [("rules", .arr [.obj [("to", .text "b"), ("from", .text "a")],
      .obj [("x", .null), ("to", .bool true)], .null])]
    (∀ rules, ¬Shape.Describes v rules) ∧ Shape.Tellable v ∧
      rulesOf p (.ofJson v) = .error (.badShape p "True is not of type 'string' at 1.to") := by
  intro p v
  obtain ⟨accepted, refused, -⟩ := parse_eq_grammar p v
  have noRules (rules : List Rule) : ¬Shape.Describes v rules := by
    rw [← accepted]
    intro ok
    contradiction
  have tellable : Shape.Tellable v := by
    refine ⟨?_, by decide⟩
    simp [v, Json.text, Json.Short, Json.MembersShort, Json.ItemsShort]
  obtain ⟨fault, first, -, told⟩ := refused noRules
  obtain ⟨text, words, failed⟩ := told tellable
  obtain rfl := Option.some.inj first
  obtain rfl : text = "True is not of type 'string' at 1.to" := (Except.ok.inj words).symm
  exact ⟨noRules, tellable, failed⟩

end RuleFile

end Reroute
