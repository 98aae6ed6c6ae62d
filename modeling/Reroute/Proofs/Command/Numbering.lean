import Reroute.Match.NetRequest
import Reroute.Panel.Views
import Reroute.Proofs.Serve.Batches

/-!
# One number for a rule

A rule set counts its rules from 0 and everything that is shown or asked for counts them
from 1: the rows of the table of rules, the cells of the table of URLs, the request rules
for a browser, and the positions that are removed. The number that is shown for a URL is
in all of them that of the rule which sends it on (`numbered_of_redirect`), and once that rule is
removed only one from behind it can do so.
-/

namespace Reroute

namespace Json

/-- The value that is reached in an object by names, one after another. -/
def at? : List Points → Json → Option Json
  | [], v => some v
  | name :: names, v => (v.get? name).bind (at? names)

end Json

namespace View

/-! ## Rows -/

/-- The digits of a number are shown as they are. -/
theorem plainCell_toString (n : Nat) :
    plainCell (toString n : String) = .literal (toString n : String) .plain := by
  have still : ∀ c ∈ ((toString n : String) : Points).toList, (!Cell.isMotion c) = true := by
    intro code hc
    obtain ⟨c, mem, rfl⟩ := List.mem_map.mp hc
    rw [Nat.toString_eq_repr, Nat.toList_repr] at mem
    have digit := Nat.isDigit_of_mem_toDigits (by decide) (by decide) mem
    simp only [Char.isDigit, Bool.and_eq_true, decide_eq_true_eq, ge_iff_le] at digit
    have low : 48 ≤ c.toNat := digit.1
    simp [Cell.isMotion, Code.toNat]
    omega
  rw [plainCell, Cell.ofText, List.filter_eq_self.mpr still]

theorem getElem?_ruleRows (position : Nat) (entries : List (Rule × Diagnosis)) (i : Nat) :
    (ruleRows position entries)[i]? =
      entries[i]?.map fun e => ruleRow (position + i) e.1 e.2 := by
  induction entries generalizing position i with
  | nil => rfl
  | cons e entries ih =>
    cases i with
    | zero => rfl
    | succ i =>
      show (ruleRows (position + 1) entries)[i]? = _
      rw [ih, Nat.add_assoc, Nat.add_comm 1 i]
      rfl

/-- The kind that the table shows is the one a rule is matched by. -/
theorem kindCell_diagnose (r : Rule) : kindCell r.diagnose.kind =
    match (Matcher.ofRule r).kind with
    | .whole => .literal "exact" .cyan
    | .wildcard => .literal "wildcard" .magenta
    | .leading => .literal "prefix" .green := by
  have kinds : (Matcher.ofRule r).kind = r.diagnose.kind := by
    unfold Matcher.ofRule
    show (Matcher.ofKind r.kind r.source r.destination).kind = r.kind
    cases r.kind <;> rfl
  rw [kinds]
  cases r.diagnose.kind <;> rfl

theorem rules_eq {rs : List Rule} {i : Nat} {r : Rule} (h : rs[i]? = some r) :
    ∃ overview columns rows, rules rs (rs.map Rule.diagnose) =
        [overview, ⟨"rules", .cyan, .table ⟨columns, rows, true⟩⟩] ∧
      columns.map Column.header = ["#", "from", "to", "kind", "notes"] ∧
      rows[i]? = some (ruleRow (i + 1) r r.diagnose) := by
  have filled : rs.isEmpty = false := by
    cases rs with
    | nil => simp at h
    | cons r rs => rfl
  refine ⟨⟨"overview", .blue, .table (summary (rs.map Rule.diagnose))⟩, ruleColumns,
    ruleRows 1 (rs.zip (rs.map Rule.diagnose)), ?_, rfl, ?_⟩
  · rw [rules, filled]
    rfl
  · have pair : (rs.zip (rs.map Rule.diagnose))[i]? = some (r, r.diagnose) := by
      simp [List.getElem?_zip_eq_some, h]
    rw [getElem?_ruleRows, pair, Nat.add_comm 1 i]
    rfl

theorem matchRow_sent (url sent : Points) (i : Nat) : matchRow url (some ⟨sent, some i⟩) =
    [plainCell url, .ofText sent .green, .literal (toString (i + 1) : String) .plain] := by
  rw [← plainCell_toString]
  rfl

end View

namespace NetRequest

/-! ## Request rules -/

theorem getElem?_ofRulesFrom (count : Nat) (rules : List Rule) (i : Nat) :
    (ofRulesFrom count rules)[i]? = rules[i]?.map fun r => ofRule r (count + i + 1) := by
  induction rules generalizing count i with
  | nil => rfl
  | cons r rules ih =>
    cases i with
    | zero => rfl
    | succ i =>
      show (ofRulesFrom (count + 1) rules)[i]? = _
      rw [ih, Nat.add_assoc count, Nat.add_comm 1 i]
      rfl

theorem id_ofRule (r : Rule) (id : Nat) : (ofRule r id).id = id := by
  unfold ofRule
  split <;> rfl

theorem id_toJson (e : Entry) : e.toJson.at? ["id"] = some (.int e.id) := rfl

/-- What a browser is told of a rule: its number, and its texts under the names for its
kind, and under no others. -/
structure Tells (v : Json) (r : Rule) (number : Nat) : Prop where
  id : v.at? ["id"] = some (.int number)
  regexFilter : v.at? ["condition", "regexFilter"] =
    if (Matcher.ofRule r).kind = .leading then some (.str (leadingFilter r.source)) else none
  regexSubstitution : v.at? ["action", "redirect", "regexSubstitution"] =
    if (Matcher.ofRule r).kind = .leading then some (.str (r.destination ++ ("\\1" : Points)))
    else none
  urlFilter : v.at? ["condition", "urlFilter"] =
    if (Matcher.ofRule r).kind = .leading then none else some (.str r.source)
  url : v.at? ["action", "redirect", "url"] =
    if (Matcher.ofRule r).kind = .leading then none else some (.str r.destination)

theorem tells_ofRule (r : Rule) (id : Nat) : Tells (ofRule r id).toJson r id := by
  by_cases leading : (Matcher.ofRule r).kind = .leading
  · have entry : ofRule r id =
        ⟨id, .regex (leadingFilter r.source), .substitution (r.destination ++ ("\\1" : Points))⟩ := by
      rw [ofRule, leading]
    rw [entry]
    refine ⟨rfl, ?_, ?_, ?_, ?_⟩ <;> rw [if_pos leading] <;> rfl
  · have entry : ofRule r id = ⟨id, .url r.source, .url r.destination⟩ := by
      unfold ofRule
      split
      · next kind => exact absurd kind leading
      · rfl
      · rfl
    rw [entry]
    refine ⟨rfl, ?_, ?_, ?_, ?_⟩ <;> rw [if_neg leading] <;> rfl

theorem toJson_eq {rules : List Rule} {i : Nat} {r : Rule} (h : rules[i]? = some r) :
    ∃ entries, toJson rules = .arr entries ∧
      (∃ v, entries[i]? = some v ∧ Tells v r (i + 1)) ∧
      ∀ (j : Nat) v, entries[j]? = some v → v.at? ["id"] = some (.int (i + 1)) → j = i := by
  refine ⟨_, rfl, ?_, ?_⟩
  · refine ⟨_, ?_, tells_ofRule r (i + 1)⟩
    rw [List.getElem?_map, ofRules, getElem?_ofRulesFrom, h, Nat.zero_add]
    rfl
  · intro j v there id
    rw [List.getElem?_map, ofRules, getElem?_ofRulesFrom, Nat.zero_add] at there
    cases hr : rules[j]? with
    | none => simp [hr] at there
    | some r' =>
      rw [hr] at there
      obtain rfl := Option.some.inj there
      rw [id_toJson, id_ofRule] at id
      have number : ((j + 1 : Nat) : Int) = i + 1 := Json.int.inj (Option.some.inj id)
      omega

end NetRequest

namespace Service

variable {s : Store} {d : Disk} {rules : List Rule}

theorem refresh_fresh (loads : s.Loads d rules) : ∃ snapshot after,
    (refresh d).serve (fresh s) = (.ok snapshot, after) ∧
      snapshot.ruleSet = RuleSet.ofRules rules := by
  obtain ⟨⟨stamp, stamped⟩, listed⟩ := loads
  have first := refresh_fresh_eq s d
  rw [stamped, listed] at first
  rcases result : (refresh d).serve (fresh s) with ⟨answer, after⟩
  rw [result] at first
  obtain rfl : answer = .ok ((fresh s).made rules) := first
  exact ⟨(fresh s).made rules, after, rfl, rfl⟩

theorem evaluate_fresh (loads : s.Loads d rules) (url : Points) :
    ((evaluate d url).serve (fresh s)).1 = .ok ((RuleSet.ofRules rules).redirect? url) := by
  obtain ⟨snapshot, after, refreshed, current⟩ := refresh_fresh loads
  rw [OnService.serve_eq] at refreshed ⊢
  rw [evaluate_eq, refreshed, ← current]
  rfl

theorem evaluateAll_fresh (loads : s.Loads d rules) (urls : List Points) :
    ((evaluateAll d urls).serve (fresh s)).1 =
      .ok (urls.map fun url => (url, (RuleSet.ofRules rules).redirect? url)) := by
  obtain ⟨snapshot, after, refreshed, current⟩ := refresh_fresh loads
  rw [evaluateAll_eq refreshed, current]

end Service

namespace RuleSet

variable {before after : List Rule} {r : Rule} {url sent : Points}

/-- Without the rule that answers, a rule from behind it answers, or none. -/
theorem redirect_of_removed
    (h : (ofRules (before ++ r :: after)).redirect? url = some ⟨sent, some before.length⟩) :
    (ofRules (before ++ after)).redirect? url = none ∨
      ∃ sent' j r', before.length ≤ j ∧ (before ++ r :: after)[j + 1]? = some r' ∧
        r'.Sends url sent' ∧ (ofRules (before ++ after)).redirect? url = some ⟨sent', some j⟩ := by
  obtain ⟨-, refuse⟩ := (redirect_eq_some_iff url _ sent before.length).mp h
  have front : (ofRules before).redirect? url = none := by
    rw [redirect_eq_none_iff, List.find?_eq_none]
    intro x hx accepted
    obtain ⟨i, inside, rfl⟩ := List.mem_iff_getElem.mp hx
    have here : (before ++ r :: after)[i]? = some before[i] := by
      rw [List.getElem?_append_left inside, List.getElem?_eq_getElem inside]
    exact refuse i inside _ here (Rule.accepts_iff.mp accepted)
  rw [redirect_append, front]
  cases found : (ofRules after).redirect? url with
  | none => exact .inl rfl
  | some answer =>
    right
    obtain ⟨i, index, -⟩ := (Matcher.firstFrom_eq_some_iff url 0 _ answer).mp found
    have whole : answer = ⟨answer.destination, some i⟩ := by
      rw [Nat.zero_add] at index
      rw [← index]
    rw [whole] at found ⊢
    obtain ⟨⟨r', here, sends⟩, -⟩ := (redirect_eq_some_iff url after _ i).mp found
    refine ⟨answer.destination, i + before.length, r', by omega, ?_, sends, rfl⟩
    have place : i + before.length + 1 = before.length + (i + 1) := by omega
    rw [place, List.getElem?_append_right (by omega), Nat.add_sub_cancel_left]
    exact here

end RuleSet

namespace Store

variable {s : Store} {d : Disk} {before after : List Rule} {r : Rule}

theorem loads_of_list {rules : List Rule} (stored : s.list d = .ok rules) (filled : rules ≠ []) :
    s.Loads d rules := by
  obtain ⟨bytes, time, status⟩ := status_of_list stored filled
  exact ⟨⟨_, by rw [stamp, status]⟩, stored⟩

/-- The rule behind `before` is removed by its number, counted from 1. -/
theorem remove_of_list (stored : s.list d = .ok (before ++ r :: after)) :
    ∃ d' log, s.remove (before.length + 1) d = (.ok ⟨r, log⟩, d') ∧
      s.Loads d' (before ++ after) := by
  obtain ⟨bytes, time, status⟩ := status_of_list stored (by simp)
  obtain ⟨d', saved⟩ := OnDisk.save_of_taken (refusal_of_status status)
    (RuleFile.encode .json (before ++ after))
  have removed : s.remove (before.length + 1) d =
      (.ok ⟨r, [s.savedLine (before ++ after)]⟩, d') := by
    simp [remove, stored, ruleAt?_append_cons, eraseIdx_append_cons, Store.save, saved]
  have joined : ∀ x ∈ before ++ after, x.Joined := by
    intro x hx
    apply joined_of_list stored x
    rw [List.mem_append, List.mem_cons]
    exact (List.mem_append.mp hx).imp_right .inr
  have there := OnDisk.save_eq_ok saved
  refine ⟨d', _, removed, ⟨_, by rw [stamp, there]⟩, ?_⟩
  rw [RuleFile.list_of_status there]
  exact RuleFile.parse_encode s.path s.formatOf?_path _ joined

/-- A URL is sent on by rule number `k` of a stored list, counted from 0. Then `k + 1` is
what the table of URLs shows for it, and the number of that rule in the table of rules and
in what a browser is told. A removal of `k + 1` removes that rule and answers with it, and
leaves the others as they stand; after that, the URL is sent on by a rule that stood behind
it, or by none. Tables leave out the characters that move the place of writing. -/
theorem numbered_of_redirect (s : Store) (d : Disk) (rules : List Rule) (url sent : Points)
    (k : Nat) (stored : s.list d = .ok rules)
    (answer : (RuleSet.ofRules rules).redirect? url = some ⟨sent, some k⟩) :
    let still (text : Points) : Points :=
      ⟨text.toList.filter fun c => !([0x07, 0x08, 0x0B, 0x0C, 0x0D].contains c.toNat)⟩
    ∃ before r after, rules = before ++ r :: after ∧ before.length = k ∧ r.Sends url sent ∧
      ((Service.evaluate d url).serve (.fresh s)).1 = .ok (some ⟨sent, some k⟩) ∧
      (∀ urls, ∃ results columns rows,
        ((Service.evaluateAll d urls).serve (.fresh s)).1 = .ok results ∧
        View.matched results = ⟨"matches", .blue, .table ⟨columns, rows, true⟩⟩ ∧
        columns.map Column.header = ["url", "destination", "rule"] ∧
        ∀ i : Nat, urls[i]? = some url → rows[i]? = some [.literal (still url) .plain,
          .literal (still sent) .green, .literal (toString (k + 1) : String) .plain]) ∧
      (∃ overview columns rows, View.rules rules (rules.map Rule.diagnose) =
          [overview, ⟨"rules", .cyan, .table ⟨columns, rows, true⟩⟩] ∧
        columns.map Column.header = ["#", "from", "to", "kind", "notes"] ∧
        rows[k]? = some [.markup (toString (k + 1) : String), .literal (still r.source) .plain,
          .literal (still r.destination) .plain,
          (match (Matcher.ofRule r).kind with
            | .whole => .literal "exact" .cyan
            | .wildcard => .literal "wildcard" .magenta
            | .leading => .literal "prefix" .green),
          .literal (still (Points.join "\n" r.diagnose.warnings)) .plain]) ∧
      (∃ entries, NetRequest.toJson rules = .arr entries ∧
        (∃ v, entries[k]? = some v ∧ NetRequest.Tells v r (k + 1)) ∧
        ∀ (i : Nat) v, entries[i]? = some v → v.at? ["id"] = some (.int (k + 1)) → i = k) ∧
      ∃ d' log, s.remove (k + 1) d = (.ok ⟨r, log⟩, d') ∧ s.list d' = .ok (before ++ after) ∧
        (((Service.evaluate d' url).serve (.fresh s)).1 = .ok none ∨
          ∃ sent' j r', k ≤ j ∧ rules[j + 1]? = some r' ∧ r'.Sends url sent' ∧
            ((Service.evaluate d' url).serve (.fresh s)).1 = .ok (some ⟨sent', some j⟩)) := by
  intro still
  obtain ⟨⟨r, here, sends⟩, -⟩ := (RuleSet.redirect_eq_some_iff url rules sent k).mp answer
  obtain ⟨before, after, rfl, rfl⟩ : ∃ before after, rules = before ++ r :: after ∧
      before.length = k := by
    obtain ⟨inside, rfl⟩ := List.getElem?_eq_some_iff.mp here
    refine ⟨rules.take k, rules.drop (k + 1), ?_, ?_⟩
    · simp
    · rw [List.length_take]
      omega
  have loads := loads_of_list stored (by simp)
  refine ⟨before, r, after, rfl, rfl, sends, ?_, ?_, ?_, NetRequest.toJson_eq here, ?_⟩
  · rw [Service.evaluate_fresh loads, answer]
  · intro urls
    refine ⟨_, _, _, Service.evaluateAll_fresh loads urls, rfl, rfl, ?_⟩
    intro i h
    rw [List.getElem?_map, List.getElem?_map, h]
    refine congrArg some (.trans ?_ (View.matchRow_sent url sent before.length))
    rw [← answer]
  · obtain ⟨overview, columns, rows, shown, headers, row⟩ := View.rules_eq here
    refine ⟨overview, columns, rows, shown, headers, row.trans (congrArg some ?_)⟩
    rw [View.ruleRow, View.kindCell_diagnose]
    rfl
  · obtain ⟨d', log, removed, loads'⟩ := remove_of_list stored
    refine ⟨d', log, removed, loads'.listed, ?_⟩
    rw [Service.evaluate_fresh loads']
    rcases RuleSet.redirect_of_removed answer with none | ⟨sent', j, r', behind, there, sends', next⟩
    · left
      rw [none]
    · right
      exact ⟨sent', j, r', behind, there, sends', by rw [next]⟩

/-- The second of three rules, two of which accept the URL. -/
theorem numbered_of_redirect_second :
    let s : Store := ⟨⟨"", ["store"]⟩⟩
    let rules : List Rule := [⟨"https://z.example/", "y.example/"⟩,
      ⟨"https://a.example/", "b.example/"⟩, ⟨"https://a.example/*", "c.example"⟩]
    let d := withImport (RuleFile.encode .json rules).toUTF8 ByteArray.empty
    let url : Points := "https://a.example/x"
    s.list d = .ok rules ∧ (RuleSet.ofRules rules).redirect? url = some ⟨"b.example/x", some 1⟩ ∧
      (∃ overview columns rows, View.rules rules (rules.map Rule.diagnose) =
          [overview, ⟨"rules", .cyan, .table ⟨columns, rows, true⟩⟩] ∧
        rows[1]? = some [.markup "2", .literal "https://a.example/" .plain,
          .literal "b.example/" .plain, .literal "prefix" .green, .literal "" .plain]) ∧
      ∃ d' log, s.remove 2 d = (.ok ⟨⟨"https://a.example/", "b.example/"⟩, log⟩, d') ∧
        s.list d' =
          .ok [⟨"https://z.example/", "y.example/"⟩, ⟨"https://a.example/*", "c.example"⟩] := by
  intro s rules d url
  have joined : ∀ r ∈ rules, r.Joined :=
    Rule.joined_map_ofTexts [("https://z.example/", "y.example/"),
      ("https://a.example/", "b.example/"), ("https://a.example/*", "c.example")]
  have stored : s.list d = .ok rules := list_withImport joined _
  have answer : (RuleSet.ofRules rules).redirect? url = some ⟨"b.example/x", some 1⟩ := by
    decide +kernel
  obtain ⟨before, r, after, split, length, -, -, -, table, -, d', log, removed, listed, -⟩ :=
    numbered_of_redirect s d rules url "b.example/x" 1 stored answer
  obtain ⟨first, rfl⟩ := List.length_eq_one_iff.mp length
  simp only [rules, List.singleton_append, List.cons.injEq] at split
  obtain ⟨rfl, rfl, rfl⟩ := split
  obtain ⟨overview, columns, rows, shown, -, row⟩ := table
  exact ⟨stored, answer, ⟨overview, columns, rows, shown, row.trans (by decide +kernel)⟩,
    d', log, removed, listed⟩

end Store

end Reroute
