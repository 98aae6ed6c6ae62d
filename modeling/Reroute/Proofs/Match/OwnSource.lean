import Reroute.Proofs.Store.Shadows

/-!
# Sources as URLs

A source is an instance of itself, whatever kind it is of: as a whole, as the start of
itself with nothing behind it, and along its own characters, where each star stands for
a star (`Kind.sends_self`). So the source of a rule, asked as a URL, is sent to the
destination as it is, unless a rule in front of it accepts that text too
(`redirect_of_source`).

What is said of rule lists holds of every URL that a rule accepts (`redirect_of_accepts`).
-/

namespace Reroute

/-- A pattern is split into its own characters. A star is no `/`, so this is a split in
the host part too. -/
theorem Glob.splits_self (pattern : List Code) : Glob.Splits pattern pattern := by
  refine ⟨pattern.map fun c => [c], List.length_map _, ?_, ?_⟩
  · show pattern.flatMap (fun c => [c]) = pattern
    exact List.flatMap_singleton' pattern
  · intro i c part here split
    rw [List.getElem?_map, here] at split
    obtain rfl := Option.some.inj split
    constructor
    · intro _
      rfl
    · intro star bound _ _
      subst star
      decide

theorem Kind.sends_self (k : Kind) (source destination : Points) :
    k.Sends source destination source destination := by
  cases k with
  | whole => exact ⟨rfl, rfl⟩
  | wildcard => exact ⟨Glob.splits_self source.toList, rfl⟩
  | leading => exact ⟨"", (Points.append_empty source).symm, (Points.append_empty destination).symm⟩

theorem Rule.sends_self (r : Rule) : r.Sends r.source r.destination :=
  Kind.sends_self r.kind _ _

namespace RuleSet

variable {rules : List Rule} {url : Points} {r : Rule} {i : Nat}

/-- A URL that rule number `i` accepts is sent on by the foremost rule that accepts it,
which is that one or stands in front of it. -/
theorem redirect_of_accepts (here : rules[i]? = some r) (accepts : r.Accepts url) :
    ∃ r' sent j, rules[j]? = some r' ∧ r'.Sends url sent ∧
      (ofRules rules).redirect? url = some ⟨sent, some j⟩ ∧ j ≤ i ∧
      (j = i ↔ ∀ k < i, ∀ other, rules[k]? = some other → ¬other.Accepts url) := by
  cases found : rules.find? (Rule.accepts url) with
  | none =>
    have refuses := List.find?_eq_none.mp found r (List.mem_of_getElem? here)
    exact absurd (Rule.accepts_iff.mpr accepts) refuses
  | some first =>
    obtain ⟨j, sent, there, sends, answer⟩ := redirect_of_find? found
    obtain ⟨-, before⟩ := (redirect_eq_some_iff url rules sent j).mp answer
    have reached : j ≤ i := by
      apply Nat.le_of_not_lt
      intro behind
      exact before i behind r here accepts
    refine ⟨first, sent, j, there, sends, answer, reached, ?_⟩
    constructor
    · intro same k hk other at_k
      subst same
      exact before k hk other at_k
    · intro none
      apply Nat.le_antisymm reached
      apply Nat.le_of_not_lt
      intro ahead
      exact none j ahead first there ⟨sent, sends⟩

/-- Every rule sends its own source to its destination, as it is. So in every list the
source of rule number `i` is sent on, by that rule or by one in front of it; by that rule
if and only if none in front of it accepts the text, and then to its destination. -/
theorem redirect_of_source :
    (∀ r : Rule, (Matcher.ofRule r).rewrite? r.source = some r.destination) ∧
    ∀ (rules : List Rule) (i : Nat) r, rules[i]? = some r →
      ∃ sent j, (ofRules rules).redirect? r.source = some ⟨sent, some j⟩ ∧ j ≤ i ∧
        (j = i ↔ ∀ k < i, ∀ r', rules[k]? = some r' → ¬r'.Accepts r.source) ∧
        (j = i → sent = r.destination) := by
  constructor
  · intro r
    apply (Matcher.rewrite?_eq_some_iff _ _ _).mpr
    exact (sends_ofRule r _ _).mpr r.sends_self
  · intro rules i r here
    obtain ⟨r', sent, j, there, sends, answer, reached, own⟩ :=
      redirect_of_accepts here ⟨_, r.sends_self⟩
    refine ⟨sent, j, answer, reached, own, ?_⟩
    intro same
    subst same
    obtain rfl := Option.some.inj (here.symm.trans there)
    exact Rule.sends_unique sends r.sends_self

/-- The source of a wildcard, which the wildcard in front of it accepts too. -/
theorem redirect_of_source_shadowed :
    let rules : List Rule := [⟨"https://*.b.example/*", "x.example"⟩,
      ⟨"https://*.b.example/a*", "y.example"⟩]
    let url : Points := "https://*.b.example/a*"
    rules[1]? = some ⟨url, "y.example"⟩ ∧
      ∃ sent j, (ofRules rules).redirect? url = some ⟨sent, some j⟩ ∧ j ≤ 1 ∧ j ≠ 1 := by
  intro rules url
  have here : rules[1]? = some ⟨url, "y.example"⟩ := rfl
  obtain ⟨sent, j, answer, reached, own, -⟩ := redirect_of_source.2 rules 1 _ here
  refine ⟨here, sent, j, answer, reached, ?_⟩
  intro same
  have accepted : Rule.accepts url ⟨"https://*.b.example/*", "x.example"⟩ = true := by
    decide +kernel
  exact own.mp same 0 Nat.zero_lt_one _ rfl (Rule.accepts_iff.mp accepted)

end RuleSet

end Reroute
