import Reroute.Match.RuleSet
import Reroute.Proofs.Match.Splits

/-!
# The first rule that accepts a URL

A source accepts a URL by its kind: as the URL itself, as a glob that the URL splits
along, or as the start of the URL (`Kind.Sends`). A rule set answers with the first
rule that accepts the URL, and with its place (`redirect_ofRules`). Behind it stand
what a search from the front of a list finds, which is the foremost
(`firstFrom_eq_some_iff`), and how the search of two lists one behind the other is
made of two searches (`firstFrom_append`).
-/

namespace Reroute

/-- A source of a kind accepts a URL, which a destination then makes `sent`. -/
def Kind.Sends (k : Kind) (source destination url sent : Points) : Prop :=
  match k with
  | .whole => url = source ∧ sent = destination
  | .wildcard => Glob.Splits source.toList url.toList ∧ sent = destination
  | .leading => ∃ rest : Points, url = source ++ rest ∧ sent = destination ++ rest

/-- A rule sends a URL somewhere. -/
def Rule.Sends (r : Rule) (url sent : Points) : Prop :=
  r.kind.Sends r.source r.destination url sent

def Rule.Accepts (r : Rule) (url : Points) : Prop := ∃ sent, r.Sends url sent

/-! ## The foremost of a list -/

section Foremost

variable {α β : Type} {good bad : α → Prop} {x : α} {xs : List α} {i : Nat}

/-- Number `i` of a list is good, and none in front of it is bad. -/
def Foremost (good bad : α → Prop) (xs : List α) (i : Nat) : Prop :=
  (∃ x, xs[i]? = some x ∧ good x) ∧ ∀ j < i, ∀ x, xs[j]? = some x → ¬bad x

theorem foremost_zero : Foremost good bad (x :: xs) 0 ↔ good x := by
  simp [Foremost]

theorem foremost_succ : Foremost good bad (x :: xs) (i + 1) ↔
    ¬bad x ∧ Foremost good bad xs i := by
  constructor
  · intro h
    obtain ⟨here, before⟩ := h
    refine ⟨before 0 (Nat.succ_pos i) x rfl, here, ?_⟩
    intro j hj
    exact before (j + 1) (Nat.succ_lt_succ hj)
  · intro h
    obtain ⟨first, here, before⟩ := h
    refine ⟨here, ?_⟩
    intro j hj y hy
    cases j with
    | zero =>
      obtain rfl := Option.some.inj hy
      exact first
    | succ j => exact before j (Nat.lt_of_succ_lt_succ hj) y hy

theorem foremost_map {f : β → α} {ys : List β} : Foremost good bad (ys.map f) i ↔
    Foremost (fun y => good (f y)) (fun y => bad (f y)) ys i := by
  simp [Foremost]

end Foremost

namespace Matcher

def Sends (m : Matcher) (url sent : Points) : Prop := m.kind.Sends m.texts.1 m.texts.2 url sent

/-- A matcher accepts a URL. -/
def Accepts (m : Matcher) (url : Points) : Prop := ∃ sent, m.Sends url sent

theorem rewrite?_eq_some_iff (m : Matcher) (url sent : Points) :
    m.rewrite? url = some sent ↔ m.Sends url sent := by
  cases m with
  | whole literal destination =>
    show (if url = literal then some destination else none) = some sent ↔
      url = literal ∧ sent = destination
    rw [Option.ite_none_right_eq_some, Option.some_inj, eq_comm (a := destination)]
  | wildcard pattern destination =>
    show (if Glob.isMatch pattern.toList url.toList then some destination else none) = some sent ↔
      Glob.Splits pattern.toList url.toList ∧ sent = destination
    rw [Option.ite_none_right_eq_some, Glob.isMatch_iff_splits, Option.some_inj,
      eq_comm (a := destination)]
  | leading start replacement =>
    show (start.toList.isPrefixOf? url.toList).map (fun rest => replacement ++ (⟨rest⟩ : Points)) =
      some sent ↔ ∃ rest : Points, url = start ++ rest ∧ sent = replacement ++ rest
    have cut (rest : Points) : start.toList.isPrefixOf? url.toList = some rest.toList ↔
        url = start ++ rest := by
      rw [List.isPrefixOf?_eq_some_iff_append_eq, eq_comm, Points.ext_iff, Points.toList_append]
    constructor
    · intro h
      obtain ⟨rest, found, rfl⟩ := Option.map_eq_some_iff.mp h
      exact ⟨⟨rest⟩, (cut ⟨rest⟩).mp found, rfl⟩
    · intro h
      obtain ⟨rest, whole, rfl⟩ := h
      rw [(cut rest).mpr whole]
      rfl

theorem rewrite?_eq_none_iff (m : Matcher) (url : Points) :
    m.rewrite? url = none ↔ ¬m.Accepts url := by
  simp only [Accepts, ← rewrite?_eq_some_iff, Option.eq_none_iff_forall_ne_some, not_exists,
    ne_eq]

/-! ## Searches -/

@[simp] theorem firstFrom_nil (url : Points) (index : Nat) : firstFrom url index [] = none := rfl

theorem firstFrom_cons (url : Points) (index : Nat) (m : Matcher) (ms : List Matcher) :
    firstFrom url index (m :: ms) = match m.rewrite? url with
      | some destination => some ⟨destination, some index⟩
      | none => firstFrom url (index + 1) ms := by
  unfold firstFrom
  rw [Redirect.firstFrom]
  cases m.rewrite? url <;> rfl

/-- What a search finds: the first matcher that accepts the URL, and its place. -/
theorem firstFrom_eq_some_iff (url : Points) (index : Nat) (ms : List Matcher) (r : Redirect) :
    firstFrom url index ms = some r ↔
      ∃ i, r.index = some (index + i) ∧
        Foremost (Sends · url r.destination) (Accepts · url) ms i := by
  induction ms generalizing index with
  | nil => simp [Foremost]
  | cons m ms ih =>
    rw [firstFrom_cons]
    cases h : m.rewrite? url with
    | some sent =>
      have sends := (rewrite?_eq_some_iff m url sent).mp h
      dsimp only
      constructor
      · intro found
        obtain rfl := Option.some.inj found
        exact ⟨0, rfl, foremost_zero.mpr sends⟩
      · intro found
        obtain ⟨i, number, foremost⟩ := found
        cases i with
        | zero =>
          have here := foremost_zero.mp foremost
          have again := (rewrite?_eq_some_iff m url r.destination).mpr here
          obtain rfl : sent = r.destination := Option.some.inj (h.symm.trans again)
          have same : r = ⟨r.destination, some index⟩ := by
            cases r
            simpa using number
          rw [← same]
        | succ i => exact absurd ⟨sent, sends⟩ (foremost_succ.mp foremost).1
    | none =>
      have refuses := (rewrite?_eq_none_iff m url).mp h
      dsimp only
      rw [ih]
      constructor
      · intro found
        obtain ⟨i, number, foremost⟩ := found
        have number' : r.index = some (index + (i + 1)) := by
          rw [number, Nat.add_right_comm, Nat.add_assoc]
        exact ⟨i + 1, number', foremost_succ.mpr ⟨refuses, foremost⟩⟩
      · intro found
        obtain ⟨i, number, foremost⟩ := found
        cases i with
        | zero =>
          have here := foremost_zero.mp foremost
          exact absurd ⟨_, here⟩ refuses
        | succ i =>
          have number' : r.index = some (index + 1 + i) := by
            rw [number, Nat.add_right_comm, Nat.add_assoc]
          exact ⟨i, number', (foremost_succ.mp foremost).2⟩

theorem firstFrom_eq_none_iff (url : Points) (index : Nat) (ms : List Matcher) :
    firstFrom url index ms = none ↔ ∀ m ∈ ms, ¬m.Accepts url := by
  induction ms generalizing index with
  | nil => simp
  | cons m ms ih =>
    rw [firstFrom_cons, List.forall_mem_cons, ← rewrite?_eq_none_iff, ← ih (index + 1)]
    cases m.rewrite? url <;> simp

end Matcher

/-- The redirect by a rule that `count` more stand in front of. -/
def Redirect.shift (count : Nat) (r : Redirect) : Redirect :=
  ⟨r.destination, r.index.map (· + count)⟩

namespace Matcher

theorem firstFrom_add (url : Points) (index count : Nat) (ms : List Matcher) :
    firstFrom url (index + count) ms = (firstFrom url index ms).map (Redirect.shift count) := by
  induction ms generalizing index with
  | nil => rfl
  | cons m ms ih =>
    rw [firstFrom_cons, firstFrom_cons]
    cases m.rewrite? url with
    | some sent => rfl
    | none =>
      have swap : index + count + 1 = index + 1 + count := by omega
      exact swap ▸ ih (index + 1)

theorem firstFrom_append (url : Points) (index : Nat) (xs ys : List Matcher) :
    firstFrom url index (xs ++ ys) =
      (firstFrom url index xs).or (firstFrom url (index + xs.length) ys) := by
  induction xs generalizing index with
  | nil => rfl
  | cons m xs ih =>
    rw [List.cons_append, firstFrom_cons, firstFrom_cons]
    cases m.rewrite? url with
    | some sent => rfl
    | none =>
      have swap : index + 1 + xs.length = index + (m :: xs).length := by
        rw [List.length_cons]
        omega
      exact swap ▸ ih (index + 1)

end Matcher

namespace Candidate

/-- A candidate is a rule whose kind nobody has made out. -/
def IsRaw : Candidate → Prop
  | .raw _ => True
  | .ready _ => False

/-- A candidate is a matcher that accepts a URL. -/
def Accepts : Candidate → Points → Prop
  | .raw _, _ => False
  | .ready m, url => m.Accepts url

@[simp] theorem firstFrom_nil (url : Points) (index : Nat) :
    firstFrom url index [] = .ok none := rfl

theorem firstFrom_raw (url : Points) (index : Nat) (r : Rule) (cs : List Candidate) :
    firstFrom url index (raw r :: cs) = .error ⟨r⟩ := rfl

theorem firstFrom_ready (url : Points) (index : Nat) (m : Matcher) (cs : List Candidate) :
    firstFrom url index (ready m :: cs) = match m.rewrite? url with
      | some destination => .ok (some ⟨destination, some index⟩)
      | none => firstFrom url (index + 1) cs := by
  unfold firstFrom
  rw [Redirect.firstFrom, rewrite?]
  cases m.rewrite? url <;> rfl

/-- A search stops at a raw rule when no matcher in front of it accepts the URL. -/
theorem firstFrom_error_iff (url : Points) (index : Nat) (cs : List Candidate) :
    (∃ e, firstFrom url index cs = .error e) ↔
      ∃ i, Foremost IsRaw (Accepts · url) cs i := by
  induction cs generalizing index with
  | nil => simp [Foremost]
  | cons c cs ih =>
    cases c with
    | raw r =>
      constructor
      · intro _
        exact ⟨0, foremost_zero.mpr trivial⟩
      · intro _
        exact ⟨⟨r⟩, firstFrom_raw url index r cs⟩
    | ready m =>
      have skip : (∃ i, Foremost IsRaw (Accepts · url) (ready m :: cs) i) ↔
          ¬m.Accepts url ∧ ∃ i, Foremost IsRaw (Accepts · url) cs i := by
        constructor
        · intro found
          obtain ⟨i, foremost⟩ := found
          cases i with
          | zero => exact (foremost_zero.mp foremost).elim
          | succ i =>
            obtain ⟨refuses, later⟩ := foremost_succ.mp foremost
            exact ⟨refuses, i, later⟩
        · intro found
          obtain ⟨refuses, i, later⟩ := found
          exact ⟨i + 1, foremost_succ.mpr ⟨refuses, later⟩⟩
      rw [skip, ← ih (index + 1), ← Matcher.rewrite?_eq_none_iff]
      rw [firstFrom_ready]
      cases m.rewrite? url <;> simp

/-- The same in words of the places of raw rules and matchers. -/
theorem foremost_isRaw_iff (url : Points) (cs : List Candidate) (i : Nat) :
    Foremost IsRaw (Accepts · url) cs i ↔ ∃ r, cs[i]? = some (raw r) ∧
      ∀ j < i, ∀ m, cs[j]? = some (ready m) → ¬m.Accepts url := by
  constructor
  · intro foremost
    obtain ⟨⟨c, here, isRaw⟩, before⟩ := foremost
    cases c with
    | raw r => exact ⟨r, here, fun j hj m hm => before j hj (ready m) hm⟩
    | ready m => exact isRaw.elim
  · intro found
    obtain ⟨r, here, before⟩ := found
    refine ⟨⟨raw r, here, trivial⟩, ?_⟩
    intro j hj c hc
    cases c with
    | raw r' => exact not_false
    | ready m => exact before j hj m hc

theorem firstFrom_map_ready (url : Points) (index : Nat) (ms : List Matcher) :
    firstFrom url index (ms.map ready) = .ok (Matcher.firstFrom url index ms) := by
  induction ms generalizing index with
  | nil => rfl
  | cons m ms ih =>
    rw [List.map_cons, firstFrom_ready, Matcher.firstFrom_cons]
    cases m.rewrite? url with
    | some sent => rfl
    | none => exact ih (index + 1)

end Candidate

namespace RuleSet

/-! ## Rule sets -/

theorem sends_ofRule (r : Rule) (url sent : Points) :
    (Matcher.ofRule r).Sends url sent ↔ r.Sends url sent := by
  unfold Matcher.Sends Rule.Sends Matcher.ofRule
  cases r.kind <;> rfl

theorem accepts_ofRule (r : Rule) (url : Points) :
    (Matcher.ofRule r).Accepts url ↔ r.Accepts url := by
  simp only [Matcher.Accepts, Rule.Accepts, sends_ofRule]

theorem redirect_eq_some_iff (url : Points) (rules : List Rule) (sent : Points) (i : Nat) :
    (ofRules rules).redirect? url = some ⟨sent, some i⟩ ↔
      Foremost (Rule.Sends · url sent) (Rule.Accepts · url) rules i := by
  have search : (ofRules rules).redirect? url = some ⟨sent, some i⟩ ↔
      ∃ n, some i = some (0 + n) ∧
        Foremost (Matcher.Sends · url sent) (Matcher.Accepts · url)
          (rules.map Matcher.ofRule) n :=
    Matcher.firstFrom_eq_some_iff url 0 _ ⟨sent, some i⟩
  simp only [foremost_map, sends_ofRule, accepts_ofRule] at search
  simpa using search

theorem redirect_append (url : Points) (xs ys : List Rule) :
    (ofRules (xs ++ ys)).redirect? url = match (ofRules xs).redirect? url with
      | some answer => some answer
      | none => ((ofRules ys).redirect? url).map (Redirect.shift xs.length) := by
  have split := Matcher.firstFrom_append url 0 (xs.map Matcher.ofRule) (ys.map Matcher.ofRule)
  rw [Matcher.firstFrom_add, ← List.map_append, List.length_map] at split
  refine split.trans ?_
  show ((ofRules xs).redirect? url).or (((ofRules ys).redirect? url).map _) = _
  cases (ofRules xs).redirect? url <;> rfl

/-- A rule set answers with the first rule that accepts the URL, and with its place;
with nothing when no rule does. So lists one behind the other are asked one after the
other. A list of matchers in which a raw rule stands fails when no matcher in front of
such a rule accepts the URL, and only then; without raw rules it answers as the rule set
does. -/
theorem redirect_ofRules (url : Points) :
    (∀ rules sent (i : Nat), (ofRules rules).redirect? url = some ⟨sent, some i⟩ ↔
      (∃ r, rules[i]? = some r ∧ r.Sends url sent) ∧
        ∀ j < i, ∀ r, rules[j]? = some r → ¬r.Accepts url) ∧
    (∀ rules answer, (ofRules rules).redirect? url = some answer →
      ∃ i, answer.index = some i) ∧
    (∀ rules, (ofRules rules).redirect? url = none ↔ ∀ r ∈ rules, ¬r.Accepts url) ∧
    (∀ xs ys, (ofRules (xs ++ ys)).redirect? url = match (ofRules xs).redirect? url with
      | some answer => some answer
      | none => ((ofRules ys).redirect? url).map (Redirect.shift xs.length)) ∧
    (∀ cs, (∃ e, Candidate.first cs url = .error e) ↔
      ∃ (i : Nat) (r : Rule), cs[i]? = some (Candidate.raw r) ∧
        ∀ j < i, ∀ m, cs[j]? = some (Candidate.ready m) → ¬m.Accepts url) ∧
    ∀ rules, Candidate.first (rules.map fun r => .ready (Matcher.ofRule r)) url =
      .ok ((ofRules rules).redirect? url) := by
  refine ⟨redirect_eq_some_iff url, ?_, ?_, redirect_append url, ?_, ?_⟩
  · intro rules answer h
    obtain ⟨i, number, -⟩ := (Matcher.firstFrom_eq_some_iff url 0 _ answer).mp h
    exact ⟨_, number⟩
  · intro rules
    refine (Matcher.firstFrom_eq_none_iff url 0 (rules.map Matcher.ofRule)).trans ?_
    simp only [List.forall_mem_map, accepts_ofRule]
  · intro cs
    refine (Candidate.firstFrom_error_iff url 0 cs).trans ?_
    simp only [Candidate.foremost_isRaw_iff]
  · intro rules
    have search := Candidate.firstFrom_map_ready url 0 (rules.map Matcher.ofRule)
    rw [List.map_map] at search
    exact search

end RuleSet

end Reroute
