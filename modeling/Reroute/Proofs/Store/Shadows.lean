import Reroute.Proofs.Match.FirstMatch
import Reroute.Proofs.Store.Runs
import Reroute.Proofs.Store.Saved

/-!
# Rules in the shadow of others

Whether a rule accepts a URL is a matter of its source alone (`accepts_congr`). So a rule
never answers when one with the same source stands in front of it, and an import that
leaves such rules out stores a list that sends every URL where the whole list would, by
the same rule, once the pairs in the texts of the whole list are united as the stored text
unites them (`sameAnswers_of_import`). The whole list as it is may send a URL elsewhere
(`not_sameAnswers_of_import`).
-/

namespace Reroute

namespace Rule

variable {r r' : Rule} {url sent sent' : Points}

def accepts (url : Points) (r : Rule) : Bool := ((Matcher.ofRule r).rewrite? url).isSome

theorem accepts_iff : r.accepts url = true ↔ r.Accepts url := by
  rw [accepts, Option.isSome_iff_exists, Accepts]
  simp only [Matcher.rewrite?_eq_some_iff, RuleSet.sends_ofRule]

/-- Rules with one source accept the same URLs, whatever their destinations. -/
theorem accepts_congr (same : r.source = r'.source) (url : Points) :
    r.accepts url = r'.accepts url := by
  have kinds : r.kind = r'.kind := congrArg (fun s : Points => Source.kind s.toList) same
  unfold accepts Matcher.ofRule
  rw [kinds, same]
  cases r'.kind with
  | whole =>
    simp only [Matcher.ofKind, Matcher.rewrite?]
    split <;> rfl
  | wildcard =>
    simp only [Matcher.ofKind, Matcher.rewrite?]
    split <;> rfl
  | leading => simp only [Matcher.ofKind, Matcher.rewrite?, Option.isSome_map]

theorem sends_unique (h : r.Sends url sent) (h' : r.Sends url sent') : sent = sent' := by
  rw [← RuleSet.sends_ofRule, ← Matcher.rewrite?_eq_some_iff] at h h'
  exact Option.some.inj (h.symm.trans h')

end Rule

namespace RuleSet

/-! ## The rule that answers -/

variable {rules xs ys : List Rule} {url sent : Points} {i : Nat} {r : Rule}

theorem find?_of_redirect (h : (ofRules rules).redirect? url = some ⟨sent, some i⟩) :
    ∃ r, rules[i]? = some r ∧ r.Sends url sent ∧ rules.find? (Rule.accepts url) = some r := by
  obtain ⟨⟨r, here, sends⟩, before⟩ := (redirect_eq_some_iff url rules sent i).mp h
  obtain ⟨inside, rfl⟩ := List.getElem?_eq_some_iff.mp here
  refine ⟨_, here, sends, List.find?_eq_some_iff_getElem.mpr ⟨?_, i, inside, rfl, ?_⟩⟩
  · exact Rule.accepts_iff.mpr ⟨sent, sends⟩
  · intro j hj
    have refuses : ¬rules[j].Accepts url := before j hj rules[j] (List.getElem?_eq_getElem _)
    rw [← Rule.accepts_iff] at refuses
    simpa using refuses

theorem redirect_of_find? (h : rules.find? (Rule.accepts url) = some r) :
    ∃ i sent, rules[i]? = some r ∧ r.Sends url sent ∧
      (ofRules rules).redirect? url = some ⟨sent, some i⟩ := by
  obtain ⟨accepted, i, inside, rfl, before⟩ := List.find?_eq_some_iff_getElem.mp h
  obtain ⟨sent, sends⟩ := Rule.accepts_iff.mp accepted
  have here := List.getElem?_eq_getElem inside
  refine ⟨i, sent, here, sends, (redirect_eq_some_iff url rules sent i).mpr ⟨⟨_, here, sends⟩, ?_⟩⟩
  intro j hj r hr accepts
  obtain ⟨_, rfl⟩ := List.getElem?_eq_some_iff.mp hr
  simpa [Rule.accepts_iff.mpr accepts] using before j hj

theorem redirect_eq_none_iff : (ofRules rules).redirect? url = none ↔
    rules.find? (Rule.accepts url) = none := by
  refine (Matcher.firstFrom_eq_none_iff url 0 (rules.map Matcher.ofRule)).trans ?_
  simp only [List.forall_mem_map, accepts_ofRule, List.find?_eq_none, Rule.accepts_iff]

/-- Two lists answer alike: neither has a rule for a URL, or the same rule sends it to
the same place. -/
def SameAnswers (xs ys : List Rule) : Prop :=
  ∀ url, ((ofRules xs).redirect? url = none ↔ (ofRules ys).redirect? url = none) ∧
    ∀ sent (i : Nat), (ofRules xs).redirect? url = some ⟨sent, some i⟩ →
      ∃ r, xs[i]? = some r ∧ ∃ j : Nat, ys[j]? = some r ∧
        (ofRules ys).redirect? url = some ⟨sent, some j⟩

theorem sameAnswers_of_find?
    (h : ∀ url, xs.find? (Rule.accepts url) = ys.find? (Rule.accepts url)) :
    SameAnswers xs ys := by
  intro url
  refine ⟨by rw [redirect_eq_none_iff, redirect_eq_none_iff, h], ?_⟩
  intro sent i answer
  obtain ⟨r, here, sends, found⟩ := find?_of_redirect answer
  rw [h] at found
  obtain ⟨j, sent', there, sends', answer'⟩ := redirect_of_find? found
  rw [Rule.sends_unique sends sends']
  exact ⟨r, here, j, there, answer'⟩

/-- A rule behind another one with its source never answers. -/
theorem index_ne_of_shadow {j : Nat} {r' : Rule} {answer : Redirect} (first : j < i)
    (front : rules[j]? = some r) (behind : rules[i]? = some r') (same : r.source = r'.source)
    (h : (ofRules rules).redirect? url = some answer) : answer.index ≠ some i := by
  intro index
  have whole : answer = ⟨answer.destination, some i⟩ := by rw [← index]
  rw [whole] at h
  obtain ⟨⟨_, here, sends⟩, before⟩ := (redirect_eq_some_iff url rules _ i).mp h
  obtain rfl := Option.some.inj (behind.symm.trans here)
  have accepted : r'.accepts url = true := Rule.accepts_iff.mpr ⟨_, sends⟩
  rw [← Rule.accepts_congr same] at accepted
  exact before j first r front (Rule.accepts_iff.mp accepted)

end RuleSet

namespace Store

open RuleSet

/-! ## Imports -/

variable {s : Store} {d d' : Disk} {p : Path}

/-- A search that looks at sources only finds in a merged list what it finds in the two
lists one behind the other. -/
theorem find?_merge (good : Rule → Bool) (bySource : ∀ r r', r.source = r'.source →
    good r = good r') (rules incoming : List Rule) :
    (merge rules incoming).1.find? good = (rules ++ incoming).find? good := by
  induction incoming generalizing rules with
  | nil => simp [merge]
  | cons r incoming ih =>
    rw [merge]
    split
    · next known =>
      -- The rule that is left out could only be found where its fellow is.
      obtain ⟨old, ho, same⟩ : ∃ old ∈ rules, old.source = r.source := by
        simpa [hasSource] using known
      show (merge rules incoming).1.find? good = _
      rw [ih, List.find?_append, List.find?_append]
      cases found : rules.find? good with
      | some first => rfl
      | none =>
        have bad : good r = false := by
          rw [← bySource old r same]
          simpa using List.find?_eq_none.mp found old ho
        simp [bad]
    · show (merge (rules ++ [r]) incoming).1.find? good = _
      rw [ih, List.append_assoc, List.singleton_append]

theorem sameAnswers_merge (rules incoming : List Rule) :
    SameAnswers (merge rules incoming).1 (rules ++ incoming) :=
  sameAnswers_of_find? fun url =>
    find?_merge (Rule.accepts url) (fun _ _ same => Rule.accepts_congr same url) rules incoming

/-- To leave out rules with a known source changes no answer after the pairs are united
either, for rules with one source still have one then. -/
theorem sameAnswers_unite_merge (rules incoming : List Rule) :
    SameAnswers ((merge rules incoming).1.map Rule.unite)
      ((rules ++ incoming).map Rule.unite) := by
  refine sameAnswers_of_find? fun url => ?_
  have bySource (r r' : Rule) (same : r.source = r'.source) :
      r.unite.accepts url = r'.unite.accepts url :=
    Rule.accepts_congr (congrArg Points.unite same) url
  rw [List.find?_map, List.find?_map]
  exact congrArg _ (find?_merge (Rule.accepts url ∘ Rule.unite) bySource rules incoming)

theorem list_of_save {rules : List Rule} {log : List LogLine}
    (h : s.save rules d = (.ok log, d')) : s.list d' = .ok (rules.map Rule.unite) := by
  obtain ⟨_, d₁, saved, ended⟩ := Step.bind_eq_ok h
  obtain ⟨-, rfl⟩ := Prod.mk.inj ended
  rw [RuleFile.list_of_status (OnDisk.save_eq_ok saved)]
  exact RuleFile.parse_encode_unite s.path s.formatOf?_path rules

/-- The list that an import starts from. -/
def kept (s : Store) (replace : Bool) (d : Disk) : Except Failure (List Rule) :=
  if replace then .ok [] else s.list d

/-- An import in three steps: two lists are read, and the merged one is saved. -/
theorem importFrom_eq (s : Store) (p : Path) (replace : Bool) :
    s.importFrom p replace = (do
      let incoming ← OnDisk.look fun d => RuleFile.load d p
      let rules ← OnDisk.look (s.kept replace)
      let log ← s.save (merge rules incoming).1
      return ⟨(merge rules incoming).2, log⟩) := by
  cases replace <;> rfl

theorem list_of_importFrom {replace : Bool} {done : Logged Imported}
    (h : s.importFrom p replace d = (.ok done, d')) :
    ∃ incoming rules, RuleFile.load d p = .ok incoming ∧ s.kept replace d = .ok rules ∧
      s.list d' = .ok ((merge rules incoming).1.map Rule.unite) := by
  rw [importFrom_eq] at h
  obtain ⟨incoming, d₁, read, onward⟩ := Step.bind_eq_ok h
  obtain ⟨rules, d₂, listed, saving⟩ := Step.bind_eq_ok onward
  obtain ⟨log, d₃, saved, ended⟩ := Step.bind_eq_ok saving
  obtain ⟨loads, rfl⟩ := OnDisk.look_eq_ok read
  obtain ⟨start, rfl⟩ := OnDisk.look_eq_ok listed
  obtain ⟨-, rfl⟩ := Prod.mk.inj ended
  exact ⟨incoming, rules, loads, start, list_of_save saved⟩

theorem joined_of_kept {replace : Bool} {rules : List Rule} (h : s.kept replace d = .ok rules) :
    ∀ r ∈ rules, r.Joined := by
  cases replace with
  | true =>
    obtain rfl := Except.ok.inj h
    simp
  | false => exact joined_of_list h

/-- To leave out of an import the rules whose source is known changes no answer: the
merged list answers as the old and the new one do together, for a rule behind another
one with its source never answers. What an import stores answers as the two lists do with
the pairs in their texts united, and so as the two lists themselves where no incoming text
has a pair in two halves. -/
theorem sameAnswers_of_import :
    (∀ rules incoming, SameAnswers (merge rules incoming).1 (rules ++ incoming)) ∧
    (∀ (rules : List Rule) (i j : Nat) r r', j < i → rules[j]? = some r → rules[i]? = some r' →
      r.source = r'.source → ∀ url answer, (ofRules rules).redirect? url = some answer →
        answer.index ≠ some i) ∧
    ∀ (s : Store) d p replace done d', s.importFrom p replace d = (.ok done, d') →
      ∃ incoming rules stored, RuleFile.load d p = .ok incoming ∧ s.kept replace d = .ok rules ∧
        s.list d' = .ok stored ∧ SameAnswers stored ((rules ++ incoming).map Rule.unite) ∧
        ((∀ r ∈ incoming, r.Joined) → SameAnswers stored (rules ++ incoming)) := by
  refine ⟨sameAnswers_merge, ?_, ?_⟩
  · intro rules i j r r' first front behind same url answer h
    exact index_ne_of_shadow first front behind same h
  · intro s d p replace done d' h
    obtain ⟨incoming, rules, loads, start, stored⟩ := list_of_importFrom h
    have answers := sameAnswers_unite_merge rules incoming
    refine ⟨incoming, rules, _, loads, start, stored, answers, fun joined => ?_⟩
    have all := List.forall_mem_append.mpr ⟨joined_of_kept start, joined⟩
    rw [Rule.map_unite_of_joined all] at answers
    exact answers

def withImport (stored new : ByteArray) : Disk :=
  ⟨[(["store"], .directory), (["store", "rules.json"], .file stored 0),
    (["new.json"], .file new 0)], 0⟩

theorem status_withImport (stored new : ByteArray) :
    (withImport stored new).status (path ⟨⟨"", ["store"]⟩⟩) = .ok (.file stored 0) ∧
      (withImport stored new).status ⟨"", ["new.json"]⟩ = .ok (.file new 0) ∧
        (withImport stored new).refusal (path ⟨⟨"", ["store"]⟩⟩) = none := by
  refine ⟨?_, ?_, ?_⟩ <;> cbv

theorem list_withImport {rules : List Rule} (joined : ∀ r ∈ rules, r.Joined) (new : ByteArray) :
    list ⟨⟨"", ["store"]⟩⟩ (withImport (RuleFile.encode .json rules).toUTF8 new) = .ok rules := by
  rw [RuleFile.list_of_status (status_withImport _ new).1]
  exact RuleFile.parse_encode _ (formatOf?_path _) rules joined

theorem load_withImport {incoming : List Rule} (joined : ∀ r ∈ incoming, r.Joined)
    (stored : ByteArray) :
    RuleFile.load (withImport stored (RuleFile.encode .json incoming).toUTF8) ⟨"", ["new.json"]⟩ =
      .ok incoming := by
  rw [RuleFile.load_of_read (RuleFile.read_of_status (status_withImport stored _).2.1)]
  exact RuleFile.parse_encode ⟨"", ["new.json"]⟩ (by decide) incoming joined

/-- An import of a known source with another destination, and of a new one. -/
theorem sameAnswers_of_import_known :
    let s : Store := ⟨⟨"", ["store"]⟩⟩
    let p : Path := ⟨"", ["new.json"]⟩
    let rules : List Rule := [⟨"https://a.example/", "b.example/"⟩]
    let incoming : List Rule := [⟨"https://a.example/", "c.example/"⟩, ⟨"d.example", "e.example"⟩]
    let d := withImport (RuleFile.encode .json rules).toUTF8 (RuleFile.encode .json incoming).toUTF8
    (∃ answer, (ofRules (rules ++ incoming)).redirect? "https://a.example/x" = some answer ∧
      answer.index ≠ some 1) ∧
    ∃ done d', s.importFrom p false d = (.ok done, d') ∧
      ∃ stored, s.list d' = .ok stored ∧ SameAnswers stored (rules ++ incoming) := by
  intro s p rules incoming d
  obtain ⟨-, shadow, imported⟩ := sameAnswers_of_import
  have joined : ∀ r ∈ rules, r.Joined :=
    Rule.joined_map_ofTexts [("https://a.example/", "b.example/")]
  have joined' : ∀ r ∈ incoming, r.Joined :=
    Rule.joined_map_ofTexts [("https://a.example/", "c.example/"), ("d.example", "e.example")]
  have stored : s.list d = .ok rules := list_withImport joined _
  have loads : RuleFile.load d p = .ok incoming := load_withImport joined' _
  have taken : d.refusal s.path = none := (status_withImport _ _).2.2
  obtain ⟨d', saved⟩ := OnDisk.save_of_taken taken (RuleFile.encode .json (merge rules incoming).1)
  have done : s.importFrom p false d =
      (.ok ⟨(merge rules incoming).2, [s.savedLine (merge rules incoming).1]⟩, d') := by
    simp [importFrom_eq, loads, kept, stored, Store.save, saved]
  refine ⟨?_, _, d', done, ?_⟩
  · have answer : (ofRules (rules ++ incoming)).redirect? "https://a.example/x" =
        some ⟨"b.example/x", some 0⟩ := by decide +kernel
    exact ⟨_, answer, shadow (rules ++ incoming) 1 0 _ _ Nat.zero_lt_one rfl rfl rfl _ _ answer⟩
  · obtain ⟨incoming', rules', list, loads', kept', stored', -, answers⟩ :=
      imported s d p false _ d' done
    obtain rfl := Except.ok.inj (loads.symm.trans loads')
    obtain rfl := Except.ok.inj (stored.symm.trans kept')
    exact ⟨list, stored', answers joined'⟩

/-- What an import stores may answer otherwise than the two lists as they are: a source
with U+1F600 in two halves does not accept that character, and the stored one does. -/
theorem not_sameAnswers_of_import :
    let s : Store := ⟨⟨"", ["store"]⟩⟩
    let p : Path := ⟨"", ["halves.yaml"]⟩
    ∃ incoming done d' stored, s.kept false halves = .ok [] ∧
      RuleFile.load halves p = .ok incoming ∧ s.importFrom p false halves = (.ok done, d') ∧
      s.list d' = .ok stored ∧
      (ofRules ([] ++ incoming)).redirect? "😀" = none ∧
      (ofRules stored).redirect? "😀" = some ⟨"b.example", some 0⟩ := by
  intro s p
  have ready : Ready s halves := ready_halves
  have missing : s.list halves = .ok [] := by cbv
  obtain ⟨d', saved, -, stored⟩ := list_save ready missing [⟨twoHalves, "b.example"⟩]
  have done : s.importFrom p false halves =
      (.ok ⟨⟨1, 0⟩, [s.savedLine [⟨twoHalves, "b.example"⟩]]⟩, d') := by
    have merged : merge [] [⟨twoHalves, "b.example"⟩] = ([⟨twoHalves, "b.example"⟩], ⟨1, 0⟩) := by
      decide
    simp [importFrom_eq, p, load_halves, kept, missing, merged, saved]
  refine ⟨_, _, d', _, missing, load_halves, done, stored, ?_, ?_⟩ <;> decide +kernel

end Store

end Reroute
