import Reroute.Proofs.Match.Captures

/-!
# What a substitution says

In the substitution of a request rule a backslash with a digit stands for what a group
captured, or for the whole match; two backslashes stand for one, and every other character
for itself (`parts`). The destination of a leading rule is put into its substitution as it
is, and a reference to the group for the rest stands behind it. So the request rule sends a
URL where the rule does if the destination is read as itself (`Literal`), and else there are
URLs that it sends elsewhere (`sent_iff_literal`): a backslash in the destination may start a
reference or an escape, and one at its end takes the reference to the rest of the URL away.
-/

namespace Reroute

namespace Substitution

inductive Part where
  | char (c : Code)
  /-- What the group with a number captured; number 0 is the whole match. -/
  | group (n : Nat)
  deriving Repr, DecidableEq

def parts : List Code → List Part
  | '\\' :: c :: s =>
    if c = '\\' then .char '\\' :: parts s
    else if c.is Char.isDigit then .group (c.toNat - '0'.toNat) :: parts s
    else .char '\\' :: parts (c :: s)
  | c :: s => .char c :: parts s
  | [] => []

/-- The text of a part, where `groups` are the whole match and what each group captured. -/
def Part.text? (groups : List (List Code)) : Part → Option (List Code)
  | .char c => some [c]
  | .group n => groups[n]?

/-- The text of parts; there is none if a group is missing. -/
def fill? (groups : List (List Code)) : List Part → Option (List Code)
  | [] => some []
  | p :: ps => do return (← p.text? groups) ++ (← fill? groups ps)

def expand? (groups : List (List Code)) (s : List Code) : Option (List Code) :=
  fill? groups (parts s)

/-- Every backslash in the text has a character behind it that is neither a backslash nor a
digit. -/
def Literal (s : List Code) : Prop :=
  ∀ rest, ('\\' : Code) :: rest <:+ s →
    ∃ c ∈ rest.head?, c ≠ '\\' ∧ c.is Char.isDigit = false

def firstGroup : List Code := ['\\', '1']

/-! ## Filling -/

theorem fill?_append (groups : List (List Code)) (ps qs : List Part) :
    fill? groups (ps ++ qs) = do return (← fill? groups ps) ++ (← fill? groups qs) := by
  induction ps with
  | nil => cases h : fill? groups qs <;> simp [fill?, h]
  | cons p ps ih =>
    simp only [List.cons_append, fill?, ih]
    cases p.text? groups <;> cases fill? groups ps <;> cases fill? groups qs <;> simp

theorem fill?_chars (groups : List (List Code)) (s : List Code) :
    fill? groups (s.map .char) = some s := by
  induction s with
  | nil => rfl
  | cons c s ih => simp [fill?, Part.text?, ih]

/-- Parts whose text is shorter than everything captured refer to no group. -/
theorem eq_of_fill?_short {groups : List (List Code)} {ps : List Part} {s : List Code}
    (filled : fill? groups ps = some s) (short : ∀ g ∈ groups, s.length < g.length) :
    ps = s.map .char := by
  induction ps generalizing s with
  | nil =>
    obtain rfl := Option.some.inj filled
    rfl
  | cons p ps ih =>
    cases first : p.text? groups with
    | none => simp [fill?, first] at filled
    | some t =>
      cases others : fill? groups ps with
      | none => simp [fill?, first, others] at filled
      | some u =>
        obtain rfl : t ++ u = s := by simpa [fill?, first, others] using filled
        cases p with
        | char c =>
          obtain rfl := Option.some.inj first
          have rest := ih others fun g hg => by
            have := short g hg
            simp only [List.length_append, List.length_singleton] at this
            omega
          rw [rest, List.singleton_append, List.map_cons]
        | group n =>
          have long := short t (List.mem_of_getElem? first)
          rw [List.length_append] at long
          omega

/-! ## Reading -/

theorem parts_cons {c : Code} (h : c ≠ '\\') (s : List Code) :
    parts (c :: s) = .char c :: parts s := by
  rw [parts]
  exact fun d t same => absurd same h

/-- The number of characters that the parts need at least. -/
def weight : List Part → Nat
  | [] => 0
  | .char _ :: ps => weight ps + 1
  | .group _ :: ps => weight ps + 2

theorem weight_parts_le (s : List Code) : weight (parts s) ≤ s.length := by
  fun_induction parts s with
  | case1 s ih => simp only [weight, List.length_cons]; omega
  | case2 c s _ _ ih => simp only [weight, List.length_cons]; omega
  | case3 c s _ _ ih => simp only [weight, List.length_cons] at ih ⊢; omega
  | case4 c s _ ih => simp only [weight, List.length_cons]; omega
  | case5 => exact Nat.le_refl 0

theorem weight_literal (s : List Code) : weight (s.map .char ++ [.group 1]) = s.length + 2 := by
  induction s with
  | nil => rfl
  | cons c s ih => simp only [List.map_cons, List.cons_append, weight, ih, List.length_cons]

theorem Literal.of_cons {c : Code} {s : List Code} (h : Literal (c :: s)) : Literal s :=
  fun rest suffix => h rest (suffix.trans (List.suffix_cons c s))

theorem parts_append_of_literal {s : List Code} (h : Literal s) (t : List Code) :
    parts (s ++ t) = s.map .char ++ parts t := by
  induction s with
  | nil => rfl
  | cons c s ih =>
    have rest := ih h.of_cons
    by_cases backslash : c = '\\'
    · subst backslash
      obtain ⟨d, hd, single, noDigit⟩ := h s (List.suffix_refl _)
      obtain ⟨u, rfl⟩ : ∃ u, s = d :: u := List.head?_eq_some_iff.mp hd
      simp only [List.cons_append, parts, if_neg single, noDigit, Bool.false_eq_true, if_false]
      rw [← List.cons_append, rest]
      rfl
    · rw [List.cons_append, parts_cons backslash, rest]
      rfl

/-- A text is read as itself in front of the reference if and only if it is literal. -/
theorem parts_eq_iff_literal (s : List Code) :
    parts (s ++ firstGroup) = s.map .char ++ [.group 1] ↔ Literal s := by
  refine ⟨fun read => ?_, fun h => parts_append_of_literal h firstGroup⟩
  induction s with
  | nil =>
    intro rest suffix
    exact absurd (List.suffix_nil.mp suffix) (List.cons_ne_nil _ _)
  | cons c s ih =>
    by_cases backslash : c = '\\'
    · subst backslash
      cases s with
      | nil => simp [parts, firstGroup] at read
      | cons d u =>
        simp only [List.cons_append, parts] at read
        split at read
        · -- An escape is one part for two characters, so that the parts weigh too little.
          next escape =>
          have light := weight_parts_le (u ++ firstGroup)
          have heavy : weight (parts (u ++ firstGroup)) = (d :: u).length + 2 := by
            rw [← weight_literal, (List.cons.inj read).2]
            rfl
          rw [heavy, List.length_append, List.length_cons] at light
          simp [firstGroup] at light
        · split at read
          · simp at read
          · next single digit =>
            have later := ih (List.cons.inj read).2
            intro rest suffix
            rcases List.suffix_cons_iff.mp suffix with same | inner
            · obtain rfl := (List.cons.inj same).2
              exact ⟨d, rfl, single, by simpa using digit⟩
            · exact later rest inner
    · rw [List.cons_append, parts_cons backslash] at read
      have later := ih (List.cons.inj read).2
      intro rest suffix
      rcases List.suffix_cons_iff.mp suffix with same | inner
      · exact absurd (List.cons.inj same).1.symm backslash
      · exact later rest inner

instance (s : List Code) : Decidable (Literal s) := decidable_of_iff _ (parts_eq_iff_literal s)

/-- Behind any text the reference is either read as one, or its digit is read as itself. -/
theorem parts_append_firstGroup (s : List Code) :
    parts (s ++ firstGroup) = parts s ++ [.group 1] ∨
      ∃ ps, parts (s ++ firstGroup) = ps ++ [.char '1'] := by
  fun_induction parts s with
  | case1 s ih =>
    rcases ih with read | ⟨ps, read⟩
    · left; simp [parts, read]
    · exact .inr ⟨.char '\\' :: ps, by simp [parts, read]⟩
  | case2 c s h digit ih =>
    rcases ih with read | ⟨ps, read⟩
    · left; simp [parts, h, digit, read]
    · exact .inr ⟨.group (c.toNat - '0'.toNat) :: ps, by simp [parts, h, digit, read]⟩
  | case3 c s h digit ih =>
    rcases ih with read | ⟨ps, read⟩
    · left; simpa [parts, h, digit] using read
    · exact .inr ⟨.char '\\' :: ps, by simpa [parts, h, digit] using read⟩
  | case4 c s single ih =>
    by_cases backslash : c = '\\'
    · -- It is the last character, and goes with the backslash of the reference.
      subst backslash
      cases s with
      | nil => exact .inr ⟨[.char '\\'], by decide⟩
      | cons d t => exact (single d t rfl rfl).elim
    · rw [List.cons_append, parts_cons backslash]
      rcases ih with read | ⟨ps, read⟩
      · exact .inl (by rw [read]; rfl)
      · exact .inr ⟨.char c :: ps, by rw [read]; rfl⟩
  | case5 => exact .inl rfl

/-- A text is literal if it stays in front of any line that a group captures, once the
reference to the group behind it is filled. -/
theorem literal_of_expand? {s : List Code} (start : List Code) (h : ∀ rest, ('\n' : Code) ∉ rest →
    expand? [start ++ rest, rest] (s ++ firstGroup) = some (s ++ rest)) : Literal s := by
  rw [← parts_eq_iff_literal]
  rcases parts_append_firstGroup s with read | ⟨ps, read⟩
  · -- A rest that is longer than the text shows that there is no other reference.
    let rest : List Code := List.replicate (s.length + 1) 'a'
    have filled : fill? [start ++ rest, rest] (parts s) = some s := by
      have both := h rest (by simp [rest])
      rw [expand?, read, fill?_append] at both
      cases front : fill? [start ++ rest, rest] (parts s) with
      | none => simp [front] at both
      | some t => simpa [front, fill?, Part.text?] using both
    have short : ∀ g ∈ [start ++ rest, rest], s.length < g.length := by
      have size : rest.length = s.length + 1 := List.length_replicate
      simp only [List.mem_cons, List.not_mem_nil, or_false, forall_eq_or_imp, forall_eq,
        List.length_append]
      omega
    rw [read, eq_of_fill?_short filled short]
  · -- The text that is made ends in the digit, whatever the group captures.
    have both := h [('a' : Code)] (by decide)
    rw [expand?, read, fill?_append] at both
    cases front : fill? [start ++ [('a' : Code)], [('a' : Code)]] ps with
    | none => simp [front] at both
    | some t => simp [front, fill?, Part.text?] at both

end Substitution

namespace NetRequest

/-! ## Where a request rule sends a URL -/

/-- Where a browser sends a URL by a request rule with a regular expression: the groups of
the first way to match fill the substitution. A filter stands for whole lines, so the whole
match is the URL. -/
def Entry.sent? (e : Entry) (url : Points) : Option Points :=
  match e.filter, e.target with
  | .regex filter, .substitution text => do
    let nodes ← Regex.nodes? filter.toList
    let groups ← (Regex.waysOn nodes url.toList).head?
    return ⟨← Substitution.expand? (url.toList :: groups) text.toList⟩
  | _, _ => none

theorem sent?_ofRule {r : Rule} (leading : r.kind = .leading) (id : Nat) {url : Points}
    (line : ('\n' : Code) ∉ url.toList) :
    (ofRule r id).sent? url =
      (r.source.toList.isPrefixOf? url.toList).bind fun rest =>
        (Substitution.expand? [url.toList, rest]
          (r.destination.toList ++ Substitution.firstGroup)).map Points.mk := by
  have kind : (Matcher.ofRule r).kind = .leading := by
    rw [Matcher.ofRule, leading]
    rfl
  have text : (r.destination ++ ("\\1" : Points)).toList =
      r.destination.toList ++ Substitution.firstGroup := rfl
  simp only [ofRule, kind, Entry.sent?, nodes?_leadingFilter, text,
    Option.bind_eq_bind, Option.bind_some, waysOn_filterNodes _ line]
  cases r.source.toList.isPrefixOf? url.toList with
  | none => rfl
  | some rest =>
    cases found : Substitution.expand? [url.toList, rest]
        (r.destination.toList ++ Substitution.firstGroup) <;> simp [found]

/-- On URLs of one line a request rule does what its leading rule does if and only if the
destination of the rule is read as itself in a substitution. A source with a line feed starts
no such URL. -/
theorem sent_iff_literal (r : Rule) (id : Nat) (leading : r.kind = .leading) :
    (∀ url : Points, ('\n' : Code) ∉ url.toList →
      (ofRule r id).sent? url = (Matcher.ofRule r).rewrite? url) ↔
        Substitution.Literal r.destination.toList ∨ ('\n' : Code) ∈ r.source.toList := by
  have matcher : Matcher.ofRule r = .leading r.source r.destination := by
    rw [Matcher.ofRule, leading]
    rfl
  constructor
  · intro h
    by_cases feed : ('\n' : Code) ∈ r.source.toList
    · exact .inr feed
    left
    refine Substitution.literal_of_expand? r.source.toList fun rest line => ?_
    let url : Points := ⟨r.source.toList ++ rest⟩
    have oneLine : ('\n' : Code) ∉ url.toList := by
      rw [List.mem_append, not_or]
      exact ⟨feed, line⟩
    have found : r.source.toList.isPrefixOf? url.toList = some rest :=
      List.isPrefixOf?_eq_some_iff_append_eq.mpr rfl
    have sent := h url oneLine
    rw [sent?_ofRule leading id oneLine, matcher, Matcher.rewrite?, found,
      Option.bind_some, Option.map_some, Option.map_eq_some_iff] at sent
    obtain ⟨text, made, same⟩ := sent
    obtain rfl : text = r.destination.toList ++ rest := congrArg Points.toList same
    exact made
  · intro literal url line
    rw [sent?_ofRule leading id line, matcher, Matcher.rewrite?]
    cases found : r.source.toList.isPrefixOf? url.toList with
    | none => rfl
    | some rest =>
      have whole := List.isPrefixOf?_eq_some_iff_append_eq.mp found
      have noFeed : ('\n' : Code) ∉ r.source.toList := fun feed =>
        line (whole ▸ List.mem_append_left _ feed)
      have read := (Substitution.parts_eq_iff_literal _).mpr (literal.resolve_right noFeed)
      rw [Option.bind_some, Substitution.expand?, read]
      simp [Substitution.fill?_append, Substitution.fill?_chars, Substitution.fill?,
        Substitution.Part.text?, Points.ext_iff]

/-- A backslash in front of a letter is read as itself. -/
theorem sent_iff_literal_letter :
    let r : Rule := ⟨"https://old.example/", "https://new.example/a\\b"⟩
    r.kind = .leading ∧ ∀ url : Points, ('\n' : Code) ∉ url.toList →
      (ofRule r 1).sent? url = (Matcher.ofRule r).rewrite? url := by
  intro r
  have leading : r.kind = .leading := by decide
  exact ⟨leading, (sent_iff_literal r 1 leading).mpr (.inl (by decide))⟩

/-- A backslash at the end of a destination takes the place of the rest of the URL. -/
theorem sent_without_rest :
    let r : Rule := ⟨"https://old.example/", "https://new.example/a\\"⟩
    let url : Points := "https://old.example/x"
    r.kind = .leading ∧ ('\n' : Code) ∉ url.toList ∧
      (Matcher.ofRule r).rewrite? url = some ("https://new.example/a\\x" : Points) ∧
      (ofRule r 1).sent? url = some ("https://new.example/a\\1" : Points) := by
  decide +kernel

end NetRequest

end Reroute
