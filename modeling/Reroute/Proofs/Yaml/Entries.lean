import Reroute.Proofs.Yaml.Scanning

/-!
# Tokens of a written rule list

Between two rules the scanner stands in front of the text of the rules that are left, with
the map of the last rule still open. One rule takes it seven rounds, and by induction all
rules give their tokens one after the other (`run_rules`).
-/

namespace Reroute.Yaml

def sourceKey : List Char := ['f', 'r', 'o', 'm']

def destinationKey : List Char := ['t', 'o']

/-- The entries of a rule, with its two texts. -/
def writtenRule (texts : String × String) : List Char :=
  writeEntry "- from:" texts.1 ++ writeEntry "  to:" texts.2

def ruleTokens (texts : String × String) : List Token :=
  [.blockEntry, .blockMappingStart,
    .key, .scalar true "from", .value, .scalar (Scanner.isPlain texts.1) texts.1,
    .key, .scalar true "to", .value, .scalar (Scanner.isPlain texts.2) texts.2]

def listTokens (rules : List (String × String)) : List Token :=
  .blockSequenceStart :: rules.flatMap (fun texts => ruleTokens texts ++ [.blockEnd]) ++
    [.blockEnd, .streamEnd]

/-! ## The text -/

theorem writeText_eq_cons (column : Nat) (text : Points) :
    ∃ t, writeText column text = ' ' :: t := by
  unfold writeText
  dsimp only
  split <;> exact ⟨_, rfl⟩

/-- The text of a rule from its second key on, and what follows. -/
def secondPair (texts : String × String) (rest : List Char) : List Char :=
  destinationKey ++ ':' :: (writeText 5 texts.2 ++ '\n' :: rest)

/-- The text of a rule from its first key on, and what follows. -/
def firstPair (texts : String × String) (rest : List Char) : List Char :=
  sourceKey ++ ':' :: (writeText 7 texts.1 ++
    '\n' :: (List.replicate 2 ' ' ++ secondPair texts rest))

theorem writtenRule_append (texts : String × String) (rest : List Char) :
    writtenRule texts ++ rest = '-' :: ' ' :: firstPair texts rest := by
  have front : "- from:".toList = '-' :: ' ' :: (sourceKey ++ [':']) := by decide
  have back : "  to:".toList = List.replicate 2 ' ' ++ (destinationKey ++ [':']) := by decide
  have widths : "- from:".toList.length = 7 ∧ "  to:".toList.length = 5 := by decide
  rw [writtenRule, writeEntry, writeEntry, widths.1, widths.2, front, back, firstPair, secondPair]
  simp only [List.cons_append, List.append_assoc, List.nil_append]

theorem ahead_secondPair (texts : String × String) (rest : List Char) :
    Ahead (List.replicate 2 ' ' ++ secondPair texts rest) 2 (secondPair texts rest) where
  eq := rfl
  seen := seen_head ⟨by decide, by decide⟩ _
  number := by simp [secondPair, destinationKey]
  inside c left := Cursor.not_atSeparator left (by decide) (by decide)

theorem ahead_rules (rules : List (String × String)) :
    Ahead (rules.flatMap writtenRule) 0 (rules.flatMap writtenRule) := by
  cases rules with
  | nil =>
    refine ⟨rfl, fun c hc => by simp at hc, by simp, fun c left => ?_⟩
    have left' : c.rest = [] := left
    simp [Cursor.atSeparator, Cursor.atMark, left']
  | cons texts rules =>
    rw [List.flatMap_cons, writtenRule_append]
    refine ⟨rfl, seen_head ⟨by decide, by decide⟩ _, by simp, fun c left => ?_⟩
    simp [Cursor.atSeparator, Cursor.atMark, left]

/-! ## One rule -/

namespace Scanner

theorem isKey_sourceKey : IsKey sourceKey where
  filled := by decide
  seen := List.forall_iff_forall_mem.mp (by decide)
  letters := List.forall_iff_forall_mem.mp (by decide)
  short := by decide

theorem isKey_destinationKey : IsKey destinationKey where
  filled := by decide
  seen := List.forall_iff_forall_mem.mp (by decide)
  letters := List.forall_iff_forall_mem.mp (by decide)
  short := by decide

/-- The state behind the indicator of an entry of the list. -/
def atEntry (c : Cursor) (T : List Token) : Scanner := ⟨c, .blockEntry :: T, 0, 0, [-1], true, []⟩

/-- The state behind the last value of a rule. -/
def behindRule (c : Cursor) (T : List Token) (allowed : Bool) : Scanner :=
  ⟨c, T, 0, 2, [0, -1], allowed, []⟩

variable {i l : Nat} {T : List Token} {after s : List Char}

theorem reaches_pair {start : Scanner} {word : List Char} {column n : Nat} {indent : Int}
    {outer : List Int} (key : IsKey word) (text : String)
    (approached : start.approach =
      .ok ⟨⟨word ++ ':' :: (writeText (column + word.length + 1) text ++ '\n' :: after), i, l,
        column⟩, T, 0, indent, outer, true, []⟩)
    (inside : column ≠ 0) (right : indent ≤ column) (ahead : Ahead after n s) (near : n ≤ column)
    (far : column < laterColumn) :
    ∃ c allowed, AtEnd after s n c allowed ∧
      Reaches 3 start ⟨c, .scalar (isPlain text) text :: .value :: .scalar true (.ofList word) ::
          .key :: (if indent < column then .blockMappingStart :: T else T), 0, column,
        if indent < column then indent :: outer else outer, allowed, []⟩ := by
  obtain ⟨t, value⟩ := writeText_eq_cons (column + word.length + 1) text
  rw [value] at approached
  have keyed := reaches_key key approached inside right
  let T' : List Token := .value :: .scalar true (.ofList word) :: .key ::
    (if indent < column then .blockMappingStart :: T else T)
  let outer' : List Int := if indent < column then indent :: outer else outer
  have near' : (n : Int) < column + 1 := by omega
  have far' : (column : Int) + 1 ≤ laterColumn := by omega
  have right' : (column : Int) ≤ (column + word.length + 1 : Nat) := by omega
  obtain ⟨c, allowed, valued, ended⟩ : ∃ c allowed,
      Reaches 1 ⟨⟨writeText (column + word.length + 1) text ++ '\n' :: after,
          i + word.length + 1, l, column + word.length + 1⟩, T', 0, column, outer', false, []⟩
        ⟨c, .scalar (isPlain text) text :: T', 0, column, outer', allowed, []⟩ ∧
      AtEnd after s n c allowed := reaches_value text ahead near' far' right'
  rw [value] at valued
  exact ⟨c, allowed, ended, keyed.trans valued⟩

/-- The keys and values of a rule are scanned in six rounds. -/
theorem reaches_rule (texts : String × String) (ahead : Ahead after 0 s) :
    ∃ c allowed, AtEnd after s 0 c allowed ∧
      Reaches 6 (atEntry ⟨' ' :: firstPair texts after, i, l, 1⟩ T)
        (behindRule c ((ruleTokens texts).reverse ++ T) allowed) := by
  have second := ahead_secondPair texts after
  let s₁ : Scanner := ⟨⟨firstPair texts after, i + 1, l, 2⟩, .blockEntry :: T, 0, 0, [-1], true, []⟩
  have approached₁ : (atEntry ⟨' ' :: firstPair texts after, i, l, 1⟩ T).approach = .ok s₁ :=
    approach_space (seen_head ⟨by decide, by decide⟩ _) (by simp [firstPair, sourceKey]) (by decide)
  obtain ⟨c₁, allowed₁, ended₁, source⟩ := reaches_pair isKey_sourceKey texts.1 approached₁
    (by decide) (by decide) second (by decide) (by decide)
  let T₁ : List Token := .scalar (isPlain texts.1) texts.1 :: .value ::
    .scalar true (.ofList sourceKey) :: .key :: .blockMappingStart :: .blockEntry :: T
  obtain ⟨i', l', approached₂⟩ : ∃ i' l', approach ⟨c₁, T₁, 0, 2, [0, -1], allowed₁, []⟩ =
      .ok ⟨⟨secondPair texts after, i', l', 2⟩, T₁, 0, 2, [0, -1], true, []⟩ :=
    approach_of_atEnd second ended₁
  obtain ⟨c₂, allowed₂, ended₂, destination⟩ := reaches_pair isKey_destinationKey texts.2
    approached₂ (by decide) (by decide) ahead (by decide) (by decide)
  exact ⟨c₂, allowed₂, ended₂, source.trans destination⟩

/-! ## All rules -/

theorem reaches_firstEntry (t : List Char) :
    Reaches 1 (start ('-' :: ' ' :: t)) (atEntry ⟨' ' :: t, 1, 0, 1⟩ [.blockSequenceStart]) := by
  have moved : nextToken (('-' :: ' ' :: t).length + 1) (Cursor.start ('-' :: ' ' :: t)) =
      (false, Cursor.start ('-' :: ' ' :: t)) :=
    nextToken_of_spaces (n := 0) _ rfl (seen_head ⟨by decide, by decide⟩ _) (by simp)
  have approached : (start ('-' :: ' ' :: t)).approach = .ok (start ('-' :: ' ' :: t)) := by
    rw [approach_eq rfl moved (by simp [start])]
    rfl
  refine reaches_one approached ?_ (by simp [atEntry])
  rw [fetch_entry rfl]
  rfl

/-- Behind a rule its map ends, and the next entry begins. -/
theorem reaches_nextEntry {c : Cursor} {allowed : Bool} {t : List Char}
    (ahead : Ahead after 0 ('-' :: ' ' :: t)) (ended : AtEnd after ('-' :: ' ' :: t) 0 c allowed) :
    ∃ i l, Reaches 1 (behindRule c T allowed) (atEntry ⟨' ' :: t, i, l, 1⟩ (.blockEnd :: T)) := by
  obtain ⟨i, l, approached⟩ : ∃ i l, (behindRule c T allowed).approach =
      .ok ⟨⟨'-' :: ' ' :: t, i, l, 0⟩, .blockEnd :: T, 0, 0, [-1], true, []⟩ :=
    approach_of_atEnd ahead ended
  refine ⟨i + 1, l, reaches_one approached ?_ (by simp [atEntry])⟩
  rw [fetch_entry rfl]
  rfl

theorem run_end {c : Cursor} {allowed : Bool} (ended : AtEnd [] [] 0 c allowed) (more : Nat) :
    run (more + 1) (behindRule c T allowed) =
      (T.reverse ++ [.blockEnd, .blockEnd, .streamEnd], none) := by
  obtain ⟨i, l, approached⟩ : ∃ i l, (behindRule c T allowed).approach =
      .ok ⟨⟨[], i, l, 0⟩, .blockEnd :: T, 0, 0, [-1], true, []⟩ :=
    approach_of_atEnd (ahead_rules []) ended
  have fetched : fetch ⟨⟨[], i, l, 0⟩, .blockEnd :: T, 0, 0, [-1], true, []⟩ =
      .ok ⟨⟨[], i, l, 0⟩, .streamEnd :: .blockEnd :: .blockEnd :: T, 0, -1, [], false, []⟩ := by
    rw [fetch_end rfl]
    rfl
  rw [run, approached]
  simp [bind, Except.bind, fetched, settled]

/-- The rules that are left give their tokens behind those that came already. -/
theorem run_rules (rules : List (String × String)) {c : Cursor} {allowed : Bool} {T : List Token}
    (ended : AtEnd (rules.flatMap writtenRule) (rules.flatMap writtenRule) 0 c allowed)
    (more : Nat) :
    run (more + 1 + 7 * rules.length) (behindRule c T allowed) =
      (T.reverse ++ .blockEnd :: rules.flatMap (fun texts => ruleTokens texts ++ [.blockEnd]) ++
        [.blockEnd, .streamEnd], none) := by
  induction rules generalizing c allowed T with
  | nil =>
    rw [List.length_nil, Nat.mul_zero, Nat.add_zero, run_end ended more]
    simp
  | cons texts rules ih =>
    have here := ahead_rules (texts :: rules)
    rw [List.flatMap_cons, writtenRule_append] at here ended
    obtain ⟨i, l, entry⟩ := reaches_nextEntry (T := T) here ended
    obtain ⟨c', allowed', ended', rule⟩ :=
      reaches_rule (i := i) (l := l) (T := .blockEnd :: T) texts (ahead_rules rules)
    have rounds : more + 1 + 7 * (texts :: rules).length =
        (more + 1 + 7 * rules.length) + (6 + 1) := by
      rw [List.length_cons]
      omega
    rw [rounds, entry.trans rule, ih ended']
    simp

end Scanner

/-- The text of a rule list that is not empty gives the tokens of that list. -/
theorem run_written (texts : String × String) (rules : List (String × String)) (more : Nat) :
    Scanner.run (more + 1 + 7 * (texts :: rules).length)
        (Scanner.start ((texts :: rules).flatMap writtenRule)) =
      (listTokens (texts :: rules), none) := by
  rw [List.flatMap_cons, writtenRule_append]
  obtain ⟨c, allowed, ended, rule⟩ :=
    Scanner.reaches_rule (i := 1) (l := 0) (T := [.blockSequenceStart]) texts (ahead_rules rules)
  have rounds : more + 1 + 7 * (texts :: rules).length =
      (more + 1 + 7 * rules.length) + (6 + 1) := by
    rw [List.length_cons]
    omega
  rw [rounds, (Scanner.reaches_firstEntry _).trans rule, Scanner.run_rules rules ended]
  simp [listTokens]

end Reroute.Yaml
