import Reroute.Proofs.Text.Points
import Reroute.Proofs.Yaml.Plain
import Reroute.Yaml.Scanner

/-!
# Tokens of a written rule list

The scanner goes over the text of a rule list entry by entry. Between two tokens its state
is known but for the line and the number of characters before it, which matter only where
a token may become a key: there both lie on one line.
-/

namespace Reroute

namespace Yaml

/-! ## Choosing the quotes -/

/-- A text that needs no escape. -/
structure IsUsual (text : List Char) : Prop where
  usual : ∀ c ∈ text, isSpecial c = false
  turns : TakeTurns .start (runs text)

theorem styleOf_cases (text : String) :
    styleOf text = .double ∨ (styleOf text = .single ∧ IsUsual text.toList) ∨
      (styleOf text = .plain ∧ IsBare text.toList ∧ implicitTag text = .str) := by
  unfold styleOf
  dsimp only
  split
  · exact .inl rfl
  · next escapeless =>
    right
    simp only [Bool.or_eq_true, not_or, Bool.not_eq_true, List.any_eq_false] at escapeless
    obtain ⟨⟨usual, before⟩, behind⟩ := escapeless
    have usual' : ∀ c ∈ text.toList, isSpecial c = false := fun c hc => by simpa using usual c hc
    have turns := takeTurns_runs before behind
    split
    · exact .inl ⟨rfl, usual', turns⟩
    · next plain =>
      simp only [Bool.or_eq_true, decide_eq_true_eq, not_or, Bool.not_eq_true, ne_eq,
        not_not] at plain
      obtain ⟨⟨⟨⟨⟨str, begins⟩, breaks⟩, flat⟩, front⟩, back⟩ := plain
      refine .inr ⟨rfl, ⟨usual', turns, breaksOff_space begins breaks, begins, ?_, ?_, front, back⟩,
        str⟩
      · intro empty
        obtain rfl : text = "" := String.toList_inj.mp empty
        exact absurd str (by decide +kernel)
      · simpa using flat

namespace Scanner

/-! ## The way to the next token -/

theorem skipSpaces_eq {c : Cursor} {n : Nat} {s : List Char}
    (left : c.rest = List.replicate n ' ' ++ s) (seen : ∀ ch ∈ s.head?, IsSeen ch) :
    c.skipSpaces = ⟨s, c.index + n, c.line, c.column + n⟩ := by
  have none : s.takeWhile (fun ch => decide (ch = ' ')) = [] := by
    cases s with
    | nil => rfl
    | cons ch t =>
      refine List.takeWhile_cons_of_neg ?_
      have := (seen ch rfl).not_blank
      simp_all [isBlankChar]
  have run : c.rest.takeWhile (fun ch => decide (ch = ' ')) = List.replicate n ' ' := by
    rw [left, List.takeWhile_append_of_pos (by simp), none, List.append_nil]
  have moved := Cursor.advanceBy_of_flat left fun ch hch => by
    rw [List.eq_of_mem_replicate hch]
    exact ⟨rfl, by decide⟩
  rw [List.length_replicate] at moved
  rw [Cursor.skipSpaces, Cursor.skip, Cursor.take, run, List.length_replicate, moved]

theorem nextToken_of_spaces {c : Cursor} {n : Nat} {s : List Char} (rounds : Nat)
    (left : c.rest = List.replicate n ' ' ++ s) (seen : ∀ ch ∈ s.head?, IsSeen ch)
    (number : s.head? ≠ some '#') :
    nextToken (rounds + 1) c = (false, ⟨s, c.index + n, c.line, c.column + n⟩) := by
  have flat : s.head?.any isBreak = false := by
    cases s with
    | nil => rfl
    | cons ch t => exact (seen ch rfl).not_break
  rw [nextToken, skipSpaces_eq left seen]
  simp [skipComment, Cursor.peek, number, flat]

theorem nextToken_of_feed {c : Cursor} {n : Nat} {after s : List Char} (rounds : Nat)
    (ahead : Ahead after n s) (left : c.rest = '\n' :: after) :
    ∃ i l, nextToken (rounds + 2) c = (true, ⟨s, i, l, n⟩) := by
  have here : c.skipSpaces = c := by
    rw [Cursor.skipSpaces, Cursor.skip, Cursor.take, left]
    rfl
  have peeked : c.peek = some '\n' := Cursor.peek_eq left
  have step := Cursor.advance_of_feed left
  have next : c.advance.rest = List.replicate n ' ' ++ s := by rw [step, ahead.eq]
  have rest := nextToken_of_spaces rounds next ahead.seen ahead.number
  refine ⟨c.advance.index + n, c.advance.line, ?_⟩
  have noComment : skipComment c = c := by rw [skipComment, peeked, if_neg (by decide)]
  rw [nextToken, here, noComment, peeked, if_pos (by rfl), Cursor.takeBreak_of_feed left]
  dsimp only
  rw [rest, step]
  simp

/-- The scanner moves to the next token and keeps what may still become a key. -/
theorem approach_eq {s : Scanner} {c : Cursor} {ended : Bool}
    (order : s.cursor.peek.any (fun ch => ch.toNat = 0xFEFF) = false)
    (moved : nextToken (s.cursor.rest.length + 1) s.cursor = (ended, c))
    (kept : ∀ e ∈ s.pending, (s.goTo c).isStale e.2 = false) :
    s.approach = .ok (unwind { s with
      cursor := c, keyAllowed := s.keyAllowed || (ended && s.level = 0) } c.column) := by
  have fresh : ∀ e ∈ s.pending, isStale { s with
      cursor := c, keyAllowed := s.keyAllowed || (ended && s.level = 0) } e.2 = false := kept
  rw [approach]
  dsimp only
  rw [order, Bool.and_false, if_neg Bool.false_ne_true, moved]
  dsimp only
  have filtered : s.pending.filter (fun e => !isStale { s with
      cursor := c, keyAllowed := s.keyAllowed || (ended && s.level = 0) } e.2) = s.pending :=
    List.filter_eq_self.mpr fun e he => by rw [fresh e he]; rfl
  have settled : s.pending.any (fun e => isStale { s with
      cursor := c, keyAllowed := s.keyAllowed || (ended && s.level = 0) } e.2 &&
        e.2.required) = false :=
    List.any_eq_false.mpr fun e he => by simp [fresh e he]
  rw [dropStale]
  dsimp only
  rw [filtered, settled]
  rfl

/-! ## One token -/

variable {s : Scanner} {t : List Char}

theorem fetch_entry (left : s.cursor.rest = '-' :: ' ' :: t) : s.fetch = s.fetchEntry := by
  have peeked : s.cursor.peek = some '-' := Cursor.peek_eq left
  have next : s.cursor.peekAt 1 = some ' ' := Cursor.peekAt_one_eq left
  have noMark (mark : Char) : s.cursor.atMark mark = false := by
    by_cases hyphen : mark = '-'
    · simp [Cursor.atMark, left, hyphen]
    · simp [Cursor.atMark, left, Ne.symm hyphen]
  simp [fetch, peeked, next, noMark, endsToken]

theorem fetch_colon (left : s.cursor.rest = ':' :: ' ' :: t) : s.fetch = s.fetchValue := by
  have peeked : s.cursor.peek = some ':' := Cursor.peek_eq left
  have next : s.cursor.peekAt 1 = some ' ' := Cursor.peekAt_one_eq left
  simp [fetch, peeked, next, Cursor.atMark, left, endsToken]

theorem fetch_singleQuote (left : s.cursor.rest = '\'' :: t) :
    s.fetch = s.fetchNode (quotedScalar false) := by
  have peeked : s.cursor.peek = some '\'' := Cursor.peek_eq left
  simp [fetch, peeked, Cursor.atMark, left]

theorem fetch_doubleQuote (left : s.cursor.rest = '"' :: t) :
    s.fetch = s.fetchNode (quotedScalar true) := by
  have peeked : s.cursor.peek = some '"' := Cursor.peek_eq left
  simp [fetch, peeked, Cursor.atMark, left]

theorem fetch_plain {ch : Char} (left : s.cursor.rest = ch :: t) (column : s.cursor.column ≠ 0)
    (block : s.level = 0) (begins : beginsPlain false ch t.head? = true) :
    s.fetch = s.fetchPlain := by
  have peeked : s.cursor.peek = some ch := Cursor.peek_eq left
  have next : s.cursor.peekAt 1 = t.head? := Cursor.peekAt_one_eq left
  by_cases indicator : indicators.contains ch = true
  · -- The three indicators that may begin a plain scalar.
    simp only [beginsPlain, indicator, Bool.or_true, Bool.not_true, Bool.false_or, Bool.not_false,
      Bool.true_and, Bool.and_eq_true, Bool.not_eq_true', Bool.or_eq_true, decide_eq_true_eq]
      at begins
    obtain ⟨stays, hyphen | question | colon⟩ := begins
    · simp [fetch, peeked, next, column, block, hyphen, stays, beginsPlain]
    · simp [fetch, peeked, next, column, block, question, stays, beginsPlain]
    · simp [fetch, peeked, next, column, block, colon, stays, beginsPlain]
  · simp only [indicators, List.contains_cons, List.contains_nil, Bool.or_false, Bool.or_eq_true,
      beq_iff_eq, not_or] at indicator
    simp [fetch, peeked, next, column, block, indicator, begins]

theorem fetch_end (left : s.cursor.rest = []) : s.fetch = s.fetchEnd := by
  have peeked : s.cursor.peek = none := by
    rw [Cursor.peek, left]
    rfl
  simp [fetch, peeked]

/-! ## Several tokens -/

/-- In some rounds the scanner gets from one state to another. -/
def Reaches (rounds : Nat) (s s' : Scanner) : Prop := ∀ more, run (more + rounds) s = run more s'

theorem Reaches.trans {m n : Nat} {s s' s'' : Scanner} (h : Reaches m s s')
    (h' : Reaches n s' s'') : Reaches (n + m) s s'' := by
  intro more
  rw [← Nat.add_assoc, h, h']

theorem reaches_one {s s₁ s' : Scanner} (approached : s.approach = .ok s₁)
    (fetched : s₁.fetch = .ok s') (going : s'.tokens.head? ≠ some .streamEnd) : Reaches 1 s s' := by
  intro more
  rw [run, approached]
  simp only [bind, Except.bind, fetched, if_neg going]

theorem unwind_of_le {s : Scanner} {column : Int} (right : s.indent ≤ column) :
    s.unwind column = s := by
  have stay : unwindFrom column s.outer s = s := by
    rw [unwindFrom.eq_def]
    exact if_pos right
  rw [unwind, stay, ite_self]

section Insertion

variable {c : Cursor} {level column : Nat} {indent : Int} {outer : List Int} {allowed : Bool}
  {pending : List (Nat × Pending)}

theorem insert_eq (new old : List Token) (t : Token) :
    insert ⟨c, new ++ old, level, indent, outer, allowed, pending⟩ old.length t =
      ⟨c, new ++ t :: old, level, indent, outer, allowed, pending⟩ := by
  have after : (new ++ old).length - old.length = new.length := by simp
  rw [insert]
  simp only [after, List.take_left, List.drop_left]

theorem indentAt_eq (new old : List Token) (start : Token) :
    indentAt ⟨c, new ++ old, 0, indent, outer, allowed, pending⟩ column old.length start =
      if indent < column then
        ⟨c, new ++ start :: old, 0, column, indent :: outer, allowed, pending⟩
      else ⟨c, new ++ old, 0, indent, outer, allowed, pending⟩ := by
  rw [indentAt, insert_eq]
  simp

/-- A token that has come last becomes a key, and a block may begin in front of it. -/
theorem indentAt_insert (word t start : Token) (old : List Token) :
    indentAt (insert ⟨c, word :: old, 0, indent, outer, allowed, pending⟩ old.length t) column
      old.length start =
      if indent < column then
        ⟨c, word :: t :: start :: old, 0, column, indent :: outer, allowed, pending⟩
      else ⟨c, word :: t :: old, 0, indent, outer, allowed, pending⟩ := by
  have inserted : insert ⟨c, word :: old, 0, indent, outer, allowed, pending⟩ old.length t =
      ⟨c, [word, t] ++ old, 0, indent, outer, allowed, pending⟩ := insert_eq [word] old t
  rw [inserted]
  exact indentAt_eq [word, t] old start

end Insertion

/-! ## Keys -/

structure IsKey (word : List Char) : Prop where
  filled : word ≠ []
  seen : ∀ c ∈ word, IsSeen c
  letters : ∀ c ∈ word, indicators.contains c = false
  short : word.length ≤ 1024

theorem plainRun_key {word : List Char} (key : IsKey word) (t : List Char) :
    plainRun false (word ++ ':' :: ' ' :: t) = word := by
  obtain ⟨-, seen, letters, -⟩ := key
  induction word with
  | nil => rfl
  | cons c word ih =>
    rw [List.forall_mem_cons] at seen letters
    have other : c ≠ ':' := by
      rintro rfl
      exact absurd letters.1 (by decide)
    rw [List.cons_append, plainRun, seen.1.not_endsToken, ih seen.2 letters.2]
    simp [other]

theorem plainScalar_key {word t : List Char} (key : IsKey word) (indent : Int) (i l column : Nat) :
    plainScalar false indent ⟨word ++ ':' :: ' ' :: t, i, l, column⟩ =
      (.scalar true (.ofList word), false,
        ⟨':' :: ' ' :: t, i + word.length, l, column + word.length⟩) := by
  have moved := Cursor.advanceBy_of_flat (c := ⟨word ++ ':' :: ' ' :: t, i, l, column⟩) rfl
    fun ch hch => ⟨(key.seen ch hch).not_break, (key.seen ch hch).not_byteOrder⟩
  obtain ⟨c, word', rfl⟩ := List.exists_cons_of_ne_nil key.filled
  have noNumber : c ≠ '#' := by
    rintro rfl
    exact absurd (key.letters '#' List.mem_cons_self) (by decide)
  have space : plainSpace ⟨':' :: ' ' :: t, i + (c :: word').length, l,
      column + (c :: word').length⟩ = ([], false, ⟨':' :: ' ' :: t, i + (c :: word').length, l,
      column + (c :: word').length⟩) := by
    simp [plainSpace, Cursor.take, Cursor.advanceBy, Cursor.peek, isBreak]
  rw [plainScalar, plainFrom]
  dsimp only
  rw [plainRun_key key, moved, space]
  simp [Cursor.peek, noNumber]

section Keys

variable {word t : List Char} {T : List Token} {i l column : Nat} {indent : Int}
  {outer : List Int}

/-- The scanner behind the word of a key, which it has not yet told from another scalar. -/
def behindWord (word t : List Char) (T : List Token) (i l column : Nat) (indent : Int)
    (outer : List Int) : Scanner :=
  ⟨⟨':' :: ' ' :: t, i + word.length, l, column + word.length⟩,
    .scalar true (.ofList word) :: T, 0, indent, outer, false,
    [(0, ⟨T.length, indent = column, i, l, column⟩)]⟩

theorem fetch_key (key : IsKey word) (inside : column ≠ 0) :
    fetch ⟨⟨word ++ ':' :: ' ' :: t, i, l, column⟩, T, 0, indent, outer, true, []⟩ =
      .ok (behindWord word t T i l column indent outer) := by
  obtain ⟨c, word', cons⟩ := List.exists_cons_of_ne_nil key.filled
  have letter : beginsPlain false c (word' ++ ':' :: ' ' :: t).head? = true := by
    have seen := key.seen c (by simp [cons])
    have letter := key.letters c (by simp [cons])
    rw [beginsPlain, seen.not_endsToken, letter]
    rfl
  rw [fetch_plain (by rw [cons]; rfl) inside rfl letter, fetchPlain, savePending]
  simp [dropPending, require, bind, Except.bind, pure, Except.pure, plainScalar_key key, goTo,
    push, behindWord]

/-- The word may still be a key when the colon comes, on the same line. -/
theorem approach_behindWord (key : IsKey word) (right : indent ≤ column) :
    (behindWord word t T i l column indent outer).approach =
      .ok (behindWord word t T i l column indent outer) := by
  let s := behindWord word t T i l column indent outer
  have here : nextToken (s.cursor.rest.length + 1) s.cursor = (false, s.cursor) :=
    nextToken_of_spaces (n := 0) _ rfl (seen_head ⟨by decide, by decide⟩ _) (by simp)
  have kept : ∀ e ∈ s.pending, (s.goTo s.cursor).isStale e.2 = false := by
    intro e he
    obtain rfl := List.mem_singleton.mp he
    have near := key.short
    simp [isStale, goTo, s, behindWord]
    omega
  rw [approach_eq rfl here kept, unwind_of_le]
  · rfl
  · show indent ≤ ((column + word.length : Nat) : Int)
    omega

theorem fetch_behindWord (right : indent ≤ column) :
    (behindWord word t T i l column indent outer).fetch =
      .ok ⟨⟨' ' :: t, i + word.length + 1, l, column + word.length + 1⟩,
        .value :: .scalar true (.ofList word) :: .key ::
          (if indent < column then .blockMappingStart :: T else T), 0, column,
        if indent < column then indent :: outer else outer, false, []⟩ := by
  let key : Pending := ⟨T.length, indent = column, i, l, column⟩
  have found : List.lookup 0 [((0 : Nat), key)] = some key := rfl
  have noOther : [((0 : Nat), key)].filter (fun e => e.1 ≠ 0) = [] := rfl
  have place : key.token = T.length := rfl
  have side : key.column = column := rfl
  rw [fetch_colon rfl, fetchValue, behindWord]
  dsimp only
  rw [found]
  dsimp only
  rw [noOther, place, side, indentAt_insert]
  split
  · rfl
  · have same : indent = column := by omega
    rw [same]
    rfl

/-- A key is scanned with its colon. Where it stands to the right of the block around it, a
map begins in front of it. -/
theorem reaches_key {s : Scanner} (key : IsKey word)
    (approached : s.approach =
      .ok ⟨⟨word ++ ':' :: ' ' :: t, i, l, column⟩, T, 0, indent, outer, true, []⟩)
    (inside : column ≠ 0) (right : indent ≤ column) :
    Reaches 2 s ⟨⟨' ' :: t, i + word.length + 1, l, column + word.length + 1⟩,
      .value :: .scalar true (.ofList word) :: .key ::
        (if indent < column then .blockMappingStart :: T else T), 0, column,
      if indent < column then indent :: outer else outer, false, []⟩ :=
  (reaches_one approached (fetch_key key inside) (by simp [behindWord])).trans
    (reaches_one (approach_behindWord key right) (fetch_behindWord right) (by simp))

end Keys

/-! ## Values -/

def isPlain (text : String) : Bool := decide (styleOf text = .plain)

/-- Behind a value the scanner stands at the end of its line, or already where the next
lines begin; there a key may begin. -/
def AtEnd (after s : List Char) (n : Nat) (c : Cursor) (allowed : Bool) : Prop :=
  (c.rest = '\n' :: after ∧ allowed = false) ∨ (∃ i l, c = ⟨s, i, l, n⟩) ∧ allowed = true

section Values

variable {after s : List Char} {n i l column : Nat} {T : List Token} {indent : Int}
  {outer : List Int}

theorem approach_of_atEnd {c : Cursor} {allowed : Bool} (ahead : Ahead after n s)
    (ended : AtEnd after s n c allowed) :
    ∃ i l, approach ⟨c, T, 0, indent, outer, allowed, []⟩ =
      .ok (unwind ⟨⟨s, i, l, n⟩, T, 0, indent, outer, true, []⟩ n) := by
  rcases ended with ⟨left, rfl⟩ | ⟨⟨i, l, rfl⟩, rfl⟩
  · obtain ⟨i, l, moved⟩ := nextToken_of_feed after.length ahead left
    refine ⟨i, l, ?_⟩
    have order : c.peek.any (fun ch => ch.toNat = 0xFEFF) = false := by
      rw [Cursor.peek, left]
      rfl
    have moved' : nextToken (c.rest.length + 1) c = (true, ⟨s, i, l, n⟩) := by
      rw [left]
      exact moved
    rw [approach_eq (s := ⟨c, T, 0, indent, outer, false, []⟩) order moved' (by simp)]
    rfl
  · refine ⟨i, l, ?_⟩
    have order : (Cursor.mk s i l n).peek.any (fun ch => ch.toNat = 0xFEFF) = false := by
      show s.head?.any _ = false
      cases s with
      | nil => rfl
      | cons ch t => simpa using (ahead.seen ch rfl).not_byteOrder
    have moved := nextToken_of_spaces (c := ⟨s, i, l, n⟩) (n := 0) s.length rfl
      ahead.seen ahead.number
    rw [approach_eq (s := ⟨⟨s, i, l, n⟩, T, 0, indent, outer, true, []⟩) order moved (by simp)]
    rfl

theorem approach_space {t : List Char} {allowed : Bool} (seen : ∀ ch ∈ t.head?, IsSeen ch)
    (number : t.head? ≠ some '#') (right : indent ≤ column) :
    approach ⟨⟨' ' :: t, i, l, column⟩, T, 0, indent, outer, allowed, []⟩ =
      .ok ⟨⟨t, i + 1, l, column + 1⟩, T, 0, indent, outer, allowed, []⟩ := by
  have moved := nextToken_of_spaces (c := ⟨' ' :: t, i, l, column⟩) (n := 1)
    (' ' :: t).length rfl seen number
  rw [approach_eq (s := ⟨⟨' ' :: t, i, l, column⟩, T, 0, indent, outer, allowed, []⟩) rfl moved
    (by simp), unwind_of_le]
  · simp
  · show indent ≤ ((column + 1 : Nat) : Int)
    omega

theorem fetch_quoted {double : Bool} {t : List Char} {codes : List Nat} (mark : Char)
    (quote : mark = if double then '"' else '\'') (reads : Reads double t codes ('\n' :: after)) :
    ∃ c', fetch ⟨⟨mark :: t, i, l, column⟩, T, 0, indent, outer, false, []⟩ =
        .ok ⟨c', .scalar false (.ofCodes codes) :: T, 0, indent, outer, false, []⟩ ∧
      c'.rest = '\n' :: after := by
  obtain ⟨c', read, left⟩ := reads ((mark :: t).length + 1)
    (Cursor.advance ⟨mark :: t, i, l, column⟩) (by rw [Cursor.rest_advance]; rfl)
    (by simp only [List.length_cons]; omega)
  refine ⟨c', ?_, left⟩
  have fetched : fetch ⟨⟨mark :: t, i, l, column⟩, T, 0, indent, outer, false, []⟩ =
      fetchNode ⟨⟨mark :: t, i, l, column⟩, T, 0, indent, outer, false, []⟩
        (quotedScalar double) := by
    cases double with
    | true =>
      obtain rfl := quote
      exact fetch_doubleQuote rfl
    | false =>
      obtain rfl := quote
      exact fetch_singleQuote rfl
  have scalar : quotedScalar double ⟨mark :: t, i, l, column⟩ =
      .ok (.scalar false (.ofCodes codes), c') := by
    simp only [quotedScalar, read, bind, Except.bind, pure, Except.pure]
  rw [fetched, fetchNode, savePending]
  simp [scalar, goTo, push, bind, Except.bind, pure, Except.pure]

/-- A plain text begins as a plain scalar does, whatever stands behind its first word. -/
theorem beginsPlain_of_bare {c : Char} {w u : List Char} (bare : IsBare (c :: w ++ u))
    (seen : IsSeen c) (gap : endsToken u.head? = true) (t : List Char) :
    beginsPlain false c (w ++ t).head? = true := by
  have begins := bare.begins
  simp only [List.cons_append, beginsBadly, Bool.or_eq_false_iff] at begins
  obtain ⟨⟨⟨indicator, three⟩, -⟩, -⟩ := begins
  by_cases known : indicators.contains c = true
  · have same : beginsBadly.indicators = indicators := rfl
    rw [same, known, Bool.true_and, Bool.not_eq_false'] at indicator
    have among : ['-', '?', ':'].contains c = true := indicator
    rw [among, Bool.true_and] at three
    have stays : endsToken (w ++ u).head? = false := three
    have follows : endsToken (w ++ t).head? = false := by
      cases w with
      | nil => exact absurd (gap.symm.trans stays) (by decide)
      | cons d w => exact stays
    simp only [List.contains_cons, List.contains_nil, Bool.or_false, Bool.or_eq_true,
      beq_iff_eq] at among
    rw [beginsPlain, follows]
    rcases among with rfl | rfl | rfl <;> rfl
  · rw [beginsPlain, seen.not_endsToken, Bool.eq_false_iff.mpr known]
    rfl

theorem fetch_bare {text : List Char} (bare : IsBare text) (ahead : Ahead after n s)
    (near : n < indent + 1) (far : indent + 1 ≤ laterColumn) (right : indent + 1 ≤ column)
    (inside : column ≠ 0) (start : Nat) (first : Bool) :
    ∃ i' l', fetch ⟨⟨writeRuns once start first (runs text) ++ '\n' :: after, i, l, column⟩, T, 0,
        indent, outer, false, []⟩ =
      .ok ⟨⟨s, i', l', n⟩, .scalar true (.ofList text) :: T, 0, indent, outer, true, []⟩ := by
  obtain ⟨i', l', read⟩ := plainScalar_writeRuns bare ahead near far rfl right
    (c := ⟨writeRuns once start first (runs text) ++ '\n' :: after, i, l, column⟩)
  obtain ⟨w, rest, all, whole, filled, within, seen, others⟩ := bare.runs_eq
  obtain ⟨c, w, rfl⟩ := List.exists_cons_of_ne_nil filled
  have written : writeRuns once start first ((c :: w) :: rest) =
      (c :: w) ++ writeRuns once (start + (c :: w).length) false rest :=
    writeRuns_word filled within start first
  have begins : beginsPlain false c (w ++ (writeRuns once (start + (c :: w).length) false rest ++
      '\n' :: after)).head? = true := by
    rw [whole] at bare
    exact beginsPlain_of_bare bare (seen c List.mem_cons_self) others.ends _
  have left : writeRuns once start first (runs text) ++ '\n' :: after =
      c :: (w ++ (writeRuns once (start + (c :: w).length) false rest ++ '\n' :: after)) := by
    rw [all, written]
    simp
  refine ⟨i', l', ?_⟩
  rw [fetch_plain left inside rfl begins, fetchPlain, savePending]
  simp [read, goTo, push, bind, Except.bind, pure, Except.pure]

variable {text : String}

theorem reaches_quoted {double : Bool} {t : List Char} (mark : Char)
    (quote : mark = if double then '"' else '\'')
    (written : writeText column text ++ '\n' :: after = ' ' :: mark :: t)
    (reads : Reads double t (text : Points).codes ('\n' :: after)) (right : indent ≤ column) :
    ∃ c', Reaches 1
        ⟨⟨writeText column text ++ '\n' :: after, i, l, column⟩, T, 0, indent, outer, false, []⟩
        ⟨c', .scalar false text :: T, 0, indent, outer, false, []⟩ ∧
      c'.rest = '\n' :: after := by
  obtain ⟨c', fetched, left⟩ : ∃ c',
      fetch ⟨⟨mark :: t, i + 1, l, column + 1⟩, T, 0, indent, outer, false, []⟩ =
        .ok ⟨c', .scalar false (.ofCodes _) :: T, 0, indent, outer, false, []⟩ ∧ _ :=
    fetch_quoted mark quote reads
  have seen : IsSeen mark := by
    rw [quote]
    cases double <;> decide
  have number : mark ≠ '#' := by
    rw [quote]
    cases double <;> decide
  rw [Points.ofCodes_codes] at fetched
  rw [written]
  exact ⟨c', reaches_one (approach_space (seen_head seen _) (by simpa using number) right) fetched
    (by simp), left⟩

/-- A value without quotes is one token, which ends where the next lines begin. -/
theorem reaches_bare (bare : IsBare text.toList) (style : styleOf text = .plain)
    (ahead : Ahead after n s) (near : n < indent + 1) (far : indent + 1 ≤ laterColumn)
    (right : indent ≤ column) :
    ∃ i' l', Reaches 1
      ⟨⟨writeText column text ++ '\n' :: after, i, l, column⟩, T, 0, indent, outer, false, []⟩
      ⟨⟨s, i', l', n⟩, .scalar true text :: T, 0, indent, outer, true, []⟩ := by
  obtain ⟨w, rest, all, split, filled, inside, seen, others⟩ := bare.runs_eq
  have whole : breaksOff (' ' :: (w ++ rest.flatten)) = false := split ▸ bare.whole
  have number := (isBareWord_of_breaksOff filled seen others.ends whole).number
  have begun : (writeRuns once (column + 1) true (runs text.toList) ++ '\n' :: after).head? =
      w.head? := by
    rw [all, writeRuns_word filled inside, List.append_assoc,
      List.head?_append_of_ne_nil _ filled]
  have written : writeText column text ++ '\n' :: after =
      ' ' :: (writeRuns once (column + 1) true (runs text.toList) ++ '\n' :: after) := by
    unfold writeText
    rw [Points.toString_ofString, style, Points.chars_ofString]
    rfl
  obtain ⟨i', l', fetched⟩ : ∃ i' l', fetch ⟨⟨writeRuns once (column + 1) true
      (runs text.toList) ++ '\n' :: after, i + 1, l, column + 1⟩, T, 0, indent, outer, false, []⟩ =
      .ok ⟨⟨s, i', l', n⟩, .scalar true (.ofList text.toList) :: T, 0, indent, outer, true, []⟩ :=
    fetch_bare bare ahead near far (by omega) (by omega) (column + 1) true
  refine ⟨i', l', ?_⟩
  rw [written]
  refine reaches_one (approach_space ?_ ?_ right) fetched (by simp)
  · rw [begun]
    exact fun ch hch => seen ch (List.mem_of_mem_head? hch)
  · rw [begun]
    exact number

theorem reaches_value (text : String) (ahead : Ahead after n s) (near : n < indent + 1)
    (far : indent + 1 ≤ laterColumn) (right : indent ≤ column) :
    ∃ c' allowed,
      Reaches 1
        ⟨⟨writeText column text ++ '\n' :: after, i, l, column⟩, T, 0, indent, outer, false, []⟩
        ⟨c', .scalar (isPlain text) text :: T, 0, indent, outer, allowed, []⟩ ∧
      AtEnd after s n c' allowed := by
  rcases styleOf_cases text with style | ⟨style, usual, turns⟩ | ⟨style, bare, -⟩
  · obtain ⟨tail, double, behind⟩ := reads_writeDouble ('\n' :: after) (text : Points).bounded
      (column + 2) [] true
    have written : writeText column text ++ '\n' :: after =
        ' ' :: '"' :: (tail ++ '"' :: '\n' :: after) := by
      unfold writeText
      rw [Points.toString_ofString, style]
      simp [double]
    obtain ⟨c', read, left⟩ := reaches_quoted '"' rfl written behind.reads right
    rw [isPlain, style]
    exact ⟨c', false, read, .inl ⟨left, rfl⟩⟩
  · have within : ∀ run ∈ runs text.toList, ∀ c ∈ run, isSpecial c = false :=
      fun run hrun c hc => usual c (mem_of_mem_runs hrun hc)
    have reads : Reads false (writeRuns twice (column + 2) true (runs text.toList) ++
        '\'' :: '\n' :: after) ((runs text.toList).flatten.map Char.toNat) ('\n' :: after) :=
      (reads_writeRuns turns within (by simp) (column + 2) true).1
    have written : writeText column text ++ '\n' :: after = ' ' :: '\'' ::
        (writeRuns twice (column + 2) true (runs text.toList) ++ '\'' :: '\n' :: after) := by
      unfold writeText
      rw [Points.toString_ofString, style, Points.chars_ofString]
      simp only [List.cons_append, List.append_assoc, List.nil_append]
      rfl
    rw [flatten_runs, ← Points.codes_ofString] at reads
    obtain ⟨c', read, left⟩ := reaches_quoted '\'' rfl written reads right
    rw [isPlain, style]
    exact ⟨c', false, read, .inl ⟨left, rfl⟩⟩
  · obtain ⟨i', l', read⟩ := reaches_bare bare style ahead near far right
    rw [isPlain, style]
    exact ⟨_, true, read, .inr ⟨⟨i', l', rfl⟩, rfl⟩⟩

end Values

end Scanner

end Yaml

end Reroute
