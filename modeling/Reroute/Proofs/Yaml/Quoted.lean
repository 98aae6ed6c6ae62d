import Reroute.Proofs.Yaml.Cursor
import Reroute.Yaml.Writer

/-!
# Quoted scalars

What stands between quotes is read piece by piece: a character that stands for itself, an
escape, a space, a line break with the spaces of the next line. `Reads` says what is read
of a text from any place, and there is a lemma for each piece in front of such a text. A
run of blanks is one piece for the reader, but what it gives is the same as if it took
the blanks one by one (`reads_space`), as long as no line break follows them.
-/

namespace Reroute.Yaml

/-- From any place in front of the text `s`, with rounds enough, a quoted scalar has the
code points `codes` and ends in front of `after`. -/
def Reads (double : Bool) (s : List Char) (codes : List Nat) (after : List Char) : Prop :=
  ∀ rounds (c : Cursor), c.rest = s → s.length < rounds →
    ∃ c', quotedCodes double rounds c = .ok (codes, c') ∧ c'.rest = after

/-- Behind the blanks that a text may begin with, it goes on, with no line break. -/
def Unbroken (s : List Char) : Prop := Solid (s.dropWhile isBlankChar)

theorem Solid.unbroken {s : List Char} (h : Solid s) : Unbroken s := by
  obtain ⟨c, t, rfl, blank, flat⟩ := h
  rw [Unbroken, List.dropWhile_cons_of_neg (by simp [blank])]
  exact ⟨c, t, rfl, blank, flat⟩

theorem Unbroken.space {s : List Char} (h : Unbroken s) : Unbroken (' ' :: s) := h

theorem Solid.dropWhile_blanks {s : List Char} (h : Solid s) (n : Nat) :
    (List.replicate n ' ' ++ s).dropWhile isBlankChar = s := by
  obtain ⟨c, t, rfl, blank, -⟩ := h
  rw [List.dropWhile_append_of_pos]
  · exact List.dropWhile_cons_of_neg (by simp [blank])
  · intro ch hch
    rw [List.eq_of_mem_replicate hch]
    rfl

variable {double : Bool} {s after : List Char} {codes : List Nat}

/-! ## The closing quote -/

theorem reads_closingDouble (after : List Char) : Reads true ('"' :: after) [] after := by
  intro rounds c left enough
  obtain ⟨rounds, rfl⟩ := Nat.exists_eq_succ_of_ne_zero (Nat.ne_zero_of_lt enough)
  have peeked : c.peek = some '"' := Cursor.peek_eq left
  refine ⟨c.advance, ?_, Cursor.rest_advance_eq left⟩
  rw [quotedCodes, peeked]
  rfl

theorem reads_closingSingle (alone : after.head? ≠ some '\'') :
    Reads false ('\'' :: after) [] after := by
  intro rounds c left enough
  obtain ⟨rounds, rfl⟩ := Nat.exists_eq_succ_of_ne_zero (Nat.ne_zero_of_lt enough)
  have peeked : c.peek = some '\'' := Cursor.peek_eq left
  have next : c.peekAt 1 ≠ some '\'' := by
    rw [Cursor.peekAt, left, List.getElem?_cons_succ, ← List.head?_eq_getElem?]
    exact alone
  refine ⟨c.advance, ?_, Cursor.rest_advance_eq left⟩
  rw [quotedCodes, peeked]
  simp [isBlankChar, isBreak, next, pure, Except.pure]

/-! ## Characters -/

/-- A character that stands for itself. -/
def IsLetter (double : Bool) (ch : Char) : Prop :=
  IsSeen ch ∧ if double then ch ≠ '\\' ∧ ch ≠ '"' else ch ≠ '\''

theorem reads_letter {ch : Char} (letter : IsLetter double ch) (h : Reads double s codes after) :
    Reads double (ch :: s) (ch.toNat :: codes) after := by
  intro rounds c left enough
  obtain ⟨rounds, rfl⟩ := Nat.exists_eq_succ_of_ne_zero (Nat.ne_zero_of_lt enough)
  have peeked : c.peek = some ch := Cursor.peek_eq left
  obtain ⟨c', read, end'⟩ := h rounds c.advance (Cursor.rest_advance_eq left)
    (by simpa using enough)
  refine ⟨c', ?_, end'⟩
  rw [quotedCodes, peeked]
  cases double with
  | true =>
    obtain ⟨seen, backslash, quote⟩ := letter
    simp [seen.not_blank, seen.not_break, backslash, quote, read, bind, Except.bind, pure,
      Except.pure]
  | false =>
    obtain ⟨seen, quote⟩ := letter
    have other : ch ≠ '\'' := quote
    simp [seen.not_blank, seen.not_break, other, read, bind, Except.bind, pure, Except.pure]

theorem reads_twoQuotes (h : Reads false s codes after) :
    Reads false ('\'' :: '\'' :: s) ('\''.toNat :: codes) after := by
  intro rounds c left enough
  obtain ⟨rounds, rfl⟩ := Nat.exists_eq_succ_of_ne_zero (Nat.ne_zero_of_lt enough)
  have peeked : c.peek = some '\'' := Cursor.peek_eq left
  have next : c.peekAt 1 = some '\'' := Cursor.peekAt_one_eq left
  obtain ⟨c', read, end'⟩ := h rounds (c.advanceBy 2) (by rw [Cursor.rest_advanceBy, left]; rfl)
    (by simp only [List.length_cons] at enough; omega)
  refine ⟨c', ?_, end'⟩
  rw [quotedCodes, peeked]
  simp [isBlankChar, isBreak, next, read, bind, Except.bind, pure, Except.pure]

/-! ## Blanks and line breaks -/

/-- What starts with a blank or a line break is read behind it. -/
theorem quotedCodes_of_space {rounds : Nat} {c : Cursor} {ch : Char} (peeked : c.peek = some ch)
    (space : (isBlankChar ch || isBreak ch) = true) :
    quotedCodes double (rounds + 1) c = (do
      let (space, c) ← quotedSpace (rounds + 1) c
      let (codes, c) ← quotedCodes double rounds c
      return (space.map Char.toNat ++ codes, c)) := by
  rw [quotedCodes, peeked]
  dsimp only
  rw [if_pos space]

/-- Blanks in front of no line break are kept. -/
theorem quotedSpace_of_unbroken (rounds : Nat) {c : Cursor} (unbroken : Unbroken c.rest) :
    quotedSpace rounds c = .ok (c.rest.takeWhile isBlankChar, (c.take isBlankChar).2) := by
  obtain ⟨ch, t, behind, -, flat⟩ := unbroken
  have peeked : (c.take isBlankChar).2.peek = some ch := by
    rw [Cursor.peek, Cursor.rest_take, behind]
    rfl
  rw [quotedSpace]
  dsimp only
  rw [peeked]
  dsimp only
  rw [flat]
  rfl

theorem reads_space (unbroken : Unbroken s) (h : Reads double s codes after) :
    Reads double (' ' :: s) (' '.toNat :: codes) after := by
  intro rounds c left enough
  obtain ⟨rounds, rfl⟩ := Nat.exists_eq_succ_of_ne_zero (Nat.ne_zero_of_lt enough)
  have next : c.advance.rest = s := Cursor.rest_advance_eq left
  -- With the space in front of it, the run of blanks is one longer and ends in one place.
  have run : quotedSpace (rounds + 1) c =
      .ok (' ' :: s.takeWhile isBlankChar, (c.advance.take isBlankChar).2) := by
    rw [quotedSpace_of_unbroken _ (by rw [left]; exact unbroken.space), Cursor.take, Cursor.take,
      left, next]
    rfl
  have peeked : c.peek = some ' ' := Cursor.peek_eq left
  rw [quotedCodes_of_space peeked rfl, run]
  cases front : s.head?.any isBlankChar with
  | false =>
    obtain ⟨c', read, end'⟩ := h rounds c.advance next (by simpa using enough)
    have none : s.takeWhile isBlankChar = [] := by
      cases s with
      | nil => rfl
      | cons ch t => exact List.takeWhile_cons_of_neg (by simpa using front)
    refine ⟨c', ?_, end'⟩
    rw [Cursor.take, next, none]
    simp [Cursor.advanceBy, read, bind, Except.bind, pure, Except.pure]
  | true =>
    obtain ⟨ch, head, blank⟩ := (Option.any_eq_true _ _).mp front
    have first : c.advance.peek = some ch := by rw [Cursor.peek, next, head]
    obtain ⟨c', read, end'⟩ := h (rounds + 1) c.advance next (by simp at enough; omega)
    refine ⟨c', ?_, end'⟩
    rw [quotedCodes_of_space first (by simp [blank]),
      quotedSpace_of_unbroken _ (by rw [next]; exact unbroken), next] at read
    simp only [bind, Except.bind, pure, Except.pure] at read ⊢
    cases rest : quotedCodes double rounds (c.advance.take isBlankChar).2 with
    | error flaw => simp [rest] at read
    | ok r =>
      rw [rest] at read
      simp only [Except.ok.injEq, Prod.mk.injEq] at read ⊢
      exact ⟨by rw [List.map_cons, List.cons_append, read.1], read.2⟩

/-- The line breaks and the indentation in front of a solid text, inside quotes. -/
theorem quotedBreaks_of_feeds {n rounds : Nat} {c : Cursor} (solid : Solid s)
    (left : c.rest = List.replicate n '\n' ++ (List.replicate laterColumn ' ' ++ s))
    (enough : n < rounds) :
    ∃ c', quotedBreaks rounds c = .ok (List.replicate n '\n', c') ∧ c'.rest = s := by
  induction n generalizing rounds c with
  | zero =>
    obtain ⟨rounds, rfl⟩ := Nat.exists_eq_succ_of_ne_zero (Nat.ne_zero_of_lt enough)
    have space : c.rest = ' ' :: (List.replicate 3 ' ' ++ s) := left
    have inside : c.atSeparator = false := Cursor.not_atSeparator space (by decide) (by decide)
    have behind : (c.skip isBlankChar).rest = s := by
      rw [Cursor.rest_skip, left]
      exact solid.dropWhile_blanks _
    obtain ⟨ch, t, rfl, -, flat⟩ := solid
    have peeked : (c.skip isBlankChar).peek.any isBreak = false := by
      rw [Cursor.peek, behind]
      exact flat
    refine ⟨c.skip isBlankChar, ?_, behind⟩
    rw [quotedBreaks]
    simp [inside, peeked, require, bind, Except.bind, pure, Except.pure]
  | succ n ih =>
    obtain ⟨rounds, rfl⟩ := Nat.exists_eq_succ_of_ne_zero (Nat.ne_zero_of_lt enough)
    rw [List.replicate_succ, List.cons_append] at left
    have inside : c.atSeparator = false :=
      Cursor.not_atSeparator left (by decide) (by decide)
    have here : c.skip isBlankChar = c := by
      rw [Cursor.skip, Cursor.take, left]
      rfl
    have peeked : c.peek.any isBreak = true := by
      rw [Cursor.peek, left]
      rfl
    have next : c.advance.rest =
        List.replicate n '\n' ++ (List.replicate laterColumn ' ' ++ s) := by
      rw [Cursor.rest_advance, left]
      rfl
    obtain ⟨c', read, end'⟩ := ih next (Nat.lt_of_succ_lt_succ enough)
    refine ⟨c', ?_, end'⟩
    rw [quotedBreaks]
    simp [inside, here, peeked, Cursor.takeBreak_of_feed left, read, require, bind, Except.bind,
      pure, Except.pure, List.replicate_succ]

/-- Of line breaks in front of a solid text the first one goes, unless it is alone: then
it is a space. -/
theorem reads_feeds {n : Nat} (solid : Solid s) (h : Reads double s codes after) :
    Reads double ('\n' :: (List.replicate n '\n' ++ (List.replicate laterColumn ' ' ++ s)))
      ((joinLines ['\n'] (List.replicate n '\n')).map Char.toNat ++ codes) after := by
  intro rounds c left enough
  obtain ⟨rounds, rfl⟩ := Nat.exists_eq_succ_of_ne_zero (Nat.ne_zero_of_lt enough)
  simp only [List.length_cons, List.length_append, List.length_replicate] at enough
  have here : c.take isBlankChar = ([], c) := by
    rw [Cursor.take, left]
    rfl
  have peeked : c.peek = some '\n' := Cursor.peek_eq left
  have next : c.advance.rest = List.replicate n '\n' ++ (List.replicate laterColumn ' ' ++ s) := by
    rw [Cursor.rest_advance, left]
    rfl
  obtain ⟨c₁, breaks, behind⟩ :=
    quotedBreaks_of_feeds solid next (show n < rounds + 1 by omega)
  obtain ⟨c', read, end'⟩ := h rounds c₁ behind (by omega)
  have space : quotedSpace (rounds + 1) c =
      .ok (joinLines ['\n'] (List.replicate n '\n'), c₁) := by
    rw [quotedSpace, here]
    dsimp only
    rw [peeked]
    dsimp only
    rw [if_pos (by rfl), Cursor.takeBreak_of_feed left]
    dsimp only
    rw [breaks]
    rfl
  refine ⟨c', ?_, end'⟩
  rw [quotedCodes_of_space peeked rfl, space]
  simp [read, bind, Except.bind, pure, Except.pure]

/-! ## Escapes -/

theorem reads_escape (e : List Char) (these : List Nat) (h : Reads true s codes after)
    (short : s.length < e.length + s.length)
    (escaped : ∀ rounds (c : Cursor), c.rest = '\\' :: (e ++ s) → 0 < rounds →
      ∃ c', escape rounds c = .ok (these, c') ∧ c'.rest = s) :
    Reads true ('\\' :: (e ++ s)) (these ++ codes) after := by
  intro rounds c left enough
  obtain ⟨rounds, rfl⟩ := Nat.exists_eq_succ_of_ne_zero (Nat.ne_zero_of_lt enough)
  simp only [List.length_cons, List.length_append] at enough
  obtain ⟨c₁, here, behind⟩ := escaped (rounds + 1) c left (by omega)
  obtain ⟨c', read, end'⟩ := h rounds c₁ behind (by omega)
  have peeked : c.peek = some '\\' := Cursor.peek_eq left
  refine ⟨c', ?_, end'⟩
  rw [quotedCodes, peeked]
  simp [isBlankChar, isBreak, here, read, bind, Except.bind, pure, Except.pure]

theorem reads_escapeLetter {letter : Char} {n : Nat} (flat : isBreak letter = false)
    (known : escapedChar? letter = some n) (h : Reads true s codes after) :
    Reads true ('\\' :: letter :: s) (n :: codes) after := by
  refine reads_escape [letter] [n] h (by simp) fun rounds c left _ => ?_
  have next : c.advance.rest = letter :: s := by
    rw [Cursor.rest_advance, left]
    rfl
  have peeked : c.advance.peek = some letter := by
    rw [Cursor.peek, next]
    rfl
  refine ⟨c.advance.advance, ?_, by rw [Cursor.rest_advance, next]; rfl⟩
  rw [escape]
  dsimp only
  rw [peeked]
  simp [flat, known, pure, Except.pure]

theorem reads_escapeDigits {letter : Char} {width n : Nat} {digits : List Char}
    (flat : isBreak letter = false) (unknown : escapedChar? letter = none)
    (wide : escapeWidth? letter = some width) (length : digits.length = width)
    (number : Text.hexNumber? 0 digits = some n) (small : n ≤ 0x10FFFF)
    (h : Reads true s codes after) :
    Reads true ('\\' :: letter :: (digits ++ s)) (n :: codes) after := by
  refine reads_escape (letter :: digits) [n] h (by simp) fun rounds c left _ => ?_
  have next : c.advance.rest = letter :: (digits ++ s) := by
    rw [Cursor.rest_advance, left]
    rfl
  have peeked : c.advance.peek = some letter := by
    rw [Cursor.peek, next]
    rfl
  have behind : c.advance.advance.rest = digits ++ s := by
    rw [Cursor.rest_advance, next]
    rfl
  have point : codePoint width c.advance.advance =
      .ok (n, c.advance.advance.advanceBy width) := by
    rw [codePoint, behind, ← length, List.take_left]
    simp [number, small, require, bind, Except.bind, pure, Except.pure]
  refine ⟨c.advance.advance.advanceBy width, ?_, ?_⟩
  · rw [escape]
    dsimp only
    rw [peeked]
    simp [flat, unknown, wide, point, bind, Except.bind, pure, Except.pure]
  · rw [Cursor.rest_advanceBy, behind, ← length, List.drop_left]

theorem reads_escapeNewLine (solid : Solid s) (h : Reads true s codes after) :
    Reads true ('\\' :: (newLine ++ s)) codes after := by
  refine reads_escape newLine [] h (by simp [newLine]) fun rounds c left enough => ?_
  have next : c.advance.rest = '\n' :: (List.replicate laterColumn ' ' ++ s) := by
    rw [Cursor.rest_advance, left]
    rfl
  have peeked : c.advance.peek = some '\n' := by
    rw [Cursor.peek, next]
    rfl
  have later : c.advance.advance.rest =
      List.replicate 0 '\n' ++ (List.replicate laterColumn ' ' ++ s) := by
    rw [Cursor.rest_advance, next]
    rfl
  obtain ⟨c', breaks, behind⟩ := quotedBreaks_of_feeds solid later enough
  refine ⟨c', ?_, behind⟩
  rw [escape]
  dsimp only
  rw [peeked]
  dsimp only
  rw [if_pos (by rfl), Cursor.takeBreak_of_feed next, breaks]
  rfl

end Reroute.Yaml
