import Reroute.Proofs.Yaml.Quotes

/-!
# Plain texts

A text that is written without quotes is read back word by word. A word ends at the gap
behind it, for it does not end with a colon, and the gap does not end the scalar, for no
word begins with a number sign (`IsBareWord`). What ends the scalar is the indentation of
the next line.
-/

namespace Reroute.Yaml

/-! ## Words -/

/-- A word that a plain scalar may hold anywhere. -/
structure IsBareWord (w : List Char) : Prop where
  filled : w ≠ []
  seen : ∀ c ∈ w, IsSeen c
  colon : w.getLast? ≠ some ':'
  number : w.head? ≠ some '#'

theorem breaksOff_of_cons {c : Char} {s : List Char} (h : breaksOff (c :: s) = false) :
    breaksOff s = false := by
  cases s with
  | nil => rfl
  | cons d s =>
    simp only [breaksOff, Bool.or_eq_false_iff] at h
    exact h.2

theorem breaksOff_of_append (pre : List Char) {s : List Char} (h : breaksOff (pre ++ s) = false) :
    breaksOff s = false := by
  induction pre with
  | nil => exact h
  | cons c pre ih => exact ih (breaksOff_of_cons h)

/-- A plain text does not break off behind a space in front of it either. -/
theorem breaksOff_space {s : List Char} (begins : beginsBadly s = false)
    (breaks : breaksOff s = false) : breaksOff (' ' :: s) = false := by
  cases s with
  | nil => rfl
  | cons d s =>
    have number : d ≠ '#' := by
      rintro rfl
      simp [beginsBadly, beginsBadly.indicators] at begins
    have colon : ¬(d = ':' ∧ endsToken s.head? = true) := by
      rintro ⟨rfl, ends⟩
      simp [beginsBadly, beginsBadly.indicators, ends] at begins
    simp only [breaksOff, breaks, Bool.or_false, Bool.or_eq_false_iff, Bool.and_eq_false_imp,
      decide_eq_true_eq]
    exact ⟨fun same => absurd same number, fun same =>
      Bool.eq_false_iff.mpr fun ends => colon ⟨same, ends⟩⟩

theorem isBareWord_of_breaksOff {w t : List Char} (filled : w ≠ []) (seen : ∀ c ∈ w, IsSeen c)
    (ends : endsToken t.head? = true) (h : breaksOff (' ' :: (w ++ t)) = false) :
    IsBareWord w := by
  refine ⟨filled, seen, fun last => ?_, fun first => ?_⟩
  · obtain ⟨pre, rfl⟩ := List.getLast?_eq_some_iff.mp last
    -- The character in front of the colon: the last one of the word, or the space.
    obtain ⟨x, pre', front⟩ : ∃ x pre', ' ' :: pre = pre' ++ [x] := by
      refine ⟨_, _, (List.dropLast_append_getLast (List.cons_ne_nil ' ' pre)).symm⟩
    rw [List.append_assoc, ← List.cons_append, front, List.append_assoc] at h
    have colon := breaksOff_of_append pre' h
    simp [breaksOff, ends] at colon
  · obtain ⟨c, w, rfl⟩ := List.exists_cons_of_ne_nil filled
    obtain rfl := Option.some.inj first
    simp [breaksOff, endsToken] at h

theorem plainRun_word {w t : List Char} (seen : ∀ c ∈ w, IsSeen c)
    (colon : w.getLast? ≠ some ':') (ends : endsToken t.head? = true) :
    plainRun false (w ++ t) = w := by
  induction w with
  | nil =>
    cases t with
    | nil => rfl
    | cons c t =>
      rw [List.nil_append, plainRun]
      exact if_pos ends
  | cons c w ih =>
    rw [List.forall_mem_cons] at seen
    have onward : ¬(c = ':' ∧ endsToken (w ++ t).head? = true) := by
      rintro ⟨rfl, stops⟩
      cases w with
      | nil => exact colon rfl
      | cons d w => simp [(seen.2 d List.mem_cons_self).not_endsToken] at stops
    have rest : w.getLast? ≠ some ':' := by
      intro last
      apply colon
      rw [List.getLast?_cons, last]
      rfl
    rw [List.cons_append, plainRun, seen.1.not_endsToken, ih seen.2 rest]
    simp only [Bool.false_eq_true, if_false, Bool.false_and, Bool.or_false, Bool.and_eq_true,
      decide_eq_true_eq, onward]

/-! ## Gaps -/

/-- What stands on the next lines, behind `n` spaces: the end, or something seen that is
no comment. No document begins or ends there. -/
structure Ahead (after : List Char) (n : Nat) (s : List Char) : Prop where
  eq : after = List.replicate n ' ' ++ s
  seen : ∀ c ∈ s.head?, IsSeen c
  number : s.head? ≠ some '#'
  inside : ∀ c : Cursor, c.rest = after → c.atSeparator = false

theorem Ahead.solid {after s : List Char} {n : Nat} (h : Ahead after n s) (filled : s ≠ []) :
    Solid s := by
  obtain ⟨c, t, rfl⟩ := List.exists_cons_of_ne_nil filled
  exact solid_cons (h.seen c rfl) t

/-- Behind spaces the line goes on, and no line break has come. -/
theorem plainBreaks_of_spaces {n rounds : Nat} {s : List Char} {c : Cursor}
    (left : c.rest = List.replicate n ' ' ++ s) (solid : s ≠ [] → Solid s) (enough : n < rounds) :
    plainBreaks rounds c = (some [], ⟨s, c.index + n, c.line, c.column + n⟩) := by
  induction n generalizing rounds c with
  | zero =>
    obtain ⟨rounds, rfl⟩ := Nat.exists_eq_succ_of_ne_zero (Nat.ne_zero_of_lt enough)
    obtain rfl : c.rest = s := left
    have other : c.peek ≠ some ' ' ∧ c.peek.any isBreak = false := by
      rw [Cursor.peek]
      by_cases empty : c.rest = []
      · simp [empty]
      · obtain ⟨ch, t, same, blank, flat⟩ := solid empty
        rw [same]
        refine ⟨fun space => ?_, flat⟩
        obtain rfl := Option.some.inj space
        simp [isBlankChar] at blank
    rw [plainBreaks, if_neg other.1, other.2]
    rfl
  | succ n ih =>
    obtain ⟨rounds, rfl⟩ := Nat.exists_eq_succ_of_ne_zero (Nat.ne_zero_of_lt enough)
    have front : c.rest = ' ' :: (List.replicate n ' ' ++ s) := left
    have step := Cursor.advance_of_other front (by decide) (by decide)
    have peeked : c.peek = some ' ' := by
      rw [Cursor.peek, front]
      rfl
    rw [plainBreaks, if_pos peeked, step, ih rfl (Nat.lt_of_succ_lt_succ enough)]
    simp only [Prod.mk.injEq, Cursor.mk.injEq, true_and]
    omega

/-- At a line break the scalar goes on in the next line, behind its spaces. -/
theorem plainSpace_of_feed {after s : List Char} {n : Nat} {c : Cursor} (ahead : Ahead after n s)
    (left : c.rest = '\n' :: after) :
    ∃ i l, plainSpace c = ([' '], true, ⟨s, i, l, n⟩) := by
  have here : c.take (fun ch => decide (ch = ' ')) = ([], c) := by
    rw [Cursor.take, left]
    rfl
  have peeked : c.peek.any isBreak = true := by
    rw [Cursor.peek, left]
    rfl
  have step := Cursor.advance_of_feed left
  have next : c.advance.rest = after := by rw [step]
  have long : n < after.length + 1 := by simp [ahead.eq]
  have breaks := plainBreaks_of_spaces (next.trans ahead.eq) ahead.solid long
  refine ⟨c.advance.index + n, c.advance.line, ?_⟩
  rw [plainSpace, here]
  dsimp only
  rw [if_pos peeked, Cursor.takeBreak_of_feed left]
  dsimp only
  rw [ahead.inside _ next, next, breaks, step]
  simp [joinLines]

theorem plainSpace_of_spaces {s : List Char} {n : Nat} {c : Cursor} (solid : Solid s)
    (left : c.rest = List.replicate n ' ' ++ s) :
    plainSpace c =
      (List.replicate n ' ', false, ⟨s, c.index + n, c.line, c.column + n⟩) := by
  obtain ⟨ch, t, rfl, blank, flat⟩ := solid
  have other : ch ≠ ' ' := by
    rintro rfl
    simp [isBlankChar] at blank
  have run : c.rest.takeWhile (fun ch => decide (ch = ' ')) = List.replicate n ' ' := by
    rw [left, List.takeWhile_append_of_pos (by simp),
      List.takeWhile_cons_of_neg (by simpa using other), List.append_nil]
  have moved := Cursor.advanceBy_of_flat left fun ch hch => by
    rw [List.eq_of_mem_replicate hch]
    exact ⟨rfl, by decide⟩
  rw [List.length_replicate] at moved
  rw [plainSpace, Cursor.take, run, List.length_replicate, moved]
  simp [Cursor.peek, flat]

/-! ## Texts -/

theorem plainFrom_succ {indent : Int} {rounds : Nat} {space w t : List Char} {broken : Bool}
    {c : Cursor} (left : c.rest = w ++ t) (bare : IsBareWord w) (ends : endsToken t.head? = true) :
    plainFrom false indent (rounds + 1) space broken c =
      (let (next, broke, c) := plainSpace ⟨t, c.index + w.length, c.line, c.column + w.length⟩
        if next.isEmpty || c.peek = some '#' || c.column < indent then (space ++ w, broke, c)
        else
          let (more, broke, c) := plainFrom false indent rounds next broke c
          (space ++ w ++ more, broke, c)) := by
  have run : plainRun false c.rest = w := by
    rw [left]
    exact plainRun_word bare.seen bare.colon ends
  have moved := Cursor.advanceBy_of_flat left fun ch hch =>
    ⟨(bare.seen ch hch).not_break, (bare.seen ch hch).not_byteOrder⟩
  have begins : ¬(c.peek = some '#' ∨ w.isEmpty = true) := by
    rw [Cursor.peek, left, List.head?_append_of_ne_nil _ bare.filled, List.isEmpty_iff]
    exact not_or.mpr ⟨bare.number, bare.filled⟩
  rw [plainFrom, run, moved]
  simp only [Bool.or_eq_true, decide_eq_true_eq, begins, if_false, Bool.not_false, Bool.true_and]

def once (c : Char) : List Char := [c]

theorem flatMap_once (s : List Char) : s.flatMap once = s := List.flatMap_singleton' s

theorem writeRuns_word {w : List Char} {rest : List (List Char)} (filled : w ≠ [])
    (inside : ∀ c ∈ w, c ≠ ' ' ∧ c ≠ '\n') (column : Nat) (first : Bool) :
    writeRuns once column first (w :: rest) =
      w ++ writeRuns once (column + w.length) false rest := by
  obtain ⟨c, w, rfl⟩ := List.exists_cons_of_ne_nil filled
  have here := inside c List.mem_cons_self
  rw [writeRuns, flatMap_once]
  simp [here]

/-- Spaces in front of a word are written as they are, or as one line break. -/
theorem writeRuns_spaces (n column : Nat) (first : Bool) (rest : List (List Char)) :
    (n = 0 ∧ writeRuns once column first (List.replicate (n + 1) ' ' :: rest) =
        newLine ++ writeRuns once laterColumn false rest) ∨
      ∃ column', writeRuns once column first (List.replicate (n + 1) ' ' :: rest) =
        List.replicate (n + 1) ' ' ++ writeRuns once column' false rest := by
  rw [List.replicate_succ, writeRuns, ← List.replicate_succ]
  dsimp only
  split
  · next folds =>
    simp only [Bool.and_eq_true, decide_eq_true_eq] at folds
    have lone : List.replicate (n + 1) ' ' = [' '] := folds.1.1.1
    have one := congrArg List.length lone
    rw [List.length_replicate] at one
    exact .inl ⟨Nat.succ.inj one, rfl⟩
  · rw [if_neg (by decide), flatMap_once]
    exact .inr ⟨_, rfl⟩

theorem TakeTurns.ends {rest : List (List Char)} (turns : TakeTurns .word rest) :
    endsToken rest.flatten.head? = true := by
  cases turns with
  | nil f => rfl
  | word turn => exact absurd rfl turn
  | spaces n turn others => rfl
  | feeds n turn others => rfl

section Text

variable {indent : Int} {after s : List Char} {n : Nat}

theorem plainFrom_of_gap {rounds : Nat} {space w t gap more : List Char} {broken broke last : Bool}
    {c c₁ c₂ : Cursor} (left : c.rest = w ++ t) (bare : IsBareWord w)
    (ends : endsToken t.head? = true)
    (gapped : plainSpace ⟨t, c.index + w.length, c.line, c.column + w.length⟩ = (gap, broke, c₁))
    (filled : gap ≠ []) (number : c₁.peek ≠ some '#') (right : indent ≤ c₁.column)
    (rest : plainFrom false indent rounds gap broke c₁ = (more, last, c₂)) :
    plainFrom false indent (rounds + 1) space broken c = (space ++ w ++ more, last, c₂) := by
  rw [plainFrom_succ left bare ends, gapped]
  dsimp only
  rw [rest]
  simp [filled, number, right]

/-- A gap that the writer leaves in front of a word is read as its spaces, and the scalar
goes on with the word. -/
structure Gap (indent : Int) (c : Cursor) (k : Nat) (w t : List Char) (rest : List (List Char))
    (broke : Bool) (c₁ : Cursor) (column : Nat) : Prop where
  read : plainSpace c = (List.replicate (k + 1) ' ', broke, c₁)
  left : c₁.rest = w ++ (writeRuns once column false rest ++ t)
  short : c₁.rest.length < c.rest.length
  right : indent ≤ c₁.column
  ends : endsToken c.rest.head? = true

theorem exists_gap (k column : Nat) (first : Bool) (rest : List (List Char)) {w t : List Char}
    {c : Cursor} (bare : IsBareWord w) (inside : ∀ d ∈ w, d ≠ ' ' ∧ d ≠ '\n')
    (left : c.rest = writeRuns once column first (List.replicate (k + 1) ' ' :: w :: rest) ++ t)
    (far : indent ≤ laterColumn) (right : indent ≤ c.column) :
    ∃ broke c₁ column', Gap indent c k w t rest broke c₁ column' := by
  rcases writeRuns_spaces k column first (w :: rest) with ⟨rfl, written⟩ | ⟨column', written⟩
  · -- The one space became a line break, and the word stands behind the spaces of the next line.
    let onward := w ++ (writeRuns once (laterColumn + w.length) false rest ++ t)
    have left' : c.rest = '\n' :: (List.replicate laterColumn ' ' ++ onward) := by
      rw [left, written, writeRuns_word bare.filled inside]
      simp [newLine, onward]
    have begun : onward.head? = w.head? := List.head?_append_of_ne_nil _ bare.filled
    have later : Ahead (List.replicate laterColumn ' ' ++ onward) laterColumn onward :=
      ⟨rfl, fun d hd => bare.seen d (List.mem_of_mem_head? (by rwa [begun] at hd)),
        by rw [begun]; exact bare.number,
        fun c here => Cursor.not_atSeparator here (by decide) (by decide)⟩
    obtain ⟨i, l, read⟩ := plainSpace_of_feed later left'
    refine ⟨true, ⟨onward, i, l, laterColumn⟩, _, read, rfl, ?_, far, ?_⟩
    · simp only [left', List.length_cons, List.length_append]
      omega
    · rw [left']
      rfl
  · let onward := w ++ (writeRuns once (column' + w.length) false rest ++ t)
    have left' : c.rest = List.replicate (k + 1) ' ' ++ onward := by
      rw [left, written, writeRuns_word bare.filled inside]
      simp [onward]
    have solid : Solid onward := by
      obtain ⟨d, w, rfl⟩ := List.exists_cons_of_ne_nil bare.filled
      exact solid_cons (bare.seen d List.mem_cons_self) _
    refine ⟨false, _, _, plainSpace_of_spaces solid left', rfl, ?_, ?_, ?_⟩
    · simp only [left', List.length_append, List.length_replicate]
      omega
    · show indent ≤ ((c.column + (k + 1) : Nat) : Int)
      omega
    · rw [left']
      rfl

/-- The runs behind a word are read back, up to the next line. -/
theorem plainFrom_writeRuns (ahead : Ahead after n s) (near : n < indent)
    (far : indent ≤ laterColumn) (rest : List (List Char)) (turns : TakeTurns .word rest)
    (usual : ∀ run ∈ rest, ∀ c ∈ run, isSpecial c = false) (flat : '\n' ∉ rest.flatten)
    (closed : rest.flatten.getLast? ≠ some ' ') {w : List Char} (filled : w ≠ [])
    (seen : ∀ c ∈ w, IsSeen c) (whole : breaksOff (' ' :: (w ++ rest.flatten)) = false)
    {column rounds : Nat} {first broken : Bool} {space : List Char} {c : Cursor}
    (left : c.rest = w ++ (writeRuns once column first rest ++ '\n' :: after))
    (enough : c.rest.length < rounds) (right : indent ≤ c.column) :
    ∃ i l, plainFrom false indent rounds space broken c =
      (space ++ w ++ rest.flatten, true, ⟨s, i, l, n⟩) := by
  obtain ⟨rounds, rfl⟩ := Nat.exists_eq_succ_of_ne_zero (Nat.ne_zero_of_lt enough)
  cases turns with
  | nil f =>
    have bare := isBareWord_of_breaksOff filled seen rfl whole
    have left' : c.rest = w ++ '\n' :: after := left
    obtain ⟨i, l, space'⟩ := plainSpace_of_feed ahead
      (c := ⟨'\n' :: after, c.index + w.length, c.line, c.column + w.length⟩) rfl
    refine ⟨i, l, ?_⟩
    rw [plainFrom_succ left' bare rfl, space']
    simp [Cursor.peek, ahead.number, near]
  | word turn => exact absurd rfl turn
  | feeds k turn others => simp at flat
  | @spaces f rest k turn others =>
    cases others with
    | nil f => simp [List.getLast?_replicate] at closed
    | spaces j turn => exact absurd rfl turn
    | feeds j turn => exact absurd rfl turn
    | @word f w' rest turn filled' inside others =>
      simp only [List.forall_mem_cons] at usual
      simp only [List.flatten_cons, List.mem_append, not_or] at flat
      have seen' : ∀ d ∈ w', IsSeen d := fun d hd => isSeen_of_inside (usual.2.1 d hd) (inside d hd)
      have closed' : rest.flatten.getLast? ≠ some ' ' := by
        intro last
        simp [List.getLast?_append, last] at closed
      have whole' : breaksOff (' ' :: (w' ++ rest.flatten)) = false := by
        refine breaksOff_of_append (' ' :: (w ++ List.replicate k ' ')) ?_
        rw [← whole, List.flatten_cons, List.flatten_cons, List.replicate_succ']
        simp
      have bare : IsBareWord w := isBareWord_of_breaksOff filled seen rfl whole
      have bare' : IsBareWord w' := isBareWord_of_breaksOff filled' seen' others.ends whole'
      have behind : indent ≤ ((c.column + w.length : Nat) : Int) := by omega
      obtain ⟨broke, c₁, column', gap⟩ := exists_gap k column first rest bare' inside
        (c := ⟨_, c.index + w.length, c.line, c.column + w.length⟩)
        (t := '\n' :: after) rfl far behind
      have short : c₁.rest.length < rounds :=
        calc
          c₁.rest.length < _ := gap.short
          _ ≤ c.rest.length := by
            rw [left]
            exact (List.suffix_append _ _).length_le
          _ ≤ rounds := Nat.le_of_lt_succ enough
      have number : c₁.peek ≠ some '#' := by
        rw [Cursor.peek, gap.left, List.head?_append_of_ne_nil _ filled']
        exact bare'.number
      obtain ⟨i, l, more⟩ := plainFrom_writeRuns ahead near far rest others usual.2.2 flat.2.2
        closed' filled' seen' whole' gap.left short gap.right
      refine ⟨i, l, ?_⟩
      rw [plainFrom_of_gap left bare gap.ends gap.read (by simp) number gap.right more]
      simp
termination_by rest.length

/-- A text that can be written without quotes. -/
structure IsBare (text : List Char) : Prop where
  usual : ∀ c ∈ text, isSpecial c = false
  turns : TakeTurns .start (runs text)
  whole : breaksOff (' ' :: text) = false
  begins : beginsBadly text = false
  filled : text ≠ []
  flat : '\n' ∉ text
  front : text.head? ≠ some ' '
  back : text.getLast? ≠ some ' '

theorem IsBare.runs_eq {text : List Char} (h : IsBare text) :
    ∃ w rest, runs text = w :: rest ∧ text = w ++ rest.flatten ∧ w ≠ [] ∧
      (∀ c ∈ w, c ≠ ' ' ∧ c ≠ '\n') ∧ (∀ c ∈ w, IsSeen c) ∧ TakeTurns .word rest := by
  have turns := h.turns
  have flatten := flatten_runs text
  cases all : runs text with
  | nil =>
    rw [all] at flatten
    exact absurd flatten.symm h.filled
  | cons w rest =>
    rw [all] at turns flatten
    rw [List.flatten_cons] at flatten
    cases turns with
    | word turn filled inside others =>
      refine ⟨w, rest, rfl, flatten.symm, filled, inside, fun c hc => ?_, others⟩
      refine isSeen_of_inside (h.usual c ?_) (inside c hc)
      rw [← flatten]
      exact List.mem_append_left _ hc
    | spaces k turn others => exact absurd (by rw [← flatten]; rfl) h.front
    | feeds k turn others => exact absurd (by rw [← flatten]; simp) h.flat

/-- A text that is written without quotes is read back, up to the next line. -/
theorem plainScalar_writeRuns {text : List Char} (bare : IsBare text) (ahead : Ahead after n s)
    (near : n < indent) (far : indent ≤ laterColumn) {column : Nat} {first : Bool} {c : Cursor}
    (left : c.rest = writeRuns once column first (runs text) ++ '\n' :: after)
    (right : indent ≤ c.column) :
    ∃ i l, plainScalar false indent c = (.scalar true (.ofList text), true, ⟨s, i, l, n⟩) := by
  obtain ⟨w, rest, all, rfl, filled, inside, seen, others⟩ := bare.runs_eq
  have usual : ∀ run ∈ rest, ∀ d ∈ run, isSpecial d = false := fun run hrun d hd =>
    bare.usual d (List.mem_append_right _ (List.mem_flatten_of_mem hrun hd))
  have closed : rest.flatten.getLast? ≠ some ' ' := by
    intro last
    have back := bare.back
    simp [List.getLast?_append, last] at back
  have flat : '\n' ∉ rest.flatten := fun feed => bare.flat (List.mem_append_right _ feed)
  rw [all, writeRuns_word filled inside, List.append_assoc] at left
  obtain ⟨i, l, read⟩ : ∃ i l, plainFrom false indent (c.rest.length + 1) [] false c =
      ([] ++ w ++ rest.flatten, true, ⟨s, i, l, n⟩) :=
    plainFrom_writeRuns ahead near far rest others usual flat closed filled seen bare.whole left
      (Nat.lt_succ_self _) right
  refine ⟨i, l, ?_⟩
  rw [plainScalar, read]
  rfl

end Text

end Reroute.Yaml
