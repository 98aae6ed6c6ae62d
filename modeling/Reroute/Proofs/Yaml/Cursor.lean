import Mathlib
import Reroute.Yaml.Scalar

/-!
# Places in a text

What is left of a text at the places that a cursor moves to, and the columns there. What
is read at a place depends on what is left of the text; only indentation looks at
columns, and only in front of the first character of a line.
-/

namespace Reroute.Yaml

/-! ## Kinds of characters -/

/-- A character of ASCII that is seen: no blank, no line break and no mark of a byte
order. -/
structure IsSeen (c : Char) : Prop where
  above : 0x20 < c.toNat
  below : c.toNat ≤ 0x7E

namespace IsSeen

variable {c : Char}

instance : Decidable (IsSeen c) :=
  decidable_of_iff (0x20 < c.toNat ∧ c.toNat ≤ 0x7E)
    ⟨fun h => ⟨h.1, h.2⟩, fun h => ⟨h.above, h.below⟩⟩

theorem not_break (h : IsSeen c) : isBreak c = false := by
  have feed : c ≠ '\n' := by
    rintro rfl
    exact absurd h.above (by decide)
  have := h.below
  simp only [isBreak, feed, decide_false, Bool.false_or, Bool.or_eq_false_iff,
    decide_eq_false_iff_not]
  omega

theorem not_blank (h : IsSeen c) : isBlankChar c = false := by
  have space : c ≠ ' ' := by
    rintro rfl
    exact absurd h.above (by decide)
  have tab : c ≠ '\t' := by
    rintro rfl
    exact absurd h.above (by decide)
  simp [isBlankChar, space, tab]

theorem not_endsToken (h : IsSeen c) : endsToken (some c) = false := by
  have blank : (c = ' ' || c = '\t') = false := h.not_blank
  rw [endsToken, blank, h.not_break]
  rfl

theorem not_byteOrder (h : IsSeen c) : c.toNat ≠ 0xFEFF := by
  have := h.below
  omega

end IsSeen

theorem seen_head {c : Char} (h : IsSeen c) (s : List Char) : ∀ ch ∈ (c :: s).head?, IsSeen ch := by
  intro ch hch
  obtain rfl := Option.some.inj hch
  exact h

/-- What is left of a text begins with a character that is neither a blank nor a line
break. -/
def Solid (s : List Char) : Prop :=
  ∃ c t, s = c :: t ∧ isBlankChar c = false ∧ isBreak c = false

theorem solid_cons {c : Char} (h : IsSeen c) (s : List Char) : Solid (c :: s) :=
  ⟨c, s, rfl, h.not_blank, h.not_break⟩

namespace Cursor

variable (c : Cursor)

/-! ## What is left -/

@[simp] theorem rest_advance : c.advance.rest = c.rest.tail := by
  unfold advance
  cases left : c.rest with
  | nil => exact left
  | cons ch rest =>
    dsimp only
    split <;> rfl

@[simp] theorem rest_advanceBy (n : Nat) : (c.advanceBy n).rest = c.rest.drop n := by
  induction n generalizing c with
  | zero => rfl
  | succ n ih => rw [advanceBy, ih, rest_advance, List.drop_tail]

theorem rest_take (p : Char → Bool) : (c.take p).2.rest = c.rest.dropWhile p := by
  have split : c.rest.takeWhile p ++ c.rest.dropWhile p = c.rest :=
    List.takeWhile_append_dropWhile
  calc (c.take p).2.rest = c.rest.drop (c.rest.takeWhile p).length := rest_advanceBy c _
    _ = (c.rest.takeWhile p ++ c.rest.dropWhile p).drop (c.rest.takeWhile p).length := by rw [split]
    _ = c.rest.dropWhile p := List.drop_left

theorem rest_skip (p : Char → Bool) : (c.skip p).rest = c.rest.dropWhile p := c.rest_take p

variable {c}

theorem peek_eq {ch : Char} {s : List Char} (left : c.rest = ch :: s) : c.peek = some ch := by
  rw [peek, left, List.head?_cons]

theorem peekAt_one_eq {ch : Char} {s : List Char} (left : c.rest = ch :: s) :
    c.peekAt 1 = s.head? := by
  rw [peekAt, left, List.getElem?_cons_succ, List.head?_eq_getElem?]

theorem rest_advance_eq {ch : Char} {s : List Char} (left : c.rest = ch :: s) :
    c.advance.rest = s := by
  rw [rest_advance, left, List.tail_cons]

theorem takeBreak_of_feed {s : List Char} (h : c.rest = '\n' :: s) :
    c.takeBreak = (['\n'], c.advance) := by
  simp [takeBreak, peek, h]

theorem not_atSeparator {ch : Char} {s : List Char} (h : c.rest = ch :: s) (hyphen : ch ≠ '-')
    (dot : ch ≠ '.') : c.atSeparator = false := by
  have differs {mark : Char} (other : ch ≠ mark) : c.atMark mark = false := by
    have front : (c.rest.take 3 = [mark, mark, mark]) = False := by
      rw [h]
      simp [other]
    simp [atMark, front]
  rw [atSeparator, differs hyphen, differs dot]
  rfl

/-! ## Columns -/

theorem advance_of_feed {s : List Char} (h : c.rest = '\n' :: s) :
    c.advance = ⟨s, c.index + 1, c.line + 1, 0⟩ := by
  rw [advance, h]
  rfl

theorem advance_of_other {ch : Char} {s : List Char} (h : c.rest = ch :: s)
    (flat : isBreak ch = false) (order : ch.toNat ≠ 0xFEFF) :
    c.advance = ⟨s, c.index + 1, c.line, c.column + 1⟩ := by
  rw [advance, h]
  simp [flat, order]

theorem advanceBy_of_flat {run s : List Char} (h : c.rest = run ++ s)
    (flat : ∀ ch ∈ run, isBreak ch = false ∧ ch.toNat ≠ 0xFEFF) :
    c.advanceBy run.length = ⟨s, c.index + run.length, c.line, c.column + run.length⟩ := by
  induction run generalizing c with
  | nil =>
    obtain rfl : c.rest = s := h
    rfl
  | cons ch run ih =>
    rw [List.forall_mem_cons] at flat
    have step := advance_of_other h flat.1.1 flat.1.2
    rw [List.length_cons, advanceBy, ih (by rw [step]; rfl) flat.2, step]
    simp only [mk.injEq, true_and]
    omega

end Cursor

end Reroute.Yaml
