import Mathlib
import Reroute.Text.Utf8

/-!
# Entries on lines

Entries that are laid out one on a line are what the lines of the text hold
(`entriesOf_lines`): whatever blanks stand around them, however the lines end, and
however many of them are blank. The argument goes line by line. The one place where a
line cannot be looked at alone is a carriage return in front of a line feed, which
together are one line end; read as two they would only be one blank line more. Where
lines end in line feeds alone, a carriage return is one of the blanks.
-/

namespace Reroute.Text

/-! ## Layouts -/

/-- A line end: a line feed, or where they count a carriage return or both. -/
def IsLineEnd (ending : LineEnd) (s : List Char) : Prop :=
  s = ['\n'] ∨ ending = .any ∧ (s = ['\r'] ∨ s = ['\r', '\n'])

/-- The text ends no line. -/
def IsFlat (ending : LineEnd) (s : List Char) : Prop := '\n' ∉ s ∧ (ending = .any → '\r' ∉ s)

/-- Blanks on one line. -/
def IsPadding (ending : LineEnd) (s : List Char) : Prop :=
  IsFlat ending s ∧ ∀ c ∈ s, isBlank c = true

/-- A text that can stand on a line of its own: it is not empty, has no blanks at its
ends, and ends no line. -/
def IsEntry (s : String) : Prop :=
  s ≠ "" ∧ trim isBlank s.toList = s.toList ∧ IsFlat .any s.toList

variable {ending : LineEnd}

theorem IsFlat.of_any {s : List Char} (h : IsFlat .any s) : IsFlat ending s :=
  ⟨h.1, fun _ => h.2 rfl⟩

/-- What a line holds: nothing, or one entry between blanks. -/
inductive OnLine (ending : LineEnd) : List String → List Char → Prop
  | blank {pad : List Char} (padding : IsPadding ending pad) : OnLine ending [] pad
  | entry {before after : List Char} (entry : String) (front : IsPadding ending before)
      (back : IsPadding ending after) : OnLine ending [entry] (before ++ entry.toList ++ after)

/-- What a text holds, line by line. The last line may have no line end. -/
inductive Laid (ending : LineEnd) : List String → List Char → Prop
  | last {entries : List String} {line : List Char} (held : OnLine ending entries line) :
      Laid ending entries line
  | line {entries more : List String} {line ended rest : List Char}
      (held : OnLine ending entries line) (lineEnd : IsLineEnd ending ended)
      (laid : Laid ending more rest) : Laid ending (entries ++ more) (line ++ ended ++ rest)

theorem Laid.single (entry : String) : Laid ending [entry] entry.toList := by
  have nothing : IsPadding ending [] := ⟨by simp [IsFlat], by simp⟩
  have line := OnLine.entry entry nothing nothing
  rw [List.nil_append, List.append_nil] at line
  exact .last line

/-- The entries of lines: what is left of them without the blanks at their ends. -/
def entriesOf (lines : List (List Char)) : List String :=
  (lines.map fun line => String.ofList (trim isBlank line)).filter fun entry => !entry.isEmpty

theorem entriesOf_cons (line : List Char) (lines : List (List Char)) :
    entriesOf (line :: lines) = entriesOf [line] ++ entriesOf lines := by
  rw [entriesOf, List.map_cons, ← List.singleton_append, List.filter_append]
  rfl

@[simp] theorem entriesOf_nil : entriesOf [[]] = [] := rfl

/-! ## Trimming a line -/

theorem trimStart_append_of_blank {before : List Char} (h : ∀ c ∈ before, isBlank c = true)
    (s : List Char) : trimStart isBlank (before ++ s) = trimStart isBlank s :=
  List.dropWhile_append_of_pos h

theorem trimEnd_append_of_blank {after : List Char} (h : ∀ c ∈ after, isBlank c = true)
    (s : List Char) : trimEnd isBlank (s ++ after) = trimEnd isBlank s := by
  rw [trimEnd, List.reverse_append, List.dropWhile_append_of_pos (by simpa using h)]
  rfl

theorem trim_of_padding {pad : List Char} (h : IsPadding ending pad) : trim isBlank pad = [] := by
  have start := trimStart_append_of_blank h.2 []
  rw [List.append_nil] at start
  rw [trim, start]
  rfl

theorem trim_append {before after : List Char} (front : IsPadding ending before)
    (back : IsPadding ending after) (s : List Char) :
    trim isBlank (before ++ s ++ after) = trim isBlank s := by
  rw [trim, List.append_assoc, trimStart_append_of_blank front.2, trim, trimStart, trimStart,
    List.dropWhile_append]
  split
  · next empty =>
    -- The text is blank itself, and so is what stands behind it.
    rw [List.isEmpty_iff] at empty
    have gone := trimStart_append_of_blank back.2 []
    rw [List.append_nil, trimStart] at gone
    rw [gone, empty]
    rfl
  · exact trimEnd_append_of_blank back.2 _

theorem entriesOf_of_onLine {entries : List String} {line : List Char} (h : OnLine ending entries line)
    (all : ∀ entry ∈ entries, IsEntry entry) : entriesOf [line] = entries := by
  cases h with
  | blank padding => simp [entriesOf, trim_of_padding padding]
  | entry entry front back =>
    obtain ⟨some, tidy, -⟩ := all entry (List.mem_singleton_self entry)
    have left : String.ofList (trim isBlank entry.toList) = entry := by
      rw [tidy, String.ofList_toList]
    rw [entriesOf, List.map_singleton, trim_append front back, left]
    simp [some]

theorem isFlat_append {s t : List Char} (hs : IsFlat ending s) (ht : IsFlat ending t) :
    IsFlat ending (s ++ t) :=
  ⟨by simp [hs.1, ht.1], fun turns => by simp [hs.2 turns, ht.2 turns]⟩

theorem isFlat_of_onLine {entries : List String} {line : List Char} (h : OnLine ending entries line)
    (all : ∀ entry ∈ entries, IsEntry entry) : IsFlat ending line := by
  cases h with
  | blank padding => exact padding.1
  | entry entry front back =>
    have flat := (all entry (List.mem_singleton_self entry)).2.2
    exact isFlat_append (isFlat_append front.1 flat.of_any) back.1

/-! ## Lines of a text -/

theorem unifyLineEnds_append {s : List Char} (h : IsFlat .any s) (t : List Char) :
    unifyLineEnds (s ++ t) = s ++ unifyLineEnds t := by
  induction s with
  | nil => rfl
  | cons c s ih =>
    obtain ⟨feed, turn⟩ := h
    have turn := turn rfl
    rw [List.mem_cons, not_or] at feed turn
    have step : unifyLineEnds (c :: (s ++ t)) = c :: unifyLineEnds (s ++ t) := by
      rw [unifyLineEnds]
      · rw [if_neg (Ne.symm turn.1)]
      · rintro rest rfl
        exact absurd rfl turn.1
    rw [List.cons_append, step, ih ⟨feed.2, fun _ => turn.2⟩, List.cons_append]

theorem unify_append {s : List Char} (h : IsFlat ending s) (t : List Char) :
    ending.unify (s ++ t) = s ++ ending.unify t := by
  cases ending with
  | feed => rfl
  | any => exact unifyLineEnds_append h t

theorem splitAt_append {s : List Char} (h : '\n' ∉ s) (t : List Char) :
    splitAt '\n' (s ++ '\n' :: t) = s :: splitAt '\n' t := by
  induction s with
  | nil => simp [splitAt]
  | cons c s ih =>
    rw [List.mem_cons, not_or] at h
    rw [List.cons_append, splitAt, if_neg (Ne.symm h.1), ih h.2]

theorem splitAt_of_not_mem {s : List Char} (h : '\n' ∉ s) : splitAt '\n' s = [s] := by
  induction s with
  | nil => rfl
  | cons c s ih =>
    rw [List.mem_cons, not_or] at h
    rw [splitAt, if_neg (Ne.symm h.1), ih h.2]

/-- The entries of a text, the line behind its last line end included. -/
def entriesIn (ending : LineEnd) (s : List Char) : List String :=
  entriesOf (splitAt '\n' (ending.unify s))

/-- A line that is empty is no entry, so it does not matter that nothing stands behind the
last line end. -/
theorem entriesOf_lines_eq (s : List Char) : entriesOf (lines s) = entriesOf (splitAt '\n' s) := by
  unfold lines
  dsimp only
  split
  · next last =>
    obtain ⟨front, whole⟩ := List.getLast?_eq_some_iff.mp last
    rw [whole, List.dropLast_concat, entriesOf, entriesOf, List.map_append, List.filter_append]
    simp [trim, trimStart, trimEnd]
  · rfl

theorem entriesIn_lineEnd {ended : List Char} (h : IsLineEnd ending ended) (line rest : List Char)
    (flat : IsFlat ending line) : entriesIn ending (line ++ ended ++ rest) =
      entriesOf [line] ++ entriesIn ending rest := by
  have feed (t : List Char) :
      entriesOf (splitAt '\n' (line ++ '\n' :: t)) =
        entriesOf [line] ++ entriesOf (splitAt '\n' t) := by
    rw [splitAt_append flat.1, entriesOf_cons]
  rw [entriesIn, entriesIn, List.append_assoc, unify_append flat]
  rcases h with rfl | ⟨rfl, rfl | rfl⟩
  · have step : ending.unify (['\n'] ++ rest) = '\n' :: ending.unify rest := by
      cases ending <;> rfl
    rw [step]
    exact feed (ending.unify rest)
  · show entriesOf (splitAt '\n' (line ++ unifyLineEnds ('\r' :: rest))) = _
    by_cases next : ∃ after, rest = '\n' :: after
    · -- The two characters are one line end, so there is one empty line less.
      obtain ⟨after, rfl⟩ := next
      have empty : entriesOf (splitAt '\n' (unifyLineEnds ('\n' :: after))) =
          entriesOf (splitAt '\n' (unifyLineEnds after)) := by
        rw [show unifyLineEnds ('\n' :: after) = '\n' :: unifyLineEnds after from rfl, splitAt,
          if_pos rfl, entriesOf_cons, entriesOf_nil, List.nil_append]
      show _ = _ ++ entriesOf (splitAt '\n' (unifyLineEnds ('\n' :: after)))
      rw [empty]
      exact feed (unifyLineEnds after)
    · have turn : unifyLineEnds ('\r' :: rest) = '\n' :: unifyLineEnds rest := by
        rw [unifyLineEnds]
        · rw [if_pos rfl]
        · rintro after - rfl
          exact next ⟨after, rfl⟩
      rw [turn]
      exact feed (unifyLineEnds rest)
  · exact feed (unifyLineEnds rest)

theorem entriesIn_of_laid {entries : List String} {text : List Char} (h : Laid ending entries text)
    (all : ∀ entry ∈ entries, IsEntry entry) : entriesIn ending text = entries := by
  induction h with
  | last held =>
    have flat := isFlat_of_onLine held all
    have whole := unify_append flat []
    have nothing : ending.unify [] = [] := by cases ending <;> rfl
    rw [List.append_nil, nothing, List.append_nil] at whole
    rw [entriesIn, whole, splitAt_of_not_mem flat.1, entriesOf_of_onLine held all]
  | line held lineEnd _ ih =>
    rw [List.forall_mem_append] at all
    rw [entriesIn_lineEnd lineEnd _ _ (isFlat_of_onLine held all.1),
      entriesOf_of_onLine held all.1, ih all.2]

/-- The entries that are laid out in a text are those of its lines. -/
theorem entriesOf_lines {entries : List String} {text : List Char} (h : Laid ending entries text)
    (all : ∀ entry ∈ entries, IsEntry entry) :
    entriesOf (lines (ending.unify text)) = entries := by
  rw [entriesOf_lines_eq]
  exact entriesIn_of_laid h all

end Reroute.Text
