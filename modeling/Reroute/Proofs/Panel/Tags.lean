import Mathlib
import Reroute.Panel.Views

/-!
# The tags of a rule line

A tag stands in a text where a bracket opens, behind all the backslashes in front of it,
and closes again before another one opens (`Tag.Stands`). It is live when these backslashes
are an even number. `tags` reads the tags of a text off its places, and `tagsFrom` along its
characters, which is the form that the proofs go by.

Escaping a text makes the backslashes in front of each of its tags an odd number and brings
forth no other tag, whatever is put behind it, as long as that closes no bracket
(`tagsFrom_escape`). So of the tags of a rule line only the two around the source can be live
(`liveTags_ruleLine`). The first always is. The second is not where the source ends in three
backslashes, or five, or any larger odd number: a single one at the end is doubled, and all
others are left as they are, in front of the bracket (`liveTags_ruleLine_threeBackslashes`).
-/

namespace Reroute

namespace Markup

/-- A tag in a text: the number of characters in front of its bracket, how many of them are
backslashes right in front of it, and what is between the brackets. -/
structure Tag where
  place : Nat
  slashes : Nat
  name : List Code
  deriving Repr, DecidableEq

namespace Tag

def isLive (t : Tag) : Bool := t.slashes % 2 = 0

/-- How the tag looks, wherever it stands. -/
def look (t : Tag) : Nat × List Code := (t.slashes, t.name)

/-- How the tag looks once its text is escaped. -/
def literalLook (t : Tag) : Nat × List Code := (2 * t.slashes + 1, t.name)

/-- What can be between the brackets of a tag. -/
def IsName (name : List Code) : Prop :=
  ∃ (c : Char) (rest : List Code), name = .char c :: rest ∧
    ('a' ≤ c ∧ c ≤ 'z' ∨ c = '#' ∨ c = '/' ∨ c = '@') ∧ ∀ d ∈ rest, d ≠ '[' ∧ d ≠ ']'

/-- The tag stands in a text, behind all the backslashes that are in front of it. -/
def Stands (t : Tag) (text : List Code) : Prop :=
  ∃ before after, text = before ++ backslashes t.slashes ++ ('[' : Code) :: (t.name ++ (']' : Code) :: after) ∧
    before.getLast? ≠ some ('\\' : Code) ∧ t.place = before.length + t.slashes ∧ IsName t.name

end Tag

def trailing (text : List Code) : Nat := (text.rtakeWhile (· = ('\\' : Code))).length

/-- The tag at a place of a text, if a bracket opens one there. -/
def tagAt? (text : List Code) (place : Nat) : Option Tag :=
  if text[place]? = some ('[' : Code) && isTag (text.drop (place + 1)) then
    some ⟨place, trailing (text.take place), (text.drop (place + 1)).takeWhile (· ≠ (']' : Code))⟩
  else none

def tags (text : List Code) : List Tag := (List.range text.length).filterMap (tagAt? text)

/-! ## Names -/

theorem beginsTag_iff (c : Char) : beginsTag c = true ↔
    'a' ≤ c ∧ c ≤ 'z' ∨ c = '#' ∨ c = '/' ∨ c = '@' := by
  simp only [beginsTag, Code.is, Bool.or_eq_true, Bool.and_eq_true, decide_eq_true_eq, or_assoc]

theorem closes_cons (c : Code) (s : List Code) :
    closes (c :: s) = (decide (c = ']') || (decide (c ≠ '[') && closes s)) := rfl

theorem closes_iff (s : List Code) : closes s = true ↔
    ∃ front after, s = front ++ (']' : Code) :: after ∧ ∀ d ∈ front, d ≠ '[' ∧ d ≠ ']' := by
  induction s with
  | nil => simp [closes]
  | cons c s ih =>
    rw [closes_cons]
    constructor
    · intro h
      by_cases close : c = ']'
      · exact ⟨[], s, by rw [close]; rfl, by simp⟩
      · obtain ⟨open_, later⟩ : c ≠ '[' ∧ closes s = true := by simpa [close] using h
        obtain ⟨front, after, rfl, inside⟩ := ih.mp later
        refine ⟨c :: front, after, rfl, ?_⟩
        rw [List.forall_mem_cons]
        exact ⟨⟨open_, close⟩, inside⟩
    · intro h
      obtain ⟨front, after, split, inside⟩ := h
      cases front with
      | nil =>
        obtain ⟨rfl, -⟩ : c = ']' ∧ s = after := by simpa using split
        rfl
      | cons d front =>
        obtain ⟨rfl, rfl⟩ : c = d ∧ s = front ++ (']' : Code) :: after := by simpa using split
        rw [List.forall_mem_cons] at inside
        have later := ih.mpr ⟨front, after, rfl, inside.2⟩
        simp [later, inside.1.1]

theorem takeWhile_front {front : List Code} (inside : ∀ d ∈ front, d ≠ ']') (after : List Code) :
    (front ++ (']' : Code) :: after).takeWhile (· ≠ (']' : Code)) = front := by
  rw [List.takeWhile_append_of_pos (by simpa using inside)]
  simp

theorem Tag.IsName.no_close {name : List Code} (h : Tag.IsName name) : ∀ d ∈ name, d ≠ ']' := by
  obtain ⟨c, rest, rfl, first, inside⟩ := h
  rw [List.forall_mem_cons]
  refine ⟨?_, fun d hd => (inside d hd).2⟩
  intro close
  obtain rfl := Code.char.inj close
  revert first
  decide

/-- What makes a bracket a tag is a name, and the other bracket behind it. -/
theorem isTag_iff (s : List Code) : isTag s = true ↔
    Tag.IsName (s.takeWhile (· ≠ (']' : Code))) ∧ ∃ after, s = s.takeWhile (· ≠ (']' : Code)) ++ (']' : Code) :: after := by
  constructor
  · intro h
    cases s with
    | nil => simp [isTag] at h
    | cons c s =>
      simp only [isTag, Bool.and_eq_true] at h
      obtain ⟨front, after, rfl, inside⟩ := (closes_iff s).mp h.2
      have name : Tag.IsName (c :: front) := by
        cases c with
        | char c => exact ⟨c, front, rfl, (beginsTag_iff c).mp h.1, inside⟩
        | half n => exact absurd h.1 Bool.false_ne_true
      have taken : (c :: (front ++ (']' : Code) :: after)).takeWhile (· ≠ (']' : Code)) = c :: front :=
        takeWhile_front name.no_close after
      rw [taken]
      exact ⟨name, after, rfl⟩
  · intro h
    obtain ⟨⟨c, rest, shape, first, inside⟩, after, split⟩ := h
    rw [split, shape, List.cons_append, isTag, (beginsTag_iff c).mpr first, Bool.true_and]
    exact (closes_iff _).mpr ⟨rest, after, rfl, inside⟩

/-! ## Backslashes at the end -/

theorem trailing_concat_slash (s : List Code) : trailing (s ++ [('\\' : Code)]) = trailing s + 1 := by
  rw [trailing, List.rtakeWhile_concat_pos _ _ _ (by decide), List.length_append, trailing]
  rfl

theorem trailing_concat_other (s : List Code) {c : Code} (other : c ≠ '\\') :
    trailing (s ++ [c]) = 0 := by
  rw [trailing, List.rtakeWhile_concat_neg _ _ _ (by simpa using other)]
  rfl

theorem trailing_append_backslashes {s : List Code} (ended : s.getLast? ≠ some ('\\' : Code)) (n : Nat) :
    trailing (s ++ backslashes n) = n := by
  induction n with
  | zero =>
    rw [backslashes, List.replicate_zero, List.append_nil]
    induction s using List.reverseRecOn with
    | nil => rfl
    | append_singleton s c _ =>
      apply trailing_concat_other
      simpa using ended
  | succ n ih =>
    rw [backslashes, List.replicate_succ', ← List.append_assoc, trailing_concat_slash]
    exact congrArg Nat.succ ih

theorem exists_trailing (s : List Code) :
    ∃ t, s = t ++ backslashes (trailing s) ∧ t.getLast? ≠ some ('\\' : Code) := by
  induction s using List.reverseRecOn with
  | nil => exact ⟨[], rfl, by simp⟩
  | append_singleton s c ih =>
    by_cases slash : c = '\\'
    · subst slash
      obtain ⟨t, split, ended⟩ := ih
      refine ⟨t, ?_, ended⟩
      rw [trailing_concat_slash, backslashes, List.replicate_succ', ← List.append_assoc]
      exact congrArg (· ++ [('\\' : Code)]) split
    · refine ⟨s ++ [c], ?_, ?_⟩
      · rw [trailing_concat_other s slash]
        simp [backslashes]
      · simpa using slash

/-! ## Tags by place and by character -/

theorem tagAt?_eq_some_iff (text : List Code) (place : Nat) (t : Tag) :
    tagAt? text place = some t ↔ t.Stands text ∧ t.place = place := by
  rw [tagAt?, Option.ite_none_right_eq_some, Option.some.injEq, Bool.and_eq_true,
    decide_eq_true_eq]
  constructor
  · intro h
    obtain ⟨⟨bracket, tag⟩, rfl⟩ := h
    obtain ⟨inside, here⟩ := List.getElem?_eq_some_iff.mp bracket
    obtain ⟨name, after, behind⟩ := (isTag_iff _).mp tag
    obtain ⟨before, front, ended⟩ := exists_trailing (text.take place)
    refine ⟨⟨before, after, ?_, ended, ?_, name⟩, rfl⟩
    · calc text = text.take place ++ text.drop place := (List.take_append_drop place text).symm
        _ = text.take place ++ ('[' : Code) :: text.drop (place + 1) := by
            rw [List.drop_eq_getElem_cons inside, here]
        _ = _ := by
            rw [← behind]
            exact congrArg (· ++ _) front
    · have long := congrArg List.length front
      simp only [List.length_append, List.length_take, backslashes, List.length_replicate] at long
      show place = before.length + trailing (text.take place)
      omega
  · intro h
    obtain ⟨⟨before, after, rfl, ended, number, name⟩, rfl⟩ := h
    have length : (before ++ backslashes t.slashes).length = t.place := by
      rw [number]
      simp [backslashes]
    have front : (before ++ backslashes t.slashes ++ ('[' : Code) :: (t.name ++ (']' : Code) :: after)).take t.place =
        before ++ backslashes t.slashes := List.take_left' length
    have behind : (before ++ backslashes t.slashes ++ ('[' : Code) :: (t.name ++ (']' : Code) :: after)).drop
        (t.place + 1) = t.name ++ (']' : Code) :: after := by
      rw [← List.drop_drop, List.drop_left' length]
      rfl
    have taken := takeWhile_front name.no_close after
    rw [front, behind, taken, trailing_append_backslashes ended]
    refine ⟨⟨?_, ?_⟩, rfl⟩
    · rw [List.getElem?_append_right (Nat.le_of_eq length), length, Nat.sub_self]
      rfl
    · rw [isTag_iff, taken]
      exact ⟨name, after, rfl⟩

theorem mem_tags_iff (text : List Code) (t : Tag) : t ∈ tags text ↔ t.Stands text := by
  simp only [tags, List.mem_filterMap, tagAt?_eq_some_iff, List.mem_range]
  constructor
  · intro h
    obtain ⟨_, -, stands, -⟩ := h
    exact stands
  · intro stands
    refine ⟨t.place, ?_, stands, rfl⟩
    obtain ⟨before, after, rfl, -, number, -⟩ := stands
    rw [number]
    simp only [List.length_append, backslashes, List.length_replicate, List.length_cons]
    omega

/-- The tags of a text in front of which `place` characters stand, the last `n` of them
backslashes. -/
def tagsFrom : (place n : Nat) → List Code → List Tag
  | _, _, [] => []
  | place, n, c :: s =>
    if c = '\\' then tagsFrom (place + 1) (n + 1) s
    else if c = '[' && isTag s then
      ⟨place, n, s.takeWhile (· ≠ (']' : Code))⟩ :: tagsFrom (place + 1) 0 s
    else tagsFrom (place + 1) 0 s

theorem tagsFrom_eq (front s : List Code) : tagsFrom front.length (trailing front) s =
    (List.range' front.length s.length).filterMap (tagAt? (front ++ s)) := by
  induction s generalizing front with
  | nil => rfl
  | cons c s ih =>
    have onward := ih (front ++ [c])
    rw [List.length_append, List.length_singleton, List.append_assoc, List.singleton_append]
      at onward
    have here : (front ++ c :: s)[front.length]? = some c := by simp
    have behind : (front ++ c :: s).drop (front.length + 1) = s := by
      rw [← List.drop_drop, List.drop_left]
      rfl
    have past : (front ++ c :: s).take front.length = front := List.take_left
    rw [List.length_cons, List.range'_succ, List.filterMap_cons, ← onward, tagsFrom, tagAt?, here,
      behind, past]
    by_cases slash : c = '\\'
    · subst slash
      rw [trailing_concat_slash]
      simp
    · rw [trailing_concat_other front slash]
      by_cases bracket : c = '['
      · subst bracket
        cases isTag s <;> simp
      · simp [slash, bracket]

theorem tags_eq (text : List Code) : tags text = tagsFrom 0 0 text := by
  rw [tags, List.range_eq_range']
  exact (tagsFrom_eq [] text).symm

theorem tagsFrom_backslashes (place n k : Nat) (s : List Code) :
    tagsFrom place n (backslashes k ++ s) = tagsFrom (place + k) (n + k) s := by
  induction k generalizing place n with
  | zero => rfl
  | succ k ih =>
    show tagsFrom (place + 1) (n + 1) (backslashes k ++ s) = _
    rw [ih, Nat.add_right_comm place, Nat.add_right_comm n]
    rfl

/-- In a text without opening brackets there is no tag, and behind a character of another
kind no backslash counts. -/
theorem tagsFrom_plain {xs : List Code} {c : Code} (none : ('[' : Code) ∉ xs) (bracket : c ≠ '[')
    (slash : c ≠ '\\') (place n : Nat) (s : List Code) :
    tagsFrom place n (xs ++ c :: s) = tagsFrom (place + xs.length + 1) 0 s := by
  induction xs generalizing place n with
  | nil =>
    rw [List.nil_append, tagsFrom, if_neg slash]
    simp [bracket]
  | cons d xs ih =>
    rw [List.mem_cons, not_or] at none
    have count : place + (d :: xs).length + 1 = place + 1 + xs.length + 1 := by
      rw [List.length_cons]
      omega
    have other : ¬(d = '[' && isTag (xs ++ c :: s)) = true := by
      simp [Ne.symm none.1]
    rw [List.cons_append, tagsFrom, if_neg other, count]
    split
    · exact ih none.2 (place + 1) (n + 1)
    · exact ih none.2 (place + 1) 0

theorem tagsFrom_tag {name : List Code} (h : Tag.IsName name) (place n : Nat) (s : List Code) :
    tagsFrom place n (('[' : Code) :: (name ++ (']' : Code) :: s)) =
      ⟨place, n, name⟩ :: tagsFrom (place + name.length + 2) 0 s := by
  have taken := takeWhile_front h.no_close s
  have tag : isTag (name ++ (']' : Code) :: s) = true := by
    rw [isTag_iff, taken]
    exact ⟨h, s, rfl⟩
  have plain : ('[' : Code) ∉ name := by
    obtain ⟨c, rest, rfl, first, inside⟩ := h
    rw [List.mem_cons, not_or]
    refine ⟨?_, fun hd => (inside '[' hd).1 rfl⟩
    intro same
    obtain rfl := Code.char.inj same
    revert first
    decide
  have count : place + name.length + 2 = place + 1 + name.length + 1 := by omega
  rw [tagsFrom, if_neg (by decide), tag, if_pos (by simp), taken, count,
    tagsFrom_plain plain (by decide) (by decide)]

/-! ## Tags of an escaped text -/

theorem closes_backslashes (n : Nat) (s : List Code) : closes (backslashes n ++ s) = closes s := by
  induction n with
  | zero => rfl
  | succ n ih => exact ih

/-- A bracket closes in an escaped text where it does in the text itself, if what follows
closes none. -/
theorem closes_escapeTags {ys : List Code} (apart : closes ys = false) (n : Nat) (s : List Code) :
    closes (escapeTags n s ++ ys) = closes s := by
  fun_induction escapeTags n s with
  | case1 n => rw [closes_backslashes, apart, closes]
  | case2 n s ih =>
    rw [ih]
    rfl
  | case3 n c s _ tag ih =>
    obtain ⟨rfl, -⟩ : c = '[' ∧ isTag s = true := by simpa using tag
    rw [List.append_assoc, closes_backslashes]
    rfl
  | case4 n c s _ _ ih =>
    rw [List.append_assoc, closes_backslashes, List.cons_append, closes_cons, closes_cons, ih]

theorem isTag_of_closes {s : List Code} (h : closes s = false) : isTag s = false := by
  rw [Bool.eq_false_iff] at h ⊢
  intro tag
  obtain ⟨name, after, split⟩ := (isTag_iff s).mp tag
  obtain ⟨c, rest, shape, first, inside⟩ := name
  apply h
  apply (closes_iff s).mpr
  refine ⟨s.takeWhile (· ≠ (']' : Code)), after, split, ?_⟩
  rw [shape, List.forall_mem_cons]
  refine ⟨⟨?_, ?_⟩, inside⟩
  all_goals
    intro same
    obtain rfl := Code.char.inj same
    revert first
    decide

theorem escapeTags_succ (n : Nat) (s : List Code) :
    ∃ t, escapeTags (n + 1) s = ('\\' : Code) :: t := by
  induction s generalizing n with
  | nil => exact ⟨backslashes n, rfl⟩
  | cons c s ih =>
    rw [escapeTags]
    split
    · exact ih (n + 1)
    · split
      · exact ⟨_, rfl⟩
      · exact ⟨_, rfl⟩

theorem isTag_escapeTags {ys : List Code} (apart : closes ys = false) (s : List Code) :
    isTag (escapeTags 0 s ++ ys) = isTag s := by
  cases s with
  | nil => exact isTag_of_closes apart
  | cons c s =>
    rw [escapeTags]
    split
    · next slash =>
      obtain ⟨t, shape⟩ := escapeTags_succ 0 s
      rw [shape, slash]
      rfl
    · split
      · next tag =>
        obtain ⟨rfl, -⟩ : c = '[' ∧ isTag s = true := by simpa using tag
        rfl
      · show (beginsTag c && closes (escapeTags 0 s ++ ys)) = isTag (c :: s)
        rw [closes_escapeTags apart, isTag]

/-- What is between the brackets of a tag is not escaped. -/
theorem takeWhile_escapeTags {s : List Code} (h : closes s = true) (n : Nat) (ys : List Code) :
    (escapeTags n s ++ ys).takeWhile (· ≠ (']' : Code)) = backslashes n ++ s.takeWhile (· ≠ (']' : Code)) := by
  have skip (k : Nat) (t : List Code) :
      (backslashes k ++ t).takeWhile (· ≠ (']' : Code)) = backslashes k ++ t.takeWhile (· ≠ (']' : Code)) := by
    apply List.takeWhile_append_of_pos
    intro c hc
    rw [List.eq_of_mem_replicate hc]
    decide
  fun_induction escapeTags n s with
  | case1 n => simp [closes] at h
  | case2 n s ih =>
    rw [ih h, backslashes, List.replicate_succ', List.append_assoc]
    rfl
  | case3 n c s _ tag ih =>
    obtain ⟨rfl, -⟩ : c = '[' ∧ isTag s = true := by simpa using tag
    simp [closes] at h
  | case4 n c s _ _ ih =>
    rw [List.append_assoc, skip, List.cons_append, List.takeWhile_cons, List.takeWhile_cons]
    by_cases close : c = ']'
    · simp [close]
    · have later : closes s = true := by
        rw [closes_cons] at h
        simp only [close, decide_false, Bool.false_or, Bool.and_eq_true] at h
        exact h.2
      rw [if_pos (by simpa using close), if_pos (by simpa using close), ih later]
      rfl

/-- The number of backslashes at the end of a text that follows `n` of them. -/
def trailingFrom : (n : Nat) → List Code → Nat
  | n, [] => n
  | n, c :: s => if c = '\\' then trailingFrom (n + 1) s else trailingFrom 0 s

/-- The tags of an escaped text are those of the text itself, with twice the backslashes in
front of them and one more. Behind it the reading goes on with the backslashes at its end. -/
theorem tagsFrom_escapeTags {ys : List Code} (apart : closes ys = false) (place place' n : Nat)
    (s : List Code) : ∃ ts,
      tagsFrom place 0 (escapeTags n s ++ ys) =
        ts ++ tagsFrom (place + (escapeTags n s).length) (trailingFrom n s) ys ∧
      ts.map Tag.look = (tagsFrom place' n s).map Tag.literalLook := by
  fun_induction escapeTags n s generalizing place place' with
  | case1 n =>
    refine ⟨[], ?_, rfl⟩
    rw [tagsFrom_backslashes, Nat.zero_add, backslashes, List.length_replicate]
    rfl
  | case2 n s ih =>
    obtain ⟨ts, read, looks⟩ := ih place (place' + 1)
    refine ⟨ts, ?_, ?_⟩
    · rw [read, trailingFrom, if_pos rfl]
    · rw [looks, tagsFrom, if_pos rfl]
  | case3 n c s other tag ih =>
    obtain ⟨rfl, tag'⟩ : c = '[' ∧ isTag s = true := by simpa using tag
    obtain ⟨ts, read, looks⟩ := ih (place + (2 * n + 1) + 1) (place' + 1)
    have closed : closes s = true := by
      cases closed : closes s with
      | true => rfl
      | false => simp [isTag_of_closes closed] at tag'
    have name := takeWhile_escapeTags closed 0 ys
    refine ⟨⟨place + (2 * n + 1), 2 * n + 1, s.takeWhile (· ≠ (']' : Code))⟩ :: ts, ?_, ?_⟩
    · have count : place + (backslashes (2 * n + 1) ++ ('[' : Code) :: escapeTags 0 s).length =
          place + (2 * n + 1) + 1 + (escapeTags 0 s).length := by
        simp only [List.length_append, backslashes, List.length_replicate, List.length_cons]
        omega
      rw [List.append_assoc, tagsFrom_backslashes, Nat.zero_add, List.cons_append, tagsFrom,
        if_neg other, isTag_escapeTags apart, tag', if_pos (by simp), name, read, count,
        trailingFrom, if_neg other]
      rfl
    · rw [List.map_cons, looks, tagsFrom, if_neg other, tag', if_pos (by simp)]
      rfl
  | case4 n c s other plain ih =>
    obtain ⟨ts, read, looks⟩ := ih (place + n + 1) (place' + 1)
    refine ⟨ts, ?_, ?_⟩
    · have count : place + (backslashes n ++ c :: escapeTags 0 s).length =
          place + n + 1 + (escapeTags 0 s).length := by
        simp only [List.length_append, backslashes, List.length_replicate, List.length_cons]
        omega
      rw [List.append_assoc, tagsFrom_backslashes, Nat.zero_add, List.cons_append, tagsFrom,
        if_neg other, isTag_escapeTags apart, if_neg plain, read, count, trailingFrom,
        if_neg other]
    · rw [looks, tagsFrom, if_neg other, if_neg plain]

/-! ## The end of an escaped text -/

theorem trailing_append (front s : List Code) :
    trailing (front ++ s) = trailingFrom (trailing front) s := by
  induction s generalizing front with
  | nil => rw [List.append_nil, trailingFrom]
  | cons c s ih =>
    have onward := ih (front ++ [c])
    rw [List.append_assoc, List.singleton_append] at onward
    rw [onward, trailingFrom]
    by_cases slash : c = '\\'
    · rw [if_pos slash, slash, trailing_concat_slash]
    · rw [if_neg slash, trailing_concat_other front slash]

theorem trailing_eq (s : List Code) : trailing s = trailingFrom 0 s := trailing_append [] s

theorem trailing_escapeTags (n : Nat) (s : List Code) :
    trailing (escapeTags n s) = trailingFrom n s := by
  fun_induction escapeTags n s with
  | case1 n => exact trailing_append_backslashes (s := []) (by simp) n
  | case2 n s ih => rw [ih, trailingFrom, if_pos rfl]
  | case3 n c s other _ ih =>
    rw [trailing_append, trailingFrom, if_neg other, ← trailing_eq, ih, trailingFrom, if_neg other]
  | case4 n c s other _ ih =>
    rw [trailing_append, trailingFrom, if_neg other, ← trailing_eq, ih, trailingFrom, if_neg other]

theorem closeBackslash_eq (s : List Code) :
    closeBackslash s = s ++ if trailing s = 1 then [('\\' : Code)] else [] := by
  obtain ⟨t, split, ended⟩ := exists_trailing s
  generalize trailing s = n at split
  subst split
  match n with
  | 0 =>
    induction t using List.reverseRecOn with
    | nil => rfl
    | append_singleton t c _ =>
      have other : c ≠ '\\' := by simpa using ended
      simp [closeBackslash, backslashes, other]
  | 1 =>
    induction t using List.reverseRecOn with
    | nil => rfl
    | append_singleton t c _ =>
      have other : c ≠ '\\' := by simpa using ended
      simp [closeBackslash, backslashes, other]
  | n + 2 =>
    have last : backslashes (n + 2) = backslashes n ++ [.char '\\', .char '\\'] := by
      simp [backslashes, List.replicate_succ']
    simp [closeBackslash, last]

/-- The number of backslashes that end an escaped text, where `n` end the text itself. -/
def escapedEnd (n : Nat) : Nat := if n = 1 then 2 else n

theorem toList_escape (text : Points) :
    (escape text).toList = closeBackslash (escapeTags 0 text.toList) := rfl

/-- Of the tags of an escaped text none is live, in front of whatever closes no bracket. -/
theorem tagsFrom_escape {ys : List Code} (apart : closes ys = false) (place : Nat)
    (text : Points) : ∃ ts,
      tagsFrom place 0 ((escape text).toList ++ ys) =
        ts ++ tagsFrom (place + (escape text).toList.length) (escapedEnd (trailing text.toList)) ys ∧
      ts.map Tag.look = (tags text.toList).map Tag.literalLook ∧
      ts.filter Tag.isLive = [] := by
  have ending : trailing (escapeTags 0 text.toList) = trailing text.toList := by
    rw [trailing_escapeTags, trailing_eq]
  have whole : ∃ ts,
      tagsFrom place 0 ((escape text).toList ++ ys) =
        ts ++ tagsFrom (place + (escape text).toList.length) (escapedEnd (trailing text.toList)) ys ∧
      ts.map Tag.look = (tags text.toList).map Tag.literalLook := by
    rw [toList_escape, closeBackslash_eq, ending, tags_eq, trailing_eq, escapedEnd]
    by_cases single : trailingFrom 0 text.toList = 1
    · rw [if_pos single, if_pos single, List.append_assoc, List.length_append]
      have apart' : closes (('\\' : Code) :: ys) = false := apart
      obtain ⟨ts, read, looks⟩ := tagsFrom_escapeTags apart' place 0 0 text.toList
      refine ⟨ts, ?_, looks⟩
      rw [single] at read
      exact read
    · rw [if_neg single, if_neg single, List.append_nil]
      exact tagsFrom_escapeTags apart place 0 0 text.toList
  obtain ⟨ts, read, looks⟩ := whole
  refine ⟨ts, read, looks, ?_⟩
  rw [List.filter_eq_nil_iff]
  intro t ht
  -- The backslashes in front of the tag are twice some number, and one more.
  have seen : t.look ∈ (tags text.toList).map Tag.literalLook := looks ▸ List.mem_map_of_mem ht
  obtain ⟨old, -, same⟩ := List.mem_map.mp seen
  have odd : 2 * old.slashes + 1 = t.slashes := congrArg Prod.fst same
  simp only [Tag.isLive, decide_eq_true_eq]
  omega

end Markup

namespace View

open Markup

/-- The tag that a rule line opens in front of the source of the rule. -/
def openingTag (label : Points) : Tag := ⟨label.toList.length + 2, 0, ("bold" : Points).toList⟩

/-- The tag that a rule line puts behind the source of the rule. -/
def closingTag (label : Points) (r : Rule) : Tag :=
  ⟨label.toList.length + 8 + (escape r.source).toList.length,
    escapedEnd (trailing r.source.toList), ("/bold" : Points).toList⟩

theorem isName_bold : Tag.IsName ("bold" : Points).toList :=
  ⟨'b', [.char 'o', .char 'l', .char 'd'], rfl, by decide, by simp⟩

theorem isName_endOfBold : Tag.IsName ("/bold" : Points).toList :=
  ⟨'/', [.char 'b', .char 'o', .char 'l', .char 'd'], rfl, by decide, by simp⟩

/-- The tags of a rule line are the two around the source, and those of the two texts, which
are not live. -/
theorem exists_tags_ruleLine {label : Points} (plain : ('[' : Code) ∉ label.toList) (r : Rule) :
    ∃ first second,
      tags (ruleLine label r).toList =
        openingTag label :: first ++ closingTag label r :: second ∧
      (first.map Tag.look = (tags r.source.toList).map Tag.literalLook ∧
        first.filter Tag.isLive = []) ∧
      second.map Tag.look = (tags r.destination.toList).map Tag.literalLook ∧
        second.filter Tag.isLive = [] := by
  let behind := ('[' : Code) :: (("/bold" : Points).toList ++ (']' : Code) :: ((" ->" : Points).toList ++ (' ' : Code) ::
    ((escape r.destination).toList ++ [])))
  have line : (ruleLine label r).toList = (label.toList ++ [(':' : Code)]) ++ (' ' : Code) ::
      '[' :: (("bold" : Points).toList ++ (']' : Code) :: ((escape r.source).toList ++ behind)) := by
    show (label ++ (": [bold]" : Points) ++ escape r.source ++ ("[/bold] -> " : Points) ++
      escape r.destination).toList = _
    simp only [Points.toList_append, List.append_assoc, behind, List.append_nil]
    rfl
  have label_plain : ('[' : Code) ∉ label.toList ++ [(':' : Code)] := by simpa using plain
  have apart : closes behind = false := rfl
  have apart' : closes [] = false := rfl
  obtain ⟨first, read, looks, dead⟩ :=
    tagsFrom_escape apart (label.toList.length + 8) r.source
  obtain ⟨second, read', looks', dead'⟩ := tagsFrom_escape apart'
    (label.toList.length + 8 + (escape r.source).toList.length + 11) r.destination
  refine ⟨first, second, ?_, ⟨looks, dead⟩, looks', dead'⟩
  have labelled : 0 + (label.toList ++ [(':' : Code)]).length + 1 = label.toList.length + 2 := by
    simp
  have opened : label.toList.length + 2 + ("bold" : Points).toList.length + 2 = label.toList.length + 8 := rfl
  rw [tags_eq, line, tagsFrom_plain label_plain (by decide) (by decide), labelled,
    tagsFrom_tag isName_bold, opened, read, tagsFrom_tag isName_endOfBold,
    tagsFrom_plain (by decide) (by decide) (by decide)]
  have closed (n : Nat) : n + ("/bold" : Points).toList.length + 2 +
      (" ->" : Points).toList.length + 1 = n + 11 := rfl
  rw [closed, read', tagsFrom, List.append_nil]
  rfl

/-- The tag behind the source is live where the backslashes at the end of the source are an
even number, or a single one. -/
theorem closingTag_isLive_iff (label : Points) (r : Rule) :
    (closingTag label r).isLive = true ↔
      trailing r.source.toList % 2 = 0 ∨ trailing r.source.toList = 1 := by
  show decide (escapedEnd (trailing r.source.toList) % 2 = 0) = true ↔ _
  rw [decide_eq_true_eq, escapedEnd]
  split
  · next single => simp [single]
  · next more => simp [more]

/-- The live tags of a rule line are the two that it puts around the source, in this order,
unless the source ends in an odd number of backslashes that is not one: then only the first of
the two is live. Every tag of the source and of the destination is in the line, and literal. -/
theorem liveTags_ruleLine {label : Points} (plain : ('[' : Code) ∉ label.toList) (r : Rule) :
    (∀ t, t ∈ tags (ruleLine label r).toList ↔ t.Stands (ruleLine label r).toList) ∧
    (trailing r.source.toList % 2 = 0 ∨ trailing r.source.toList = 1 →
      (tags (ruleLine label r).toList).filter Tag.isLive =
        [openingTag label, closingTag label r]) ∧
    (trailing r.source.toList % 2 = 1 → trailing r.source.toList ≠ 1 →
      (tags (ruleLine label r).toList).filter Tag.isLive = [openingTag label]) ∧
    (tags (ruleLine label r).toList).map Tag.look =
      (openingTag label).look :: (tags r.source.toList).map Tag.literalLook ++
        (closingTag label r).look ::
          (tags r.destination.toList).map Tag.literalLook := by
  obtain ⟨first, second, line, ⟨looks, dead⟩, looks', dead'⟩ := exists_tags_ruleLine plain r
  have opened : (openingTag label).isLive = true := rfl
  refine ⟨mem_tags_iff _, ?_, ?_, ?_⟩
  · intro ends
    have closed := (closingTag_isLive_iff label r).mpr ends
    rw [line, List.filter_append, List.filter_cons_of_pos opened, List.filter_cons_of_pos closed,
      dead, dead']
    rfl
  · intro odd more
    have closed : ¬(closingTag label r).isLive = true := by
      rw [closingTag_isLive_iff]
      omega
    rw [line, List.filter_append, List.filter_cons_of_pos opened, List.filter_cons_of_neg closed,
      dead, dead']
    rfl
  · rw [line, List.map_append, List.map_cons, List.map_cons, looks, looks']

/-- A source that ends in a backslash and has tags of both kinds. -/
theorem liveTags_ruleLine_taggedSource :
    let r : Rule := ⟨"[red]\\[x]\\", "[/bold]"⟩
    ('[' : Code) ∉ ("Rule added" : Points).toList ∧ trailing r.source.toList = 1 ∧
      (tags (ruleLine "Rule added" r).toList).filter Tag.isLive =
        [⟨12, 0, ("bold" : Points).toList⟩, ⟨32, 2, ("/bold" : Points).toList⟩] := by
  intro r
  have plain : ('[' : Code) ∉ ("Rule added" : Points).toList := by decide
  have ends : trailing r.source.toList = 1 := by decide
  have front : openingTag "Rule added" = ⟨12, 0, ("bold" : Points).toList⟩ := by decide
  have back : closingTag "Rule added" r = ⟨32, 2, ("/bold" : Points).toList⟩ := by decide
  obtain ⟨-, live, -, -⟩ := liveTags_ruleLine plain r
  refine ⟨plain, ends, ?_⟩
  rw [live (.inr ends), front, back]

/-- Where the source ends in three backslashes, the tag that ends the bold face is literal. -/
theorem liveTags_ruleLine_threeBackslashes :
    ('[' : Code) ∉ ("Rule added" : Points).toList ∧
      (tags (ruleLine "Rule added" ⟨"a\\\\\\", "b"⟩).toList).filter Tag.isLive =
        [openingTag "Rule added"] := by
  decide

end View

end Reroute
