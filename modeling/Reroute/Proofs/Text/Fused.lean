import Mathlib
import Reroute.Proofs.Text.Points

/-!
# Texts with fused pairs

To unite the pairs of a text makes one code point of two in places. The two and the one
are neither blanks nor any of the characters that the program looks for (`IsForeign`). So
what the program cuts, drops, takes and tests is told of any two texts of which the second
is the first one with some foreign pairs fused (`Fused`), and then of a text and its united
form (`fused_unite`).
-/

namespace Reroute

/-- Half of a pair, or a code point that has two units. -/
def Code.IsForeign (c : Code) : Prop := (0xD800 ≤ c.toNat ∧ c.toNat < 0xE000) ∨ 0x10000 ≤ c.toNat

/-- The second text is the first one in which some pairs of foreign code points are one
foreign code point. -/
inductive Fused : List Code → List Code → Prop
  | nil : Fused [] []
  | cons (c : Code) {s t : List Code} : Fused s t → Fused (c :: s) (c :: t)
  | pair {high low joined : Code} {s t : List Code} (first : high.IsForeign)
      (second : low.IsForeign) (both : joined.IsForeign) :
      Fused s t → Fused (high :: low :: s) (joined :: t)

namespace Code

/-! ## Foreign code points -/

variable {c d : Code}

theorem IsForeign.le (h : c.IsForeign) : 0xD800 ≤ c.toNat := by
  rcases h with h | h <;> omega

theorem IsForeign.ne (h : c.IsForeign) (low : d.toNat < 0xD800) : c ≠ d := by
  rintro rfl
  have := h.le
  omega

/-- A property of characters below U+D800 is not one of a foreign code point. -/
theorem IsForeign.is_eq_false {good : Char → Bool}
    (low : ∀ c, good c = true → c.toNat < 0xD800) (h : c.IsForeign) : c.is good = false := by
  cases c with
  | half n => rfl
  | char c =>
    have high : 0xD800 ≤ c.toNat := h.le
    rw [Code.is, Bool.eq_false_iff]
    intro held
    have := low c held
    omega

end Code

namespace Fused

variable {s t s' t' : List Code} {p : Code → Bool} {b : Bool}

protected theorem refl : ∀ s : List Code, Fused s s
  | [] => .nil
  | c :: s => .cons c (.refl s)

protected theorem append (h : Fused s t) (h' : Fused s' t') : Fused (s ++ s') (t ++ t') := by
  induction h with
  | nil => exact h'
  | cons c _ ih => exact .cons c ih
  | pair first second both _ ih => exact .pair first second both ih

protected theorem reverse (h : Fused s t) : Fused s.reverse t.reverse := by
  induction h with
  | nil => exact .nil
  | cons c _ ih =>
    rw [List.reverse_cons, List.reverse_cons]
    exact ih.append (.refl [c])
  | pair first second both _ ih =>
    rw [List.reverse_cons, List.reverse_cons, List.reverse_cons, List.append_assoc]
    exact ih.append (.pair second first both .nil)

theorem isEmpty_eq (h : Fused s t) : s.isEmpty = t.isEmpty := by
  cases h <;> rfl

theorem all_eq (blind : ∀ c : Code, c.IsForeign → p c = b) (h : Fused s t) :
    s.all p = t.all p := by
  induction h with
  | nil => rfl
  | cons c _ ih => rw [List.all_cons, List.all_cons, ih]
  | pair first second both _ ih =>
    rw [List.all_cons, List.all_cons, List.all_cons, ih, blind _ first, blind _ second,
      blind _ both, ← Bool.and_assoc, Bool.and_self]

theorem contains_eq {c : Code} (low : c.toNat < 0xD800) (h : Fused s t) :
    s.contains c = t.contains c := by
  have blind (d : Code) (foreign : d.IsForeign) : (!(c == d)) = true := by
    simpa using (foreign.ne low).symm
  rw [List.contains_eq_any_beq, List.contains_eq_any_beq, List.any_eq_not_all_not,
    List.any_eq_not_all_not, all_eq blind h]

theorem eq_of_forall (h : Fused s t) (plain : ∀ c ∈ s, ¬c.IsForeign) : s = t := by
  induction h with
  | nil => rfl
  | cons c _ ih => rw [ih fun d hd => plain d (.tail c hd)]
  | pair first => exact absurd first (plain _ (.head _))

theorem forall_iff (h : Fused s t) :
    (∀ c ∈ s, ¬c.IsForeign) ↔ ∀ c ∈ t, ¬c.IsForeign := by
  induction h with
  | nil => rfl
  | cons c _ ih => rw [List.forall_mem_cons, List.forall_mem_cons, ih]
  | pair first _ both => simp [first, both]

/-- Tests that foreign code points fail hold of all of a text only where none is foreign. -/
theorem eq_of_all (blind : ∀ c : Code, c.IsForeign → p c = false) (h : Fused s t)
    (all : s.all p = true) : s = t := by
  refine h.eq_of_forall fun c hc foreign => ?_
  have held := List.all_eq_true.mp all c hc
  rw [blind c foreign] at held
  exact Bool.false_ne_true held

/-- A test that holds of no text with a foreign code point does not tell fused texts
apart. -/
theorem test_eq {test : List Code → Bool}
    (plain : ∀ s, test s = true → ∀ c ∈ s, ¬c.IsForeign) (h : Fused s t) : test s = test t := by
  by_cases all : ∀ c ∈ s, ¬c.IsForeign
  · rw [h.eq_of_forall all]
  · have fails (s : List Code) (some : ¬∀ c ∈ s, ¬c.IsForeign) : test s = false :=
      Bool.eq_false_iff.mpr fun held => some (plain s held)
    rw [fails s all, fails t (mt h.forall_iff.mpr all)]

protected theorem filter (blind : ∀ c : Code, c.IsForeign → p c = true) (h : Fused s t) :
    Fused (s.filter p) (t.filter p) := by
  induction h with
  | nil => exact .nil
  | cons c _ ih =>
    rw [List.filter_cons, List.filter_cons]
    split
    · exact .cons c ih
    · exact ih
  | pair first second both _ ih =>
    rw [List.filter_cons_of_pos (blind _ first), List.filter_cons_of_pos (blind _ second),
      List.filter_cons_of_pos (blind _ both)]
    exact .pair first second both ih

protected theorem takeWhile (blind : ∀ c : Code, c.IsForeign → p c = b) (h : Fused s t) :
    Fused (s.takeWhile p) (t.takeWhile p) := by
  induction h with
  | nil => exact .nil
  | cons c _ ih =>
    rw [List.takeWhile_cons, List.takeWhile_cons]
    split
    · exact .cons c ih
    · exact .nil
  | pair first second both _ ih =>
    cases b with
    | false =>
      rw [List.takeWhile_cons_of_neg (by simp [blind _ first]),
        List.takeWhile_cons_of_neg (by simp [blind _ both])]
      exact .nil
    | true =>
      rw [List.takeWhile_cons_of_pos (blind _ first), List.takeWhile_cons_of_pos (blind _ second),
        List.takeWhile_cons_of_pos (blind _ both)]
      exact .pair first second both ih

protected theorem dropWhile (blind : ∀ c : Code, c.IsForeign → p c = false) (h : Fused s t) :
    Fused (s.dropWhile p) (t.dropWhile p) := by
  induction h with
  | nil => exact .nil
  | cons c h ih =>
    rw [List.dropWhile_cons, List.dropWhile_cons]
    split
    · exact ih
    · exact .cons c h
  | pair first second both h =>
    rw [List.dropWhile_cons_of_neg (by simp [blind _ first]),
      List.dropWhile_cons_of_neg (by simp [blind _ both])]
    exact .pair first second both h

/-- Two pairs of texts that are fused side by side. -/
def Both (x y : List Code × List Code) : Prop := Fused x.1 y.1 ∧ Fused x.2 y.2

theorem map_rel {x y : Option (List Code × List Code)}
    {f g : List Code × List Code → List Code × List Code} (h : Option.Rel Both x y)
    (made : ∀ p q, Both p q → Both (f p) (g q)) : Option.Rel Both (x.map f) (y.map g) := by
  cases h with
  | none => exact .none
  | some both => exact .some (made _ _ both)

theorem cut?_rel {c : Code} (low : c.toNat < 0xD800) (h : Fused s t) :
    Option.Rel Both (Text.cut? [c] s) (Text.cut? [c] t) := by
  have step (d : Code) (s : List Code) : Text.cut? [c] (d :: s) =
      if c = d then some ([], s) else (Text.cut? [c] s).map fun p => (d :: p.1, p.2) := by
    split
    · next same => simp [same, Text.cut?, List.isPrefixOf?]
    · next other => simp [other, Text.cut?, List.isPrefixOf?]
  induction h with
  | nil => exact .none
  | cons d h ih =>
    rw [step, step]
    split
    · exact .some ⟨.nil, h⟩
    · exact map_rel ih fun p q both => ⟨.cons d both.1, both.2⟩
  | pair first second both h ih =>
    rw [step, step, step, if_neg (first.ne low).symm, if_neg (second.ne low).symm,
      if_neg (both.ne low).symm, Option.map_map]
    exact map_rel ih fun p q rest => ⟨.pair first second both rest.1, rest.2⟩

theorem cutLast?_rel {c : Code} (low : c.toNat < 0xD800) (h : Fused s t) :
    Option.Rel Both (Text.cutLast? c s) (Text.cutLast? c t) := by
  have turned (s : List Code) : Text.cutLast? c s =
      (Text.cut? [c] s.reverse).map fun p => (p.2.reverse, p.1.reverse) := by
    rw [Text.cutLast?]
    cases Text.cut? [c] s.reverse <;> rfl
  rw [turned, turned]
  exact map_rel (h.reverse.cut?_rel low) fun p q both => ⟨both.2.reverse, both.1.reverse⟩

theorem head?_eq_iff {c : Code} (low : c.toNat < 0xD800) (h : Fused s t) :
    s.head? = some c ↔ t.head? = some c := by
  cases h with
  | nil => rfl
  | cons d => rfl
  | pair first second both =>
    simp [first.ne low, both.ne low]

end Fused

/-! ## Trimmed texts -/

namespace Text

variable {α : Type} (blank : α → Bool)

theorem trimEnd_eq (s : List α) : trimEnd blank s = s.rdropWhile blank := rfl

theorem trimStart_trim (s : List α) : trimStart blank (trim blank s) = trim blank s := by
  rw [trimStart, List.dropWhile_eq_self_iff]
  intro inside
  -- What is left at the front was there before the end was trimmed.
  have front : trim blank s <+: trimStart blank s := List.rdropWhile_prefix blank _
  have whole : 0 < (trimStart blank s).length := Nat.lt_of_lt_of_le inside front.length_le
  have sharp := List.dropWhile_eq_self_iff.mp (List.dropWhile_idempotent blank s) whole
  rw [front.getElem inside]
  exact sharp

theorem trim_trim (s : List α) : trim blank (trim blank s) = trim blank s := by
  rw [trim, trimStart_trim, trim, trimEnd_eq, trimEnd_eq]
  exact List.rdropWhile_idempotent _ _

theorem trim_eq_self_iff (s : List α) : trim blank s = s ↔
    (∀ c ∈ s.head?, blank c = false) ∧ ∀ c ∈ s.reverse.head?, blank c = false := by
  have front (s : List α) : trimStart blank s = s ↔ ∀ c ∈ s.head?, blank c = false := by
    rw [trimStart, List.dropWhile_eq_self_iff]
    cases s <;> simp
  have back : trimEnd blank s = s ↔ ∀ c ∈ s.reverse.head?, blank c = false := by
    rw [← front, trimEnd, List.reverse_eq_iff, trimStart]
  rw [← front, ← back]
  constructor
  · intro whole
    have start : trimStart blank s = s := by
      rw [← whole, trimStart_trim]
    rw [trim, start] at whole
    exact ⟨start, whole⟩
  · intro ends
    rw [trim, ends.1, ends.2]

end Text

/-! ## United texts -/

namespace Points

theorem fused_unite (p : Points) : Fused p.toList p.unite.toList := by
  have joined (units : List Nat) (bounded : ∀ n ∈ units, n < Text.codeLimit) :
      Fused (units.map Code.ofNat) ((Text.joinUnits units).map Code.ofNat) := by
    fun_induction Text.joinUnits units with
    | case1 => exact .nil
    | case2 n => exact .refl _
    | case3 high low ns pair ih =>
      have pair : Text.isPair high low = true := pair
      rw [Text.isPair_iff] at pair
      have foreign {n : Nat} (lt : n < Text.codeLimit)
          (outside : (0xD800 ≤ n ∧ n < 0xE000) ∨ 0x10000 ≤ n) : (Code.ofNat n).IsForeign := by
        rwa [Code.IsForeign, Code.toNat_ofNat lt]
      have joined_lt : 0x10000 + 0x400 * (high - 0xD800) + (low - 0xDC00) < Text.codeLimit := by
        unfold Text.codeLimit
        omega
      exact .pair (foreign (bounded high (.head _)) (by omega))
        (foreign (bounded low (.tail _ (.head _))) (by omega)) (foreign joined_lt (by omega))
        (ih fun n hn => bounded n (.tail _ (.tail _ hn)))
    | case4 high low ns pair ih =>
      exact .cons _ (ih fun n hn => bounded n (.tail _ hn))
  have fused := joined p.codes p.bounded
  rwa [show p.codes.map Code.ofNat = p.toList from congrArg toList p.ofCodes_codes] at fused

theorem unite_ne_empty {p : Points} (h : p ≠ "") : p.unite ≠ "" := by
  rw [ne_eq, ← isEmpty_iff] at h ⊢
  rwa [isEmpty, ← p.fused_unite.isEmpty_eq]

/-- To trim a text brings no two code points together. -/
theorem Joined.trimmed {p : Points} (h : p.Joined) : p.trimmed.Joined := by
  have inside : p.trimmed.toList <:+: p.toList :=
    (List.rdropWhile_prefix _ _).isInfix.trans (List.dropWhile_suffix _).isInfix
  exact List.IsChain.infix h (inside.map Code.toNat)

theorem trimmed_trimmed (p : Points) : p.trimmed.trimmed = p.trimmed :=
  Points.ext (Text.trim_trim _ p.toList)

theorem trimmed_unite {p : Points} (h : p.trimmed = p) : p.unite.trimmed = p.unite := by
  have fused := p.fused_unite
  have blind (c : Code) (foreign : c.IsForeign) : c.is Text.isBlank = false := by
    refine foreign.is_eq_false fun c isBlank => ?_
    simp only [Text.isBlank, Bool.or_eq_true, Bool.and_eq_true, decide_eq_true_eq,
      beq_iff_eq] at isBlank
    omega
  have front {s t : List Code} (h : Fused s t) :
      (∀ c ∈ s.head?, c.is Text.isBlank = false) → ∀ c ∈ t.head?, c.is Text.isBlank = false := by
    intro sharp c hc
    cases h with
    | nil => exact sharp c hc
    | cons d => exact sharp c hc
    | pair first second both => exact blind c (Option.some.inj hc ▸ both)
  obtain ⟨first, last⟩ := (Text.trim_eq_self_iff _ _).mp (congrArg toList h)
  exact Points.ext ((Text.trim_eq_self_iff _ _).mpr ⟨front fused first, front fused.reverse last⟩)

end Points

end Reroute
