import Reroute.Proofs.Text.Fused
import Reroute.Url.Destination

/-!
# Destinations with pairs

A destination that is given with a pair in two halves is read back with the one code point
that they make. An address in brackets has neither halves nor code points above U+FFFF but
in its zone, and no other part of a destination is told by them. So the one text may be a
destination if and only if the other may (`isDestination_unite`).
-/

namespace Reroute

namespace Url

open Code

/-! ## Addresses

An address in brackets has no foreign code points but in its zone, or at the end of an
address of a later version. -/

/-- None of the code points of a text is foreign. -/
def IsNative (s : List Code) : Prop := ∀ c ∈ s, ¬c.IsForeign

variable {c : Code} {s t : List Code} {groups : List (List Code)}

theorem toNat_lt_of_le {c last : Char} (h : c ≤ last) (low : last.toNat < 0xD800) :
    c.toNat < 0xD800 :=
  Nat.lt_of_le_of_lt (UInt32.le_iff_toNat_le.mp h) low

theorem toNat_lt_of_isAlphanum {c : Char} (h : c.isAlphanum = true) : c.toNat < 0xD800 := by
  simp only [Char.isAlphanum, Char.isAlpha, Char.isUpper, Char.isLower, Char.isDigit,
    Bool.or_eq_true, Bool.and_eq_true, decide_eq_true_eq] at h
  rcases h with (⟨-, upper⟩ | ⟨-, lower⟩) | ⟨-, digit⟩
  · exact toNat_lt_of_le upper (by decide)
  · exact toNat_lt_of_le lower (by decide)
  · exact toNat_lt_of_le digit (by decide)

theorem isHexDigit_of_foreign (h : c.IsForeign) : isHexDigit c = false := by
  refine h.is_eq_false fun c hex => ?_
  unfold Text.hexValue? at hex
  simp only [Bool.and_eq_true, decide_eq_true_eq] at hex
  split at hex
  · next digit => exact toNat_lt_of_le digit.2 (by decide)
  · split at hex
    · next small => exact toNat_lt_of_le small.2 (by decide)
    · split at hex
      · next capital => exact toNat_lt_of_le capital.2 (by decide)
      · contradiction

theorem isDecimalDigit_of_foreign (h : c.IsForeign) : isDecimalDigit c = false := by
  refine h.is_eq_false fun c digit => ?_
  simp only [Bool.and_eq_true, decide_eq_true_eq] at digit
  exact toNat_lt_of_le digit.2 (by decide)

theorem isNative_of_all {p : Code → Bool} (blind : ∀ c : Code, c.IsForeign → p c = false)
    (all : s.all p = true) : IsNative s := by
  intro c hc foreign
  have held := List.all_eq_true.mp all c hc
  rw [blind c foreign] at held
  exact Bool.false_ne_true held

theorem isNative_of_isGroup (h : isGroup s = true) : IsNative s := by
  simp only [isGroup, Bool.and_eq_true] at h
  exact isNative_of_all (fun _ => isHexDigit_of_foreign) h.2

theorem isNative_of_isOctet (h : isOctet s = true) : IsNative s := by
  simp only [isOctet, Bool.and_eq_true] at h
  exact isNative_of_all (fun _ => isDecimalDigit_of_foreign) h.1.1.1.2

theorem isNative_of_splitAt {sep : Code} (low : sep.toNat < 0xD800) (s : List Code)
    (h : ∀ piece ∈ Text.splitAt sep s, IsNative piece) : IsNative s := by
  induction s with
  | nil => exact List.forall_mem_nil _
  | cons c s ih =>
    rw [Text.splitAt] at h
    split at h
    · next same =>
      rw [List.forall_mem_cons] at h
      exact List.forall_mem_cons.mpr ⟨fun foreign => foreign.ne low same, ih h.2⟩
    · split at h
      · next none =>
        rw [List.forall_mem_singleton] at h
        rw [none] at ih
        exact List.forall_mem_cons.mpr ⟨h c (.head _), ih (List.forall_mem_nil _)⟩
      · next piece pieces pieces_eq =>
        rw [List.forall_mem_cons] at h
        rw [pieces_eq, List.forall_mem_cons] at ih
        exact List.forall_mem_cons.mpr
          ⟨h.1 c (.head _), ih ⟨fun d hd => h.1 d (.tail c hd), h.2⟩⟩

theorem isNative_of_isIpv4 (h : isIpv4 s = true) : IsNative s := by
  simp only [isIpv4, Bool.and_eq_true] at h
  refine isNative_of_splitAt (show (char '.').toNat < 0xD800 by decide) s fun piece hp => ?_
  exact isNative_of_isOctet (List.all_eq_true.mp h.2 piece hp)

theorem isNative_of_unifyGroups {unified : List (List Code)}
    (h : unifyGroups groups = some unified) (plain : ∀ g ∈ unified, IsNative g) :
    ∀ g ∈ groups, IsNative g := by
  unfold unifyGroups at h
  split at h
  · next last ends =>
    split at h
    · split at h
      · next address =>
        obtain rfl := Option.some.inj h
        intro g hg
        obtain ⟨front, rfl⟩ := List.getLast?_eq_some_iff.mp ends
        rcases List.mem_append.mp hg with old | here
        · refine plain g (List.mem_append_left _ ?_)
          rwa [List.dropLast_concat]
        · rw [List.mem_singleton.mp here]
          exact isNative_of_isIpv4 address
      · contradiction
    · obtain rfl := Option.some.inj h
      exact plain
  · obtain rfl := Option.some.inj h
    exact plain

theorem isNative_of_fitAroundGap {before after : List (List Code)}
    (h : fitAroundGap before after = true) :
    (∀ g ∈ before, IsNative g) ∧ ∀ g ∈ after, IsNative g := by
  have side {groups kept : List (List Code)} {outer : Option (List Code)}
      (found : (if outer = some [] then if groups.length = 1 then some [] else none
        else some groups) = some kept)
      (member : ∀ g, outer = some g → g ∈ groups) (all : kept.all isGroup = true) :
      ∀ g ∈ groups, IsNative g := by
    split at found
    · next gap =>
      split at found
      · next one =>
        -- The only group on this side is the empty one at the end.
        obtain ⟨only, rfl⟩ := List.length_eq_one_iff.mp one
        rw [← List.mem_singleton.mp (member [] gap), List.forall_mem_singleton]
        exact List.forall_mem_nil _
      · contradiction
    · obtain rfl := Option.some.inj found
      exact fun g hg => isNative_of_isGroup (List.all_eq_true.mp all g hg)
  unfold fitAroundGap at h
  dsimp only at h
  split at h
  · next hi lo found found' =>
    simp only [Bool.and_eq_true] at h
    exact ⟨side found (fun g => List.mem_of_head?) h.1.2,
      side found' (fun g => List.mem_of_getLast?) h.2⟩
  · contradiction

theorem isNative_of_isIpv6Body (h : isIpv6Body s = true) : IsNative s := by
  refine isNative_of_splitAt (show (char ':').toNat < 0xD800 by decide) s ?_
  simp only [isIpv6Body, Bool.and_eq_true] at h
  obtain ⟨-, h⟩ := h
  split at h
  · contradiction
  · next groups unified =>
    refine isNative_of_unifyGroups unified ?_
    simp only [Bool.and_eq_true] at h
    obtain ⟨-, h⟩ := h
    split at h
    · simp only [Bool.and_eq_true] at h
      exact fun g hg => isNative_of_isGroup (List.all_eq_true.mp h.2 g hg)
    · next i gap =>
      obtain ⟨before, after⟩ := isNative_of_fitAroundGap h
      have empty : groups[i]? = some [] := by
        have inside : i ∈ gaps groups := gap ▸ List.mem_singleton_self i
        have test := (List.mem_filter.mp inside).2
        simp only [Bool.and_eq_true, decide_eq_true_eq] at test
        exact test.2
      obtain ⟨within, here⟩ := List.getElem?_eq_some_iff.mp empty
      have whole : groups = groups.take i ++ [] :: groups.drop (i + 1) := by
        rw [← here, ← List.drop_eq_getElem_cons within, List.take_append_drop]
      rw [whole, List.forall_mem_append, List.forall_mem_cons]
      exact ⟨before, List.forall_mem_nil _, after⟩
    · contradiction

theorem isIpv6_eq (h : Fused s t) : isIpv6 s = isIpv6 t := by
  have cut := h.cut?_rel (show (char '%').toNat < 0xD800 by decide)
  unfold isIpv6
  generalize Text.cut? [char '%'] s = x at cut
  generalize Text.cut? [char '%'] t = y at cut
  cases cut with
  | none => exact h.test_eq fun _ => isNative_of_isIpv6Body
  | some both =>
    dsimp only
    rw [both.1.test_eq fun _ => isNative_of_isIpv6Body, both.2.isEmpty_eq,
      both.2.contains_eq (by decide)]

theorem isLaterAddress_eq (h : Fused s t) : isLaterAddress s = isLaterAddress t := by
  have other {c : Code} (different : c ≠ 'v') (r : List Code) :
      isLaterAddress (c :: r) = false := by
    unfold isLaterAddress
    split
    · next same => exact absurd (List.cons.inj same).1 different
    · rfl
  have blind (c : Code) : c.IsForeign → isHexDigit c = false := isHexDigit_of_foreign
  cases h with
  | nil => rfl
  | pair first _ both => rw [other (first.ne (by decide)), other (both.ne (by decide))]
  | @cons c s t h =>
    by_cases version : c = 'v'
    · subst version
      have digits : s.takeWhile isHexDigit = t.takeWhile isHexDigit :=
        (h.takeWhile blind).eq_of_all blind List.all_takeWhile
      have rest := h.dropWhile blind
      simp only [isLaterAddress, List.span_eq_takeWhile_dropWhile, digits]
      generalize s.dropWhile isHexDigit = x at rest
      generalize t.dropWhile isHexDigit = y at rest
      cases t.takeWhile isHexDigit with
      | nil => rfl
      | cons d ds =>
        cases rest with
        | nil => rfl
        | pair first _ both =>
          split
          · next same => exact absurd (List.cons.inj (Prod.mk.inj same).2).1 (first.ne (by decide))
          · split
            · next same => exact absurd (List.cons.inj (Prod.mk.inj same).2).1 (both.ne (by decide))
            · rfl
        | @cons c s t h =>
          by_cases dot : c = '.'
          · subst dot
            show (!s.isEmpty && !s.contains '\n') = (!t.isEmpty && !t.contains '\n')
            rw [h.isEmpty_eq, h.contains_eq (by decide)]
          · split
            · next same => exact absurd (List.cons.inj (Prod.mk.inj same).2).1 dot
            · split
              · next same => exact absurd (List.cons.inj (Prod.mk.inj same).2).1 dot
              · rfl
    · rw [other version, other version]

theorem isBracketed_eq (h : Fused s t) : isBracketed s = isBracketed t := by
  unfold isBracketed
  simp only [h.head?_eq_iff (show (char 'v').toNat < 0xD800 by decide), isIpv6_eq h,
    isLaterAddress_eq h]

/-! ## Authorities -/

theorem fused_hostAndPort (h : Fused s t) : Fused (hostAndPort s) (hostAndPort t) := by
  have cut := h.cutLast?_rel (show (char '@').toNat < 0xD800 by decide)
  unfold hostAndPort
  generalize Text.cutLast? (char '@') s = x at cut
  generalize Text.cutLast? (char '@') t = y at cut
  cases cut with
  | none => exact h
  | some both => exact both.2

theorem bracketsFit_eq (h : Fused s t) : bracketsFit s = bracketsFit t := by
  have host := fused_hostAndPort h
  have cut := host.cut?_rel (show (char '[').toNat < 0xD800 by decide)
  have port := host.cut?_rel (show (char ':').toNat < 0xD800 by decide)
  unfold bracketsFit
  rw [h.contains_eq (by decide), h.contains_eq (by decide)]
  split
  · rfl
  · rw [isBracketed_eq host]
    generalize Text.cut? [char '['] (hostAndPort s) = x at cut
    generalize Text.cut? [char '['] (hostAndPort t) = y at cut
    generalize Text.cut? [char ':'] (hostAndPort s) = x' at port
    generalize Text.cut? [char ':'] (hostAndPort t) = y' at port
    cases cut with
    | @some p q both =>
      have inner := both.2.cut?_rel (show (char ']').toNat < 0xD800 by decide)
      dsimp only
      rw [both.1.isEmpty_eq, isBracketed_eq both.2]
      generalize Text.cut? [char ']'] p.2 = x at inner
      generalize Text.cut? [char ']'] q.2 = y at inner
      cases inner with
      | none => rfl
      | some both =>
        dsimp only
        simp only [isBracketed_eq both.1, both.2.isEmpty_eq,
          both.2.head?_eq_iff (show (char ':').toNat < 0xD800 by decide)]
    | none =>
      cases port with
      | some both => exact isBracketed_eq both.1
      | none => rfl
  · rfl

theorem isPlain_eq (h : Fused s t) : isPlain s = isPlain t := by
  have blind (c : Code) (foreign : c.IsForeign) : (!disguises.contains c.toNat) = true := by
    have all : ∀ n ∈ disguises, n < 0xD800 ∨ (0xE000 ≤ n ∧ n < 0x10000) := by decide
    rw [Bool.not_eq_true', ← Bool.not_eq_true, List.contains_iff_mem]
    intro disguise
    have := all _ disguise
    unfold IsForeign at foreign
    omega
  exact Fused.all_eq blind h

/-! ## Splitting -/

theorem fused_cleaned (h : Fused s t) : Fused (cleaned s) (cleaned t) := by
  refine (h.dropWhile fun c foreign => ?_).filter fun c foreign => ?_
  · have := foreign.le
    simp only [decide_eq_false_iff_not]
    omega
  · simp only [foreign.ne (show (char '\t').toNat < 0xD800 by decide),
      foreign.ne (show (char '\r').toNat < 0xD800 by decide),
      foreign.ne (show (char '\n').toNat < 0xD800 by decide), ne_eq, not_false_eq_true,
      decide_true, Bool.and_self]

theorem isSchemeChar_of_foreign (h : c.IsForeign) : isSchemeChar c = false := by
  refine h.is_eq_false fun c good => ?_
  simp only [Bool.or_eq_true, decide_eq_true_eq] at good
  rcases good with ((letter | rfl) | rfl) | rfl
  · exact toNat_lt_of_isAlphanum letter
  all_goals decide

theorem isAlpha_of_foreign (h : c.IsForeign) : c.is Char.isAlpha = false :=
  h.is_eq_false fun c letter => toNat_lt_of_isAlphanum (by rw [Char.isAlphanum, letter, Bool.true_or])

/-- A scheme has no foreign code points, so two fused texts have the same one. -/
theorem scheme?_rel (h : Fused s t) :
    Option.Rel (fun p q => p.1 = q.1 ∧ Fused p.2 q.2) (scheme? s) (scheme? t) := by
  have cut := h.cut?_rel (show (char ':').toNat < 0xD800 by decide)
  unfold scheme?
  generalize Text.cut? [char ':'] s = x at cut
  generalize Text.cut? [char ':'] t = y at cut
  cases cut with
  | none => exact .none
  | @some p q both =>
    obtain ⟨front, rest⟩ := p
    obtain ⟨front', rest'⟩ := q
    obtain ⟨fronts, rests⟩ := both
    cases fronts with
    | nil => exact .none
    | pair first _ both =>
      simp only [isAlpha_of_foreign first, isAlpha_of_foreign both, Bool.false_and,
        Bool.false_eq_true, if_false]
      exact .none
    | @cons c letters letters' fronts =>
      have blind (c : Code) : c.IsForeign → isSchemeChar c = false := isSchemeChar_of_foreign
      simp only [← Fused.all_eq blind fronts]
      split
      · next good =>
        rw [Bool.and_eq_true] at good
        rw [fronts.eq_of_all blind good.2]
        exact .some ⟨rfl, rests⟩
      · exact .none

theorem fused_authority (h : Fused s t) : Fused (authority s) (authority t) := by
  have other {s : List Code} (different : ∀ after, s ≠ ('/' : Code) :: '/' :: after) : authority s = [] := by
    unfold authority
    split
    · next after => exact absurd rfl (different after)
    · rfl
  have slash : (char '/').toNat < 0xD800 := by decide
  cases h with
  | nil => exact .nil
  | pair first _ both =>
    rw [other fun after same => first.ne slash (List.cons.inj same).1,
      other fun after same => both.ne slash (List.cons.inj same).1]
    exact .nil
  | cons c h =>
    cases h with
    | nil =>
      rw [other fun after same => List.cons_ne_nil _ _ (List.cons.inj same).2.symm]
      exact .nil
    | pair first _ both =>
      rw [other fun after same => first.ne slash (List.cons.inj (List.cons.inj same).2).1,
        other fun after same => both.ne slash (List.cons.inj (List.cons.inj same).2).1]
      exact .nil
    | @cons d s t h =>
      by_cases slashes : c = '/' ∧ d = '/'
      · obtain ⟨rfl, rfl⟩ := slashes
        refine h.takeWhile (b := true) fun c foreign => ?_
        simp only [endsAuthority, foreign.ne slash, foreign.ne (show (char '?').toNat < 0xD800 by decide),
          foreign.ne (show (char '#').toNat < 0xD800 by decide), decide_false, Bool.or_self,
          Bool.not_false]
      · have others (s : List Code) : authority (c :: d :: s) = [] := by
          refine other fun after same => slashes ?_
          obtain ⟨first, tail⟩ := List.cons.inj same
          exact ⟨first, (List.cons.inj tail).1⟩
        rw [others, others]
        exact .nil

theorem split?_rel (h : Fused s t) :
    Option.Rel (fun p q => p.scheme = q.scheme ∧ Fused p.authority q.authority)
      (split? s) (split? t) := by
  have clean := fused_cleaned h
  have parts : (((scheme? (cleaned s)).getD ([], cleaned s)).1 =
      ((scheme? (cleaned t)).getD ([], cleaned t)).1) ∧
      Fused ((scheme? (cleaned s)).getD ([], cleaned s)).2
        ((scheme? (cleaned t)).getD ([], cleaned t)).2 := by
    have schemes := scheme?_rel clean
    generalize scheme? (cleaned s) = x at schemes
    generalize scheme? (cleaned t) = y at schemes
    cases schemes with
    | none => exact ⟨rfl, clean⟩
    | some both => exact both
  have hosts := fused_authority parts.2
  unfold split?
  dsimp only
  rw [bracketsFit_eq hosts, isPlain_eq hosts]
  split
  · exact .some ⟨parts.1, hosts⟩
  · exact .none

/-! ## Destinations -/

theorem isAbsolute_eq {p q : Points} (h : Fused p.toList q.toList) :
    isAbsolute p = isAbsolute q := by
  have parts := split?_rel h
  unfold isAbsolute
  generalize split? p.toList = x at parts
  generalize split? q.toList = y at parts
  cases parts with
  | none => rfl
  | some both =>
    dsimp only
    rw [both.1, both.2.isEmpty_eq, both.2.contains_eq (by decide)]

theorem startsWithDomain_eq (h : Fused s t) : startsWithDomain s = startsWithDomain t := by
  have blind (c : Code) (foreign : c.IsForeign) : isDomainChar c = false := by
    refine foreign.is_eq_false fun c good => ?_
    simp only [Bool.or_eq_true, decide_eq_true_eq] at good
    rcases good with (letter | rfl) | rfl
    · exact toNat_lt_of_isAlphanum letter
    all_goals decide
  have same := (h.takeWhile blind).eq_of_all blind List.all_takeWhile
  rw [startsWithDomain, same, startsWithDomain]

theorem isDestination_eq {p q : Points} (h : Fused p.toList q.toList) :
    isDestination p = isDestination q := by
  rw [isDestination, isDestination, h.contains_eq (by decide), isAbsolute_eq h,
    startsWithDomain_eq h]

end Url

/-- To unite the pairs of a text makes no destination of it, nor another thing of one. -/
theorem Points.isDestination_unite (p : Points) :
    Url.isDestination p.unite = Url.isDestination p :=
  (Url.isDestination_eq p.fused_unite).symm

end Reroute
