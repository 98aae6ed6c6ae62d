import Mathlib
import Reroute.Proofs.Match.HostPath
import Reroute.Rule.Basic

/-!
# How a source is classified

The kind of a source as a table over the characters it holds and over its path
(`kind_eq_table`). The findings that the kind is made from overlap, and they look at the
path through different searches: for the last `/`, for the first one behind two
characters, for an extension. What each of them finds is said first, of the path alone.
-/

namespace Reroute

namespace Text

/-! ## Searches -/

variable {α : Type} [DecidableEq α]

theorem isSome_cut?_iff (sep s : List α) : (cut? sep s).isSome ↔ sep <:+: s := by
  induction s with
  | nil => simp [cut?]
  | cons c s ih =>
    rw [cut?, List.infix_cons_iff, ← ih]
    cases found : sep.isPrefixOf? (c :: s) with
    | some rest =>
      have here : sep <+: c :: s := ⟨rest, List.isPrefixOf?_eq_some_iff_append_eq.mp found⟩
      simp [here]
    | none =>
      have notHere : ¬sep <+: c :: s := by
        rw [← List.isPrefixOf_iff_prefix, ← List.isSome_isPrefixOf?_eq_isPrefixOf, found]
        exact Bool.false_ne_true
      simp [notHere]

theorem cut?_singleton_iff (c : α) (s before rest : List α) :
    cut? [c] s = some (before, rest) ↔ s = before ++ c :: rest ∧ c ∉ before := by
  induction s generalizing before with
  | nil => simp [cut?]
  | cons d s ih =>
    by_cases h : c = d
    · subst h
      have here : cut? [c] (c :: s) = some ([], s) := by simp [cut?, List.isPrefixOf?]
      rw [here, Option.some_inj, Prod.mk.injEq]
      constructor
      · rintro ⟨rfl, rfl⟩
        simp
      · rintro ⟨same, apart⟩
        cases before with
        | nil => simpa using same
        | cons e before => simp [(List.cons.inj same).1] at apart
    · have later : cut? [c] (d :: s) = (cut? [c] s).map fun p => (d :: p.1, p.2) := by
        simp [cut?, List.isPrefixOf?, h]
      rw [later]
      constructor
      · intro found
        obtain ⟨⟨front, after⟩, cut, same⟩ := Option.map_eq_some_iff.mp found
        obtain ⟨rfl, rfl⟩ := Prod.mk.inj same
        obtain ⟨rfl, apart⟩ := (ih front).mp cut
        exact ⟨rfl, by simp [h, apart]⟩
      · rintro ⟨same, apart⟩
        cases before with
        | nil => exact absurd (List.cons.inj same).1.symm h
        | cons e before =>
          obtain ⟨rfl, rfl⟩ := List.cons.inj same
          rw [(ih before).mpr ⟨rfl, fun inside => apart (List.mem_cons_of_mem _ inside)⟩]
          rfl

theorem cutLast?_eq_some_iff (c : α) (s before rest : List α) :
    cutLast? c s = some (before, rest) ↔ s = before ++ c :: rest ∧ c ∉ rest := by
  have turned : s.reverse = rest.reverse ++ c :: before.reverse ↔ s = before ++ c :: rest := by
    rw [List.reverse_eq_iff]
    simp
  rw [← turned, ← List.mem_reverse, ← cut?_singleton_iff, cutLast?]
  cases cut? [c] s.reverse with
  | none => simp
  | some p =>
    simp only [Option.some_inj, Prod.ext_iff]
    rw [List.reverse_eq_iff, List.reverse_eq_iff]
    exact and_comm

end Text

namespace Source

/-! ## What the findings find -/

/-- A text ends in a dot with ASCII letters or digits behind it. -/
def HasExtension (s : List Code) : Prop :=
  ∃ before extension, s = before ++ ('.' : Code) :: extension ∧ extension ≠ [] ∧
    ∀ c ∈ extension, c.is Char.isAlphanum = true

theorem endsInExtension_iff (s : List Code) : endsInExtension s = true ↔ HasExtension s := by
  have whole := List.takeWhile_append_dropWhile (p := Code.is Char.isAlphanum) (l := s.reverse)
  unfold endsInExtension HasExtension
  rw [List.span_eq_takeWhile_dropWhile]
  constructor
  · intro h
    split at h
    · next c extension before run =>
      obtain ⟨taken, left⟩ := Prod.mk.inj run
      refine ⟨before.reverse, (c :: extension).reverse, ?_, by simp, ?_⟩
      · rw [← List.reverse_inj, ← whole, taken, left]
        simp
      · intro d hd
        rw [List.mem_reverse, ← taken] at hd
        exact List.mem_takeWhile_imp hd
    · simp at h
  · rintro ⟨before, extension, rfl, some, letters⟩
    have turned : (before ++ ('.' : Code) :: extension).reverse =
        extension.reverse ++ ('.' : Code) :: before.reverse := by simp
    have all : ∀ c ∈ extension.reverse, c.is Char.isAlphanum = true := by simpa using letters
    have dot : Code.is Char.isAlphanum '.' ≠ true := by decide
    rw [turned, List.takeWhile_append_of_pos all, List.dropWhile_append_of_pos all,
      List.takeWhile_cons_of_neg dot, List.dropWhile_cons_of_neg dot, List.append_nil]
    obtain ⟨c, rest, turnedExtension⟩ :=
      List.exists_cons_of_ne_nil (List.reverse_ne_nil_iff.mpr some)
    simp [turnedExtension]

/-- An extension has a letter or a digit at its end. -/
theorem HasExtension.not_slash {s : List Code} (h : HasExtension s) : s.getLast? ≠ some ('/' : Code) := by
  obtain ⟨before, extension, rfl, some, letters⟩ := h
  intro slash
  have last : extension.getLast? = Option.some ('/' : Code) := by
    rw [← slash, List.getLast?_append_cons, List.getLast?_cons,
      List.getLast?_eq_some_getLast some]
    rfl
  exact absurd (letters ('/' : Code) (List.mem_of_getLast? last)) (by decide)

theorem HasExtension.dot {s : List Code} (h : HasExtension s) : ('.' : Code) ∈ s := by
  obtain ⟨before, extension, rfl, -⟩ := h
  simp

theorem finalSegment?_eq_some_iff (s segment : List Code) :
    finalSegment? s = some segment ↔
      ∃ before, urlPath s = before ++ ('/' : Code) :: segment ∧ segment ≠ [] ∧ ('/' : Code) ∉ segment := by
  unfold finalSegment?
  constructor
  · intro h
    split at h
    · next before c rest cut =>
      obtain ⟨same, apart⟩ := (Text.cutLast?_eq_some_iff ..).mp cut
      obtain rfl := Option.some.inj h
      exact ⟨before, same, by simp, apart⟩
    · simp at h
  · rintro ⟨before, same, some, apart⟩
    obtain ⟨c, rest, rfl⟩ := List.exists_cons_of_ne_nil some
    rw [(Text.cutLast?_eq_some_iff ('/' : Code) (urlPath s) before (c :: rest)).mpr ⟨same, apart⟩]

/-! ## The path of a source -/

theorem hasQueryOrFragment_iff (s : List Code) :
    hasQueryOrFragment s = true ↔ ('?' : Code) ∈ s ∨ ('#' : Code) ∈ s := by
  simp [hasQueryOrFragment]

theorem endsInSlash_iff (s : List Code) : endsInSlash s = true ↔ s.getLast? = some (.char '/') := by
  simp [endsInSlash]

theorem afterScheme_suffix (s : List Code) : afterScheme s <:+ s := by
  unfold afterScheme
  split
  · next before rest cut => exact ⟨_, (Text.eq_append_of_cut? cut).symm⟩
  · exact List.suffix_refl s

theorem urlPath_suffix (s : List Code) : urlPath s <:+ s :=
  (List.dropWhile_suffix _).trans (afterScheme_suffix s)

theorem urlPath_eq_nil_iff (s : List Code) : urlPath s = [] ↔ ('/' : Code) ∉ afterScheme s := by
  rw [urlPath, List.dropWhile_eq_nil_iff]
  constructor
  · intro all slash
    simpa using all ('/' : Code) slash
  · intro apart c hc
    rw [decide_eq_true_eq]
    rintro rfl
    exact apart hc

theorem head?_urlPath (s : List Code) (h : urlPath s ≠ []) : (urlPath s).head? = some ('/' : Code) := by
  have stop := List.head_dropWhile_not (fun c : Code => decide (c ≠ '/')) h
  rw [List.head?_eq_some_head h]
  simpa [urlPath] using stop

theorem getLast?_urlPath (s : List Code) (h : urlPath s ≠ []) :
    (urlPath s).getLast? = s.getLast? := by
  obtain ⟨before, whole⟩ := urlPath_suffix s
  rw [← whole, List.getLast?_append_of_ne_nil _ h]
  have again : urlPath (before ++ urlPath s) = urlPath s := by rw [whole]
  rw [again]

theorem isSome_finalSegment?_iff (s : List Code) :
    (finalSegment? s).isSome = true ↔ urlPath s ≠ [] ∧ (urlPath s).getLast? ≠ some ('/' : Code) := by
  rw [Option.isSome_iff_exists]
  constructor
  · rintro ⟨segment, found⟩
    obtain ⟨before, same, some, apart⟩ := (finalSegment?_eq_some_iff s segment).mp found
    rw [same]
    refine ⟨by simp, ?_⟩
    rw [List.getLast?_append_cons, List.getLast?_cons, List.getLast?_eq_some_getLast some]
    intro last
    have slash : segment.getLast some = ('/' : Code) := by simpa using last
    exact apart (slash ▸ List.getLast_mem some)
  · rintro ⟨path, last⟩
    have slash : ('/' : Code) ∈ urlPath s := List.mem_of_head? (head?_urlPath s path)
    -- The first `/` from the end.
    obtain ⟨segment, before, same, apart⟩ :=
      List.eq_append_cons_of_mem (List.mem_reverse.mpr slash)
    have whole : urlPath s = before.reverse ++ ('/' : Code) :: segment.reverse := by
      rw [← List.reverse_inj, same]
      simp
    refine ⟨segment.reverse, (finalSegment?_eq_some_iff s _).mpr
      ⟨before.reverse, whole, ?_, by simpa using apart⟩⟩
    intro empty
    rw [whole, empty] at last
    simp at last

/-! ## The findings as a table -/

/-- `://` stands in the text. -/
def HasScheme (s : List Code) : Prop := schemeSeparator <:+: s

theorem afterScheme_of_not_hasScheme {s : List Code} (h : ¬HasScheme s) : afterScheme s = s := by
  have none : Text.cut? schemeSeparator s = none := by
    rwa [HasScheme, ← Text.isSome_cut?_iff, Option.not_isSome_iff_eq_none] at h
  rw [afterScheme, none]

theorem hostPart_of_hasScheme {s : List Code} (h : HasScheme s) : hostPart s = afterScheme s := by
  obtain ⟨⟨before, rest⟩, cut⟩ :=
    Option.isSome_iff_exists.mp ((Text.isSome_cut?_iff schemeSeparator s).mpr h)
  rw [hostPart, afterScheme, cut]

theorem hostPart_of_not_hasScheme {s : List Code} (h : ¬HasScheme s) : hostPart s = s.drop 2 := by
  have none : Text.cut? schemeSeparator s = none := by
    rwa [HasScheme, ← Text.isSome_cut?_iff, Option.not_isSome_iff_eq_none] at h
  rw [hostPart, none]

theorem IsFront.hasScheme {s : List Code} (h : IsFront s) : HasScheme s := by
  obtain ⟨scheme, host, rfl, -⟩ := h
  exact ⟨scheme, host, rfl⟩

theorem IsFront.urlPath_eq_nil {s : List Code} (h : IsFront s) : urlPath s = [] := by
  obtain ⟨scheme, host, rfl, inScheme, inHost⟩ := h
  rwa [urlPath_eq_nil_iff, afterScheme_of_opens inScheme]

theorem isLikelyPrefix_iff (s : List Code) : isLikelyPrefix s = true ↔
    ¬(('?' : Code) ∈ s ∨ ('#' : Code) ∈ s) ∧ ¬HasExtension (urlPath s) ∧
      (s.getLast? = some ('/' : Code) ∨ ('/' : Code) ∉ hostPart s) := by
  simp only [isLikelyPrefix, Bool.and_eq_true, Bool.or_eq_true, Bool.not_eq_true',
    ← Bool.not_eq_true, hasQueryOrFragment_iff, looksLikeFile, endsInExtension_iff,
    endsInSlash_iff, List.contains_iff_mem, and_assoc]

theorem endsWithPathSegment_iff (s : List Code) : endsWithPathSegment s = true ↔
    (urlPath s ≠ [] ∧ (urlPath s).getLast? ≠ some ('/' : Code)) ∧ ('.' : Code) ∉ urlPath s := by
  simp only [endsWithPathSegment, Bool.and_eq_true, isSome_finalSegment?_iff, Bool.not_eq_true',
    ← Bool.not_eq_true, List.contains_iff_mem]

/-- A path without an end of its own, or none at all, makes a likely prefix. -/
theorem isLikelyPrefix_of_open {s : List Code} (query : ¬(('?' : Code) ∈ s ∨ ('#' : Code) ∈ s))
    (h : urlPath s = [] ∨ (urlPath s).getLast? = some ('/' : Code)) : isLikelyPrefix s = true := by
  refine (isLikelyPrefix_iff s).mpr ⟨query, ?_, ?_⟩
  · intro extension
    rcases h with empty | slash
    · simpa [empty] using extension.dot
    · exact extension.not_slash slash
  · by_cases path : urlPath s = []
    · right
      rw [urlPath_eq_nil_iff] at path
      by_cases scheme : HasScheme s
      · rwa [hostPart_of_hasScheme scheme]
      · rw [afterScheme_of_not_hasScheme scheme] at path
        rw [hostPart_of_not_hasScheme scheme]
        exact fun slash => path (List.mem_of_mem_drop slash)
    · left
      rw [← getLast?_urlPath s path]
      exact h.resolve_left path

/-- Behind a scheme only such a path makes one. -/
theorem open_of_isLikelyPrefix {s : List Code} (scheme : HasScheme s)
    (h : isLikelyPrefix s = true) : urlPath s = [] ∨ (urlPath s).getLast? = some ('/' : Code) := by
  obtain ⟨-, -, ended⟩ := (isLikelyPrefix_iff s).mp h
  rw [hostPart_of_hasScheme scheme, ← urlPath_eq_nil_iff] at ended
  by_cases path : urlPath s = []
  · exact .inl path
  · rw [getLast?_urlPath s path]
    exact .inr (ended.resolve_right path)

theorem mem_drop_two_iff (s : List Code) :
    ('/' : Code) ∈ s.drop 2 ↔ ∃ i : Nat, 2 ≤ i ∧ s[i]? = some ('/' : Code) := by
  rw [List.mem_iff_getElem?]
  constructor
  · rintro ⟨i, found⟩
    exact ⟨2 + i, by omega, by rwa [List.getElem?_drop] at found⟩
  · rintro ⟨i, far, found⟩
    refine ⟨i - 2, ?_⟩
    rwa [List.getElem?_drop, Nat.add_sub_cancel' far]

/-- One of the two findings that make a leading source. -/
def IsLeading (s : List Code) : Prop := isLikelyPrefix s = true ∨ endsWithPathSegment s = true

theorem isLeading_of_query {s : List Code} (query : ('?' : Code) ∈ s ∨ ('#' : Code) ∈ s) :
    IsLeading s ↔ urlPath s ≠ [] ∧ (urlPath s).getLast? ≠ some ('/' : Code) ∧ ('.' : Code) ∉ urlPath s := by
  have notPrefix : ¬isLikelyPrefix s = true := fun h => ((isLikelyPrefix_iff s).mp h).1 query
  rw [IsLeading, or_iff_right notPrefix, endsWithPathSegment_iff, and_assoc]

theorem isLeading_of_hasScheme {s : List Code} (query : ¬(('?' : Code) ∈ s ∨ ('#' : Code) ∈ s))
    (scheme : HasScheme s) :
    IsLeading s ↔ ¬(('.' : Code) ∈ urlPath s ∧ (urlPath s).getLast? ≠ some ('/' : Code)) := by
  constructor
  · rintro (likely | segment) ⟨dot, last⟩
    · rcases open_of_isLikelyPrefix scheme likely with empty | slash
      · simp [empty] at dot
      · exact last slash
    · exact ((endsWithPathSegment_iff s).mp segment).2 dot
  · intro h
    by_cases isOpen : urlPath s = [] ∨ (urlPath s).getLast? = some ('/' : Code)
    · exact .inl (isLikelyPrefix_of_open query isOpen)
    · rw [not_or] at isOpen
      exact .inr ((endsWithPathSegment_iff s).mpr ⟨isOpen, fun dot => h ⟨dot, isOpen.2⟩⟩)

theorem isLeading_of_not_hasScheme {s : List Code} (query : ¬(('?' : Code) ∈ s ∨ ('#' : Code) ∈ s))
    (scheme : ¬HasScheme s) :
    IsLeading s ↔ ¬(('.' : Code) ∈ urlPath s ∧ (urlPath s).getLast? ≠ some ('/' : Code) ∧
      ((∃ i : Nat, 2 ≤ i ∧ s[i]? = some ('/' : Code)) ∨ HasExtension (urlPath s))) := by
  by_cases isOpen : urlPath s = [] ∨ (urlPath s).getLast? = some ('/' : Code)
  · refine iff_of_true (.inl (isLikelyPrefix_of_open query isOpen)) ?_
    rintro ⟨dot, last, -⟩
    rcases isOpen with empty | slash
    · simp [empty] at dot
    · exact last slash
  · rw [not_or] at isOpen
    obtain ⟨path, last⟩ := isOpen
    -- The path starts with `/`, so it starts within two characters or not.
    have likely : isLikelyPrefix s = true ↔
        ¬((∃ i : Nat, 2 ≤ i ∧ s[i]? = some ('/' : Code)) ∨ HasExtension (urlPath s)) := by
      have last' := last
      rw [getLast?_urlPath s path] at last'
      rw [isLikelyPrefix_iff, hostPart_of_not_hasScheme scheme, mem_drop_two_iff]
      simp only [query, last', not_false_eq_true, true_and, false_or, not_or]
      exact and_comm
    rw [IsLeading, likely, endsWithPathSegment_iff]
    simp only [path, last, ne_eq, not_false_eq_true, true_and, not_and]
    rw [or_comm, ← imp_iff_not_or]

open Classical in
theorem kind_eq (s : List Code) :
    kind s = if ('*' : Code) ∈ s then .wildcard else if IsLeading s then .leading else .whole := by
  simp only [kind, star, List.contains_iff_mem, IsLeading, Bool.or_eq_true]
  congr

open Classical in
/-- The kind of a source by the characters it holds, by its path, and by where that
starts and ends. A scheme with a host alone, and a source with a scheme that ends in `/`,
are leading ones. -/
theorem kind_eq_table (s : List Code) :
    (kind s =
      if ('*' : Code) ∈ s then .wildcard
      else if ('?' : Code) ∈ s ∨ ('#' : Code) ∈ s then
        if urlPath s ≠ [] ∧ (urlPath s).getLast? ≠ some ('/' : Code) ∧ ('.' : Code) ∉ urlPath s then .leading
        else .whole
      else if HasScheme s then
        if ('.' : Code) ∈ urlPath s ∧ (urlPath s).getLast? ≠ some ('/' : Code) then .whole else .leading
      else if ('.' : Code) ∈ urlPath s ∧ (urlPath s).getLast? ≠ some ('/' : Code) ∧
          ((∃ i : Nat, 2 ≤ i ∧ s[i]? = some ('/' : Code)) ∨ HasExtension (urlPath s)) then .whole
      else .leading) ∧
    (¬(('*' : Code) ∈ s ∨ ('?' : Code) ∈ s ∨ ('#' : Code) ∈ s) → HasScheme s →
      IsFront s ∨ s.getLast? = some ('/' : Code) → kind s = .leading) := by
  constructor
  · rw [kind_eq]
    by_cases star : ('*' : Code) ∈ s
    · rw [if_pos star, if_pos star]
    rw [if_neg star, if_neg star]
    by_cases query : ('?' : Code) ∈ s ∨ ('#' : Code) ∈ s
    · rw [if_pos query]
      simp only [isLeading_of_query query]
    rw [if_neg query]
    by_cases scheme : HasScheme s
    · rw [if_pos scheme]
      simp only [isLeading_of_hasScheme query scheme, ite_not]
    · rw [if_neg scheme]
      simp only [isLeading_of_not_hasScheme query scheme, ite_not]
  · intro plain scheme bare
    rw [not_or] at plain
    have leading : IsLeading s := by
      rw [isLeading_of_hasScheme plain.2 scheme]
      rintro ⟨dot, last⟩
      have path : urlPath s ≠ [] := List.ne_nil_of_mem dot
      rcases bare with front | slash
      · exact path front.urlPath_eq_nil
      · exact last ((getLast?_urlPath s path).trans slash)
    rw [kind_eq, if_neg plain.1, if_pos leading]

/-- The dot of a host makes no file of a source without a path. -/
theorem kind_eq_table_dottedHost :
    let s : List Code := ['w', 's', ':', '/', '/', 'a', '.', 'b']
    ¬(('*' : Code) ∈ s ∨ ('?' : Code) ∈ s ∨ ('#' : Code) ∈ s) ∧ HasScheme s ∧ IsFront s ∧
      kind s = .leading := by
  intro s
  have plain : ¬(('*' : Code) ∈ s ∨ ('?' : Code) ∈ s ∨ ('#' : Code) ∈ s) := by decide
  have front : IsFront s := ⟨['w', 's'], ['a', '.', 'b'], rfl, by decide, by decide⟩
  exact ⟨plain, front.hasScheme, front, (kind_eq_table s).2 plain front.hasScheme (.inl front)⟩

end Source

end Reroute
