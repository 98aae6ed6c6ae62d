import Reroute.Match.RuleSet
import Reroute.Proofs.Rule.Classes
import Reroute.Url.Destination

/-!
# Text behind a URL

A leading rule puts the rest of a URL behind its destination. The splitter drops blanks in
front and line ends anywhere, and then looks for the first colon and for the end of the
authority, so what stands behind a URL with a scheme reaches its authority only if that is
still open (`split?_append_iff`). In front of a `/`, a `?` or a `#`, or when one of them stands
in the destination already, the rewritten URL stays on the host (`stays_on_host`).
-/

namespace Reroute.Url

/-- A character that the splitter does not drop. -/
def isKept (c : Code) : Bool := c ≠ '\t' && c ≠ '\r' && c ≠ '\n'

/-- A text that goes on with no authority in front of it: it is empty or starts with a `/`,
a `?` or a `#`. -/
def StartsApart (s : List Code) : Prop := ∀ c ∈ s.head?, endsAuthority c = true

/-- The authority of a URL ends inside the URL: a `/`, a `?` or a `#` stands behind the `//`
that follows its first colon. -/
def HasClosedAuthority (url : List Code) : Prop :=
  ∃ before after, cleaned url = before ++ (':' : Code) :: '/' :: '/' :: after ∧
    (':' : Code) ∉ before ∧ ∃ c ∈ after, endsAuthority c = true

/-! ## Cleaning -/

theorem cleaned_append {url : List Code} (h : cleaned url ≠ []) (t : List Code) :
    cleaned (url ++ t) = cleaned url ++ t.filter isKept := by
  have front : (url.dropWhile fun c => c.toNat ≤ 0x20) ≠ [] := by
    intro blank
    rw [cleaned, blank] at h
    exact h rfl
  rw [cleaned, List.dropWhile_append, if_neg (by simpa using front), List.filter_append]
  rfl

theorem StartsApart.filter {s : List Code} (h : StartsApart s) : StartsApart (s.filter isKept) := by
  cases s with
  | nil => exact h
  | cons c s =>
    have ends := h c rfl
    have kept : isKept c = true := by
      simp only [endsAuthority, Bool.or_eq_true, decide_eq_true_eq] at ends
      rcases ends with (rfl | rfl) | rfl <;> decide
    intro d hd
    rw [List.filter_cons_of_pos kept] at hd
    exact Option.some.inj hd ▸ ends

/-! ## Scheme and authority -/

theorem scheme?_eq_some_iff (s name rest : List Code) :
    scheme? s = some (name, rest) ↔
      ∃ c letters, s = c :: letters ++ (':' : Code) :: rest ∧ (':' : Code) ∉ c :: letters ∧
        c.is Char.isAlpha = true ∧ letters.all isSchemeChar = true ∧ name = (c :: letters).map smallLetter := by
  constructor
  · intro h
    unfold scheme? at h
    split at h
    · next c letters after found =>
      obtain ⟨whole, apart⟩ := (Text.cut?_singleton_iff _ _ _ _).mp found
      split at h
      · next good =>
        obtain ⟨rfl, rfl⟩ := Prod.mk.inj (Option.some.inj h)
        rw [Bool.and_eq_true] at good
        exact ⟨c, letters, whole, apart, good.1, good.2, rfl⟩
      · contradiction
    · contradiction
  · rintro ⟨c, letters, whole, apart, first, others, rfl⟩
    have found := (Text.cut?_singleton_iff _ _ _ _).mpr ⟨whole, apart⟩
    simp only [scheme?, found, first, others, Bool.and_self, if_true]

theorem scheme?_append {s name rest : List Code} (h : scheme? s = some (name, rest))
    (t : List Code) : scheme? (s ++ t) = some (name, rest ++ t) := by
  rw [scheme?_eq_some_iff] at h ⊢
  obtain ⟨c, letters, rfl, others⟩ := h
  exact ⟨c, letters, by simp, others⟩

theorem eq_of_authority_ne_nil {rest : List Code} (h : authority rest ≠ []) :
    ∃ after, rest = ('/' : Code) :: '/' :: after := by
  unfold authority at h
  split at h
  · next after => exact ⟨after, rfl⟩
  · contradiction

/-- The authority stays the same if it has an end, or if what comes next ends it. -/
theorem authority_append_iff (after t : List Code) :
    authority (('/' : Code) :: '/' :: after ++ t) = authority (('/' : Code) :: '/' :: after) ↔
      (∃ c ∈ after, endsAuthority c = true) ∨ StartsApart t := by
  show (after ++ t).takeWhile _ = after.takeWhile _ ↔ _
  by_cases closed : ∃ c ∈ after, endsAuthority c = true
  · have shorter : (after.takeWhile fun c => !endsAuthority c).length ≠ after.length := by
      intro same
      have whole := List.takeWhile_eq_self_iff.mp ((List.takeWhile_prefix _).eq_of_length same)
      obtain ⟨c, hc, ends⟩ := closed
      have stays := whole c hc
      rw [ends] at stays
      contradiction
    rw [List.takeWhile_append, if_neg shorter]
    simp [closed]
  · have all : ∀ c ∈ after, (!endsAuthority c) = true := by
      intro c hc
      rw [Bool.not_eq_true']
      exact Bool.eq_false_iff.mpr fun ends => closed ⟨c, hc, ends⟩
    rw [List.takeWhile_append_of_pos all, List.takeWhile_eq_self_iff.mpr all,
      List.append_right_eq_self, or_iff_right closed]
    cases t with
    | nil => simp [StartsApart]
    | cons c t => simp [StartsApart, List.takeWhile_cons]

theorem split?_eq_some {url : List Code} {parts : Parts} (split : split? url = some parts)
    (schemed : parts.scheme ≠ []) (hosted : parts.authority ≠ []) :
    ∃ after, scheme? (cleaned url) = some (parts.scheme, ('/' : Code) :: '/' :: after) ∧
      parts.authority = authority (('/' : Code) :: '/' :: after) ∧
      bracketsFit parts.authority = true ∧ isPlain parts.authority = true := by
  unfold split? at split
  cases found : scheme? (cleaned url) with
  | none =>
    simp only [found, Option.getD_none] at split
    split at split
    · obtain rfl := Option.some.inj split
      exact absurd rfl schemed
    · contradiction
  | some p =>
    obtain ⟨name, rest⟩ := p
    simp only [found, Option.getD_some] at split
    split at split
    · next fits =>
      obtain rfl := Option.some.inj split
      obtain ⟨after, rfl⟩ := eq_of_authority_ne_nil hosted
      rw [Bool.and_eq_true] at fits
      exact ⟨after, rfl, rfl, fits⟩
    · contradiction

theorem hasClosedAuthority_iff {url name after : List Code}
    (h : scheme? (cleaned url) = some (name, ('/' : Code) :: '/' :: after)) :
    HasClosedAuthority url ↔ ∃ c ∈ after, endsAuthority c = true := by
  obtain ⟨c, letters, whole, apart, -⟩ := (scheme?_eq_some_iff _ _ _).mp h
  constructor
  · rintro ⟨before, rest, same, noColon, ends⟩
    -- The first colon of a text stands in one place.
    have here := (Text.cut?_singleton_iff _ _ _ _).mpr ⟨whole, apart⟩
    rw [(Text.cut?_singleton_iff _ _ _ _).mpr ⟨same, noColon⟩] at here
    obtain ⟨-, tail⟩ := Prod.mk.inj (Option.some.inj here)
    obtain rfl : rest = after := by simpa using tail
    exact ends
  · exact fun ends => ⟨c :: letters, after, whole, apart, ends⟩

/-- The scheme and the authority of a URL with a host stay the same exactly if the authority
is closed, or what is put behind the URL starts apart once it is cleaned. -/
theorem split?_append_iff {url : List Code} {parts : Parts} (split : split? url = some parts)
    (schemed : parts.scheme ≠ []) (hosted : parts.authority ≠ []) (t : List Code) :
    split? (url ++ t) = some parts ↔ HasClosedAuthority url ∨ StartsApart (t.filter isKept) := by
  obtain ⟨after, found, host, fits, plain⟩ := split?_eq_some split schemed hosted
  have filled : cleaned url ≠ [] := by
    intro nothing
    rw [nothing] at found
    contradiction
  have longer : scheme? (cleaned (url ++ t)) =
      some (parts.scheme, ('/' : Code) :: '/' :: after ++ t.filter isKept) := by
    rw [cleaned_append filled]
    exact scheme?_append found _
  rw [hasClosedAuthority_iff found, ← authority_append_iff, ← host]
  constructor
  · intro same
    simp only [split?, longer, Option.getD_some] at same
    split at same
    · exact congrArg Parts.authority (Option.some.inj same)
    · contradiction
  · intro same
    simp only [split?, longer, Option.getD_some, same, fits, plain, Bool.and_self, if_true]

/-! ## Rewritten URLs -/

/-- A leading matcher whose destination is an absolute URL with a host keeps what it rewrites
on that host, where the rest of the URL starts apart or the destination closes its
authority. -/
theorem stays_on_host (start destination url : Points) (rest : List Code) (parts : Parts)
    (absolute : isAbsolute destination = true) (split : split? destination.toList = some parts)
    (known : parts.scheme ∈ hostSchemes) (starts : url.toList = start.toList ++ rest)
    (apart : StartsApart rest ∨ HasClosedAuthority destination.toList) :
    ∃ rewritten, (Matcher.leading start destination).rewrite? url = some rewritten ∧
      rewritten.toList = destination.toList ++ rest ∧
      isAbsolute rewritten = true ∧ split? rewritten.toList = some parts := by
  have found : start.toList.isPrefixOf? url.toList = some rest :=
    List.isPrefixOf?_eq_some_iff_append_eq.mpr starts.symm
  -- A known scheme needs a host, so there is one in the destination.
  have needsHost : hostSchemes.contains parts.scheme = true := List.contains_iff_mem.mpr known
  simp only [isAbsolute, split, needsHost, Bool.not_true, Bool.false_or, Bool.and_eq_true,
    Bool.not_eq_true', List.isEmpty_eq_false_iff] at absolute
  obtain ⟨schemed, hosted, noSpace⟩ := absolute
  have text : (destination ++ (⟨rest⟩ : Points)).toList = destination.toList ++ rest :=
    destination.toList_append ⟨rest⟩
  have same := (split?_append_iff split schemed hosted rest).mpr
    (apart.symm.imp_right StartsApart.filter)
  rw [← text] at same
  refine ⟨destination ++ (⟨rest⟩ : Points), ?_, text, ?_, same⟩
  · rw [Matcher.rewrite?, found, Option.map_some]
  · simp only [isAbsolute, same, noSpace,
      List.isEmpty_eq_false_iff.mpr schemed, List.isEmpty_eq_false_iff.mpr hosted, Bool.not_false,
      Bool.and_self, Bool.or_true]

theorem stays_on_host_query :
    let destination : Points := "HTTPS://New.example?to="
    let rewritten : Points := "HTTPS://New.example?to=\t//x@[evil.example"
    HasClosedAuthority destination.toList ∧
      (Matcher.leading "http://old.example/" destination).rewrite?
        "http://old.example/\t//x@[evil.example" = some rewritten ∧
      isAbsolute rewritten = true ∧
      split? rewritten.toList =
        some ⟨("https" : Points).toList, ("New.example" : Points).toList⟩ := by
  intro destination rewritten
  have closed : HasClosedAuthority destination.toList :=
    ⟨("HTTPS" : Points).toList, ("New.example?to=" : Points).toList, by decide, by decide,
      .char '?', by decide, by decide⟩
  obtain ⟨made, sent, text, whole, same⟩ := stays_on_host "http://old.example/" destination
    "http://old.example/\t//x@[evil.example" ("\t//x@[evil.example" : Points).toList
    ⟨("https" : Points).toList, ("New.example" : Points).toList⟩ (by decide) (by decide)
    (by decide) (by decide) (.inr closed)
  obtain rfl : made = rewritten := congrArg Points.mk (text.trans (by decide))
  exact ⟨closed, sent, whole, same⟩

end Reroute.Url
