import Reroute.Proofs.Rule.Classes

/-!
# Where the host ends

Two searches look for the end of a host. `Glob.hostEnd?` wants a scheme that opens the
text; `Source.urlPath` takes any `://`, also one behind a `/`, as in a query that holds a
URL. They agree on the texts that a scheme opens, and `Source.urlPath` is right about the
rest exactly when no `://` stands in them (`urlPath_agrees`).

The host of a URL ends at a `/`, its authority also at a `?` or a `#`. The host part of a
pattern is matched by the host (`splitsAlone_host`), and so by the authority only as long as
no star takes one of the other two (`splitsAlone_host_iff`, `host_matched`).
-/

namespace Reroute

namespace Source

/-- The text opens with a scheme: no `/` stands in front of its first `://`. -/
def OpensWithScheme (s : List Code) : Prop :=
  ∃ scheme rest, s = scheme ++ schemeSeparator ++ rest ∧ ('/' : Code) ∉ scheme

theorem opensWithScheme_iff (s : List Code) : OpensWithScheme s ↔
    ∃ scheme rest, Text.cut? schemeSeparator s = some (scheme, rest) ∧ ('/' : Code) ∉ scheme := by
  constructor
  · rintro ⟨scheme, rest, rfl, inScheme⟩
    exact ⟨scheme, rest, Text.cut?_schemeSeparator inScheme rest, inScheme⟩
  · rintro ⟨scheme, rest, cut, inScheme⟩
    exact ⟨scheme, rest, Text.eq_append_of_cut? cut, inScheme⟩

theorem OpensWithScheme.hasScheme {s : List Code} (h : OpensWithScheme s) : HasScheme s := by
  obtain ⟨scheme, rest, rfl, -⟩ := h
  exact ⟨scheme, rest, rfl⟩

/-! ## Two searches for the end of a host -/

theorem urlPath_of_hostEnd? {s : List Code} {bound : Nat} (h : Glob.hostEnd? s = some bound) :
    urlPath s = s.drop bound := by
  obtain ⟨front, slash⟩ := Glob.hostEnd?_eq_some h
  have path := urlPath_of_front front slash
  rwa [List.take_append_drop] at path

theorem urlPath_of_hostEnd?_none {s : List Code} (scheme : OpensWithScheme s)
    (h : Glob.hostEnd? s = none) : urlPath s = [] := by
  obtain ⟨scheme, rest, cut, inScheme⟩ := (opensWithScheme_iff s).mp scheme
  have noSlash : rest.findIdx? (· = ('/' : Code)) = none := by
    rw [Glob.hostEnd?, cut] at h
    simpa [inScheme] using h
  rw [urlPath_eq_nil_iff, afterScheme, cut]
  intro slash
  simpa using List.findIdx?_eq_none_iff.mp noSlash '/' slash

theorem hostEnd?_of_not_opens {s : List Code} (h : ¬OpensWithScheme s) :
    Glob.hostEnd? s = none := by
  rw [Option.eq_none_iff_forall_ne_some]
  intro bound bounded
  obtain ⟨scheme, host, front, inScheme, -⟩ := (Glob.hostEnd?_eq_some bounded).1
  refine h ⟨scheme, host ++ s.drop bound, ?_, inScheme⟩
  rw [← List.append_assoc, ← front, List.take_append_drop]

/-- Behind a `/` a `://` hides the path that starts at the first `/`. -/
theorem urlPath_ne_of_embedded {s : List Code} (scheme : HasScheme s) (h : ¬OpensWithScheme s) :
    urlPath s ≠ s.dropWhile (· ≠ ('/' : Code)) := by
  obtain ⟨⟨before, rest⟩, cut⟩ :=
    Option.isSome_iff_exists.mp ((Text.isSome_cut?_iff schemeSeparator s).mpr scheme)
  have inBefore : ('/' : Code) ∈ before := by
    by_contra apart
    exact h ((opensWithScheme_iff s).mpr ⟨before, rest, cut, apart⟩)
  have stop : before.dropWhile (· ≠ ('/' : Code)) ≠ [] := by
    rw [ne_eq, List.dropWhile_eq_nil_iff]
    intro all
    simpa using all '/' inBefore
  have whole : s.dropWhile (· ≠ ('/' : Code)) =
      before.dropWhile (· ≠ ('/' : Code)) ++ (schemeSeparator ++ rest) := by
    rw [Text.eq_append_of_cut? cut, List.append_assoc, List.dropWhile_append,
      if_neg (by simpa using stop)]
  -- What `urlPath` finds lies within `rest`, and the `://` is in front of that.
  have shorter : (urlPath s).length ≤ rest.length := by
    rw [urlPath, afterScheme, cut]
    exact List.length_dropWhile_le _ rest
  intro same
  rw [same, whole, List.length_append, List.length_append] at shorter
  have separator : schemeSeparator.length = 3 := rfl
  omega

/-- The path of a text that a scheme opens starts where the host part ends, and there is
none when nothing ends that. In any other text the path is what stands from the first `/`
on if there is no `://`, and only then. -/
theorem urlPath_agrees (s : List Code) :
    (OpensWithScheme s →
      urlPath s = match Glob.hostEnd? s with
        | some bound => s.drop bound
        | none => []) ∧
    (¬OpensWithScheme s →
      Glob.hostEnd? s = none ∧ (urlPath s = s.dropWhile (· ≠ ('/' : Code)) ↔ ¬HasScheme s)) := by
  constructor
  · intro scheme
    cases h : Glob.hostEnd? s with
    | some bound => exact urlPath_of_hostEnd? h
    | none => exact urlPath_of_hostEnd?_none scheme h
  · intro closed
    refine ⟨hostEnd?_of_not_opens closed, ?_⟩
    constructor
    · intro same scheme
      exact urlPath_ne_of_embedded scheme closed same
    · intro noScheme
      rw [urlPath, afterScheme_of_not_hasScheme noScheme]

theorem urlPath_agrees_bare :
    let url := ("h://a.b" : Points).toList
    let bare := ("a.b/c" : Points).toList
    (OpensWithScheme url ∧ urlPath url = []) ∧
      ¬OpensWithScheme bare ∧ ¬HasScheme bare ∧ urlPath bare = bare.dropWhile (· ≠ ('/' : Code)) := by
  intro url bare
  have opens : OpensWithScheme url := ⟨[('h' : Code)], ("a.b" : Points).toList, rfl, by decide⟩
  have noScheme : ¬HasScheme bare := by
    rw [HasScheme, ← Text.isSome_cut?_iff]
    decide
  have closed : ¬OpensWithScheme bare := fun scheme => noScheme scheme.hasScheme
  have agrees := ((urlPath_agrees bare).2 closed).2.mpr noScheme
  exact ⟨⟨opens, (urlPath_agrees url).1 opens⟩, closed, noScheme, agrees⟩

/-- In a query a URL takes the place of the path in front of it. -/
theorem urlPath_embedded :
    let url := ("a/b?u=http://c/d" : Points).toList
    ¬OpensWithScheme url ∧ url.dropWhile (· ≠ ('/' : Code)) = ("/b?u=http://c/d" : Points).toList ∧
      urlPath url = ("/d" : Points).toList ∧ urlPath url ≠ url.dropWhile (· ≠ ('/' : Code)) := by
  intro url
  have cut : Text.cut? schemeSeparator url = some (("a/b?u=http" : Points).toList, ("c/d" : Points).toList) := by
    decide
  have closed : ¬OpensWithScheme url := by
    rw [opensWithScheme_iff, cut]
    rintro ⟨scheme, rest, same, inScheme⟩
    obtain ⟨rfl, -⟩ := Prod.mk.inj (Option.some.inj same)
    exact inScheme (by decide)
  exact ⟨closed, by decide, by decide, by decide⟩

/-! ## The host and the authority of a URL -/

/-- The host of a URL with a path: what stands between `://` and the next `/`. -/
def host (s : List Code) : List Code := (afterScheme s).takeWhile (· ≠ ('/' : Code))

/-- The authority of a URL: what stands between `://` and the next `/`, `?` or `#`. -/
def authority (s : List Code) : List Code :=
  (afterScheme s).takeWhile fun c => c ≠ '/' ∧ c ≠ '?' ∧ c ≠ '#'

theorem host_of_front {scheme host path : List Code} (inScheme : ('/' : Code) ∉ scheme)
    (inHost : ('/' : Code) ∉ host) (slash : path.head? = some ('/' : Code)) :
    Source.host (scheme ++ schemeSeparator ++ host ++ path) = host := by
  obtain ⟨rest, rfl⟩ := List.head?_eq_some_iff.mp slash
  rw [Source.host, List.append_assoc, afterScheme_of_opens inScheme,
    List.takeWhile_append_of_pos (ne_slash_of_not_mem inHost)]
  simp

theorem authority_eq (s : List Code) :
    authority s = (host s).takeWhile fun c : Code => c ≠ '?' ∧ c ≠ '#' := by
  rw [host, authority, List.takeWhile_takeWhile]
  refine congrArg (List.takeWhile · _) (funext fun c => ?_)
  simp [and_comm, and_left_comm]

/-- A `?` or a `#` in the host is all that makes the authority shorter. -/
theorem authority_eq_host_iff (s : List Code) :
    authority s = host s ↔ ('?' : Code) ∉ host s ∧ ('#' : Code) ∉ host s := by
  rw [authority_eq, List.takeWhile_eq_self_iff]
  constructor
  · intro plain
    exact ⟨fun query => by simpa using plain ('?' : Code) query, fun mark => by simpa using plain ('#' : Code) mark⟩
  · rintro ⟨noQuery, noMark⟩ c hc
    rw [decide_eq_true_eq]
    exact ⟨fun same => noQuery (same ▸ hc), fun same => noMark (same ▸ hc)⟩

end Source

namespace Glob

open Source (host authority)

/-! ## What the host part of a pattern matches -/

def AuthorityRun (part : List Code) : Prop :=
  ('/' : Code) ∉ part ∧ ('?' : Code) ∉ part ∧ ('#' : Code) ∉ part

/-- Runs may be told more narrowly when every part of the text is such a run. -/
theorem SplitsAlone.of_parts {run run' : List Code → Prop} {pattern s : List Code}
    (splits : SplitsAlone run pattern s)
    (h : ∀ part, (∀ c ∈ part, c ∈ s) → run part → run' part) : SplitsAlone run' pattern s := by
  obtain ⟨parts, length, rfl, each⟩ := splits
  refine ⟨parts, length, rfl, ?_⟩
  intro i c part hc hpart
  have inside : ∀ d ∈ part, d ∈ parts.flatten := fun d hd =>
    List.mem_flatten.mpr ⟨part, List.mem_of_getElem? hpart, hd⟩
  obtain ⟨plain, starred⟩ := each i c part hc hpart
  exact ⟨plain, fun star => h part inside (starred star)⟩

/-- A URL that a pattern with a host part matches has a host, which the host part matches. -/
theorem splitsAlone_host {pattern url : List Code} {bound : Nat}
    (bounded : hostEnd? pattern = some bound) (accepted : isMatch pattern url = true) :
    Source.OpensWithScheme url ∧ SplitsAlone HostRun (host pattern) (host url) := by
  obtain ⟨⟨scheme, host, front, inScheme, inHost⟩, slash⟩ := hostEnd?_eq_some bounded
  obtain ⟨_, path, rfl, first, last⟩ := (isMatch_iff_halves bounded url).mp accepted
  rw [front] at first
  obtain ⟨scheme', host', rfl, inScheme', inHost', splits⟩ :=
    splitsAlone_front inScheme inHost first
  have whole : pattern = scheme ++ Source.schemeSeparator ++ host ++ pattern.drop bound := by
    rw [← front, List.take_append_drop]
  refine ⟨⟨scheme', host' ++ path, List.append_assoc .., inScheme'⟩, ?_⟩
  rw [whole, Source.host_of_front inScheme inHost slash,
    Source.host_of_front inScheme' inHost' (head?_of_splitsAlone slash last)]
  exact splits

theorem splitsAlone_host_iff {pattern s : List Code}
    (plain : ('?' : Code) ∉ pattern ∧ ('#' : Code) ∉ pattern)
    (splits : SplitsAlone HostRun pattern s) :
    ('?' : Code) ∉ s ∧ ('#' : Code) ∉ s ↔ SplitsAlone AuthorityRun pattern s := by
  constructor
  · rintro ⟨noQuery, noMark⟩
    refine splits.of_parts fun part inside noSlash => ⟨noSlash, ?_, ?_⟩
    · exact fun query => noQuery (inside '?' query)
    · exact fun mark => noMark (inside '#' mark)
  · intro narrow
    exact ⟨not_mem_of_splitsAlone plain.1 (fun _ run => run.2.1) narrow,
      not_mem_of_splitsAlone plain.2 (fun _ run => run.2.2) narrow⟩

/-- A pattern with a host part, without `?` and `#` in its host, matches only URLs that a
scheme opens and whose host is matched in full by its own. A URL has neither of the two in
its host exactly when no star of the host takes one; then the host is the authority, and
that is matched in full. -/
theorem host_matched (pattern url : List Code) (bound : Nat)
    (bounded : hostEnd? pattern = some bound)
    (plain : ('?' : Code) ∉ host pattern ∧ ('#' : Code) ∉ host pattern)
    (accepted : isMatch pattern url = true) :
    Source.OpensWithScheme url ∧
    SplitsAlone HostRun (host pattern) (host url) ∧
    (('?' : Code) ∉ host url ∧ ('#' : Code) ∉ host url ↔
      SplitsAlone AuthorityRun (host pattern) (host url)) ∧
    (('?' : Code) ∉ host url ∧ ('#' : Code) ∉ host url →
      authority url = host url ∧ SplitsAlone AuthorityRun (host pattern) (authority url)) := by
  obtain ⟨opens, splits⟩ := splitsAlone_host bounded accepted
  have narrow := splitsAlone_host_iff plain splits
  refine ⟨opens, splits, narrow, ?_⟩
  intro noneOf
  have same := (Source.authority_eq_host_iff url).mpr noneOf
  exact ⟨same, same ▸ narrow.mp noneOf⟩

/-- A query behind the path does not touch the host. -/
theorem host_matched_query :
    let pattern := ("h://*.b/*" : Points).toList
    let url := ("h://x.b/y?z" : Points).toList
    hostEnd? pattern = some 7 ∧ isMatch pattern url = true ∧
      authority url = ("x.b" : Points).toList ∧
      SplitsAlone AuthorityRun ("*.b" : Points).toList ("x.b" : Points).toList := by
  intro pattern url
  have bounded : hostEnd? pattern = some 7 := by decide
  have accepted : isMatch pattern url = true := by decide
  have plain : ('?' : Code) ∉ host pattern ∧ ('#' : Code) ∉ host pattern := by decide
  have noneOf : ('?' : Code) ∉ host url ∧ ('#' : Code) ∉ host url := by decide
  obtain ⟨-, -, -, whole⟩ := host_matched pattern url 7 bounded plain accepted
  exact ⟨bounded, accepted, by decide, (whole noneOf).2⟩

/-- A star that takes a `?` lets a URL in whose authority the host part does not match. -/
theorem authority_not_matched :
    let pattern := ("https://*.example.com/*" : Points).toList
    let url := ("https://evil.com?.example.com/x" : Points).toList
    hostEnd? pattern = some 21 ∧ (('?' : Code) ∉ host pattern ∧ ('#' : Code) ∉ host pattern) ∧
      isMatch pattern url = true ∧ authority url = ("evil.com" : Points).toList ∧
        ¬SplitsAlone HostRun (host pattern) (authority url) := by
  intro pattern url
  refine ⟨by decide, by decide, by decide, by decide, ?_⟩
  rw [← made_hostPart_iff, ← headD_of_tells (tells_rows _ _)]
  decide

end Glob

end Reroute
