import Reroute.Proofs.Rule.Reasons

/-!
# Following the advice of a diagnosis

A rule that is matched whole is advised to take a `/` or a `*` at the end of its source.
The `*` always does what it is said to: the longer source is a wildcard, for the URLs that
start with the shorter one (`isMatch_concat_star`). The `/` makes a leading source only
where there is neither a query nor a fragment (`kind_concat_slash`); with one the rule is
still matched whole, and the advice leads nowhere (`advice_followed`).
-/

namespace Reroute

namespace Glob

/-- A star behind everything else takes any end of a URL, since no host part reaches it. -/
theorem isMatch_concat_star {s : List Code} (h : ('*' : Code) ∉ s) (url : List Code) :
    isMatch (s ++ [('*' : Code)]) url = true ↔ s <+: url := by
  have outside : (hostEnd? (s ++ [('*' : Code)])).getD 0 - s.length = 0 := by
    cases bounded : hostEnd? (s ++ [('*' : Code)]) with
    | none => simp
    | some bound =>
      have slash := (hostEnd?_eq_some bounded).2
      rw [List.head?_drop] at slash
      obtain ⟨inside, -⟩ := List.getElem?_eq_some_iff.mp slash
      rw [List.length_append, List.length_singleton] at inside
      rw [Option.getD_some]
      omega
  have halves : pieces (s ++ [('*' : Code)]) =
      piecesFrom ((hostEnd? (s ++ [('*' : Code)])).getD 0) s ++ [.anyRun] := by
    rw [pieces, piecesFrom_append, outside]
    rfl
  rw [isMatch_iff_splits, ← made_pieces_iff_splits, halves, made_append]
  simp only [made_plain _ h]
  constructor
  · rintro ⟨_, rest, rfl, rfl, -⟩
    exact ⟨rest, rfl⟩
  · rintro ⟨rest, rfl⟩
    exact ⟨s, rest, rfl, rfl, rest, [], by simp, trivial, rfl⟩

end Glob

namespace Source

/-! ## Sources with one more character -/

theorem kind_concat_star (s : List Code) : kind (s ++ [('*' : Code)]) = .wildcard := by
  rw [kind_eq, if_pos (by simp)]

/-- A source in front of a `/` is a leading one unless it has a query or a fragment. -/
theorem kind_concat_slash {s : List Code} (h : ('*' : Code) ∉ s) :
    kind (s ++ [('/' : Code)]) =
      if ('?' : Code) ∈ s ∨ ('#' : Code) ∈ s then .whole else .leading := by
  have noStar : ('*' : Code) ∉ s ++ [('/' : Code)] := by simpa using h
  have query : (('?' : Code) ∈ s ++ [('/' : Code)] ∨ ('#' : Code) ∈ s ++ [('/' : Code)]) ↔
      ('?' : Code) ∈ s ∨ ('#' : Code) ∈ s := by simp
  -- The `/` at the end is the end of the path as well, if there is one.
  have isOpen : urlPath (s ++ [('/' : Code)]) = [] ∨
      (urlPath (s ++ [('/' : Code)])).getLast? = some ('/' : Code) := by
    by_cases path : urlPath (s ++ [('/' : Code)]) = []
    · exact .inl path
    · rw [getLast?_urlPath _ path]
      exact .inr List.getLast?_concat
  rw [kind_eq, if_neg noStar]
  by_cases h' : ('?' : Code) ∈ s ∨ ('#' : Code) ∈ s
  · rw [if_pos h', if_neg]
    rw [isLeading_of_query (query.mpr h')]
    rintro ⟨path, last, -⟩
    exact last (isOpen.resolve_left path)
  · rw [if_neg h', if_pos]
    exact .inl (isLikelyPrefix_of_open (fun more => h' (query.mp more)) isOpen)

end Source

namespace Rule

/-! ## Longer rules -/

/-- The rule with more text at the end of its source. -/
def lengthen (r : Rule) (text : Points) : Rule := ⟨r.source ++ text, r.destination⟩

/-- A rule that is matched whole is told to lengthen its source. With a `*` at its end it
becomes a wildcard, for the URLs that start with the source. With a `/` it becomes a leading
rule, which keeps what follows the `/`, exactly when it has neither a query nor a fragment;
otherwise it is matched whole as before. -/
theorem advice_followed (r : Rule) (whole : r.diagnose.kind = .whole) :
    r.diagnose.warnings.getLast? =
      some ("Add a trailing '/' or a '*' to redirect more than this one URL." : Points) ∧
    (Matcher.ofRule (r.lengthen "*") = .wildcard (r.source ++ ("*" : Points)) r.destination ∧
      ∀ url, (Matcher.ofRule (r.lengthen "*")).rewrite? url =
        if r.source.toList <+: url.toList then some r.destination else none) ∧
    (¬(('?' : Code) ∈ r.source.toList ∨ ('#' : Code) ∈ r.source.toList) →
      Matcher.ofRule (r.lengthen "/") = .leading (r.source ++ ("/" : Points)) r.destination ∧
      ∀ rest, (Matcher.ofRule (r.lengthen "/")).rewrite? (r.source ++ ("/" : Points) ++ rest) =
        some (r.destination ++ rest)) ∧
    (('?' : Code) ∈ r.source.toList ∨ ('#' : Code) ∈ r.source.toList →
      Matcher.ofRule (r.lengthen "/") = .whole (r.source ++ ("/" : Points)) r.destination) := by
  have kind : Source.kind r.source.toList = .whole := whole
  have noStar := Source.not_star_of_whole kind
  have starred : Matcher.ofRule (r.lengthen "*") =
      .wildcard (r.source ++ ("*" : Points)) r.destination := by
    show Matcher.ofKind (Source.kind (r.source.toList ++ [('*' : Code)])) _ _ = _
    rw [Source.kind_concat_star]
    rfl
  have slashed : Matcher.ofRule (r.lengthen "/") =
      Matcher.ofKind
        (if ('?' : Code) ∈ r.source.toList ∨ ('#' : Code) ∈ r.source.toList then .whole
          else .leading) (r.source ++ ("/" : Points)) r.destination := by
    rw [← Source.kind_concat_slash noStar]
    rfl
  refine ⟨?_, ⟨starred, ?_⟩, ?_, ?_⟩
  · have last : r.warnings.getLast? = some .oneUrl := by
      have isWhole : r.kind = .whole := kind
      simp [warnings, isWhole]
    show (r.warnings.map Warning.text).getLast? = _
    rw [List.getLast?_map, last]
    rfl
  · intro url
    have pattern : (r.source ++ ("*" : Points)).toList = r.source.toList ++ [('*' : Code)] := rfl
    rw [starred, Matcher.rewrite?, pattern]
    simp only [Glob.isMatch_concat_star noStar]
  · intro plain
    rw [slashed, if_neg plain]
    refine ⟨rfl, ?_⟩
    intro rest
    rw [Matcher.rewrite?_eq_some_iff]
    exact ⟨rest, rfl, rfl⟩
  · intro query
    rw [slashed, if_pos query]
    rfl

theorem advice_followed_file :
    let r : Rule := ⟨"h://a/b.c", "h://d/"⟩
    r.diagnose.kind = .whole ∧
      (Matcher.ofRule (r.lengthen "/")).rewrite? "h://a/b.c/e" = some ("h://d/e" : Points) := by
  intro r
  have whole : r.diagnose.kind = .whole := by decide
  have plain : ¬(('?' : Code) ∈ r.source.toList ∨ ('#' : Code) ∈ r.source.toList) := by decide
  obtain ⟨-, -, leading, -⟩ := advice_followed r whole
  exact ⟨whole, (leading plain).2 "e"⟩

theorem advice_useless :
    let r : Rule := ⟨"https://old.example/page.html?id=1", "https://new.example/"⟩
    r.diagnose.kind = .whole ∧ (r.lengthen "/").diagnose.kind = .whole ∧
      (Matcher.ofRule (r.lengthen "/")).rewrite? "https://old.example/page.html?id=1/x" =
        none := by
  decide +kernel

end Rule

end Reroute
