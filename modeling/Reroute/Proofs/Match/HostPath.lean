import Reroute.Proofs.Match.Splits

/-!
# Host and path

A pattern that names a host and a path matches a URL in two halves: its front the host
part of the URL, with stars that do not cross a `/`, and the rest the path of the URL,
with stars that take anything (`isMatch_iff_front_path`). The two halves of the URL do
not depend on the pattern. A front holds the two slashes of `://` and no other, so it
ends at the third slash, which is where the path of the URL starts (`urlPath_of_front`).
-/

namespace Reroute

namespace Text

/-! ## Cuts -/

theorem eq_append_of_cut? {sep s before rest : List Code}
    (h : cut? sep s = some (before, rest)) : s = before ++ sep ++ rest := by
  induction s generalizing before with
  | nil =>
    rw [cut?, Option.ite_none_right_eq_some, Option.some_inj, Prod.mk.injEq] at h
    obtain ⟨empty, rfl, rfl⟩ := h
    simpa using empty
  | cons c s ih =>
    rw [cut?] at h
    split at h
    · next after found =>
      obtain ⟨rfl, rfl⟩ := Prod.mk.inj (Option.some.inj h)
      exact (List.isPrefixOf?_eq_some_iff_append_eq.mp found).symm
    · obtain ⟨⟨front, after⟩, found, same⟩ := Option.map_eq_some_iff.mp h
      obtain ⟨rfl, rfl⟩ := Prod.mk.inj same
      rw [ih found]
      rfl

/-- A text without `/` in front of `://` holds no part of an earlier one. -/
theorem cut?_schemeSeparator {scheme : List Code} (h : ('/' : Code) ∉ scheme) (rest : List Code) :
    cut? Source.schemeSeparator (scheme ++ Source.schemeSeparator ++ rest) =
      some (scheme, rest) := by
  induction scheme with
  | nil => rfl
  | cons c scheme ih =>
    rw [List.mem_cons, not_or] at h
    have later := ih h.2
    have notHere : Source.schemeSeparator.isPrefixOf?
        (c :: (scheme ++ Source.schemeSeparator ++ rest)) = none := by
      rw [Option.eq_none_iff_forall_ne_some]
      intro after found
      -- The second character would be the `/` of the separator.
      have same := List.isPrefixOf?_eq_some_iff_append_eq.mp found
      cases scheme with
      | nil => simp [Source.schemeSeparator] at same
      | cons d scheme =>
        obtain ⟨-, slash, -⟩ : ':' = c ∧ '/' = d ∧ _ := by
          simpa [Source.schemeSeparator] using same
        exact h.2 (slash ▸ List.mem_cons_self)
    simp only [List.cons_append, cut?, notHere, later, Option.map_some]

end Text

namespace Source

/-! ## Fronts -/

/-- A text is what a URL has in front of its path: a scheme, `://` and a host. -/
def IsFront (s : List Code) : Prop :=
  ∃ scheme host, s = scheme ++ schemeSeparator ++ host ∧ ('/' : Code) ∉ scheme ∧ ('/' : Code) ∉ host

variable {front path : List Code}

/-- A front has the two slashes of `://`. -/
theorem IsFront.count_slash (h : IsFront front) : front.count ('/' : Code) = 2 := by
  obtain ⟨scheme, host, rfl, inScheme, inHost⟩ := h
  have separator : schemeSeparator.count ('/' : Code) = 2 := by decide
  rw [List.count_append, List.count_append, separator, List.count_eq_zero_of_not_mem inScheme,
    List.count_eq_zero_of_not_mem inHost]

theorem afterScheme_of_opens {scheme : List Code} (inScheme : ('/' : Code) ∉ scheme) (rest : List Code) :
    afterScheme (scheme ++ schemeSeparator ++ rest) = rest := by
  rw [afterScheme, Text.cut?_schemeSeparator inScheme]

theorem ne_slash_of_not_mem {s : List Code} (h : ('/' : Code) ∉ s) : ∀ c ∈ s, decide (c ≠ '/') = true := by
  intro c hc
  rw [decide_eq_true_eq]
  rintro rfl
  exact h hc

/-- The path of a URL is what follows its front. -/
theorem urlPath_of_front (h : IsFront front) (slash : path.head? = some ('/' : Code)) :
    urlPath (front ++ path) = path := by
  obtain ⟨scheme, host, rfl, inScheme, inHost⟩ := h
  obtain ⟨rest, rfl⟩ := List.head?_eq_some_iff.mp slash
  rw [urlPath, List.append_assoc, afterScheme_of_opens inScheme,
    List.dropWhile_append_of_pos (ne_slash_of_not_mem inHost)]
  simp

end Source

namespace Glob

variable {front path : List Code}

theorem hostEnd?_eq_some {pattern : List Code} {bound : Nat} (h : hostEnd? pattern = some bound) :
    Source.IsFront (pattern.take bound) ∧ (pattern.drop bound).head? = some ('/' : Code) := by
  unfold hostEnd? at h
  split at h
  · next scheme rest cut =>
    split at h
    · simp at h
    · next inScheme =>
      obtain ⟨i, found, rfl⟩ := Option.map_eq_some_iff.mp h
      obtain ⟨inside, slash, before⟩ := List.findIdx?_eq_some_iff_getElem.mp found
      have length : scheme.length + Source.schemeSeparator.length + i =
          (scheme ++ Source.schemeSeparator).length + i := by rw [List.length_append]
      rw [Text.eq_append_of_cut? cut, length, List.take_length_add_append,
        List.drop_length_add_append]
      refine ⟨⟨scheme, rest.take i, rfl, by simpa using inScheme, ?_⟩, ?_⟩
      · intro early
        obtain ⟨j, hj, same⟩ := List.mem_take_iff_getElem.mp early
        exact before j (by omega) (by simp [same])
      · rw [List.head?_drop, List.getElem?_eq_getElem inside]
        simpa using slash
  · simp at h

/-! ## Pieces of a half -/

theorem piecesFrom_append (left : Nat) (xs ys : List Code) :
    piecesFrom left (xs ++ ys) = piecesFrom left xs ++ piecesFrom (left - xs.length) ys := by
  induction xs generalizing left with
  | nil => rfl
  | cons c xs ih =>
    have less : left - (c :: xs).length = left - 1 - xs.length := by
      rw [List.length_cons]
      omega
    rw [List.cons_append, piecesFrom, piecesFrom, ih, less, List.cons_append]

theorem made_append (ps qs : List Piece) (s : List Code) :
    Made (ps ++ qs) s ↔ ∃ front path, s = front ++ path ∧ Made ps front ∧ Made qs path := by
  induction ps generalizing s with
  | nil =>
    constructor
    · intro made
      exact ⟨[], s, rfl, rfl, made⟩
    · intro h
      obtain ⟨front, path, rfl, rfl, made⟩ := h
      exact made
  | cons p ps ih =>
    rw [List.cons_append, Made]
    simp only [ih]
    constructor
    · intro h
      obtain ⟨part, rest, rfl, takes, front, path, rfl, first, last⟩ := h
      exact ⟨part ++ front, path, by simp, ⟨part, front, rfl, takes, first⟩, last⟩
    · intro h
      obtain ⟨front, path, rfl, ⟨part, rest, rfl, takes, first⟩, last⟩ := h
      exact ⟨part, rest ++ path, by simp, takes, rest, path, rfl, first, last⟩

theorem made_plain {pattern : List Code} (left : Nat) (h : ('*' : Code) ∉ pattern) (s : List Code) :
    Made (piecesFrom left pattern) s ↔ s = pattern := by
  induction pattern generalizing left s with
  | nil => rfl
  | cons c pattern ih =>
    rw [List.mem_cons, not_or] at h
    have plain : piece (0 < left) c = .one c := if_neg (Ne.symm h.1)
    rw [piecesFrom, plain]
    cases s with
    | nil => simp [made_one_nil]
    | cons d s => rw [made_one_cons, ih _ h.2, List.cons.injEq]

/-- A text is made of one part for each character of a pattern alone: the character
itself, or for a star a run of the kind. -/
def SplitsAlone (run : List Code → Prop) (pattern s : List Code) : Prop :=
  ∃ parts : List (List Code), parts.length = pattern.length ∧ parts.flatten = s ∧
    ∀ (i : Nat) (c : Code) (part : List Code), pattern[i]? = some c → parts[i]? = some part →
      (c ≠ '*' → part = [c]) ∧ (c = '*' → run part)

def HostRun (part : List Code) : Prop := ('/' : Code) ∉ part

def AnyRun (_ : List Code) : Prop := True

theorem made_hostPart_iff (pattern s : List Code) :
    Made (piecesFrom pattern.length pattern) s ↔ SplitsAlone HostRun pattern s := by
  rw [made_piecesFrom_iff]
  refine exists_congr fun parts => and_congr_right fun _ => and_congr_right fun _ => ?_
  refine forall₄_congr fun i c part hc => ?_
  obtain ⟨inside, -⟩ := List.getElem?_eq_some_iff.mp hc
  by_cases star : c = '*' <;> simp [piece, Source.star, star, inside, Piece.Takes, HostRun]

theorem made_pathPart_iff (pattern s : List Code) :
    Made (piecesFrom 0 pattern) s ↔ SplitsAlone AnyRun pattern s := by
  rw [made_piecesFrom_iff]
  refine exists_congr fun parts => and_congr_right fun _ => and_congr_right fun _ => ?_
  refine forall₄_congr fun i c part _ => ?_
  by_cases star : c = '*' <;> simp [piece, Source.star, star, Piece.Takes, AnyRun]

/-- A pattern with a host part matches a URL of two halves, one for each of its own. -/
theorem isMatch_iff_halves {pattern : List Code} {bound : Nat}
    (bounded : hostEnd? pattern = some bound) (url : List Code) :
    isMatch pattern url = true ↔ ∃ front path, url = front ++ path ∧
      SplitsAlone HostRun (pattern.take bound) front ∧
        SplitsAlone AnyRun (pattern.drop bound) path := by
  have length : (pattern.take bound).length = bound := by
    rw [List.length_take, Nat.min_eq_left]
    -- A character stands behind the host part.
    by_contra short
    have slash := (hostEnd?_eq_some bounded).2
    rw [List.drop_of_length_le (by omega)] at slash
    simp at slash
  have halves : pieces pattern = piecesFrom (pattern.take bound).length (pattern.take bound) ++
      piecesFrom 0 (pattern.drop bound) := by
    calc pieces pattern = piecesFrom bound (pattern.take bound ++ pattern.drop bound) := by
          rw [pieces, bounded, Option.getD_some, List.take_append_drop]
      _ = _ := by rw [piecesFrom_append, length, Nat.sub_self]
  rw [isMatch_iff_splits, ← made_pieces_iff_splits, halves, made_append]
  simp only [made_hostPart_iff, made_pathPart_iff]

/-! ## What the halves match -/

/-- A character that stands neither in a pattern nor in a run is nowhere in what they make. -/
theorem not_mem_of_splitsAlone {run : List Code → Prop} {pattern s : List Code} {c : Code}
    (h : c ∉ pattern) (noRun : ∀ part, run part → c ∉ part) (splits : SplitsAlone run pattern s) :
    c ∉ s := by
  obtain ⟨parts, length, rfl, each⟩ := splits
  intro hc
  obtain ⟨part, hpart, inPart⟩ := List.mem_flatten.mp hc
  obtain ⟨i, inside, found⟩ := List.mem_iff_getElem.mp hpart
  have place : pattern[i]? = some pattern[i] := List.getElem?_eq_getElem (length ▸ inside)
  obtain ⟨plain, starred⟩ := each i pattern[i] part place (by rw [← found]; simp)
  by_cases star : pattern[i] = '*'
  · exact noRun part (starred star) inPart
  · rw [plain star, List.mem_singleton] at inPart
    exact h (inPart ▸ List.getElem_mem _)

theorem piecesFrom_length (pattern : List Code) :
    piecesFrom pattern.length pattern = pattern.map (piece true) := by
  induction pattern with
  | nil => rfl
  | cons c pattern ih => simp [piecesFrom, ih]

theorem splitsAlone_append (xs ys s : List Code) : SplitsAlone HostRun (xs ++ ys) s ↔
    ∃ front path, s = front ++ path ∧ SplitsAlone HostRun xs front ∧
      SplitsAlone HostRun ys path := by
  simp only [← made_hostPart_iff, piecesFrom_length, List.map_append, made_append]

/-- A front is matched part by part: by a front whose host is matched by the host. -/
theorem splitsAlone_front {scheme host : List Code} (inScheme : ('/' : Code) ∉ scheme) (inHost : ('/' : Code) ∉ host)
    (splits : SplitsAlone HostRun (scheme ++ Source.schemeSeparator ++ host) front) :
    ∃ scheme' host', front = scheme' ++ Source.schemeSeparator ++ host' ∧ ('/' : Code) ∉ scheme' ∧
      ('/' : Code) ∉ host' ∧ SplitsAlone HostRun host host' := by
  obtain ⟨_, host', rfl, before, inHost'⟩ := (splitsAlone_append _ _ _).mp splits
  obtain ⟨scheme', separator, rfl, inScheme', middle⟩ := (splitsAlone_append _ _ _).mp before
  -- The separator has no star, so it is matched by itself.
  rw [← made_hostPart_iff, made_plain _ (by decide)] at middle
  subst middle
  exact ⟨scheme', host', rfl, not_mem_of_splitsAlone inScheme (fun _ run => run) inScheme',
    not_mem_of_splitsAlone inHost (fun _ run => run) inHost', inHost'⟩

/-- The host part of a pattern matches fronts only. -/
theorem isFront_of_splitsAlone {pattern : List Code} (h : Source.IsFront pattern)
    (splits : SplitsAlone HostRun pattern front) : Source.IsFront front := by
  obtain ⟨scheme, host, rfl, inScheme, inHost⟩ := h
  obtain ⟨scheme', host', rfl, inScheme', inHost', -⟩ := splitsAlone_front inScheme inHost splits
  exact ⟨scheme', host', rfl, inScheme', inHost'⟩

theorem head?_of_splitsAlone {run : List Code → Prop} {pattern : List Code}
    (slash : pattern.head? = some ('/' : Code)) (splits : SplitsAlone run pattern path) :
    path.head? = some ('/' : Code) := by
  obtain ⟨rest, rfl⟩ := List.head?_eq_some_iff.mp slash
  obtain ⟨parts, length, rfl, each⟩ := splits
  cases parts with
  | nil => simp at length
  | cons part parts =>
    obtain rfl := (each 0 '/' part rfl rfl).1 (by decide)
    rfl

/-- A pattern with a host part matches a URL exactly when its host part matches the
front of the URL, by runs without `/`, and the rest of it the path. Every way to match
the URL cuts it at its third `/`, where the path starts, so no host part is ever
matched against a path. -/
theorem isMatch_iff_front_path (pattern url : List Code) (bound : Nat)
    (bounded : hostEnd? pattern = some bound) :
    (isMatch pattern url = true ↔ ∃ front path, url = front ++ path ∧
      path = Source.urlPath url ∧ path.head? = some ('/' : Code) ∧
      Source.IsFront front ∧ SplitsAlone HostRun (pattern.take bound) front ∧
      SplitsAlone AnyRun (pattern.drop bound) path) ∧
    ∀ front path, url = front ++ path →
      SplitsAlone HostRun (pattern.take bound) front →
      SplitsAlone AnyRun (pattern.drop bound) path →
        front.count ('/' : Code) = 2 ∧ path.head? = some ('/' : Code) ∧ path = Source.urlPath url := by
  obtain ⟨isFront, slash⟩ := hostEnd?_eq_some bounded
  constructor
  · rw [isMatch_iff_halves bounded]
    constructor
    · intro h
      obtain ⟨front, path, rfl, first, last⟩ := h
      have front' := isFront_of_splitsAlone isFront first
      have slash' := head?_of_splitsAlone slash last
      have isPath := (Source.urlPath_of_front front' slash').symm
      exact ⟨front, path, rfl, isPath, slash', front', first, last⟩
    · intro h
      obtain ⟨front, path, whole, -, -, -, first, last⟩ := h
      exact ⟨front, path, whole, first, last⟩
  · intro front path whole first last
    have front' := isFront_of_splitsAlone isFront first
    have slash' := head?_of_splitsAlone slash last
    rw [whole, Source.urlPath_of_front front' slash']
    exact ⟨front'.count_slash, slash', rfl⟩

/-- A URL whose path looks like a URL that the pattern matches as well. -/
theorem isMatch_iff_front_path_embedded :
    let pattern := ("*://*.b/*" : Points).toList
    let url := ("h://x.b/y?u=h://z.b/" : Points).toList
    hostEnd? pattern = some 7 ∧ isMatch pattern url = true ∧
      ∃ front path, url = front ++ path ∧ path = Source.urlPath url ∧
        SplitsAlone HostRun ("*://*.b" : Points).toList front ∧ SplitsAlone AnyRun ("/*" : Points).toList path ∧
          front.count ('/' : Code) = 2 := by
  intro pattern url
  have bounded : hostEnd? pattern = some 7 := by decide
  have accepted : isMatch pattern url = true := by decide
  obtain ⟨halves, cut⟩ := isMatch_iff_front_path pattern url 7 bounded
  obtain ⟨front, path, whole, isPath, -, -, first, last⟩ := halves.mp accepted
  exact ⟨bounded, accepted, front, path, whole, isPath, first, last,
    (cut front path whole first last).1⟩

end Glob

end Reroute
