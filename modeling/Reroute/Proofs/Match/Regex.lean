import Reroute.Proofs.Match.Splits

/-!
# The regular expression of a glob

The second reading of a glob is a text that others read as a regular expression.
Here such texts are read: a character for itself, a character after a backslash, a
dot for any character, line feeds included, and `[^c]` for any but one, each with or
without a star. A text that holds anything else is not read at all. The text of a
glob is read, and it matches the URLs that split along the pattern
(`fullMatch_regex_iff_splits`).
-/

namespace Reroute.Regex

/-- What one character of a text may be. -/
inductive Atom where
  | char (c : Code)
  | any
  | other (c : Code)
  deriving Repr, DecidableEq

/-- An atom, for one character or, with a star, for any number of them. -/
structure Item where
  atom : Atom
  starred : Bool
  deriving Repr, DecidableEq

/-- The characters that an atom stands for. -/
def Atom.Accepts : Atom → Code → Prop
  | .char c, d => d = c
  | .any, _ => True
  | .other c, d => d ≠ c

/-- The parts of a text that an item stands for. -/
def Item.Fits (i : Item) (part : List Code) : Prop :=
  if i.starred then ∀ c ∈ part, i.atom.Accepts c else ∃ c, part = [c] ∧ i.atom.Accepts c

def Fit : List Item → List Code → Prop
  | [], s => s = []
  | i :: is, s => ∃ part rest, s = part ++ rest ∧ i.Fits part ∧ Fit is rest

/-- The atom at the front of a regular expression, and what follows it. -/
def atom? : List Code → Option (Atom × List Code)
  | [] => none
  | '\\' :: c :: s => if Glob.metacharacters.contains c then some (.char c, s) else none
  | '.' :: s => some (.any, s)
  | '[' :: '^' :: c :: ']' :: s =>
    if Glob.metacharacters.contains c || c = '-' then none else some (.other c, s)
  | c :: s => if Glob.metacharacters.contains c then none else some (.char c, s)

def star? : List Code → Bool × List Code
  | '*' :: s => (true, s)
  | s => (false, s)

/-- The items of a regular expression, of which there are at most `count`. -/
def itemsUpTo? : (count : Nat) → List Code → Option (List Item)
  | _, [] => some []
  | 0, _ => none
  | count + 1, s => do
    let (a, s) ← atom? s
    let (starred, s) := star? s
    return ⟨a, starred⟩ :: (← itemsUpTo? count s)

/-- The items of a regular expression, when it is of the kind that is read here. -/
def items? (regex : List Code) : Option (List Item) := itemsUpTo? regex.length regex

/-- A regular expression matches a text as a whole. -/
def FullMatch (regex s : List Code) : Prop := ∃ items, items? regex = some items ∧ Fit items s

end Regex

namespace Glob

def Piece.item : Piece → Regex.Item
  | .one c => ⟨.char c, false⟩
  | .hostRun => ⟨.other '/', true⟩
  | .anyRun => ⟨.any, true⟩

theorem fits_item (p : Piece) (part : List Code) : p.item.Fits part ↔ p.Takes part := by
  cases p with
  | one c =>
    constructor
    · intro h
      obtain ⟨d, rfl, rfl⟩ := h
      rfl
    · intro h
      exact ⟨c, h, rfl⟩
  | hostRun =>
    show (∀ c ∈ part, c ≠ '/') ↔ ('/' : Code) ∉ part
    constructor
    · intro h slash
      exact h '/' slash rfl
    · intro h c hc same
      rw [same] at hc
      exact h hc
  | anyRun => exact ⟨fun _ => trivial, fun _ _ _ => trivial⟩

theorem fit_items (ps : List Piece) (s : List Code) :
    Regex.Fit (ps.map Piece.item) s ↔ Made ps s := by
  induction ps generalizing s with
  | nil => rfl
  | cons p ps ih => simp only [List.map_cons, Regex.Fit, Made, fits_item, ih]

/-- A character that is escaped is read as itself. -/
theorem atom?_escapeChar (c : Code) (rest : List Code) :
    Regex.atom? (escapeChar c ++ rest) = some (.char c, rest) := by
  unfold escapeChar
  split
  · next special =>
    simp only [List.cons_append, List.nil_append, Regex.atom?]
    rw [if_pos special]
  · next plain =>
    -- The characters that start something else are metacharacters.
    have other (m : Code) (special : metacharacters.contains m = true) : c ≠ m := by
      intro same
      rw [same] at plain
      exact plain special
    have dot : c ≠ '.' := other '.' rfl
    have backslash : c ≠ '\\' := other '\\' rfl
    have bracket : c ≠ '[' := other '[' rfl
    rw [List.singleton_append, Regex.atom?]
    · rw [if_neg plain]
    all_goals simp_all

theorem star?_of_head? {s : List Code} (h : s.head? ≠ some ('*' : Code)) : Regex.star? s = (false, s) := by
  cases s with
  | nil => rfl
  | cons c s =>
    have plain : c ≠ '*' := by simpa using h
    rw [Regex.star?]
    intro t same
    exact plain (List.cons.inj same).1

theorem regex_eq_cons (p : Piece) : ∃ c s, p.regex = c :: s ∧ c ≠ '*' := by
  cases p with
  | one c =>
    by_cases special : metacharacters.contains c
    · exact ⟨'\\', [c], if_pos special, by decide⟩
    · refine ⟨c, [], if_neg special, ?_⟩
      intro star
      rw [star] at special
      exact special rfl
  | hostRun => exact ⟨'[', _, rfl, by decide⟩
  | anyRun => exact ⟨'.', _, rfl, by decide⟩

theorem head?_flatMap_regex (ps : List Piece) : (ps.flatMap Piece.regex).head? ≠ some ('*' : Code) := by
  cases ps with
  | nil => simp
  | cons p ps =>
    obtain ⟨c, s, hs, other⟩ := regex_eq_cons p
    rw [List.flatMap_cons, hs]
    simpa using other

theorem itemsUpTo?_regex (count : Nat) (p : Piece) {rest : List Code}
    (h : rest.head? ≠ some ('*' : Code)) :
    Regex.itemsUpTo? (count + 1) (p.regex ++ rest) =
      (Regex.itemsUpTo? count rest).map (p.item :: ·) := by
  -- What is read after a plain character is `rest`, which must not start with a star,
  -- or the character would be taken for a starred one.
  have read : ∃ s, Regex.atom? (p.regex ++ rest) = some (p.item.atom, s) ∧
      Regex.star? s = (p.item.starred, rest) := by
    cases p with
    | one c => exact ⟨rest, atom?_escapeChar c rest, star?_of_head? h⟩
    | hostRun => exact ⟨'*' :: rest, rfl, rfl⟩
    | anyRun => exact ⟨'*' :: rest, rfl, rfl⟩
  obtain ⟨c, s, hs, -⟩ := regex_eq_cons p
  obtain ⟨s', atom, star⟩ := read
  rw [hs, List.cons_append] at atom ⊢
  simp only [Regex.itemsUpTo?, atom, star, Option.bind_eq_bind, Option.bind_some]
  cases Regex.itemsUpTo? count rest <;> rfl

theorem itemsUpTo?_flatMap_regex (ps : List Piece) (count : Nat) (h : ps.length ≤ count) :
    Regex.itemsUpTo? count (ps.flatMap Piece.regex) = some (ps.map Piece.item) := by
  induction ps generalizing count with
  | nil => cases count <;> rfl
  | cons p ps ih =>
    rw [List.length_cons] at h
    cases count with
    | zero => omega
    | succ count =>
      rw [List.flatMap_cons, itemsUpTo?_regex count p (head?_flatMap_regex ps),
        ih count (by omega)]
      rfl

/-- No piece has an empty text, so the text of the pieces is long enough to count them. -/
theorem length_le_flatMap_regex (ps : List Piece) :
    ps.length ≤ (ps.flatMap Piece.regex).length := by
  induction ps with
  | nil => simp
  | cons p ps ih =>
    obtain ⟨c, s, hs, -⟩ := regex_eq_cons p
    rw [List.flatMap_cons, hs, List.length_append, List.length_cons, List.length_cons]
    omega

theorem items?_regex (pattern : List Code) :
    Regex.items? (regex pattern) = some ((pieces pattern).map Piece.item) :=
  itemsUpTo?_flatMap_regex (pieces pattern) _ (length_le_flatMap_regex (pieces pattern))

/-- The regular expression of a pattern can be read, and it matches as a whole the
URLs that split along the pattern, which are those that the pattern matches. -/
theorem fullMatch_regex_iff_splits (pattern url : List Code) :
    (Regex.items? (regex pattern)).isSome ∧
      (Regex.FullMatch (regex pattern) url ↔ Splits pattern url) ∧
      (isMatch pattern url = true ↔ Splits pattern url) := by
  refine ⟨by simp [items?_regex], ?_, isMatch_iff_splits pattern url⟩
  rw [← made_pieces_iff_splits, ← fit_items]
  constructor
  · intro matched
    obtain ⟨items, read, fit⟩ := matched
    rw [items?_regex] at read
    obtain rfl := Option.some.inj read
    exact fit
  · intro fit
    exact ⟨_, items?_regex pattern, fit⟩

end Glob

end Reroute
