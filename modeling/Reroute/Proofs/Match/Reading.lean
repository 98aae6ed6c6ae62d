import Reroute.Proofs.Match.Captures

/-!
# How an escaped text is read

A regular expression is read from left to right in marks: a backslash goes with the character
behind it, and any other character is alone (`marks`). An escaping is lossless when its text
is read as one mark for each character, which stands for that character, and no special
character is left alone (`Escapes`), and escaping is.

The text of a glob is cut into the texts of items, in whatever way (`IsReading`). There is
one way to do it: an item for each character of the pattern, read from the text that was
written for that character. A pattern may spell out the forms for a run, or put a backslash
in front of a star, and still only its stars are read as runs (`uniquely_read`).
-/

namespace Reroute

namespace Regex

/-! ## Marks -/

/-- What is read at once: a character and the backslash in front of it, or a character
alone. -/
inductive Mark (α : Type) where
  | escaped (c : α)
  | bare (c : α)
  deriving Repr, DecidableEq

section Marks

variable {α : Type} [DecidableEq α]

def Mark.text (backslash : α) : Mark α → List α
  | .escaped c => [backslash, c]
  | .bare c => [c]

/-- The character that a mark stands for. Behind a backslash only a special character stands
for itself, and alone only one that is not special. -/
def Mark.char? (special : List α) : Mark α → Option α
  | .escaped c => if c ∈ special then some c else none
  | .bare c => if c ∈ special then none else some c

/-- The marks of a text, from left to right. A backslash at the end is alone. -/
def marks (backslash : α) : List α → List (Mark α)
  | [] => []
  | [c] => [.bare c]
  | c :: d :: s =>
    if c = backslash then .escaped d :: marks backslash s
    else .bare c :: marks backslash (d :: s)

/-- An escaping is lossless, and nothing special is left in its texts. -/
structure Escapes (backslash : α) (special : List α) (escape : List α → List α) : Prop where
  /-- There is one mark for each character, in order, and it stands for that character. -/
  read : ∀ t, (marks backslash (escape t)).map (Mark.char? special) = t.map some
  no_bare : ∀ t, ∀ c ∈ special, Mark.bare c ∉ marks backslash (escape t)
  injective : Function.Injective escape
  append : ∀ s t, escape (s ++ t) = escape s ++ escape t

def markOf (special : List α) (c : α) : Mark α := if c ∈ special then .escaped c else .bare c

theorem char?_markOf (special : List α) (c : α) : (markOf special c).char? special = some c := by
  unfold markOf
  split
  · next inside => exact if_pos inside
  · next outside => exact if_neg outside

theorem eq_markOf_of_char? {special : List α} {m : Mark α} {c : α}
    (h : m.char? special = some c) : m = markOf special c := by
  cases m with
  | escaped d =>
    obtain ⟨inside, rfl⟩ : d ∈ special ∧ d = c := by simpa [Mark.char?] using h
    exact (if_pos inside).symm
  | bare d =>
    obtain ⟨outside, rfl⟩ : d ∉ special ∧ d = c := by simpa [Mark.char?] using h
    exact (if_neg outside).symm

/-- The text of the mark for a character is read as that mark, whatever follows. -/
theorem marks_text_markOf {backslash : α} {special : List α} (h : backslash ∈ special) (c : α)
    (rest : List α) : marks backslash ((markOf special c).text backslash ++ rest) =
      markOf special c :: marks backslash rest := by
  unfold markOf
  split
  · show marks backslash (backslash :: c :: rest) = _
    rw [marks, if_pos rfl]
  · next outside =>
    have other : c ≠ backslash := fun same => outside (same ▸ h)
    show marks backslash (c :: rest) = _
    cases rest with
    | nil => rfl
    | cons d rest => rw [marks, if_neg other]

theorem marks_flatMap_text {backslash : α} {special : List α} (h : backslash ∈ special)
    (t : List α) : marks backslash (t.flatMap fun c => (markOf special c).text backslash) =
      t.map (markOf special) := by
  induction t with
  | nil => rfl
  | cons c t ih => rw [List.flatMap_cons, marks_text_markOf h, ih, List.map_cons]

/-- To write each character as its mark is lossless, if the backslash itself is special. -/
theorem escapes_flatMap_text {backslash : α} {special : List α} (h : backslash ∈ special) :
    Escapes backslash special fun t => t.flatMap fun c => (markOf special c).text backslash := by
  have read (t : List α) : (marks backslash
      (t.flatMap fun c => (markOf special c).text backslash)).map (Mark.char? special) =
        t.map some := by
    rw [marks_flatMap_text h, List.map_map]
    exact List.map_congr_left fun c _ => char?_markOf special c
  refine ⟨read, ?_, ?_, fun s t => List.flatMap_append⟩
  · intro t c inside bare
    have stands : Mark.char? special (.bare c) ∈ t.map some :=
      read t ▸ List.mem_map_of_mem bare
    simp [Mark.char?, inside] at stands
  · intro s t same
    apply List.map_injective_iff.mpr (Option.some_injective α)
    rw [← read s, ← read t]
    exact congrArg (fun u => (marks backslash u).map (Mark.char? special)) same

end Marks

/-! ## Readings -/

/-- The characters that stand for something other than themselves when they are alone. -/
def specials : List Code := (".*+?^$\x7b\x7d()|[]\\" : Points).toList

theorem metacharacters_eq : Glob.metacharacters = specials := by decide

def Atom.Spelled : Atom → List Code → Prop
  | .char c, s => ∃ m : Mark Code, m.char? specials = some c ∧ s = m.text ('\\' : Code)
  | .any, s => s = [('.' : Code)]
  | .other c, s => c ∉ specials ∧ c ≠ '-' ∧ s = [.char '[', .char '^', c, .char ']']

def Item.Spelled (i : Item) (s : List Code) : Prop :=
  ∃ t, i.atom.Spelled t ∧ s = if i.starred then t ++ [('*' : Code)] else t

/-- A text is cut into parts, each of which spells an item. -/
def IsReading (parts : List (Item × List Code)) (s : List Code) : Prop :=
  (∀ p ∈ parts, p.1.Spelled p.2) ∧ parts.flatMap Prod.snd = s

theorem text_markOf (c : Code) : (markOf specials c).text ('\\' : Code) = Glob.escapeChar c := by
  unfold markOf Glob.escapeChar
  simp only [← metacharacters_eq, List.contains_iff_mem]
  split <;> rfl

theorem spelled_char_iff (c : Code) (s : List Code) :
    (Atom.char c).Spelled s ↔ s = Glob.escapeChar c := by
  rw [← text_markOf]
  constructor
  · intro h
    obtain ⟨m, stands, rfl⟩ := h
    rw [eq_markOf_of_char? stands]
  · intro h
    exact ⟨markOf specials c, char?_markOf specials c, h⟩

theorem Atom.Spelled.atom? {a : Atom} {t : List Code} (h : a.Spelled t) (rest : List Code) :
    atom? (t ++ rest) = some (a, rest) := by
  cases a with
  | char c =>
    rw [(spelled_char_iff c t).mp h]
    exact Glob.atom?_escapeChar c rest
  | any =>
    obtain rfl := h
    rfl
  | other c =>
    obtain ⟨plain, noDash, rfl⟩ := h
    rw [← metacharacters_eq] at plain
    simp [Regex.atom?, plain, noDash]

theorem Atom.Spelled.eq_cons {a : Atom} {t : List Code} (h : a.Spelled t) :
    ∃ c s, t = c :: s ∧ c ≠ '*' := by
  cases a with
  | char c =>
    rw [(spelled_char_iff c t).mp h]
    exact Glob.regex_eq_cons (.one c)
  | any => exact ⟨'.', [], h, by decide⟩
  | other c => exact ⟨'[', [.char '^', c, .char ']'], h.2.2, by decide⟩

theorem Item.Spelled.eq_cons {i : Item} {t : List Code} (h : i.Spelled t) :
    ∃ c s, t = c :: s ∧ c ≠ '*' := by
  obtain ⟨u, spelled, rfl⟩ := h
  obtain ⟨c, s, rfl, other⟩ := spelled.eq_cons
  split
  · exact ⟨c, s ++ [('*' : Code)], rfl, other⟩
  · exact ⟨c, s, rfl, other⟩

theorem Item.Spelled.item? {i : Item} {t : List Code} (h : i.Spelled t) {rest : List Code}
    (noStar : rest.head? ≠ some ('*' : Code)) : item? (t ++ rest) = some (i, rest) := by
  obtain ⟨u, spelled, rfl⟩ := h
  obtain ⟨a, starred⟩ := i
  cases starred with
  | false =>
    show Regex.item? (u ++ rest) = _
    simp [Regex.item?, spelled.atom? rest, Glob.star?_of_head? noStar]
  | true =>
    show Regex.item? (u ++ [('*' : Code)] ++ rest) = _
    simp [Regex.item?, spelled.atom?, star?]

theorem isReading_cons_iff (p : Item × List Code) (parts : List (Item × List Code))
    (s : List Code) : IsReading (p :: parts) s ↔
      ∃ rest, p.1.Spelled p.2 ∧ s = p.2 ++ rest ∧ IsReading parts rest := by
  simp only [IsReading, List.forall_mem_cons, List.flatMap_cons]
  constructor
  · intro h
    obtain ⟨⟨spelled, others⟩, rfl⟩ := h
    exact ⟨_, spelled, rfl, others, rfl⟩
  · intro h
    obtain ⟨rest, spelled, rfl, others, rfl⟩ := h
    exact ⟨⟨spelled, others⟩, rfl⟩

theorem IsReading.head? {parts : List (Item × List Code)} {s : List Code}
    (h : IsReading parts s) : s.head? ≠ some ('*' : Code) := by
  cases parts with
  | nil =>
    obtain rfl := h.2
    simp
  | cons p parts =>
    obtain ⟨rest, spelled, rfl, -⟩ := (isReading_cons_iff p parts s).mp h
    obtain ⟨c, u, text, other⟩ := spelled.eq_cons
    rw [text]
    simpa using other

theorem IsReading.eq_nil {parts : List (Item × List Code)} (h : IsReading parts []) :
    parts = [] := by
  cases parts with
  | nil => rfl
  | cons p parts =>
    obtain ⟨rest, spelled, empty, -⟩ := (isReading_cons_iff p parts []).mp h
    obtain ⟨c, u, text, -⟩ := spelled.eq_cons
    simp [text] at empty

/-- A text is read in one way at most. -/
theorem IsReading.unique {ps qs : List (Item × List Code)} {s : List Code}
    (h : IsReading ps s) (h' : IsReading qs s) : ps = qs := by
  induction ps generalizing qs s with
  | nil =>
    obtain rfl := h.2
    exact h'.eq_nil.symm
  | cons p ps ih =>
    cases qs with
    | nil =>
      obtain rfl := h'.2
      exact h.eq_nil
    | cons q qs =>
      obtain ⟨rest, spelled, rfl, others⟩ := (isReading_cons_iff p ps s).mp h
      obtain ⟨rest', spelled', same, others'⟩ := (isReading_cons_iff q qs _).mp h'
      -- Both begin with the item that is read at the front, and leave the same.
      have front := spelled.item? others.head?
      have front' := spelled'.item? others'.head?
      rw [← same, front] at front'
      obtain ⟨item, rfl⟩ : p.1 = q.1 ∧ rest = rest' := by simpa using front'
      have text : p.2 = q.2 := List.append_cancel_right same
      rw [ih others others', Prod.ext item text]

end Regex

namespace Glob

/-! ## Escaping -/

theorem escapes_escape : Regex.Escapes ('\\' : Code) Regex.specials escape := by
  have same : escape = fun t =>
      t.flatMap fun c => (Regex.markOf Regex.specials c).text ('\\' : Code) := by
    funext t
    simp only [escape, Regex.text_markOf]
  rw [same]
  exact Regex.escapes_flatMap_text (by decide)

/-! ## The text of a glob -/

/-- What the character at place `i` of a pattern is read as, and the text that it is read
from. -/
def partAt (pattern : List Code) (i : Nat) (c : Code) : Regex.Item × List Code :=
  if c ≠ '*' then (⟨.char c, false⟩, escapeChar c)
  else if (hostEnd? pattern).any (i < ·) then (⟨.other '/', true⟩, ("[^/]*" : Points).toList)
  else (⟨.any, true⟩, (".*" : Points).toList)

theorem spelled_regex (p : Piece) : p.item.Spelled p.regex := by
  cases p with
  | one c => exact ⟨escapeChar c, (Regex.spelled_char_iff c _).mpr rfl, rfl⟩
  | hostRun => exact ⟨['[', '^', '/', ']'], ⟨by decide, by decide, rfl⟩, rfl⟩
  | anyRun => exact ⟨[('.' : Code)], rfl, rfl⟩

theorem getElem?_piecesFrom (left : Nat) (s : List Code) (i : Nat) :
    (piecesFrom left s)[i]? = s[i]?.map (piece (i < left)) := by
  induction s generalizing left i with
  | nil => rfl
  | cons c s ih =>
    cases i with
    | zero => rfl
    | succ i =>
      have shift : (i < left - 1) = (i + 1 < left) := by
        rw [eq_iff_iff]
        omega
      rw [piecesFrom, List.getElem?_cons_succ, ih, List.getElem?_cons_succ]
      simp only [shift]

theorem partAt_eq (pattern : List Code) (i : Nat) (c : Code) :
    ((piece (i < (hostEnd? pattern).getD 0) c).item,
      (piece (i < (hostEnd? pattern).getD 0) c).regex) = partAt pattern i c := by
  have inHost : decide (i < (hostEnd? pattern).getD 0) = (hostEnd? pattern).any (i < ·) := by
    cases hostEnd? pattern <;> simp
  unfold partAt piece
  rw [inHost]
  by_cases star : c = '*'
  · subst star
    cases (hostEnd? pattern).any (i < ·) <;> rfl
  · simp [Source.star, star, Piece.item, Piece.regex]

theorem mapIdx_partAt (pattern : List Code) :
    pattern.mapIdx (partAt pattern) = (pieces pattern).map fun p => (p.item, p.regex) := by
  apply List.ext_getElem?
  intro i
  rw [List.getElem?_mapIdx, List.getElem?_map, pieces, getElem?_piecesFrom, Option.map_map]
  exact congrArg (pattern[i]?.map ·) (funext fun c => (partAt_eq pattern i c).symm)

theorem isReading_regex (pattern : List Code) :
    Regex.IsReading (pattern.mapIdx (partAt pattern)) (regex pattern) := by
  rw [mapIdx_partAt]
  refine ⟨?_, List.flatMap_map ..⟩
  intro part inside
  obtain ⟨p, -, rfl⟩ := List.mem_map.mp inside
  exact spelled_regex p

/-- Escaping is lossless: an escaped text is read as one mark for each character, none of
which is a special character alone. The text of a glob is read from left to right as one item for each character of the pattern, a star as a run and
any other character as itself, and it can be read in no other way: the text of an item is
just what was written for its character. -/
theorem uniquely_read :
    Regex.Escapes ('\\' : Code) Regex.specials escape ∧
      ∀ pattern,
        Regex.items? (regex pattern) = some ((pattern.mapIdx (partAt pattern)).map Prod.fst) ∧
        ∀ parts, Regex.IsReading parts (regex pattern) ↔
          parts = pattern.mapIdx (partAt pattern) := by
  refine ⟨escapes_escape, fun pattern => ⟨?_, fun parts => ?_⟩⟩
  · rw [items?_regex, mapIdx_partAt, List.map_map]
    rfl
  · have reading := isReading_regex pattern
    constructor
    · intro other
      exact other.unique reading
    · rintro rfl
      exact reading

/-- A pattern that spells out both forms for a run. -/
example : regex (".*[^/]*\\*" : Points).toList =
    ("\\..*\\[\\^/\\].*\\\\.*" : Points).toList := by decide

end Glob

end Reroute
