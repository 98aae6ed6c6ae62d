import Mathlib
import Reroute.Match.Glob

/-!
# Splits

What a glob means, without pieces and rows: a URL is split into one part for each
character of the pattern (`Splits`). The rows that `accepts` fills from the end of
the URL to its start decide just that (`isMatch_iff_splits`).
-/

namespace Reroute.Glob

/-- A URL is made of one part for each character of a pattern: the character itself,
or for a star any run, without `/` as long as the star stands in a host part. -/
def Splits (pattern url : List Code) : Prop :=
  ∃ parts : List (List Code), parts.length = pattern.length ∧ parts.flatten = url ∧
    ∀ (i : Nat) (c : Code) (part : List Code), pattern[i]? = some c → parts[i]? = some part →
      (c ≠ '*' → part = [c]) ∧
        (c = '*' → ∀ bound, hostEnd? pattern = some bound → i < bound → ('/' : Code) ∉ part)

/-! ## Pieces -/

def Piece.Takes : Piece → List Code → Prop
  | .one c, part => part = [c]
  | .hostRun, part => ('/' : Code) ∉ part
  | .anyRun, _ => True

def Made : List Piece → List Code → Prop
  | [], s => s = []
  | p :: ps, s => ∃ part rest, s = part ++ rest ∧ p.Takes part ∧ Made ps rest

/-- A split of a text along the pieces of a pattern of which `left` characters belong
to the host part. -/
theorem made_piecesFrom_iff (left : Nat) (pattern s : List Code) :
    Made (piecesFrom left pattern) s ↔
      ∃ parts : List (List Code), parts.length = pattern.length ∧ parts.flatten = s ∧
        ∀ (i : Nat) (c : Code) (part : List Code), pattern[i]? = some c → parts[i]? = some part →
          (piece (i < left) c).Takes part := by
  induction pattern generalizing left s with
  | nil =>
    constructor
    · intro h
      exact ⟨[], rfl, h.symm, by simp⟩
    · intro h
      obtain ⟨parts, length, rfl, -⟩ := h
      rw [List.length_eq_zero_iff.mp length]
      rfl
  | cons c pattern ih =>
    -- The host part of what follows ends one character sooner.
    have shift (i : Nat) : decide (i < left - 1) = decide (i + 1 < left) := by
      simp only [decide_eq_decide]
      omega
    rw [piecesFrom, Made]
    constructor
    · intro h
      obtain ⟨part, rest, rfl, takes, made⟩ := h
      obtain ⟨parts, length, rfl, each⟩ := (ih (left - 1) rest).mp made
      refine ⟨part :: parts, by simp [length], rfl, ?_⟩
      intro i d other hd hother
      cases i with
      | zero =>
        obtain rfl := Option.some.inj hd
        obtain rfl := Option.some.inj hother
        exact takes
      | succ i =>
        rw [← shift]
        exact each i d other (by simpa using hd) (by simpa using hother)
    · intro h
      obtain ⟨parts, length, rfl, each⟩ := h
      cases parts with
      | nil => simp at length
      | cons part parts =>
        refine ⟨part, parts.flatten, rfl, each 0 c part rfl rfl, ?_⟩
        apply (ih (left - 1) _).mpr
        refine ⟨parts, by simpa using length, rfl, ?_⟩
        intro i d other hd hother
        rw [shift]
        exact each (i + 1) d other (by simpa using hd) (by simpa using hother)

theorem takes_piece_iff (pattern : List Code) (i : Nat) (c : Code) (part : List Code) :
    (piece (i < (hostEnd? pattern).getD 0) c).Takes part ↔
      (c ≠ '*' → part = [c]) ∧
        (c = '*' → ∀ bound, hostEnd? pattern = some bound → i < bound → ('/' : Code) ∉ part) := by
  by_cases star : c = '*'
  · cases bounded : hostEnd? pattern with
    | none => simp [piece, Source.star, star, Piece.Takes]
    | some bound =>
      by_cases inHost : i < bound <;> simp [piece, Source.star, star, inHost, Piece.Takes]
  · simp [piece, Source.star, star, Piece.Takes]

theorem made_pieces_iff_splits (pattern url : List Code) :
    Made (pieces pattern) url ↔ Splits pattern url := by
  simp only [pieces, made_piecesFrom_iff, takes_piece_iff, Splits]

/-! ## Rows -/

/-- A row of marks tells of each end part of a text whether it is made of pieces. -/
def Tells (ps : List Piece) : List Code → List Bool → Prop
  | [], bs => ∃ b, bs = [b] ∧ (b = true ↔ Made ps [])
  | c :: s, bs => ∃ b rest, bs = b :: rest ∧ (b = true ↔ Made ps (c :: s)) ∧ Tells ps s rest

theorem tells_emptyRow (s : List Code) : Tells [] s (emptyRow s) := by
  induction s with
  | nil => exact ⟨true, rfl, by simp [Made]⟩
  | cons c s ih => exact ⟨false, emptyRow s, rfl, by simp [Made], ih⟩

theorem headD_of_tells {ps : List Piece} {s : List Code} {bs : List Bool} (h : Tells ps s bs) :
    bs.headD false = true ↔ Made ps s := by
  cases s with
  | nil =>
    obtain ⟨b, rfl, hb⟩ := h
    exact hb
  | cons c s =>
    obtain ⟨b, rest, rfl, hb, -⟩ := h
    exact hb

theorem made_one_nil (d : Code) (ps : List Piece) : ¬Made (.one d :: ps) [] := by
  intro h
  obtain ⟨part, rest, empty, rfl, -⟩ := h
  simp at empty

theorem made_one_cons (d c : Code) (ps : List Piece) (s : List Code) :
    Made (.one d :: ps) (c :: s) ↔ c = d ∧ Made ps s := by
  constructor
  · intro h
    obtain ⟨part, rest, split, rfl, made⟩ := h
    obtain ⟨rfl, rfl⟩ : c = d ∧ s = rest := by simpa using split
    exact ⟨rfl, made⟩
  · intro h
    obtain ⟨rfl, made⟩ := h
    exact ⟨[c], s, rfl, rfl, made⟩

def Piece.IsRun : Piece → Prop
  | .one _ => False
  | .hostRun | .anyRun => True

theorem isRun_hostRun : Piece.IsRun .hostRun := trivial

theorem isRun_anyRun : Piece.IsRun .anyRun := trivial

/-- A character that a run may hold. -/
def Piece.May : Piece → Code → Prop
  | .hostRun, c => c ≠ ('/' : Code)
  | _, _ => True

theorem takes_nil {run : Piece} (h : run.IsRun) : run.Takes [] := by
  cases run with
  | one d => exact h.elim
  | hostRun => exact List.not_mem_nil
  | anyRun => trivial

theorem takes_cons {run : Piece} (h : run.IsRun) (c : Code) (part : List Code) :
    run.Takes (c :: part) ↔ run.May c ∧ run.Takes part := by
  cases run with
  | one d => exact h.elim
  | hostRun => simp [Piece.Takes, Piece.May, eq_comm]
  | anyRun => simp [Piece.Takes, Piece.May]

theorem made_run_cons {run : Piece} (h : run.IsRun) (c : Code) (ps : List Piece)
    (s : List Code) :
    Made (run :: ps) (c :: s) ↔ Made ps (c :: s) ∨ run.May c ∧ Made (run :: ps) s := by
  constructor
  · intro all
    obtain ⟨taken, rest, split, takes, made⟩ := all
    cases taken with
    | nil =>
      left
      rw [split]
      exact made
    | cons d part =>
      right
      obtain ⟨rfl, rfl⟩ : c = d ∧ s = part ++ rest := by simpa using split
      obtain ⟨may, takes⟩ := (takes_cons h c part).mp takes
      exact ⟨may, part, rest, rfl, takes, made⟩
  · intro either
    rcases either with made | ⟨may, part, rest, rfl, takes, made⟩
    · exact ⟨[], c :: s, rfl, takes_nil h, made⟩
    · have longer : run.Takes (c :: part) := (takes_cons h c part).mpr ⟨may, takes⟩
      exact ⟨c :: part, rest, rfl, longer, made⟩

theorem made_run_nil {run : Piece} (h : run.IsRun) (ps : List Piece) :
    Made (run :: ps) [] ↔ Made ps [] := by
  constructor
  · intro all
    obtain ⟨part, rest, empty, -, made⟩ := all
    obtain ⟨-, rfl⟩ : part = [] ∧ rest = [] := by simpa using empty
    exact made
  · intro made
    exact ⟨[], [], rfl, takes_nil h, made⟩

theorem tells_row {p : Piece} {ps : List Piece} {s : List Code} {bs : List Bool}
    (h : Tells ps s bs) : Tells (p :: ps) s (row p s bs) := by
  induction s generalizing bs with
  | nil =>
    obtain ⟨b, rfl, hb⟩ := h
    cases p with
    | one d => exact ⟨false, rfl, by simpa using made_one_nil d ps⟩
    | hostRun => exact ⟨b, rfl, hb.trans (made_run_nil isRun_hostRun ps).symm⟩
    | anyRun => exact ⟨b, rfl, hb.trans (made_run_nil isRun_anyRun ps).symm⟩
  | cons c s ih =>
    obtain ⟨b, rest, rfl, hb, tells⟩ := h
    refine ⟨_, row p s rest, rfl, ?_, ih tells⟩
    -- `b` is the mark of `ps` at `c :: s`; the next two are the marks at `s`, of `ps`
    -- alone and with `p` in front.
    have here := headD_of_tells tells
    have onward := headD_of_tells (ih tells)
    cases p with
    | one d =>
      rw [made_one_cons, ← here]
      simp
    | hostRun =>
      rw [made_run_cons isRun_hostRun, ← hb, ← onward]
      simp [Piece.May]
    | anyRun =>
      rw [made_run_cons isRun_anyRun, ← hb, ← onward]
      simp [Piece.May]

theorem tells_rows (ps : List Piece) (s : List Code) : Tells ps s (rows s ps) := by
  induction ps with
  | nil => exact tells_emptyRow s
  | cons p ps ih => exact tells_row ih

/-- A pattern matches the URLs that split along it. -/
theorem isMatch_iff_splits (pattern url : List Code) :
    isMatch pattern url = true ↔ Splits pattern url := by
  have tells : Tells (pieces pattern) url (rows url (pieces pattern)) :=
    tells_rows (pieces pattern) url
  rw [← made_pieces_iff_splits]
  exact headD_of_tells tells

/-- The star of a host stays within it. -/
example : isMatch ("h://*.b/*" : Points).toList ("h://x/a.b/c" : Points).toList = false := by decide

end Reroute.Glob
