import Reroute.Proofs.Yaml.Cursor
import Reroute.Yaml.Writer

/-!
# Words and gaps

A text is written run by run. Unless it has to be escaped, no space stands next to a line
break in it, so that words and gaps take turns (`takeTurns_runs`), where a gap is all of
spaces or all of line breaks.
-/

namespace Reroute.Yaml

inductive Front where
  | start
  | word
  | gap
  deriving DecidableEq

/-- Words and gaps take turns. -/
inductive TakeTurns : Front → List (List Char) → Prop
  | nil (f : Front) : TakeTurns f []
  | word {f : Front} {run : List Char} {rest : List (List Char)} (turn : f ≠ .word)
      (filled : run ≠ []) (inside : ∀ c ∈ run, c ≠ ' ' ∧ c ≠ '\n') (others : TakeTurns .word rest) :
      TakeTurns f (run :: rest)
  | spaces {f : Front} {rest : List (List Char)} (n : Nat) (turn : f ≠ .gap)
      (others : TakeTurns .gap rest) : TakeTurns f (List.replicate (n + 1) ' ' :: rest)
  | feeds {f : Front} {rest : List (List Char)} (n : Nat) (turn : f ≠ .gap)
      (others : TakeTurns .gap rest) : TakeTurns f (List.replicate (n + 1) '\n' :: rest)

/-! ## Runs of a text -/

def IsInWord (c : Char) : Prop := runKind c = 2

theorem isInWord_iff (c : Char) : IsInWord c ↔ c ≠ ' ' ∧ c ≠ '\n' := by
  unfold IsInWord runKind
  split
  · simp [*]
  · split <;> simp [*]

theorem runKind_eq_zero {c : Char} (h : runKind c = 0) : c = ' ' := by
  unfold runKind at h
  split at h
  · assumption
  · split at h <;> simp at h

theorem runKind_eq_one {c : Char} (h : runKind c = 1) : c = '\n' := by
  unfold runKind at h
  split at h
  · simp at h
  · split at h
    · assumption
    · simp at h

theorem runKind_lt (c : Char) : runKind c < 3 := by
  unfold runKind
  split
  · decide
  · split <;> decide

/-- One of two characters is in a word and the other in a gap. -/
def Turn (x y : Char) : Prop := IsInWord x ↔ ¬IsInWord y

/-- What stands in front fits the first character behind it. -/
def Front.Fits : Front → Char → Prop
  | .start, _ => True
  | .word, c => ¬IsInWord c
  | .gap, c => IsInWord c

theorem kind_of_run {c : Char} {s : List Char}
    (chain : List.IsChain (fun a b => decide (runKind a = runKind b) = true) (c :: s)) :
    ∀ d ∈ c :: s, runKind d = runKind c := by
  have trans : Trans (fun a b : Char => decide (runKind a = runKind b) = true)
      (fun a b => decide (runKind a = runKind b) = true)
      (fun a b => decide (runKind a = runKind b) = true) := ⟨fun h h' => by simp_all⟩
  have pairs := List.isChain_iff_pairwise.mp chain
  rw [List.forall_mem_cons]
  refine ⟨rfl, fun d hd => ?_⟩
  simpa [eq_comm] using List.rel_of_pairwise_cons pairs hd

theorem takeTurns_of_chain {f : Front} {runs : List (List Char)} (filled : [] ∉ runs)
    (alike : ∀ run ∈ runs, run.IsChain fun a b => decide (runKind a = runKind b) = true)
    (turns : runs.IsChain fun a b => ∀ x ∈ a.getLast?, ∀ y ∈ b.head?, Turn x y)
    (fits : ∀ run ∈ runs.head?, ∀ c ∈ run.head?, f.Fits c) : TakeTurns f runs := by
  induction runs generalizing f with
  | nil => exact .nil f
  | cons run rest ih =>
    rw [List.mem_cons, not_or] at filled
    rw [List.forall_mem_cons] at alike
    rw [List.isChain_cons] at turns
    obtain ⟨c, s, rfl⟩ := List.exists_cons_of_ne_nil (Ne.symm filled.1)
    have kinds := kind_of_run alike.1
    have fit : f.Fits c := fits _ rfl c rfl
    -- What follows fits the last character of the run, which is of the kind of the first.
    have onward (g : Front) (like : ∀ x, runKind x = runKind c → ∀ y, Turn x y → g.Fits y) :
        TakeTurns g rest := by
      refine ih filled.2 alike.2 turns.2 fun next hn y hy => ?_
      have last : (c :: s).getLast (List.cons_ne_nil c s) ∈ (c :: s).getLast? :=
        List.getLast?_eq_some_getLast _
      exact like _ (kinds _ (List.getLast_mem _)) y (turns.1 next hn _ last y hy)
    have replicate (ch : Char) (same : ∀ d ∈ c :: s, d = ch) :
        c :: s = List.replicate (s.length + 1) ch := List.eq_replicate_iff.mpr ⟨rfl, same⟩
    have kind := runKind_lt c
    interval_cases hc : runKind c
    · rw [replicate ' ' fun d hd => runKind_eq_zero (kinds d hd)]
      refine .spaces _ ?_ (onward .gap fun x hx y turn => ?_)
      · rintro rfl
        exact absurd (hc.symm.trans fit) (by decide)
      · by_contra other
        exact absurd (hx.symm.trans (turn.mpr other)) (by decide)
    · rw [replicate '\n' fun d hd => runKind_eq_one (kinds d hd)]
      refine .feeds _ ?_ (onward .gap fun x hx y turn => ?_)
      · rintro rfl
        exact absurd (hc.symm.trans fit) (by decide)
      · by_contra other
        exact absurd (hx.symm.trans (turn.mpr other)) (by decide)
    · refine .word ?_ (List.cons_ne_nil c s) (fun d hd => (isInWord_iff d).mp (kinds d hd))
        (onward .word fun x hx y turn => turn.mp hx)
      rintro rfl
      exact fit hc

theorem chain_of_hasPair {a b : Char} {s : List Char} (h : hasPair a b s = false) :
    s.IsChain fun x y => ¬(x = a ∧ y = b) := by
  induction s with
  | nil => exact .nil
  | cons c s ih =>
    cases s with
    | nil => exact .singleton c
    | cons d s =>
      simp only [hasPair, Bool.or_eq_false_iff, Bool.and_eq_false_imp, decide_eq_true_eq,
        decide_eq_false_iff_not] at h
      exact .cons_cons (fun ⟨hc, hd⟩ => h.1 hc hd) (ih h.2)

theorem flatten_runs (s : List Char) : (runs s).flatten = s := List.flatten_splitBy _ s

theorem mem_of_mem_runs {s run : List Char} (h : run ∈ runs s) {c : Char} (hc : c ∈ run) :
    c ∈ s := by
  rw [← flatten_runs s]
  exact List.mem_flatten_of_mem h hc

/-- Neighbours of different kinds that are no space next to a line break. -/
theorem turn_of_differ {x y : Char} (differ : runKind x ≠ runKind y)
    (before : ¬(x = ' ' ∧ y = '\n')) (behind : ¬(x = '\n' ∧ y = ' ')) : Turn x y := by
  have hx := runKind_lt x
  have hy := runKind_lt y
  unfold Turn IsInWord
  by_contra even
  obtain ⟨zero, one⟩ | ⟨one, zero⟩ :
      (runKind x = 0 ∧ runKind y = 1) ∨ (runKind x = 1 ∧ runKind y = 0) := by omega
  · exact before ⟨runKind_eq_zero zero, runKind_eq_one one⟩
  · exact behind ⟨runKind_eq_one one, runKind_eq_zero zero⟩

/-- In a text without a space next to a line break words and gaps take turns. -/
theorem takeTurns_runs {s : List Char} (before : hasPair ' ' '\n' s = false)
    (behind : hasPair '\n' ' ' s = false) : TakeTurns .start (runs s) := by
  have filled : [] ∉ runs s := List.nil_notMem_splitBy _ _
  have noSpace := chain_of_hasPair before
  have noFeed := chain_of_hasPair behind
  rw [← flatten_runs s, List.isChain_flatten filled] at noSpace noFeed
  refine takeTurns_of_chain filled (fun run => List.isChain_of_mem_splitBy) ?_
    fun _ _ _ _ => trivial
  have other : (runs s).IsChain fun a b => ∃ (ha : a ≠ []) (hb : b ≠ []),
      decide (runKind (a.getLast ha) = runKind (b.head hb)) = false :=
    List.isChain_getLast_head_splitBy (fun a b => decide (runKind a = runKind b)) s
  have spaces := noSpace.2
  have feeds := noFeed.2
  rw [List.isChain_iff_getElem] at other spaces feeds ⊢
  intro i inside x hx y hy
  obtain ⟨ha, hb, differ⟩ := other i inside
  refine turn_of_differ ?_ (spaces i inside x hx y hy) (feeds i inside x hx y hy)
  rw [List.getLast?_eq_some_getLast ha] at hx
  rw [List.head?_eq_some_head hb] at hy
  obtain rfl := Option.some.inj hx
  obtain rfl := Option.some.inj hy
  exact of_decide_eq_false differ

end Reroute.Yaml
