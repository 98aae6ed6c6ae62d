import Reroute.Proofs.Json.Strings
import Reroute.Proofs.Yaml.Quoted
import Reroute.Proofs.Yaml.Runs

/-!
# Texts in quotes

A text that is written in quotes is read back, wherever its lines are broken
(`reads_writeRuns` for single quotes, `reads_writeDouble` for double ones). The columns
decide where a line is broken and nothing else, so the proofs follow the writers run by
run and code point by code point, for every column.
-/

namespace Reroute

namespace Text

/-! ## Hexadecimal numbers -/

theorem hexValue?_toUpper_digitChar :
    ∀ d : Fin 16, hexValue? (digitChar d).toUpper = some d.val := by decide

theorem hexCapitals_succ (width n : Nat) : hexCapitals (width + 1) n =
    (digitChar ((n >>> (4 * width)) % 16)).toUpper :: hexCapitals width n := by
  simp [hexCapitals, hexDigits, List.range_succ]

theorem length_hexCapitals (width n : Nat) : (hexCapitals width n).length = width := by
  simp [hexCapitals, hexDigits]

theorem hexNumber?_hexCapitals (width acc n : Nat) :
    hexNumber? acc (hexCapitals width n) = some (16 ^ width * acc + n % 16 ^ width) := by
  induction width generalizing acc with
  | zero => simp [hexCapitals, hexDigits, hexNumber?, Nat.mod_one]
  | succ width ih =>
    have digit := hexValue?_toUpper_digitChar
      ⟨(n >>> (4 * width)) % 16, Nat.mod_lt _ (by decide)⟩
    rw [hexCapitals_succ, hexNumber?, digit, Option.bind_some, ih, Nat.shiftRight_eq_div_pow,
      Nat.pow_mul, Nat.mod_pow_succ]
    congr 1
    ring

end Text

namespace Yaml

variable {after : List Char}

/-! ## Single quotes -/

def twice (c : Char) : List Char := if c = '\'' then [c, c] else [c]

theorem isSeen_of_inside {c : Char} (usual : isSpecial c = false) (inside : c ≠ ' ' ∧ c ≠ '\n') :
    IsSeen c := by
  have space : c.toNat ≠ 0x20 := by
    intro code
    exact inside.1 (Char.toNat_inj.mp code)
  simp only [isSpecial, inside.2, ne_eq, not_false_eq_true, decide_true, Bool.true_and,
    Bool.not_eq_false', Bool.and_eq_true, decide_eq_true_eq] at usual
  exact ⟨by omega, usual.2⟩

theorem solid_twice {c : Char} (seen : IsSeen c) (s : List Char) : Solid (twice c ++ s) := by
  unfold twice
  split <;> exact solid_cons seen _

theorem reads_twice {c : Char} {s : List Char} {codes : List Nat} (seen : IsSeen c)
    (h : Reads false s codes after) : Reads false (twice c ++ s) (c.toNat :: codes) after := by
  unfold twice
  split
  · next quote =>
    rw [quote]
    exact reads_twoQuotes h
  · next other => exact reads_letter ⟨seen, other⟩ h

theorem reads_word {word s : List Char} {codes : List Nat} (seen : ∀ c ∈ word, IsSeen c)
    (h : Reads false s codes after) :
    Reads false (word.flatMap twice ++ s) (word.map Char.toNat ++ codes) after := by
  induction word with
  | nil => exact h
  | cons c word ih =>
    rw [List.forall_mem_cons] at seen
    rw [List.flatMap_cons, List.append_assoc, List.map_cons, List.cons_append]
    exact reads_twice seen.1 (ih seen.2)

theorem reads_spaces {double : Bool} {s : List Char} {codes : List Nat} (solid : Solid s) (n : Nat)
    (h : Reads double s codes after) :
    Reads double (List.replicate n ' ' ++ s)
      ((List.replicate n ' ').map Char.toNat ++ codes) after := by
  induction n with
  | zero => exact h
  | succ n ih =>
    have unbroken : Unbroken (List.replicate n ' ' ++ s) := by
      rw [Unbroken, solid.dropWhile_blanks]
      exact solid
    exact reads_space unbroken ih

theorem flatMap_twice_spaces (n : Nat) :
    (List.replicate n ' ').flatMap twice = List.replicate n ' ' := by
  induction n with
  | zero => rfl
  | succ n ih =>
    rw [List.replicate_succ, List.flatMap_cons, ih]
    rfl

theorem reads_writeRuns {f : Front} {runs : List (List Char)} (turns : TakeTurns f runs)
    (usual : ∀ run ∈ runs, ∀ c ∈ run, isSpecial c = false) (alone : after.head? ≠ some '\'')
    (column : Nat) (first : Bool) :
    Reads false (writeRuns twice column first runs ++ '\'' :: after)
        (runs.flatten.map Char.toNat) after ∧
      (f = .gap → Solid (writeRuns twice column first runs ++ '\'' :: after)) := by
  induction turns generalizing column first with
  | nil f => exact ⟨reads_closingSingle alone, fun _ => solid_cons ⟨by decide, by decide⟩ _⟩
  | @word f run rest turn filled inside others ih =>
    rw [List.forall_mem_cons] at usual
    obtain ⟨c, s, rfl⟩ := List.exists_cons_of_ne_nil filled
    have seen : ∀ d ∈ c :: s, IsSeen d := fun d hd => isSeen_of_inside (usual.1 d hd) (inside d hd)
    have here := inside c List.mem_cons_self
    have written : writeRuns twice column first ((c :: s) :: rest) = (c :: s).flatMap twice ++
        writeRuns twice (column + ((c :: s).flatMap twice).length) false rest := by
      rw [writeRuns]
      simp [here]
    obtain ⟨read, -⟩ := ih usual.2 (column + ((c :: s).flatMap twice).length) false
    rw [written, List.append_assoc, List.flatten_cons, List.map_append]
    refine ⟨reads_word seen read, fun _ => ?_⟩
    rw [List.flatMap_cons, List.append_assoc]
    exact solid_twice (seen c List.mem_cons_self) _
  | @spaces f rest n turn others ih =>
    rw [List.forall_mem_cons] at usual
    rw [List.flatten_cons, List.map_append]
    refine ⟨?_, fun gap => absurd gap turn⟩
    rw [List.replicate_succ, writeRuns, ← List.replicate_succ]
    dsimp only
    split
    · next folds =>
      -- A space alone becomes a line break.
      simp only [Bool.and_eq_true, decide_eq_true_eq] at folds
      have lone : List.replicate (n + 1) ' ' = [' '] := folds.1.1.1
      obtain ⟨read, solid⟩ := ih usual.2 laterColumn false
      rw [lone, List.append_assoc]
      exact reads_feeds (n := 0) (solid rfl) read
    · rw [if_neg (by decide), flatMap_twice_spaces, List.append_assoc]
      obtain ⟨read, solid⟩ :=
        ih usual.2 (column + (List.replicate (n + 1) ' ').length) false
      exact reads_spaces (solid rfl) _ read
  | @feeds f rest n turn others ih =>
    rw [List.forall_mem_cons] at usual
    rw [List.flatten_cons, List.map_append]
    refine ⟨?_, fun gap => absurd gap turn⟩
    obtain ⟨read, solid⟩ := ih usual.2 laterColumn false
    have written : writeRuns twice column first (List.replicate (n + 1) '\n' :: rest) =
        '\n' :: (List.replicate (n + 1) '\n' ++ (List.replicate laterColumn ' ' ++
          writeRuns twice laterColumn false rest)) := by
      rw [List.replicate_succ, writeRuns]
      simp
    rw [written, List.cons_append, List.append_assoc, List.append_assoc]
    exact reads_feeds (n := n + 1) (solid rfl) read

/-! ## Double quotes -/

theorem escapedChar?_of_escapeLetter? {n : Nat} {letter : Char}
    (h : escapeLetter? n = some letter) :
    isBreak letter = false ∧ escapedChar? letter = some n := by
  unfold escapeLetter? at h
  split at h <;> first | (obtain rfl := Option.some.inj h; decide) | simp at h

theorem reads_markedSpace {s : List Char} {codes : List Nat} (h : Reads true s codes after) :
    Reads true ('\\' :: ' ' :: s) (' '.toNat :: codes) after :=
  reads_escapeLetter rfl rfl h

theorem reads_doubleEscape {n : Nat} {e s : List Char} {codes : List Nat}
    (small : n < Text.codeLimit) (escaped : doubleEscape? n = some e)
    (h : Reads true s codes after) :
    Reads true (e ++ s) (n :: codes) after := by
  have digits (width : Nat) (fits : n < 16 ^ width) :
      Text.hexNumber? 0 (Text.hexCapitals width n) = some n := by
    rw [Text.hexNumber?_hexCapitals, Nat.mod_eq_of_lt fits, Nat.mul_zero, Nat.zero_add]
  have low : n ≤ 0x10FFFF := Nat.le_of_lt_succ small
  unfold doubleEscape? at escaped
  split at escaped
  · next letter found =>
    obtain rfl := Option.some.inj escaped
    obtain ⟨flat, known⟩ := escapedChar?_of_escapeLetter? found
    exact reads_escapeLetter flat known h
  · split at escaped
    · simp at escaped
    · split at escaped
      · next two =>
        obtain rfl := Option.some.inj escaped
        exact reads_escapeDigits (by decide) (by decide) rfl (Text.length_hexCapitals 2 n)
          (digits 2 two) low h
      · split at escaped
        · next four =>
          obtain rfl := Option.some.inj escaped
          exact reads_escapeDigits (by decide) (by decide) rfl (Text.length_hexCapitals 4 n)
            (digits 4 four) low h
        · obtain rfl := Option.some.inj escaped
          exact reads_escapeDigits (by decide) (by decide) rfl (Text.length_hexCapitals 8 n)
            (digits 8 (by omega)) low h

theorem solid_doubleEscape {n : Nat} {e : List Char} (escaped : doubleEscape? n = some e)
    (s : List Char) : Solid (e ++ s) := by
  have backslash : ∃ t, e = '\\' :: t := by
    unfold doubleEscape? at escaped
    split at escaped
    · exact ⟨_, (Option.some.inj escaped).symm⟩
    · split at escaped
      · simp at escaped
      · split at escaped
        · exact ⟨_, (Option.some.inj escaped).symm⟩
        · split at escaped <;> exact ⟨_, (Option.some.inj escaped).symm⟩
  obtain ⟨t, rfl⟩ := backslash
  exact solid_cons ⟨by decide, by decide⟩ _

/-- A code point without an escape is a space, or a letter that stands for itself. -/
theorem letter_of_noEscape {n : Nat} (bare : doubleEscape? n = none) :
    (Char.ofNat n).toNat = n ∧ (Char.ofNat n ≠ ' ' → IsLetter true (Char.ofNat n)) := by
  unfold doubleEscape? at bare
  split at bare
  · simp at bare
  · next noLetter =>
    split at bare
    · next range =>
      simp only [Bool.and_eq_true, decide_eq_true_eq] at range
      have code : (Char.ofNat n).toNat = n := by
        rw [Char.toNat_ofNat, if_pos (.inl (by omega))]
      have other {letter : Char} (escaped : (escapeLetter? letter.toNat).isSome = true) :
          Char.ofNat n ≠ letter := by
        rintro rfl
        simp [code, noLetter] at escaped
      refine ⟨code, fun noSpace => ⟨⟨?_, by omega⟩, other rfl, other rfl⟩⟩
      have differs : n ≠ 0x20 := by
        rintro rfl
        exact noSpace rfl
      omega
    · split at bare
      · simp at bare
      · split at bare <;> simp at bare

/-- What stands behind the letters that wait to be written. -/
structure Tail (codes : List Nat) (after tail : List Char) (unfolded : Prop) : Prop where
  reads : Reads true (tail ++ '"' :: after) codes after
  unbroken : Unbroken (tail ++ '"' :: after)
  solid : codes.head? ≠ some 0x20 → Solid (tail ++ '"' :: after)
  /-- A space at the front stands there unless the line is folded. -/
  spaced : ∀ s, codes = 0x20 :: s → unfolded →
    ∃ t, tail = ' ' :: t ∧ Reads true (t ++ '"' :: after) s after

namespace Tail

variable {codes : List Nat} {t : List Char} {unfolded : Prop}

theorem closing (after : List Char) (unfolded : Prop) : Tail [] after [] unfolded := by
  have quote : Solid ('"' :: after) := solid_cons ⟨by decide, by decide⟩ _
  exact ⟨reads_closingDouble after, quote.unbroken, fun _ => quote, by simp⟩

theorem escape {n : Nat} {e : List Char} (small : n < Text.codeLimit)
    (escaped : doubleEscape? n = some e) (rest : Reads true (t ++ '"' :: after) codes after) :
    Tail (n :: codes) after (e ++ t) unfolded := by
  have noSpace : n ≠ 0x20 := by
    rintro rfl
    exact absurd escaped (by simp [doubleEscape?, escapeLetter?])
  have solid : Solid (e ++ t ++ '"' :: after) := by
    rw [List.append_assoc]
    exact solid_doubleEscape escaped _
  refine ⟨?_, solid.unbroken, fun _ => solid, fun _ same => ?_⟩
  · rw [List.append_assoc]
    exact reads_doubleEscape small escaped rest
  · exact absurd (List.cons.inj same).1 noSpace

/-- In front of a line break there is nothing but its backslash. -/
theorem fold (solid : Solid (t ++ '"' :: after)) (rest : Reads true (t ++ '"' :: after) codes after)
    (late : ¬unfolded) : Tail codes after ('\\' :: (newLine ++ t)) unfolded := by
  have backslash : Solid ('\\' :: (newLine ++ t) ++ '"' :: after) :=
    solid_cons ⟨by decide, by decide⟩ _
  refine ⟨?_, backslash.unbroken, fun _ => backslash, fun _ _ early => absurd early late⟩
  rw [List.cons_append, List.append_assoc]
  exact reads_escapeNewLine solid rest

theorem letter {c : Char} {early : Prop} (rest : Tail codes after t early)
    (letter : c ≠ ' ' → IsLetter true c) : Tail (c.toNat :: codes) after (c :: t) unfolded := by
  by_cases space : c = ' '
  · obtain rfl := space
    refine ⟨reads_space rest.unbroken rest.reads, rest.unbroken.space, fun other => ?_,
      fun others same _ => ⟨t, rfl, ?_⟩⟩
    · exact absurd rfl other
    · obtain rfl := (List.cons.inj same).2
      exact rest.reads
  · have solid : Solid (c :: (t ++ '"' :: after)) := solid_cons (letter space).1 _
    refine ⟨reads_letter (letter space) rest.reads, solid.unbroken, fun _ => solid,
      fun others same _ => ?_⟩
    exact absurd (Char.toNat_inj.mp (List.cons.inj same).1) space

end Tail

theorem reads_writeDouble (after : List Char) {codes : List Nat}
    (bounded : ∀ n ∈ codes, n < Text.codeLimit) (column : Nat) (word : List Char) (first : Bool) :
    ∃ tail, writeDouble column word first codes = word ++ tail ∧
      Tail codes after tail (column + word.length ≤ width) := by
  -- A backslash in front of a space, at the start of a line.
  have marked (t : List Char) : Solid ('\\' :: ' ' :: t) := solid_cons ⟨by decide, by decide⟩ _
  induction codes generalizing column word first with
  | nil => exact ⟨[], (List.append_nil word).symm, Tail.closing after _⟩
  | cons n s ih =>
    rw [List.forall_mem_cons] at bounded
    rw [writeDouble]
    dsimp only
    cases escaped : doubleEscape? n with
    | some e =>
      dsimp only
      split
      · split
        · next space =>
          obtain ⟨others, rfl⟩ : ∃ others, s = 0x20 :: others := by
            cases s with
            | nil => simp at space
            | cons m others => exact ⟨others, by simpa using space⟩
          obtain ⟨tail, written, rest⟩ := ih bounded.2 (laterColumn + ['\\'].length) [] false
          obtain ⟨t, rfl, reads⟩ := rest.spaced others rfl (by decide)
          have reads' := reads_escapeNewLine (marked _) (reads_markedSpace reads)
          refine ⟨e ++ ('\\' :: (newLine ++ ('\\' :: ' ' :: t))), by rw [written]; simp, ?_⟩
          exact Tail.escape bounded.1 escaped (by simpa using reads')
        · next other =>
          obtain ⟨tail, written, rest⟩ := ih bounded.2 (laterColumn + 0) [] false
          have reads' := reads_escapeNewLine (rest.solid other) rest.reads
          refine ⟨e ++ ('\\' :: (newLine ++ tail)), by rw [List.length_nil, written]; simp, ?_⟩
          exact Tail.escape bounded.1 escaped (by simpa using reads')
      · obtain ⟨tail, written, rest⟩ := ih bounded.2 (column + word.length + e.length) [] false
        exact ⟨e ++ tail, by rw [written]; simp, Tail.escape bounded.1 escaped rest.reads⟩
    | none =>
      obtain ⟨code, letter⟩ := letter_of_noEscape escaped
      generalize Char.ofNat n = c at code letter ⊢
      obtain rfl := code
      dsimp only
      split
      · next folds =>
        simp only [Bool.and_eq_true, decide_eq_true_eq] at folds
        have late : ¬column + word.length ≤ width := by omega
        split
        · next space =>
          obtain rfl := space
          obtain ⟨tail, written, rest⟩ := ih bounded.2 (laterColumn + ['\\'].length) [' '] false
          refine ⟨'\\' :: (newLine ++ ('\\' :: ' ' :: tail)), by rw [written]; simp, ?_⟩
          exact Tail.fold (marked _) (reads_markedSpace rest.reads) late
        · next other =>
          obtain ⟨tail, written, rest⟩ := ih bounded.2 (laterColumn + 0) [c] false
          refine ⟨'\\' :: (newLine ++ (c :: tail)), by rw [List.length_nil, written]; simp, ?_⟩
          exact Tail.fold (solid_cons (letter other).1 _) (reads_letter (letter other) rest.reads)
            late
      · obtain ⟨tail, written, rest⟩ := ih bounded.2 column (word ++ [c]) false
        exact ⟨c :: tail, by rw [written]; simp, rest.letter letter⟩

end Yaml

end Reroute
