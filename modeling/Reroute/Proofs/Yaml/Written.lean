import Reroute.Proofs.Json.Ascii
import Reroute.Proofs.Yaml.Entries

/-!
# Characters of a written rule list

What is written is visible ASCII, spaces and line feeds, whatever the texts of the rules
hold (`isWritten_of_mem`). So a reader accepts every character of it, and nothing of it
changes in a file.
-/

namespace Reroute.Yaml

def IsWritten (c : Char) : Prop := c = '\n' ∨ 0x20 ≤ c.toNat ∧ c.toNat ≤ 0x7E

instance (c : Char) : Decidable (IsWritten c) := inferInstanceAs (Decidable (_ ∨ _))

theorem IsWritten.isAllowed {c : Char} (h : IsWritten c) : isAllowed c = true := by
  rcases h with rfl | ⟨above, below⟩
  · decide
  · simp [Yaml.isAllowed, above, below]

theorem IsWritten.isPlain {c : Char} (h : IsWritten c) : IsPlain c := by
  rcases h with rfl | ⟨above, below⟩
  · decide
  · refine ⟨by omega, ?_⟩
    rintro rfl
    exact absurd above (by decide)

theorem isWritten_of_usual {c : Char} (usual : isSpecial c = false) : IsWritten c := by
  by_cases feed : c = '\n'
  · exact .inl feed
  · refine .inr ?_
    simpa [isSpecial, feed] using usual

/-! ## Texts -/

theorem isWritten_newLine : ∀ c ∈ newLine, IsWritten c := List.forall_iff_forall_mem.mp (by decide)

theorem isWritten_hexCapitals (width n : Nat) : ∀ c ∈ Text.hexCapitals width n, IsWritten c := by
  have digit : ∀ d : Fin 16, IsWritten (Text.digitChar d).toUpper := by decide
  induction width with
  | zero => simp [Text.hexCapitals, Text.hexDigits]
  | succ width ih =>
    rw [Text.hexCapitals_succ, List.forall_mem_cons]
    exact ⟨digit ⟨(n >>> (4 * width)) % 16, Nat.mod_lt _ (by decide)⟩, ih⟩

theorem isWritten_doubleEscape {n : Nat} {e : List Char} (h : doubleEscape? n = some e) :
    ∀ c ∈ e, IsWritten c := by
  unfold doubleEscape? at h
  split at h
  · next letter found =>
    obtain rfl := Option.some.inj h
    have written : IsWritten letter := by
      unfold escapeLetter? at found
      split at found <;> first | (obtain rfl := Option.some.inj found; decide) | simp at found
    simpa [written] using (by decide : IsWritten '\\')
  · split at h
    · simp at h
    · have digits (letter : Char) (width : Nat) (written : IsWritten letter) :
          ∀ c ∈ '\\' :: letter :: Text.hexCapitals width n, IsWritten c := by
        simp only [List.forall_mem_cons]
        exact ⟨by decide, written, isWritten_hexCapitals width n⟩
      split at h
      · obtain rfl := Option.some.inj h
        exact digits 'x' 2 (by decide)
      · split at h
        · obtain rfl := Option.some.inj h
          exact digits 'u' 4 (by decide)
        · obtain rfl := Option.some.inj h
          exact digits 'U' 8 (by decide)

theorem isWritten_writeDouble (codes : List Nat) (column : Nat) (word : List Char) (first : Bool)
    (written : ∀ c ∈ word, IsWritten c) :
    ∀ c ∈ writeDouble column word first codes, IsWritten c := by
  have backslash : IsWritten '\\' := by decide
  have mark (marked : Prop) [Decidable marked] :
      ∀ c ∈ if marked then ['\\'] else [], IsWritten c := by
    split
    · rwa [List.forall_mem_singleton]
    · simp
  induction codes generalizing column word first with
  | nil => exact written
  | cons n s ih =>
    rw [writeDouble]
    dsimp only
    cases escaped : doubleEscape? n with
    | some e =>
      have escape := isWritten_doubleEscape escaped
      have rest (column : Nat) := ih column [] false (by simp)
      dsimp only
      split
      · simp only [List.append_assoc, List.cons_append, List.forall_mem_append,
          List.forall_mem_cons]
        exact ⟨written, escape, backslash, isWritten_newLine, mark _, rest _⟩
      · simp only [List.append_assoc, List.forall_mem_append]
        exact ⟨written, escape, rest _⟩
    | none =>
      have here : IsWritten (Char.ofNat n) := by
        by_cases space : Char.ofNat n = ' '
        · rw [space]
          decide
        · obtain ⟨seen, -⟩ := (letter_of_noEscape escaped).2 space
          exact .inr ⟨seen.above.le, seen.below⟩
      dsimp only
      split
      · simp only [List.append_assoc, List.cons_append, List.forall_mem_append,
          List.forall_mem_cons]
        exact ⟨written, backslash, isWritten_newLine, mark _,
          ih _ _ _ (by simpa using here)⟩
      · refine ih _ _ _ ?_
        simp only [List.forall_mem_append, List.forall_mem_cons]
        exact ⟨written, here, by simp⟩

theorem isWritten_writeRuns {doubled : Char → List Char}
    (keeps : ∀ c, IsWritten c → ∀ d ∈ doubled c, IsWritten d) (runs : List (List Char))
    (written : ∀ run ∈ runs, ∀ c ∈ run, IsWritten c) (column : Nat) (first : Bool) :
    ∀ c ∈ writeRuns doubled column first runs, IsWritten c := by
  have spaces : ∀ c ∈ List.replicate laterColumn ' ', IsWritten c := by
    intro c hc
    rw [List.eq_of_mem_replicate hc]
    decide
  induction runs generalizing column first with
  | nil => simp [writeRuns]
  | cons run rest ih =>
    rw [List.forall_mem_cons] at written
    have later (column : Nat) (first : Bool) := ih written.2 column first
    cases run with
    | nil => exact later column first
    | cons c run =>
      rw [writeRuns]
      dsimp only
      split
      · rw [List.forall_mem_append]
        exact ⟨isWritten_newLine, later _ _⟩
      · split
        · simp only [List.cons_append, List.append_assoc, List.forall_mem_cons,
            List.forall_mem_append]
          exact ⟨by decide, (List.forall_mem_cons.mp written.1).1,
            (List.forall_mem_cons.mp written.1).2, spaces, later _ _⟩
        · rw [List.forall_mem_append]
          refine ⟨fun d hd => ?_, later _ _⟩
          obtain ⟨e, he, hd⟩ := List.mem_flatMap.mp hd
          exact keeps e (written.1 e he) d hd

theorem isWritten_writeText (column : Nat) (text : String) :
    ∀ c ∈ writeText column text, IsWritten c := by
  have runs_usual (usual : ∀ c ∈ text.toList, isSpecial c = false) :
      ∀ run ∈ runs text.toList, ∀ c ∈ run, IsWritten c :=
    fun run hrun c hc => isWritten_of_usual (usual c (mem_of_mem_runs hrun hc))
  have space : IsWritten ' ' := by decide
  unfold writeText
  rw [Points.toString_ofString, Points.chars_ofString]
  rcases styleOf_cases text with style | ⟨style, usual, -⟩ | ⟨style, bare, -⟩
  · rw [style]
    simp only [List.cons_append, List.forall_mem_cons, List.forall_mem_append]
    exact ⟨space, by decide, isWritten_writeDouble _ _ [] _ (by simp), by decide, by simp⟩
  · rw [style]
    simp only [List.cons_append, List.forall_mem_cons, List.forall_mem_append]
    refine ⟨space, by decide, isWritten_writeRuns ?_ _ (runs_usual usual) _ _, by decide, by simp⟩
    intro c hc d hd
    split at hd <;> simp_all
  · rw [style]
    simp only [List.forall_mem_cons]
    refine ⟨space, isWritten_writeRuns ?_ _ (runs_usual bare.usual) _ _⟩
    simp

/-! ## Rule lists -/

theorem isWritten_writtenRule (texts : String × String) :
    ∀ c ∈ writtenRule texts, IsWritten c := by
  have front : ∀ c ∈ "- from:".toList, IsWritten c := List.forall_iff_forall_mem.mp (by decide)
  have back : ∀ c ∈ "  to:".toList, IsWritten c := List.forall_iff_forall_mem.mp (by decide)
  have feed : ∀ c ∈ ['\n'], IsWritten c := by
    rw [List.forall_mem_singleton]
    decide
  simp only [writtenRule, writeEntry, List.forall_mem_append]
  exact ⟨⟨⟨front, isWritten_writeText _ _⟩, feed⟩, ⟨back, isWritten_writeText _ _⟩, feed⟩

theorem isWritten_of_mem (rules : List (String × String)) :
    ∀ c ∈ rules.flatMap writtenRule, IsWritten c := by
  intro c hc
  obtain ⟨texts, -, hc⟩ := List.mem_flatMap.mp hc
  exact isWritten_writtenRule texts c hc

theorem length_writtenRules (rules : List (String × String)) :
    7 * rules.length ≤ (rules.flatMap writtenRule).length := by
  induction rules with
  | nil => simp
  | cons texts rules ih =>
    have front : "- from:".toList.length = 7 := by decide
    rw [List.flatMap_cons, List.length_append, List.length_cons]
    have here : 7 ≤ (writtenRule texts).length := by
      simp only [writtenRule, writeEntry, List.length_append, front]
      omega
    omega

/-- The text of a rule list that is not empty is scanned to the tokens of that list. -/
theorem scan_written {rules : List (String × String)} (filled : rules ≠ []) :
    scan (rules.flatMap writtenRule) = (listTokens rules, none) := by
  have allowed : (rules.flatMap writtenRule).all isAllowed = true :=
    List.all_eq_true.mpr fun c hc => (isWritten_of_mem rules c hc).isAllowed
  obtain ⟨more, rounds⟩ := Nat.exists_eq_add_of_le (length_writtenRules rules)
  have rounds' : (rules.flatMap writtenRule).length + 2 = (more + 1) + 1 + 7 * rules.length := by
    omega
  rw [scan, if_pos allowed, rounds']
  obtain ⟨texts, rules, rfl⟩ := List.exists_cons_of_ne_nil filled
  exact run_written texts rules (more + 1)

end Reroute.Yaml
