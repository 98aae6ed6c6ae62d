import Mathlib
import Reroute.Json.Reader
import Reroute.Json.Writer

/-!
# Written whole numbers read back

A numeral ends where its digits end, so a number comes back from its digits when
what follows does not go on with it (`Ended`).
-/

namespace Reroute

namespace Text

/-! ## Digits -/

theorem isDigit_digitChar : ∀ d : Fin 10, (digitChar d).isDigit = true := by decide

theorem toNat_digitChar : ∀ d : Fin 10, (digitChar d).toNat - '0'.toNat = d.val := by decide

theorem digitsValue_decimal (n : Nat) : digitsValue 0 (decimal n) = n := by
  fun_induction decimal n with
  | case1 n h => simpa [digitsValue] using toNat_digitChar ⟨n, h⟩
  | case2 n h ih =>
    have last := toNat_digitChar ⟨n % 10, Nat.mod_lt _ (by decide)⟩
    simp only [digitsValue, List.foldl_append, List.foldl_cons, List.foldl_nil] at ih ⊢
    rw [ih, last]
    simp only
    omega

theorem isDigit_of_mem_decimal (n : Nat) : ∀ c ∈ decimal n, c.isDigit = true := by
  fun_induction decimal n with
  | case1 n h => simpa using isDigit_digitChar ⟨n, h⟩
  | case2 n h ih =>
    intro c hc
    rcases List.mem_append.mp hc with hc | hc
    · exact ih c hc
    · rw [List.mem_singleton.mp hc]
      exact isDigit_digitChar ⟨n % 10, Nat.mod_lt _ (by decide)⟩

theorem decimal_eq_digit_cons (n : Nat) : ∃ c s, decimal n = c :: s ∧ c.isDigit = true := by
  have digits := isDigit_of_mem_decimal n
  cases hd : decimal n with
  | nil =>
    rw [decimal] at hd
    split at hd <;> simp at hd
  | cons c s =>
    rw [hd] at digits
    exact ⟨c, s, rfl, digits c (by simp)⟩

/-- A number other than zero starts with a digit other than zero. -/
theorem decimal_eq_cons (n : Nat) (h : n ≠ 0) : ∃ c s, decimal n = c :: s ∧ c ≠ '0' := by
  fun_induction decimal n with
  | case1 n hn =>
    refine ⟨_, [], rfl, ?_⟩
    have : ∀ d : Fin 10, d.val ≠ 0 → digitChar d ≠ '0' := by decide
    exact this ⟨n, hn⟩ h
  | case2 n hn ih =>
    obtain ⟨c, s, hs, hc⟩ := ih (by omega)
    exact ⟨c, s ++ [digitChar (n % 10)], by rw [hs]; rfl, hc⟩

end Text

namespace Json

/-! ## Numbers -/

/-- A text that does not go on with a number that ends in front of it. -/
def Ended (rest : List Char) : Prop :=
  ∀ c ∈ rest.head?, c.isDigit = false ∧ c ≠ '.' ∧ c ≠ 'e' ∧ c ≠ 'E'

theorem span_append (ds rest : List Char) (hd : ∀ c ∈ ds, c.isDigit = true) (hr : Ended rest) :
    (ds ++ rest).span Char.isDigit = (ds, rest) := by
  have stop : rest.takeWhile Char.isDigit = [] ∧ rest.dropWhile Char.isDigit = rest := by
    cases rest with
    | nil => exact ⟨rfl, rfl⟩
    | cons c s => simp [(hr c rfl).1]
  rw [List.span_eq_takeWhile_dropWhile, List.takeWhile_append_of_pos hd,
    List.dropWhile_append_of_pos hd, stop.1, stop.2, List.append_nil]

theorem wholeDigits?_decimal (n : Nat) (rest : List Char) (hr : Ended rest) :
    wholeDigits? (Text.decimal n ++ rest) = some (Text.decimal n, rest) := by
  by_cases h : n = 0
  · subst h
    have zero : Text.decimal 0 = ['0'] := by rw [Text.decimal]; rfl
    rw [zero]
    rfl
  · obtain ⟨c, s, hs, hc⟩ := Text.decimal_eq_cons n h
    have digits := Text.isDigit_of_mem_decimal n
    rw [hs] at digits ⊢
    rw [List.cons_append, wholeDigits?]
    · rw [if_pos (digits c (by simp)), ← List.cons_append, span_append _ _ digits hr]
    · simp_all

theorem fraction?_ended (rest : List Char) (hr : Ended rest) : fraction? rest = none := by
  cases rest with
  | nil => rfl
  | cons c s =>
    have := hr c rfl
    rw [fraction?]
    simp_all

theorem exponent?_ended (rest : List Char) (hr : Ended rest) : exponent? rest = none := by
  cases rest with
  | nil => rfl
  | cons c s =>
    obtain ⟨_, _, he, hE⟩ := hr c rfl
    unfold exponent?
    split <;> simp_all

theorem numberAt_decimal (n : Nat) (rest : List Char) (hr : Ended rest)
    (hn : (Text.decimal n).length ≤ Text.maxDigits) :
    numberAt (Text.decimal n ++ rest) = .ok (.int n, rest) := by
  have plain : ∀ t, Text.decimal n ++ rest ≠ '-' :: t := by
    obtain ⟨c, s, hs, hc⟩ := Text.decimal_eq_digit_cons n
    -- The first character is a digit, so no sign is cut off.
    intro t ht
    rw [hs, List.cons_append, List.cons.injEq] at ht
    rw [ht.1] at hc
    simp at hc
  unfold numberAt
  split
  next negative body hbody =>
    split at hbody
    · next t ht => exact absurd ht (plain t)
    · obtain ⟨rfl, rfl⟩ := Prod.mk.inj hbody
      simp [wholeDigits?_decimal n rest hr, fraction?_ended rest hr, exponent?_ended rest hr,
        Nat.not_lt.mpr hn, Text.digitsValue_decimal]

theorem numberAt_minus_decimal (n : Nat) (rest : List Char) (hr : Ended rest)
    (hn : (Text.decimal n).length ≤ Text.maxDigits) :
    numberAt ('-' :: Text.decimal n ++ rest) = .ok (.int (-n), rest) := by
  unfold numberAt
  simp [wholeDigits?_decimal n rest hr, fraction?_ended rest hr, exponent?_ended rest hr,
    Nat.not_lt.mpr hn, Text.digitsValue_decimal]

theorem ne_of_isDigit {c d : Char} (hc : c.isDigit = true) (hd : d.isDigit = false) : c ≠ d := by
  intro same
  rw [same, hd] at hc
  contradiction

theorem words_digit (c : Char) (s : List Char) (hc : c.isDigit = true) :
    (words.findSome? fun w => (w.1.isPrefixOf? (c :: s)).map fun rest => (w.2, rest)) = none := by
  have : c ≠ 'n' ∧ c ≠ 't' ∧ c ≠ 'f' ∧ c ≠ 'N' ∧ c ≠ 'I' ∧ c ≠ '-' :=
    ⟨ne_of_isDigit hc rfl, ne_of_isDigit hc rfl, ne_of_isDigit hc rfl, ne_of_isDigit hc rfl,
      ne_of_isDigit hc rfl, ne_of_isDigit hc rfl⟩
  simp [words, List.isPrefixOf?, this, Ne.symm]

theorem words_minus (c : Char) (s : List Char) (hc : c.isDigit = true) :
    (words.findSome? fun w => (w.1.isPrefixOf? ('-' :: c :: s)).map fun rest => (w.2, rest)) =
      none := by
  have : 'I' ≠ c := Ne.symm (ne_of_isDigit hc rfl)
  simp [words, List.isPrefixOf?, this]

theorem atomAt_integer (i : Int) (rest : List Char) (hr : Ended rest)
    (hi : (Text.decimal i.natAbs).length ≤ Text.maxDigits) :
    atomAt (Text.integer i ++ rest) = .ok (.int i, rest) := by
  obtain ⟨c, s, hs, hc⟩ := Text.decimal_eq_digit_cons i.natAbs
  unfold Text.integer
  split
  · next neg =>
    have back : -(i.natAbs : Int) = i := by omega
    have noWord := words_minus c (s ++ rest) hc
    rw [← List.cons_append, ← hs] at noWord
    unfold atomAt
    rw [List.cons_append, noWord, ← List.cons_append, numberAt_minus_decimal _ rest hr hi, back]
  · next pos =>
    have back : (i.natAbs : Int) = i := by omega
    have noWord := words_digit c (s ++ rest) hc
    rw [← List.cons_append, ← hs] at noWord
    unfold atomAt
    rw [noWord, numberAt_decimal _ rest hr hi, back]

end Json

end Reroute
