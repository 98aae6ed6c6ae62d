import Reroute.Json.Reader
import Reroute.Json.Writer
import Reroute.Proofs.Text.Points

/-!
# Written strings read back

A string is written code point by code point, and read unit by unit: a code point
above U+FFFF goes out as two units, which the reader joins again. `stringTail_string`
says that every text comes back that holds no pair in two halves; `joined_of_stringTail`
says that no text that was read holds one.
-/

namespace Reroute

namespace Text

/-! ## Units -/

theorem hexValue?_digitChar : ∀ d : Fin 16, hexValue? (digitChar d) = some d.val := by decide

theorem hexDigits_four (n : Nat) :
    hexDigits 4 n = [digitChar ((n >>> 12) % 16), digitChar ((n >>> 8) % 16),
      digitChar ((n >>> 4) % 16), digitChar (n % 16)] := rfl

theorem hexNumber?_hexDigits (n : Nat) (h : n < 0x10000) :
    hexNumber? 0 (hexDigits 4 n) = some n := by
  have digit : ∀ k, hexValue? (digitChar (k % 16)) = some (k % 16) := fun k =>
    hexValue?_digitChar ⟨k % 16, Nat.mod_lt _ (by decide)⟩
  simp only [hexDigits_four, hexNumber?, digit, Option.bind_some, Nat.shiftRight_eq_div_pow]
  congr 1
  omega

end Text

namespace Json

/-! ## Strings -/

theorem units_unitEscape (whole : List Char) (n : Nat) (c : Char) (rest : List Char)
    (h : n < 0x10000) :
    units whole (unitEscape n ++ c :: rest) =
      (units whole (c :: rest)).map fun r => (n :: r.1, r.2) := by
  have hex := Text.hexNumber?_hexDigits n h
  rw [Text.hexDigits_four] at hex
  simp only [unitEscape, Text.hexDigits_four, List.cons_append, List.nil_append]
  rw [units, hex]
  simp

theorem units_codeEscape (whole : List Char) (n : Nat) (c : Char) (rest : List Char)
    (h : n < Text.codeLimit) :
    units whole (codeEscape n ++ c :: rest) =
      (units whole (c :: rest)).map fun r => (Text.codeUnits n ++ r.1, r.2) := by
  unfold codeEscape Text.codeUnits
  split
  · next hn => exact units_unitEscape whole n c rest hn
  · unfold Text.codeLimit at h
    have h1 : (Text.unitsOf n).1 < 0x10000 := by simp only [Text.unitsOf]; omega
    have h2 : (Text.unitsOf n).2 < 0x10000 := by simp only [Text.unitsOf]; omega
    -- Behind the first unit stands the second one, whose text is not empty either.
    have hd : ∃ d t, unitEscape (Text.unitsOf n).2 ++ c :: rest = d :: t := ⟨_, _, rfl⟩
    obtain ⟨d, t, hd⟩ := hd
    rw [List.append_assoc, hd, units_unitEscape whole _ d t h1, ← hd,
      units_unitEscape whole _ c rest h2]
    cases units whole (c :: rest) <;> rfl

theorem units_plain (whole : List Char) (c : Char) (rest : List Char) (h : 0x20 ≤ c.toNat)
    (hq : c ≠ '"') (hb : c ≠ '\\') :
    units whole (c :: rest) = (units whole rest).map fun r => (c.toNat :: r.1, r.2) := by
  rw [units]
  · rw [if_neg (by omega)]
  all_goals simp_all

/-- The three ways to write a code point: by a letter after a backslash, as it is,
and by its units. -/
theorem escaped_cases (n : Nat) :
    (∃ e d, escaped n = ['\\', e] ∧ e ≠ 'u' ∧ unescape? e = some d ∧ d.toNat = n ∧ n < 0x80) ∨
      (∃ d, escaped n = [d] ∧ d ≠ '"' ∧ d ≠ '\\' ∧ d.toNat = n ∧ 0x20 ≤ n ∧ n < 0x80) ∨
      escaped n = codeEscape n := by
  by_cases hn : 0x20 ≤ n ∧ n ≤ 0x7E
  · have hc : (Char.ofNat n).toNat = n := by
      rw [Char.toNat_ofNat, if_pos]
      simp only [Nat.isValidChar]
      omega
    have he : escaped n = if Char.ofNat n = '"' ∨ Char.ofNat n = '\\' then
        ['\\', Char.ofNat n] else [Char.ofNat n] := by
      unfold escaped
      rw [if_pos (by simpa using hn)]
      simp
    by_cases hq : Char.ofNat n = '"' ∨ Char.ofNat n = '\\'
    · left
      refine ⟨Char.ofNat n, Char.ofNat n, by rw [he, if_pos hq], ?_, ?_, hc, by omega⟩ <;>
        rcases hq with hq | hq <;> rw [hq] <;> decide
    · right; left
      rw [not_or] at hq
      exact ⟨Char.ofNat n, by rw [he, if_neg (not_or.mpr hq)], hq.1, hq.2, hc, hn.1, by omega⟩
  · unfold escaped
    rw [if_neg (by simpa using hn)]
    split
    · exact .inl ⟨'n', '\n', rfl, by decide, rfl, rfl, by decide⟩
    · exact .inl ⟨'r', '\r', rfl, by decide, rfl, rfl, by decide⟩
    · exact .inl ⟨'t', '\t', rfl, by decide, rfl, rfl, by decide⟩
    · exact .inl ⟨'f', Char.ofNat 0x0C, rfl, by decide, rfl, rfl, by decide⟩
    · exact .inl ⟨'b', Char.ofNat 0x08, rfl, by decide, rfl, rfl, by decide⟩
    · exact .inr (.inr rfl)

/-- The halves of a pair are written as the code point is that they make. -/
theorem escaped_pair {high low : Nat} (pair : Text.isPair high low = true) :
    escaped (0x10000 + 0x400 * (high - 0xD800) + (low - 0xDC00)) = escaped high ++ escaped low := by
  rw [Text.isPair_iff] at pair
  -- Neither half and no joined code point is an ASCII character.
  have far (n : Nat) (hn : 0x80 ≤ n) : escaped n = codeEscape n := by
    rcases escaped_cases n with ⟨_, _, _, _, _, _, small⟩ | ⟨_, _, _, _, _, _, small⟩ | he
    · omega
    · omega
    · exact he
  have half (n : Nat) (hn : n < 0x10000) : codeEscape n = unitEscape n := if_pos hn
  have first : (Text.unitsOf (0x10000 + 0x400 * (high - 0xD800) + (low - 0xDC00))).1 = high := by
    simp only [Text.unitsOf]
    omega
  have second : (Text.unitsOf (0x10000 + 0x400 * (high - 0xD800) + (low - 0xDC00))).2 = low := by
    simp only [Text.unitsOf]
    omega
  rw [far _ (by omega), far high (by omega), far low (by omega), half high (by omega),
    half low (by omega), codeEscape, if_neg (by omega), first, second]

theorem flatMap_escaped_joinUnits (units : List Nat) :
    (Text.joinUnits units).flatMap escaped = units.flatMap escaped := by
  fun_induction Text.joinUnits units with
  | case1 => rfl
  | case2 n => rfl
  | case3 high low ns pair ih =>
    simp only [List.flatMap_cons, escaped_pair pair, ih, List.append_assoc]
  | case4 high low ns pair ih => rw [List.flatMap_cons, ih, ← List.flatMap_cons]

/-- A text is written as its pairs are once they are united. -/
theorem string_unite (p : Points) : string p.unite = string p := by
  rw [string, string, Points.codes_unite, flatMap_escaped_joinUnits]

theorem units_letter (whole : List Char) (e d : Char) (rest : List Char) (hu : e ≠ 'u')
    (hd : unescape? e = some d) :
    units whole ('\\' :: e :: rest) = (units whole rest).map fun r => (d.toNat :: r.1, r.2) := by
  rw [units, hd]
  all_goals simp_all

theorem units_escaped (whole : List Char) (n : Nat) (c : Char) (rest : List Char)
    (h : n < Text.codeLimit) :
    units whole (escaped n ++ c :: rest) =
      (units whole (c :: rest)).map fun r => (Text.codeUnits n ++ r.1, r.2) := by
  have single (d : Char) (hd : d.toNat = n) (hn : n < 0x80) : Text.codeUnits n = [d.toNat] := by
    rw [Text.codeUnits, if_pos (by omega), hd]
  rcases escaped_cases n with ⟨e, d, he, hu, hd, hn, small⟩ | ⟨d, he, hq, hb, hn, h20, small⟩ | he
  · rw [he, single d hn small]
    exact units_letter whole e d (c :: rest) hu hd
  · rw [he, single d hn small]
    exact units_plain whole d (c :: rest) (by omega) hq hb
  · rw [he]
    exact units_codeEscape whole n c rest h

/-- The units of a written string are those of its code points. -/
theorem units_flatMap_escaped (whole rest : List Char) : ∀ codes : List Nat,
    (∀ n ∈ codes, n < Text.codeLimit) →
    units whole (codes.flatMap escaped ++ '"' :: rest) = .ok (codes.flatMap Text.codeUnits, rest)
  | [], _ => by simp [units]
  | n :: ns, h => by
    have ih := units_flatMap_escaped whole rest ns (fun m hm => h m (by simp [hm]))
    -- The reader looks one character ahead; at the latest it meets the quote.
    have hd : ∃ c t, ns.flatMap escaped ++ '"' :: rest = c :: t := by
      cases ns.flatMap escaped with
      | nil => exact ⟨_, _, rfl⟩
      | cons c t => exact ⟨_, _, rfl⟩
    obtain ⟨c, t, hd⟩ := hd
    rw [List.flatMap_cons, List.append_assoc, hd, units_escaped whole n c t (h n (by simp)), ← hd,
      ih]
    rfl

theorem stringTail_string (p : Points) (hp : p.Joined) (rest : List Char) :
    stringTail (p.codes.flatMap escaped ++ '"' :: rest) = .ok (p, rest) := by
  unfold stringTail
  rw [units_flatMap_escaped _ rest p.codes p.bounded]
  simp only [Except.map, Text.joinUnits_flatMap_codeUnits p.codes p.bounded hp,
    Points.ofCodes_codes]

theorem joined_of_stringTail (s rest : List Char) (p : Points)
    (h : stringTail s = .ok (p, rest)) : p.Joined := by
  unfold stringTail at h
  cases hu : units s s with
  | error e => simp [hu, Except.map] at h
  | ok r =>
    simp only [hu, Except.map, Except.ok.injEq, Prod.mk.injEq] at h
    rw [← h.1]
    exact Points.joined_ofCodes (Text.isChain_joinUnits r.1)

end Json

end Reroute
