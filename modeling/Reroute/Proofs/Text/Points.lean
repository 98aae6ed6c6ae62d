import Mathlib
import Reroute.Text.Points

/-!
# Halves and pairs

Every number below the limit is that of one code point (`Code.toNat_ofNat`). A code point
above U+FFFF has two units, from which it is joined again. So a text comes back from its
units unless one half of a pair stands in front of the other in it, as two code points
(`joinUnits_flatMap_codeUnits`); what joining makes has no such place
(`isChain_joinUnits`).
-/

namespace Reroute

namespace Code

theorem toNat_ofNat {n : Nat} (h : n < Text.codeLimit) : (ofNat n).toNat = n := by
  rw [ofNat]
  split
  · next half =>
    simp only [toNat, firstHalf] at half ⊢
    omega
  · next whole =>
    have valid : n.isValidChar := by
      rw [firstHalf] at whole
      rw [Text.codeLimit] at h
      rw [Nat.isValidChar]
      omega
    rw [toNat, Char.toNat_ofNat, if_pos valid]

theorem toNat_ofNat_of_le {n : Nat} (h : Text.codeLimit ≤ n) : (ofNat n).toNat = 0xFFFD := by
  have whole : ¬(firstHalf ≤ n ∧ n < firstHalf + 0x800) := by
    rw [Text.codeLimit] at h
    rw [firstHalf]
    omega
  rw [ofNat, dif_neg whole, if_neg (by omega)]
  rfl

theorem ofNat_toNat (c : Code) : ofNat c.toNat = c := by
  cases c with
  | char c =>
    have whole : ¬(firstHalf ≤ c.toNat ∧ c.toNat < firstHalf + 0x800) := by
      have := c.valid
      simp only [UInt32.isValidChar, Nat.isValidChar] at this
      simp only [Char.toNat, firstHalf]
      omega
    rw [toNat, ofNat, dif_neg whole, if_pos (Text.toNat_lt_codeLimit c), Char.ofNat_toNat]
  | half n =>
    have within : firstHalf ≤ firstHalf + n.val ∧ firstHalf + n.val < firstHalf + 0x800 := by
      omega
    rw [toNat, ofNat, dif_pos within, half.injEq, Fin.ext_iff]
    exact Nat.add_sub_cancel_left firstHalf n

theorem toNat_injective : Function.Injective toNat :=
  Function.LeftInverse.injective ofNat_toNat

end Code

namespace Text

/-- The 16-bit units of a code point. -/
def codeUnits (n : Nat) : List Nat := if n < 0x10000 then [n] else [(unitsOf n).1, (unitsOf n).2]

theorem isHighUnit_iff (n : Nat) : isHighUnit n = true ↔ 0xD800 ≤ n ∧ n < 0xDC00 := by
  simp [isHighUnit]

theorem isLowUnit_iff (n : Nat) : isLowUnit n = true ↔ 0xDC00 ≤ n ∧ n < 0xE000 := by
  simp [isLowUnit]

/-- Whether two code points are the two halves of one pair. -/
def isPair (high low : Nat) : Bool := isHighUnit high && isLowUnit low

theorem isPair_iff (high low : Nat) :
    isPair high low = true ↔ (0xD800 ≤ high ∧ high < 0xDC00) ∧ 0xDC00 ≤ low ∧ low < 0xE000 := by
  simp only [isPair, Bool.and_eq_true, isHighUnit_iff, isLowUnit_iff]

theorem joinUnits_cons (n : Nat) (rest : List Nat)
    (h : ∀ low ∈ rest.head?, isPair n low = false) :
    joinUnits (n :: rest) = n :: joinUnits rest := by
  cases rest with
  | nil => simp [joinUnits]
  | cons low ns =>
    have : (isHighUnit n && isLowUnit low) = false := h low rfl
    rw [joinUnits, this]
    simp

theorem joinUnits_unitsOf (n : Nat) (rest : List Nat) (h : 0x10000 ≤ n) (hn : n < codeLimit) :
    joinUnits ((unitsOf n).1 :: (unitsOf n).2 :: rest) = n :: joinUnits rest := by
  unfold codeLimit at hn
  have pair : isPair (unitsOf n).1 (unitsOf n).2 = true := by
    simp only [isPair_iff, unitsOf]
    omega
  have back : 0x10000 + 0x400 * ((unitsOf n).1 - 0xD800) + ((unitsOf n).2 - 0xDC00) = n := by
    simp only [unitsOf]
    omega
  unfold isPair at pair
  rw [joinUnits, if_pos pair, back]

theorem joinUnits_codeUnits_append (n : Nat) (rest : List Nat) (hn : n < codeLimit)
    (h : ∀ low ∈ rest.head?, isPair n low = false) :
    joinUnits (codeUnits n ++ rest) = n :: joinUnits rest := by
  unfold codeUnits
  split
  · exact joinUnits_cons n rest h
  · exact joinUnits_unitsOf n rest (by omega) hn

/-- The first unit of a code point is the second half of a pair only if the code
point itself is. -/
theorem isPair_codeUnits (high n : Nat) (rest : List Nat) (hn : n < codeLimit)
    (h : isPair high n = false) :
    ∀ low ∈ (codeUnits n ++ rest).head?, isPair high low = false := by
  intro low hlow
  unfold codeUnits at hlow
  split at hlow
  · obtain rfl : n = low := by simpa using hlow
    exact h
  · obtain rfl : (unitsOf n).1 = low := by simpa using hlow
    unfold codeLimit at hn
    rw [Bool.eq_false_iff, ne_eq, isPair_iff]
    simp only [unitsOf]
    omega

/-- Code points of which no two next to each other are a pair come back from their
units. -/
theorem joinUnits_flatMap_codeUnits : ∀ codes : List Nat, (∀ n ∈ codes, n < codeLimit) →
    codes.IsChain (fun a b => isPair a b = false) → joinUnits (codes.flatMap codeUnits) = codes
  | [], _, _ => rfl
  | [n], h, _ => by
    rw [List.flatMap_cons, joinUnits_codeUnits_append n _ (h n (by simp)) (by simp)]
    rfl
  | n :: m :: codes, h, chain => by
    rw [List.isChain_cons_cons] at chain
    have ih := joinUnits_flatMap_codeUnits (m :: codes) (fun k hk => h k (by simp [hk])) chain.2
    have apart : ∀ low ∈ ((m :: codes).flatMap codeUnits).head?, isPair n low = false := by
      rw [List.flatMap_cons]
      exact isPair_codeUnits n m _ (h m (by simp)) chain.1
    rw [List.flatMap_cons, joinUnits_codeUnits_append n _ (h n (by simp)) apart, ih]

/-- What units start with is what their joined form starts with, or the joined form
starts above all halves. -/
theorem head_joinUnits (n : Nat) (rest : List Nat) :
    ∀ m ∈ (joinUnits (n :: rest)).head?, m = n ∨ 0x10000 ≤ m := by
  intro m hm
  cases rest with
  | nil => exact .inl (by simpa [joinUnits] using hm.symm)
  | cons low ns =>
    rw [joinUnits] at hm
    split at hm
    · obtain rfl := Option.some.inj hm
      right
      omega
    · exact .inl (Option.some.inj hm).symm

theorem isChain_joinUnits (units : List Nat) :
    (joinUnits units).IsChain (fun a b => isPair a b = false) := by
  fun_induction joinUnits units with
  | case1 => exact .nil
  | case2 n => exact .singleton n
  | case3 high low ns pair ih =>
    -- The joined code point lies above all halves.
    refine List.isChain_cons.mpr ⟨fun m _ => ?_, ih⟩
    rw [Bool.eq_false_iff, ne_eq, isPair_iff]
    omega
  | case4 high low ns pair ih =>
    refine List.isChain_cons.mpr ⟨fun m hm => ?_, ih⟩
    rcases head_joinUnits low ns m hm with rfl | above
    · simpa [isPair] using pair
    · rw [Bool.eq_false_iff, ne_eq, isPair_iff]
      omega

theorem joinUnits_of_isChain : ∀ codes : List Nat,
    codes.IsChain (fun a b => isPair a b = false) → joinUnits codes = codes
  | [], _ => rfl
  | [_], _ => rfl
  | n :: m :: codes, chain => by
    rw [List.isChain_cons_cons] at chain
    rw [joinUnits_cons n (m :: codes) (by simpa using chain.1),
      joinUnits_of_isChain (m :: codes) chain.2]

theorem joinUnits_lt (units : List Nat) (h : ∀ n ∈ units, n < codeLimit) :
    ∀ n ∈ joinUnits units, n < codeLimit := by
  fun_induction joinUnits units with
  | case1 => exact h
  | case2 n => exact h
  | case3 high low ns pair ih =>
    rw [List.forall_mem_cons]
    refine ⟨?_, ih fun n hn => h n (by simp [hn])⟩
    have pair : isPair high low = true := pair
    rw [isPair_iff] at pair
    unfold codeLimit
    omega
  | case4 high low ns pair ih =>
    rw [List.forall_mem_cons]
    exact ⟨h high (by simp), ih fun n hn => h n (List.mem_cons_of_mem high hn)⟩

theorem join_concat {α : Type} (sep : List α) : ∀ {ss : List (List α)}, ss ≠ [] → ∀ t,
    join sep (ss ++ [t]) = join sep ss ++ (sep ++ t)
  | [], filled, _ => absurd rfl filled
  | [s], _, t => List.append_assoc s sep t
  | s :: s' :: ss, _, t => by
    have ih := join_concat sep (List.cons_ne_nil s' ss) t
    rw [List.cons_append, List.cons_append, join, ← List.cons_append, ih, join]
    simp only [List.append_assoc]

end Text

namespace Points

theorem ofCodes_codes (p : Points) : ofCodes p.codes = p := by
  have same : p.toList.map (Code.ofNat ∘ Code.toNat) = p.toList.map id :=
    List.map_congr_left fun c _ => c.ofNat_toNat
  rw [ofCodes, codes, List.map_map, same, List.map_id]

theorem codes_ofCodes {codes : List Nat} (h : ∀ n ∈ codes, n < Text.codeLimit) :
    (ofCodes codes).codes = codes := by
  have same : codes.map (Code.toNat ∘ Code.ofNat) = codes.map id :=
    List.map_congr_left fun n hn => Code.toNat_ofNat (h n hn)
  rw [Points.codes, ofCodes, List.map_map, same, List.map_id]

theorem codes_injective : Function.Injective codes :=
  Function.LeftInverse.injective ofCodes_codes

/-- No half of a pair stands in front of the other half. -/
def Joined (p : Points) : Prop := p.codes.IsChain fun a b => Text.isPair a b = false

instance (p : Points) : Decidable p.Joined :=
  inferInstanceAs (Decidable (p.codes.IsChain _))

theorem joined_ofCodes {codes : List Nat}
    (h : codes.IsChain fun a b => Text.isPair a b = false) : (ofCodes codes).Joined := by
  rw [Joined, Points.codes, ofCodes, List.map_map]
  refine List.isChain_map_of_isChain _ (fun a b apart => ?_) h
  have number (n : Nat) : (Code.ofNat n).toNat = n ∨ (Code.ofNat n).toNat = 0xFFFD :=
    (Nat.lt_or_ge n Text.codeLimit).imp Code.toNat_ofNat Code.toNat_ofNat_of_le
  rw [Bool.eq_false_iff, ne_eq, Text.isPair_iff] at apart ⊢
  rcases number a with ha | ha <;> rcases number b with hb | hb <;>
    simp only [Function.comp_apply, ha, hb] <;> omega

theorem joined_ofList : ∀ s : List Char, (ofList s).Joined
  | [] => .nil
  | c :: s => by
    refine List.isChain_cons.mpr ⟨fun m _ => ?_, joined_ofList s⟩
    have := c.valid
    simp only [UInt32.isValidChar, Nat.isValidChar] at this
    rw [Bool.eq_false_iff, ne_eq, Text.isPair_iff]
    simp only [Code.toNat, Char.toNat]
    omega

/-- The text in which every pair in two halves is one code point. -/
def unite (p : Points) : Points := ofCodes (Text.joinUnits p.codes)

theorem codes_unite (p : Points) : p.unite.codes = Text.joinUnits p.codes :=
  codes_ofCodes (Text.joinUnits_lt p.codes p.bounded)

theorem joined_unite (p : Points) : p.unite.Joined := by
  rw [Joined, codes_unite]
  exact Text.isChain_joinUnits p.codes

theorem unite_of_joined {p : Points} (h : p.Joined) : p.unite = p := by
  rw [unite, Text.joinUnits_of_isChain p.codes h, ofCodes_codes]

theorem append_empty (p : Points) : p ++ ("" : Points) = p :=
  Points.ext (List.append_nil p.toList)

@[simp] theorem isEmpty_iff {p : Points} : p.isEmpty = true ↔ p = "" := by
  rw [isEmpty, List.isEmpty_iff, Points.ext_iff]
  rfl

theorem join_concat (sep : String) {ps : List Points} (filled : ps ≠ []) (q : Points) :
    join sep (ps ++ [q]) = join sep ps ++ (sep ++ q) := by
  have filled : ps.map toList ≠ [] := by simpa using filled
  rw [join, List.map_append, List.map_singleton, Text.join_concat _ filled]
  rfl

/-! ## Texts made of characters -/

@[simp] theorem chars_ofList (s : List Char) : (ofList s).chars = s := by
  rw [chars, toList_ofList, List.map_map]
  exact List.map_id s

@[simp] theorem chars_ofString (text : String) : (text : Points).chars = text.toList :=
  chars_ofList text.toList

theorem codes_ofString (text : String) : (text : Points).codes = text.toList.map Char.toNat :=
  codes_ofList text.toList

theorem toString_ofString (text : String) : (text : Points).toString = text := by
  rw [toString, chars_ofString, String.ofList_toList]

theorem ofString_injective : Function.Injective ofString :=
  Function.LeftInverse.injective toString_ofString

end Points

end Reroute
