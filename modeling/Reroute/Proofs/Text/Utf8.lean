import Mathlib
import Reroute.Text.Utf8

/-!
# Bytes of a text

The bytes of a text are read back as the text (`decodeLossyFrom_toUTF8`), and nothing in
them shows that they are no text (`faultFrom_toUTF8`). Both readers go the same way
through the bytes of a character: what they meet there is said once, without a reader
(`Encodes`).
-/

namespace Reroute.Text

/-! ## Bytes as a list -/

theorem toList_loop_eq (bytes : ByteArray) (i : Nat) (before : List UInt8) :
    ByteArray.toList.loop bytes i before = before.reverse ++ bytes.data.toList.drop i := by
  induction i, before using ByteArray.toList.loop.induct bytes with
  | case1 i before more ih =>
    have inside : i < bytes.data.toList.length := by simpa using more
    rw [ByteArray.toList.loop, if_pos more, ih, List.drop_eq_getElem_cons inside]
    simp [ByteArray.get!, getElem!_pos bytes.data i (by simpa using more)]
  | case2 i before done =>
    have outside : bytes.data.toList.length ≤ i := by simpa using done
    rw [ByteArray.toList.loop, if_neg done, List.drop_eq_nil_of_le outside, List.append_nil]

theorem toList_toUTF8 (s : String) : s.toUTF8.toList = s.toList.flatMap String.utf8EncodeChar := by
  have bytes : s.toUTF8 = (s.toList.flatMap String.utf8EncodeChar).toByteArray :=
    String.utf8Encode_toList.symm
  rw [bytes, ByteArray.toList, toList_loop_eq]
  simp

/-! ## The bytes of a character -/

/-- Bytes go on with a character that has begun and end it, and it has the given number. -/
inductive Ends : Begun → List UInt8 → Nat → Prop
  | last {s : Begun} {byte : UInt8} (due : s.due ≤ 1) (low : s.low ≤ byte.toNat)
      (high : byte.toNat ≤ s.high) : Ends s [byte] (64 * s.bits + (byte.toNat - 0x80))
  | next {s : Begun} {byte : UInt8} {bytes : List UInt8} {n : Nat} (due : ¬s.due ≤ 1)
      (low : s.low ≤ byte.toNat) (high : byte.toNat ≤ s.high)
      (rest : Ends ⟨s.due - 1, 0x80, 0xBF, 64 * s.bits + (byte.toNat - 0x80)⟩ bytes n) :
      Ends s (byte :: bytes) n

/-- Bytes are the character with the given number. -/
inductive Encodes : List UInt8 → Nat → Prop
  | one {byte : UInt8} (small : byte.toNat < 0x80) : Encodes [byte] byte.toNat
  | several {byte : UInt8} {bytes : List UInt8} {s : Begun} {n : Nat} (large : ¬byte.toNat < 0x80)
      (begun : begun? byte.toNat = some s) (rest : Ends s bytes n) : Encodes (byte :: bytes) n

theorem toNat_ofNat {b : Nat} (h : b < 0x100) : (UInt8.ofNat b).toNat = b := by
  rw [UInt8.toNat_ofNat']
  exact Nat.mod_eq_of_lt h

theorem ends_last {low high bits b n : Nat} (hl : low ≤ b) (hh : b ≤ high) (hb : b < 0x100)
    (hn : n = 64 * bits + (b - 0x80)) : Ends ⟨1, low, high, bits⟩ [UInt8.ofNat b] n := by
  have byte := toNat_ofNat hb
  have ends : Ends ⟨1, low, high, bits⟩ [UInt8.ofNat b]
      (64 * bits + ((UInt8.ofNat b).toNat - 0x80)) :=
    .last (Nat.le_refl 1) (by rwa [byte]) (by rwa [byte])
  rwa [byte, ← hn] at ends

theorem ends_next {due low high bits b n : Nat} {bytes : List UInt8} (hl : low ≤ b) (hh : b ≤ high)
    (hb : b < 0x100) (rest : Ends ⟨due + 1, 0x80, 0xBF, 64 * bits + (b - 0x80)⟩ bytes n) :
    Ends ⟨due + 2, low, high, bits⟩ (UInt8.ofNat b :: bytes) n := by
  have byte := toNat_ofNat hb
  refine .next (by simp) (by rwa [byte]) (by rwa [byte]) ?_
  rwa [byte]

theorem encodes_several {b n : Nat} {bytes : List UInt8} {s : Begun} (large : 0x80 ≤ b)
    (hb : b < 0x100) (begun : begun? b = some s) (rest : Ends s bytes n) :
    Encodes (UInt8.ofNat b :: bytes) n := by
  have byte := toNat_ofNat hb
  refine .several (by rw [byte]; omega) ?_ rest
  rwa [byte]

/-- What the first of three bytes promises. Behind `E0` the next byte leaves out what two
bytes stand for, and behind `ED` it leaves out the halves of pairs. -/
theorem begun?_three : ∀ b < 16, begun? (b + 0xE0) =
    some ⟨2, if b = 0 then 0xA0 else 0x80, if b = 0xD then 0x9F else 0xBF, b⟩ := by
  intro b h
  interval_cases b <;> rfl

theorem begun?_four : ∀ b < 5, begun? (b + 0xF0) =
    some ⟨3, if b = 0 then 0x90 else 0x80, if b = 4 then 0x8F else 0xBF, b⟩ := by
  intro b h
  interval_cases b <;> rfl

theorem begun?_two : ∀ b < 32, 2 ≤ b → begun? (b + 0xC0) = some ⟨1, 0x80, 0xBF, b⟩ := by
  intro b h two
  interval_cases b <;> rfl

theorem encodes_utf8EncodeChar (c : Char) : Encodes (String.utf8EncodeChar c) c.toNat := by
  have valid := c.valid
  simp only [UInt32.isValidChar, Nat.isValidChar] at valid
  show Encodes _ c.val.toNat
  unfold String.utf8EncodeChar
  generalize c.val.toNat = v at valid ⊢
  dsimp only
  split_ifs with one two three
  · have byte : (UInt8.ofNat v).toNat = v := toNat_ofNat (by omega)
    have encodes : Encodes [UInt8.ofNat v] (UInt8.ofNat v).toNat := .one (by omega)
    rwa [byte] at encodes
  · have begun := begun?_two (v / 64 % 32) (by omega) (by omega)
    refine encodes_several (by omega) (by omega) begun ?_
    exact ends_last (by omega) (by omega) (by omega) (by omega)
  · have begun := begun?_three (v / 4096 % 16) (by omega)
    refine encodes_several (by omega) (by omega) begun ?_
    refine ends_next (by split <;> omega) (by split <;> omega) (by omega) ?_
    exact ends_last (by omega) (by omega) (by omega) (by omega)
  · have begun := begun?_four (v / 262144 % 8) (by omega)
    refine encodes_several (by omega) (by omega) begun ?_
    refine ends_next (by split <;> omega) (by split <;> omega) (by omega) ?_
    refine ends_next (by omega) (by omega) (by omega) ?_
    exact ends_last (by omega) (by omega) (by omega) (by omega)

/-! ## The two readers -/

theorem decodeLossyFrom_of_ends {atEnd : List Char} {s : Begun} {bytes : List UInt8} {n : Nat}
    (h : Ends s bytes n) (rest : List UInt8) :
    decodeLossyFrom atEnd (some s) (bytes ++ rest) =
      Char.ofNat n :: decodeLossyFrom atEnd none rest := by
  induction h with
  | last due low high => simp [decodeLossyFrom, due, low, high]
  | next due low high _ ih => simpa [decodeLossyFrom, due, low, high] using ih

theorem decodeLossyFrom_of_encodes {atEnd : List Char} {bytes : List UInt8} {n : Nat}
    (h : Encodes bytes n) (rest : List UInt8) :
    decodeLossyFrom atEnd none (bytes ++ rest) =
      Char.ofNat n :: decodeLossyFrom atEnd none rest := by
  cases h with
  | one small => simp [decodeLossyFrom, small]
  | several large begun ends =>
    rw [← decodeLossyFrom_of_ends ends rest, List.cons_append, decodeLossyFrom]
    simp [large, begun]

/-- Faults do not depend on the bits that were read. -/
theorem faultFrom_of_ends {s : Begun} {bytes : List UInt8} {n : Nat} (h : Ends s bytes n)
    (bits before : Nat) (rest : List UInt8) :
    faultFrom before (some { s with bits }) (bytes ++ rest) =
      faultFrom (before + bytes.length) none rest := by
  induction h generalizing before with
  | last due low high => simp [faultFrom, due, low, high]
  | @next s byte bytes n due low high _ ih =>
    have length : before + (byte :: bytes).length = before + 1 + bytes.length := by
      rw [List.length_cons]
      omega
    rw [List.cons_append, faultFrom, length, ← ih]
    simp only [low, high, due, decide_true, Bool.and_self, if_true, if_false]

theorem faultFrom_of_encodes {bytes : List UInt8} {n : Nat} (h : Encodes bytes n)
    (before : Nat) (rest : List UInt8) :
    faultFrom before none (bytes ++ rest) = faultFrom (before + bytes.length) none rest := by
  cases h with
  | one small => simp [faultFrom, small]
  | several large begun ends =>
    rename_i byte bytes s
    have length : before + (byte :: bytes).length = before + 1 + bytes.length := by
      rw [List.length_cons]
      omega
    rw [List.cons_append, faultFrom, length, ← faultFrom_of_ends ends s.bits]
    simp only [large, begun, if_false]

theorem decodeLossyFrom_toUTF8 (atEnd : List Char) (s : String) :
    decodeLossyFrom atEnd none s.toUTF8.toList = s.toList := by
  rw [toList_toUTF8]
  induction s.toList with
  | nil => rfl
  | cons c cs ih =>
    rw [List.flatMap_cons, decodeLossyFrom_of_encodes (encodes_utf8EncodeChar c), ih,
      Char.ofNat_toNat]

theorem faultFrom_toUTF8 (s : String) : faultFrom 0 none s.toUTF8.toList = none := by
  rw [toList_toUTF8]
  generalize 0 = before
  induction s.toList generalizing before with
  | nil => rfl
  | cons c cs ih =>
    rw [List.flatMap_cons, faultFrom_of_encodes (encodes_utf8EncodeChar c), ih]

theorem streamed_toUTF8 (ending : LineEnd) (s : String) :
    streamed ending s.toUTF8 = ⟨lines (ending.unify s.toList), false⟩ := by
  simp only [streamed, faultFrom_toUTF8, decodeLossyFrom_toUTF8]

end Reroute.Text
