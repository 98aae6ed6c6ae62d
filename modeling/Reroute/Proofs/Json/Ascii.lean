import Reroute.Proofs.Json.Layout
import Reroute.Text.Utf8

/-!
# Written values are plain text

The text of a file holds ASCII characters only, and no carriage return. So it is
the same text after it was stored as UTF-8 and read with unified line ends.
-/

namespace Reroute

/-- An ASCII character other than the carriage return. -/
def IsPlain (c : Char) : Prop := c.toNat < 0x80 ∧ c ≠ '\r'

instance (c : Char) : Decidable (IsPlain c) := inferInstanceAs (Decidable (_ ∧ _))

namespace Json

theorem plain_digitChar : ∀ d : Fin 16, IsPlain (Text.digitChar d) := by decide

theorem plain_unitEscape (n : Nat) : ∀ c ∈ unitEscape n, IsPlain c := by
  have digit : ∀ k, IsPlain (Text.digitChar (k % 16)) := fun k =>
    plain_digitChar ⟨k % 16, Nat.mod_lt _ (by decide)⟩
  simp only [unitEscape, Text.hexDigits_four, List.forall_mem_cons]
  exact ⟨by decide, by decide, digit _, digit _, digit _, digit _, by simp⟩

theorem plain_of_unescape? {e d : Char} (h : unescape? e = some d) : IsPlain e := by
  unfold unescape? at h
  split at h <;> first | decide | simp at h

theorem plain_escaped (n : Nat) : ∀ c ∈ escaped n, IsPlain c := by
  rcases escaped_cases n with ⟨e, d, he, _, hd, _⟩ | ⟨d, he, _, _, hd, h20, small⟩ | he
  · rw [he]
    simp only [List.forall_mem_cons]
    exact ⟨by decide, plain_of_unescape? hd, by simp⟩
  · rw [he, List.forall_mem_singleton]
    refine ⟨by omega, ?_⟩
    intro returns
    rw [returns, show '\r'.toNat = 13 from rfl] at hd
    omega
  · rw [he]
    unfold codeEscape
    split
    · exact plain_unitEscape n
    · exact List.forall_mem_append.mpr ⟨plain_unitEscape _, plain_unitEscape _⟩

theorem plain_string (s : Points) : ∀ c ∈ string s, IsPlain c := by
  simp only [string, List.cons_append, List.forall_mem_cons, List.forall_mem_append,
    List.mem_flatMap]
  refine ⟨by decide, ?_, by decide, by simp⟩
  intro c hc
  obtain ⟨n, -, hc⟩ := hc
  exact plain_escaped n c hc

theorem plain_integer (i : Int) : ∀ c ∈ Text.integer i, IsPlain c := by
  have digits : ∀ c ∈ Text.decimal i.natAbs, IsPlain c := by
    intro c hc
    have digit := Text.isDigit_of_mem_decimal i.natAbs c hc
    exact ⟨(isSpace_of_isDigit c digit).2.2, ne_of_isDigit digit rfl⟩
  unfold Text.integer
  split
  · exact List.forall_mem_cons.mpr ⟨by decide, digits⟩
  · exact digits

theorem plain_newLine (depth : Nat) : ∀ c ∈ newLine depth, IsPlain c := by
  intro c hc
  simp only [newLine, List.mem_cons, List.mem_replicate] at hc
  rcases hc with rfl | ⟨_, rfl⟩ <;> decide

mutual

theorem plain_indentedAt (depth : Nat) : (v : Json) → v.Exact → ∀ c ∈ indentedAt depth v, IsPlain c
  | .null, _ => by simpa [indentedAt] using by decide
  | .bool true, _ => by simpa [indentedAt] using by decide
  | .bool false, _ => by simpa [indentedAt] using by decide
  | .int i, _ => plain_integer i
  | .real _, h => by simp [Exact] at h
  | .str s, _ => plain_string s
  | .arr [], _ => by simpa [indentedAt] using by decide
  | .arr (v :: vs), h => by
    simp only [Exact, ItemsExact] at h
    simp only [indentedAt, List.cons_append, List.append_assoc, List.forall_mem_cons,
      List.forall_mem_append]
    exact ⟨by decide, plain_newLine _, plain_indentedAt _ v h.1, plain_indentedItems _ vs h.2,
      plain_newLine _, by decide, by simp⟩
  | .obj [], _ => by simpa [indentedAt] using by decide
  | .obj ((k, v) :: ms), h => by
    simp only [Exact, MembersExact] at h
    simp only [indentedAt, List.cons_append, List.append_assoc, List.forall_mem_cons,
      List.forall_mem_append]
    exact ⟨by decide, plain_newLine _, plain_string k, by decide, by decide, by simp,
      plain_indentedAt _ v h.1.2.1, plain_indentedMembers _ ms h.1.2.2, plain_newLine _, by decide,
      by simp⟩

theorem plain_indentedItems (depth : Nat) :
    (vs : List Json) → ItemsExact vs → ∀ c ∈ indentedItems depth vs, IsPlain c
  | [], _ => by simp [indentedItems]
  | v :: vs, h => by
    simp only [ItemsExact] at h
    simp only [indentedItems, List.cons_append, List.append_assoc, List.forall_mem_cons,
      List.forall_mem_append]
    exact ⟨by decide, plain_newLine _, plain_indentedAt _ v h.1, plain_indentedItems _ vs h.2⟩

theorem plain_indentedMembers (depth : Nat) :
    (ms : List (Points × Json)) → MembersExact ms → ∀ c ∈ indentedMembers depth ms, IsPlain c
  | [], _ => by simp [indentedMembers]
  | (k, v) :: ms, h => by
    simp only [MembersExact] at h
    simp only [indentedMembers, List.cons_append, List.append_assoc, List.forall_mem_cons,
      List.forall_mem_append]
    exact ⟨by decide, plain_newLine _, plain_string k, by decide, by decide, by simp,
      plain_indentedAt _ v h.2.1, plain_indentedMembers _ ms h.2.2⟩

end

theorem plain_fileText (v : Json) (hv : v.Exact) : ∀ c ∈ v.fileText.toList, IsPlain c := by
  unfold fileText
  rw [String.toList_ofList, List.forall_mem_append]
  exact ⟨plain_indentedAt 0 v hv, by simpa using by decide⟩

end Json

namespace Text

theorem unifyLineEnds_of_plain : ∀ s : List Char, (∀ c ∈ s, IsPlain c) → unifyLineEnds s = s
  | [], _ => rfl
  | c :: s, h => by
    have hc : c ≠ '\r' := (h c (by simp)).2
    rw [unifyLineEnds, if_neg hc, unifyLineEnds_of_plain s fun d hd => h d (by simp [hd])]
    intro rest same
    exact absurd same hc

theorem decode?_toUTF8 (s : String) : decode? s.toUTF8 = some s := by
  unfold decode? String.fromUTF8?
  rw [String.toUTF8_eq_toByteArray, dif_pos s.isValidUTF8]
  rfl

end Text

end Reroute
