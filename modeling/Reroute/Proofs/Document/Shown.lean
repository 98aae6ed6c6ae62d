import Reroute.Document.Datum
import Reroute.Proofs.Json.Layout

/-!
# Showing JSON values

Messages show a value as far as its numbers are short enough and its levels few enough. Nothing
else in a JSON value stands in the way (`shown_ofJson`).
-/

namespace Reroute

namespace Json

mutual

/-- No whole number in the value has more digits than a number may have. -/
def Short : Json → Prop
  | .int i => i.natAbs < 10 ^ Text.maxDigits
  | .arr vs => ItemsShort vs
  | .obj ms => MembersShort ms
  | _ => True

def ItemsShort : List Json → Prop
  | [] => True
  | v :: vs => v.Short ∧ ItemsShort vs

def MembersShort : List (Points × Json) → Prop
  | [] => True
  | (_, v) :: ms => v.Short ∧ MembersShort ms

end

theorem itemsShort_iff (vs : List Json) : ItemsShort vs ↔ ∀ v ∈ vs, v.Short := by
  induction vs with
  | nil => simp [ItemsShort]
  | cons v vs ih => simp [ItemsShort, ih]

theorem membersShort_iff (ms : List (Points × Json)) :
    MembersShort ms ↔ ∀ m ∈ ms, m.2.Short := by
  induction ms with
  | nil => simp [MembersShort]
  | cons m ms ih => simp [MembersShort, ih]

theorem depth_le_itemsDepth {vs : List Json} {v : Json} (h : v ∈ vs) : v.depth ≤ itemsDepth vs := by
  induction h with
  | head vs => exact Nat.le_max_left _ _
  | tail w _ ih => exact ih.trans (Nat.le_max_right _ _)

theorem depth_le_membersDepth {ms : List (Points × Json)} {m : Points × Json} (h : m ∈ ms) :
    m.2.depth ≤ membersDepth ms := by
  induction h with
  | head ms => exact Nat.le_max_left _ _
  | tail w _ ih => exact ih.trans (Nat.le_max_right _ _)

end Json

namespace Datum

mutual

theorem shownIn_ofJson (around : List Nat) : (v : Json) → (room : Nat) → v.Short →
    v.depth ≤ room → ∃ t, (ofJson v).shownIn room around = .ok t
  | .null, _, _, _ => ⟨_, rfl⟩
  | .bool true, _, _, _ => ⟨_, rfl⟩
  | .bool false, _, _, _ => ⟨_, rfl⟩
  | .int i, _, short, _ => by
    refine ⟨Text.integer i, ?_⟩
    rw [Json.Short, ← Nat.not_le] at short
    rw [ofJson, shownIn, showInt, Nat.pow_eq, if_neg short]
  | .real x, _, _, _ => by
    rw [ofJson]
    split <;> exact ⟨_, rfl⟩
  | .str s, _, _, _ => ⟨_, rfl⟩
  | .arr vs, room, short, deep => by
    simp only [Json.depth] at deep
    obtain ⟨inner, rfl⟩ : ∃ inner, room = inner + 1 := ⟨room - 1, by omega⟩
    obtain ⟨ts, shown⟩ := shownAll_ofItems around vs inner short (by omega)
    refine ⟨Bracket.square.enclose (commas ts), ?_⟩
    simp [ofJson, shownIn, shown]
  | .obj ms, room, short, deep => by
    simp only [Json.depth] at deep
    obtain ⟨inner, rfl⟩ : ∃ inner, room = inner + 1 := ⟨room - 1, by omega⟩
    obtain ⟨ts, shown⟩ := shownEntries_ofMembers around ms inner short (by omega)
    refine ⟨Bracket.curly.enclose (commas ts), ?_⟩
    simp [ofJson, shownIn, shown]

theorem shownAll_ofItems (around : List Nat) : (vs : List Json) → (room : Nat) →
    Json.ItemsShort vs → Json.itemsDepth vs ≤ room →
    ∃ ts, shownAll room around (ofItems vs) = .ok ts
  | [], _, _, _ => ⟨[], rfl⟩
  | v :: vs, room, short, deep => by
    simp only [Json.itemsDepth] at deep
    obtain ⟨t, first⟩ := shownIn_ofJson around v room short.1 (by omega)
    obtain ⟨ts, rest⟩ := shownAll_ofItems around vs room short.2 (by omega)
    refine ⟨t :: ts, ?_⟩
    simp only [ofItems, shownAll, first, rest]
    rfl

theorem shownEntries_ofMembers (around : List Nat) : (ms : List (Points × Json)) →
    (room : Nat) → Json.MembersShort ms → Json.membersDepth ms ≤ room →
    ∃ ts, shownEntries room around (ofMembers ms) = .ok ts
  | [], _, _, _ => ⟨[], rfl⟩
  | (k, v) :: ms, room, short, deep => by
    simp only [Json.membersDepth] at deep
    obtain ⟨t, first⟩ := shownIn_ofJson around v room short.1 (by omega)
    obtain ⟨ts, rest⟩ := shownEntries_ofMembers around ms room short.2 (by omega)
    refine ⟨(Text.quoted k ++ ':' :: ' ' :: t) :: ts, ?_⟩
    simp only [ofMembers, shownEntries, first, rest]
    rfl

end

end Datum

end Reroute
