import Reroute.Proofs.Json.Strings

/-!
# The texts of a value that was read

The reader joins the halves of pairs, so no text of a value that it gives has one
half in front of the other (`joined_of_read`).
-/

namespace Reroute.Json

mutual

/-- No text in the value, names of members included, holds a pair in two halves. -/
def Joined : Json → Prop
  | .str s => s.Joined
  | .arr vs => ItemsJoined vs
  | .obj ms => MembersJoined ms
  | _ => True

def ItemsJoined : List Json → Prop
  | [] => True
  | v :: vs => v.Joined ∧ ItemsJoined vs

def MembersJoined : List (Points × Json) → Prop
  | [] => True
  | (k, v) :: ms => k.Joined ∧ v.Joined ∧ MembersJoined ms

end

theorem itemsJoined_iff (vs : List Json) : ItemsJoined vs ↔ ∀ v ∈ vs, v.Joined := by
  induction vs with
  | nil => simp [ItemsJoined]
  | cons v vs ih => simp [ItemsJoined, ih]

theorem membersJoined_iff (ms : List (Points × Json)) :
    MembersJoined ms ↔ ∀ m ∈ ms, m.1.Joined ∧ m.2.Joined := by
  induction ms with
  | nil => simp [MembersJoined]
  | cons m ms ih => simp [MembersJoined, ih, and_assoc]

theorem membersJoined_put {name : Points} {v : Json} (hn : name.Joined) (hv : v.Joined) :
    ∀ ms : List (Points × Json), MembersJoined ms → MembersJoined (put name v ms)
  | [], _ => ⟨hn, hv, trivial⟩
  | m :: ms, h => by
    obtain ⟨hm, hw, hms⟩ := h
    rw [put]
    split
    · exact ⟨hn, hv, hms⟩
    · exact ⟨hm, hw, membersJoined_put hn hv ms hms⟩

/-! ## What the reader gives -/

theorem joined_of_numberAt {s rest : List Char} {v : Json} (h : numberAt s = .ok (v, rest)) :
    v.Joined := by
  -- A number holds no text at all.
  have isNumber : (∃ i, v = .int i) ∨ ∃ x, v = .real x := by
    unfold numberAt at h
    simp only [faultAt] at h
    split at h
    · simp at h
    · split at h <;> split at h
      · exact .inr ⟨_, (Prod.mk.inj (Except.ok.inj h)).1.symm⟩
      · exact .inr ⟨_, (Prod.mk.inj (Except.ok.inj h)).1.symm⟩
      · exact .inr ⟨_, (Prod.mk.inj (Except.ok.inj h)).1.symm⟩
      · split at h
        · simp at h
        · exact .inl ⟨_, (Prod.mk.inj (Except.ok.inj h)).1.symm⟩
  rcases isNumber with ⟨_, rfl⟩ | ⟨_, rfl⟩ <;> simp [Joined]

theorem joined_of_atomAt {s rest : List Char} {v : Json} (h : atomAt s = .ok (v, rest)) :
    v.Joined := by
  unfold atomAt at h
  split at h
  · next r hr =>
    obtain ⟨w, hw, hm⟩ := List.exists_of_findSome?_eq_some hr
    obtain ⟨t, _, rfl⟩ := Option.map_eq_some_iff.mp hm
    simp only [Except.ok.injEq, Prod.mk.injEq] at h
    rw [← h.1]
    simp only [words, List.mem_cons, List.not_mem_nil, or_false] at hw
    rcases hw with rfl | rfl | rfl | rfl | rfl | rfl <;> trivial
  · exact joined_of_numberAt h

/-- What each of the three mutual readers gives with some fuel is joined. -/
structure GivesJoined (fuel : Nat) : Prop where
  value : ∀ room s v rest, valueAt fuel room s = .ok (v, rest) → v.Joined
  items : ∀ room done s v rest, ItemsJoined done → itemsAt fuel room done s = .ok (v, rest) →
    v.Joined
  members : ∀ room done s v rest, MembersJoined done → membersAt fuel room done s = .ok (v, rest) →
    v.Joined

theorem givesJoined_zero : GivesJoined 0 where
  value _ _ _ _ h := by simp [valueAt, faultAt] at h
  items _ _ _ _ _ _ h := by simp [itemsAt, faultAt] at h
  members _ _ _ _ _ _ h := by simp [membersAt, faultAt] at h

theorem joined_value_succ {fuel : Nat} (ih : GivesJoined fuel) (room : Nat) (s : List Char)
    (v : Json) (rest : List Char) (h : valueAt (fuel + 1) room s = .ok (v, rest)) : v.Joined := by
  rw [valueAt.eq_def] at h
  simp only [faultAt] at h
  -- A string, an object, an array, and whatever has no parts.
  split at h
  · next r =>
    cases hs : stringTail r with
    | error e => simp [hs, Except.map] at h
    | ok p =>
      simp only [hs, Except.map, Except.ok.injEq, Prod.mk.injEq] at h
      rw [← h.1]
      exact joined_of_stringTail r p.2 p.1 hs
  · split at h
    · simp at h
    · split at h
      · simp only [Except.ok.injEq, Prod.mk.injEq] at h
        rw [← h.1]
        trivial
      · exact ih.members _ [] _ _ _ (by simp [MembersJoined]) h
  · split at h
    · simp at h
    · split at h
      · simp only [Except.ok.injEq, Prod.mk.injEq] at h
        rw [← h.1]
        trivial
      · exact ih.items _ [] _ _ _ (by simp [ItemsJoined]) h
  · exact joined_of_atomAt h

theorem joined_items_succ {fuel : Nat} (ih : GivesJoined fuel) (room : Nat) (done : List Json)
    (s : List Char) (v : Json) (rest : List Char) (hd : ItemsJoined done)
    (h : itemsAt (fuel + 1) room done s = .ok (v, rest)) : v.Joined := by
  rw [itemsAt] at h
  split at h
  · simp at h
  · next w r hw =>
    have first := ih.value _ _ _ _ hw
    split at h
    · simp only [Except.ok.injEq, Prod.mk.injEq] at h
      rw [← h.1]
      -- The items are gathered in reverse.
      rw [itemsJoined_iff] at hd
      refine (itemsJoined_iff _).mpr fun u hu => ?_
      rcases List.mem_cons.mp (List.mem_reverse.mp hu) with rfl | hu
      · exact first
      · exact hd u hu
    · exact ih.items _ (w :: done) _ _ _ ⟨first, hd⟩ h
    · simp [faultAt] at h

theorem joined_members_succ {fuel : Nat} (ih : GivesJoined fuel) (room : Nat)
    (done : List (Points × Json)) (s : List Char) (v : Json) (rest : List Char)
    (hd : MembersJoined done) (h : membersAt (fuel + 1) room done s = .ok (v, rest)) :
    v.Joined := by
  rw [membersAt.eq_def] at h
  simp only [faultAt] at h
  split at h
  · split at h
    · simp at h
    · next name r hn =>
      have named := joined_of_stringTail _ _ _ hn
      split at h
      · split at h
        · simp at h
        · next w r hw =>
          have put := membersJoined_put named (ih.value _ _ _ _ hw) done hd
          split at h
          · simp only [Except.ok.injEq, Prod.mk.injEq] at h
            rw [← h.1]
            exact put
          · exact ih.members _ _ _ _ _ put h
          · simp at h
      · simp at h
  · simp at h

theorem givesJoined : ∀ fuel, GivesJoined fuel
  | 0 => givesJoined_zero
  | fuel + 1 =>
    have ih := givesJoined fuel
    ⟨joined_value_succ ih, joined_items_succ ih, joined_members_succ ih⟩

theorem joined_of_read {s : List Char} {v : Json} (h : read s = .ok v) : v.Joined := by
  unfold read at h
  split at h
  · simp [faultAt] at h
  · split at h
    · simp at h
    · next w r hw =>
      split at h
      · obtain rfl := Except.ok.inj h
        exact (givesJoined _).value _ _ _ _ hw
      · simp [faultAt] at h

end Reroute.Json
