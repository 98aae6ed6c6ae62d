import Mathlib.Data.List.Sort
import Reroute.Proofs.Json.Layout

/-!
# One text for the values that differ in the order of members

The canonical text of a value is a layout without space, of the value in which the
members of every object stand in the order of their names (`canonical_eq_laidOut`). A
layout is read back, so the canonical text tells that value; and two exact values
have it in common exactly if one becomes the other by putting the members of
objects, at whatever depth, in another order (`canonical_eq_iff_alike`).
-/

namespace Reroute.Json

/-! ## Names in order -/

section
variable {α : Type}

/-- The name of `m` does not come after the name of `n`. -/
def NameLe (m n : Points × α) : Prop := m.1.codes ≤ n.1.codes

instance (m n : Points × α) : Decidable (NameLe m n) :=
  inferInstanceAs (Decidable (m.1.codes ≤ n.1.codes))

instance : IsTrans (Points × α) NameLe := ⟨fun _ _ _ => le_trans⟩

instance : Std.Total (α := Points × α) NameLe :=
  ⟨fun m n => le_total m.1.codes n.1.codes⟩

theorem nameLe_iff (m n : Points × α) : NameLe m n ↔ ¬ n.1 < m.1 := (not_lt (α := List Nat)).symm

theorem eq_of_nameLe {m n : Points × α} (h : NameLe m n) (h' : NameLe n m) : m.1 = n.1 := by
  have codes : m.1.codes = n.1.codes := le_antisymm h h'
  rw [← Points.ofCodes_codes m.1, codes, Points.ofCodes_codes]

/-- Members of which no two have one name have one order by name. -/
theorem insertionSort_eq_of_perm {ms ns : List (Points × α)} (names : (ns.map (·.1)).Nodup)
    (h : ms.Perm ns) : ms.insertionSort NameLe = ns.insertionSort NameLe := by
  have perm : (ms.insertionSort NameLe).Perm (ns.insertionSort NameLe) :=
    ((ms.perm_insertionSort NameLe).trans h).trans (ns.perm_insertionSort NameLe).symm
  refine perm.eq_of_pairwise (fun m n hm hn hmn hnm => ?_)
    (ms.pairwise_insertionSort NameLe) (ns.pairwise_insertionSort NameLe)
  have hm := h.mem_iff.mp ((List.mem_insertionSort NameLe).mp hm)
  have hn := (List.mem_insertionSort NameLe).mp hn
  exact List.inj_on_of_nodup_map names hm hn (eq_of_nameLe hmn hnm)

theorem insertByName_eq (m : Points × List Char) (ns : List (Points × List Char)) :
    insertByName m ns = ns.orderedInsert NameLe m := by
  induction ns with
  | nil => rfl
  | cons n ns ih =>
    rw [insertByName, List.orderedInsert_cons]
    by_cases h : n.1 < m.1
    · rw [if_pos h, if_neg fun le => (nameLe_iff m n).mp le h, ih]
    · rw [if_neg h, if_pos ((nameLe_iff m n).mpr h)]

theorem sortByName_eq (ns : List (Points × List Char)) : sortByName ns = ns.insertionSort NameLe := by
  induction ns with
  | nil => rfl
  | cons n ns ih =>
    rw [List.insertionSort_cons, ← ih, ← insertByName_eq]
    rfl

theorem sortByName_map (f : α → List Char) (ms : List (Points × α)) :
    sortByName (ms.map fun m => (m.1, f m.2)) =
      (ms.insertionSort NameLe).map fun m => (m.1, f m.2) := by
  rw [sortByName_eq]
  exact (List.map_insertionSort NameLe NameLe (fun m => (m.1, f m.2)) ms
    fun _ _ _ _ => Iff.rfl).symm

end

/-! ## The value that is written -/

mutual

/-- The value with the members of every object in the order of their names. -/
def sorted : Json → Json
  | .arr vs => .arr (sortedItems vs)
  | .obj ms => .obj ((sortedMembers ms).insertionSort NameLe)
  | v => v

def sortedItems : List Json → List Json
  | [] => []
  | v :: vs => sorted v :: sortedItems vs

/-- The members in their places, every value with its members in order. -/
def sortedMembers : List (Points × Json) → List (Points × Json)
  | [] => []
  | (k, v) :: ms => (k, sorted v) :: sortedMembers ms

end

theorem sortedMembers_eq_map (ms : List (Points × Json)) :
    sortedMembers ms = ms.map fun m => (m.1, sorted m.2) := by
  induction ms with
  | nil => rfl
  | cons m ms ih => rw [sortedMembers, ih, List.map_cons]

theorem names_sortedMembers (ms : List (Points × Json)) :
    (sortedMembers ms).map (·.1) = ms.map (·.1) := by
  rw [sortedMembers_eq_map, List.map_map]
  rfl

theorem membersExact_iff (ms : List (Points × Json)) :
    MembersExact ms ↔ ∀ m ∈ ms, m.1.Joined ∧ m.2.Exact := by
  induction ms with
  | nil => simp [MembersExact]
  | cons m ms ih => simp [MembersExact, ih, and_assoc]

mutual

theorem exact_sorted : (v : Json) → v.Exact → v.sorted.Exact
  | .null, h | .bool _, h | .int _, h | .real _, h | .str _, h => by simpa only [sorted] using h
  | .arr vs, h => by
    simp only [sorted, Exact] at h ⊢
    exact itemsExact_sortedItems vs h
  | .obj ms, h => by
    simp only [sorted, Exact] at h ⊢
    have perm := (sortedMembers ms).perm_insertionSort NameLe
    have members := membersExact_sortedMembers ms h.1
    rw [membersExact_iff] at members ⊢
    refine ⟨fun m hm => members m (perm.mem_iff.mp hm), ?_⟩
    rw [(perm.map _).nodup_iff, names_sortedMembers]
    exact h.2

theorem itemsExact_sortedItems : (vs : List Json) → ItemsExact vs → ItemsExact (sortedItems vs)
  | [], _ => trivial
  | v :: vs, h => ⟨exact_sorted v h.1, itemsExact_sortedItems vs h.2⟩

theorem membersExact_sortedMembers :
    (ms : List (Points × Json)) → MembersExact ms → MembersExact (sortedMembers ms)
  | [], _ => trivial
  | (_, v) :: ms, h => ⟨h.1, exact_sorted v h.2.1, membersExact_sortedMembers ms h.2.2⟩

end

/-! ## The layout without space -/

/-- The layout with nothing between the parts. -/
def tightLayout : Layout where
  gap _ := []
  colon := []
  gap_space := by simp
  colon_space := by simp

theorem append_itemsTail (depth : Nat) (t : List Char) (vs : List Json) :
    t ++ itemsTail tightLayout depth vs =
      withCommas (t :: vs.map (laidOut tightLayout (depth + 1))) ++ [']'] := by
  induction vs generalizing t with
  | nil => rfl
  | cons v vs ih =>
    have tail := ih (laidOut tightLayout (depth + 1) v)
    simp only [itemsTail, tightLayout, withCommas, List.map_cons, List.append_assoc,
      List.cons_append, List.nil_append] at tail ⊢
    rw [tail]

theorem laidOut_arr (depth : Nat) (vs : List Json) :
    laidOut tightLayout depth (.arr vs) =
      '[' :: withCommas (vs.map (laidOut tightLayout (depth + 1))) ++ [']'] := by
  cases vs with
  | nil => rfl
  | cons v vs => exact congrArg (List.cons '[') (append_itemsTail depth _ vs)

/-- A member in the layout without space. -/
def tightMember (depth : Nat) (m : Points × Json) : List Char :=
  string m.1 ++ ':' :: laidOut tightLayout depth m.2

theorem append_membersTail (depth : Nat) (t : List Char) (ms : List (Points × Json)) :
    t ++ membersTail tightLayout depth ms =
      withCommas (t :: ms.map (tightMember (depth + 1))) ++ ['}'] := by
  induction ms generalizing t with
  | nil => rfl
  | cons m ms ih =>
    have tail := ih (tightMember (depth + 1) m)
    simp only [membersTail, tightLayout, tightMember, withCommas, List.map_cons, List.append_assoc,
      List.cons_append, List.nil_append] at tail ⊢
    rw [tail]

theorem laidOut_obj (depth : Nat) (ms : List (Points × Json)) :
    laidOut tightLayout depth (.obj ms) =
      '{' :: withCommas (ms.map (tightMember (depth + 1))) ++ ['}'] := by
  cases ms with
  | nil => rfl
  | cons m ms =>
    rw [List.map_cons, List.cons_append, ← append_membersTail]
    simp [laidOut, tightMember, tightLayout]

mutual

/-- The canonical text is a layout of the value in order. -/
theorem canonical_eq_laidOut (depth : Nat) :
    (v : Json) → canonical v = laidOut tightLayout depth v.sorted
  | .null | .bool true | .bool false | .int _ | .real _ | .str _ => rfl
  | .arr vs => by
    rw [canonical, canonicalItems_eq (depth + 1) vs, sorted, laidOut_arr]
  | .obj ms => by
    rw [canonical, canonicalMembers_eq (depth + 1) ms, sortByName_map, sorted, laidOut_obj,
      List.map_map]
    rfl

theorem canonicalItems_eq (depth : Nat) : (vs : List Json) →
    canonicalItems vs = (sortedItems vs).map (laidOut tightLayout depth)
  | [] => rfl
  | v :: vs => by
    rw [canonicalItems, canonical_eq_laidOut depth v, canonicalItems_eq depth vs]
    rfl

theorem canonicalMembers_eq (depth : Nat) : (ms : List (Points × Json)) →
    canonicalMembers ms = (sortedMembers ms).map fun m => (m.1, laidOut tightLayout depth m.2)
  | [] => rfl
  | (k, v) :: ms => by
    rw [canonicalMembers, canonical_eq_laidOut depth v, canonicalMembers_eq depth ms]
    rfl

end

/-- In any layout an exact value is told by its text. -/
theorem laidOut_injective (l : Layout) (depth : Nat) {v w : Json} (hv : v.Exact) (hw : w.Exact)
    (same : laidOut l depth v = laidOut l depth w) : v = w := by
  have ended : Ended [] := by simp [Ended]
  -- Both values read back from the one text, with room for the deeper of them.
  have first := readBack_of_exact l depth (max v.depth w.depth) v hv (le_max_left _ _)
    (2 * (laidOut l depth v).length) [] ended le_rfl
  have second := readBack_of_exact l depth (max v.depth w.depth) w hw (le_max_right _ _)
    (2 * (laidOut l depth v).length) [] ended (by rw [same])
  rw [← same, first] at second
  exact (Prod.mk.inj (Except.ok.inj second)).1

/-! ## Values that differ in the order of members -/

mutual

/-- Equal up to the order of the members of objects, at every depth. -/
def Alike : Json → Json → Prop
  | .arr vs, .arr ws => ItemsAlike vs ws
  | .obj ms, .obj ns => ∃ ns', ns'.Perm ns ∧ MembersAlike ms ns'
  | v, w => v = w

def ItemsAlike : List Json → List Json → Prop
  | [], [] => True
  | v :: vs, w :: ws => v.Alike w ∧ ItemsAlike vs ws
  | _, _ => False

/-- Member by member of one name, with values that are alike. -/
def MembersAlike : List (Points × Json) → List (Points × Json) → Prop
  | [], [] => True
  | (k, v) :: ms, (k', w) :: ns => k = k' ∧ v.Alike w ∧ MembersAlike ms ns
  | _, _ => False

end

-- Along the first value. Where the second one has a name twice, the members of that name
-- keep the order they came in, so it has to be exact.
mutual

theorem sorted_eq_of_alike : (v w : Json) → w.Exact → v.Alike w → v.sorted = w.sorted
  | .arr vs, w, hw, h => by
    cases w with
    | arr ws =>
      simp only [Alike, Exact] at h hw
      rw [sorted, sorted, sortedItems_eq_of_alike vs ws hw h]
    | _ => simp [Alike] at h
  | .obj ms, w, hw, h => by
    cases w with
    | obj ns =>
      simp only [Alike, Exact] at h hw
      obtain ⟨ns', perm, h⟩ := h
      have exact' : MembersExact ns' := by
        rw [membersExact_iff] at hw ⊢
        exact fun m hm => hw.1 m (perm.mem_iff.mp hm)
      have perm' : (sortedMembers ns').Perm (sortedMembers ns) := by
        rw [sortedMembers_eq_map, sortedMembers_eq_map]
        exact perm.map _
      have names : ((sortedMembers ns).map (·.1)).Nodup := by
        rw [names_sortedMembers]
        exact hw.2
      rw [sorted, sorted, sortedMembers_eq_of_alike ms ns' exact' h,
        insertionSort_eq_of_perm names perm']
    | _ => simp [Alike] at h
  | .null, w, _, h | .bool _, w, _, h | .int _, w, _, h | .real _, w, _, h | .str _, w, _, h => by
    simp only [Alike] at h
    rw [h]

theorem sortedItems_eq_of_alike : (vs ws : List Json) → ItemsExact ws → ItemsAlike vs ws →
    sortedItems vs = sortedItems ws
  | [], [], _, _ => rfl
  | v :: vs, w :: ws, hw, h => by
    rw [sortedItems, sortedItems, sorted_eq_of_alike v w hw.1 h.1,
      sortedItems_eq_of_alike vs ws hw.2 h.2]
  | [], _ :: _, _, h | _ :: _, [], _, h => by simp [ItemsAlike] at h

theorem sortedMembers_eq_of_alike : (ms ns : List (Points × Json)) → MembersExact ns →
    MembersAlike ms ns → sortedMembers ms = sortedMembers ns
  | [], [], _, _ => rfl
  | (k, v) :: ms, (k', w) :: ns, hn, h => by
    obtain ⟨rfl, alike, h⟩ := h
    rw [sortedMembers, sortedMembers, sorted_eq_of_alike v w hn.2.1 alike,
      sortedMembers_eq_of_alike ms ns hn.2.2 h]
  | [], _ :: _, _, h | _ :: _, [], _, h => by simp [MembersAlike] at h

end

mutual

theorem alike_of_sorted_eq : (v w : Json) → v.sorted = w.sorted → v.Alike w
  | .arr vs, w, h => by
    cases w with
    | arr ws =>
      simp only [sorted, Json.arr.injEq] at h
      exact itemsAlike_of_sorted_eq vs ws h
    | _ => simp [sorted] at h
  | .obj ms, w, h => by
    cases w with
    | obj ns =>
      simp only [sorted, Json.obj.injEq] at h
      -- In order the members are the same list, which is each side's members in some order.
      have left := (sortedMembers ms).perm_insertionSort NameLe
      rw [h] at left
      have perm := left.symm.trans ((sortedMembers ns).perm_insertionSort NameLe)
      rw [sortedMembers_eq_map ns] at perm
      obtain ⟨ns', hms, perm'⟩ := (congrFun₂ (List.eq_map_comp_perm _) _ _).mpr perm
      simp only [Alike]
      refine ⟨ns', perm', membersAlike_of_sorted_eq ms ns' ?_⟩
      rw [hms, sortedMembers_eq_map]
    | _ => simp [sorted] at h
  | .null, w, h | .bool _, w, h | .int _, w, h | .real _, w, h | .str _, w, h => by
    cases w <;> simp_all [sorted, Alike]

theorem itemsAlike_of_sorted_eq : (vs ws : List Json) → sortedItems vs = sortedItems ws →
    ItemsAlike vs ws
  | [], [], _ => trivial
  | v :: vs, w :: ws, h => by
    simp only [sortedItems, List.cons.injEq] at h
    exact ⟨alike_of_sorted_eq v w h.1, itemsAlike_of_sorted_eq vs ws h.2⟩
  | [], _ :: _, h | _ :: _, [], h => by simp [sortedItems] at h

theorem membersAlike_of_sorted_eq : (ms ns : List (Points × Json)) →
    sortedMembers ms = sortedMembers ns → MembersAlike ms ns
  | [], [], _ => trivial
  | (k, v) :: ms, (k', w) :: ns, h => by
    simp only [sortedMembers, List.cons.injEq, Prod.mk.injEq] at h
    exact ⟨h.1.1, alike_of_sorted_eq v w h.1.2, membersAlike_of_sorted_eq ms ns h.2⟩
  | [], _ :: _, h | _ :: _, [], h => by simp [sortedMembers] at h

end

/-- Two exact values have one canonical text exactly if they are equal up to the order
of members. -/
theorem canonical_eq_iff_alike {v w : Json} (hv : v.Exact) (hw : w.Exact) :
    v.canonical = w.canonical ↔ v.Alike w := by
  rw [canonical_eq_laidOut 0 v, canonical_eq_laidOut 0 w]
  constructor
  · intro same
    exact alike_of_sorted_eq v w
      (laidOut_injective tightLayout 0 (exact_sorted v hv) (exact_sorted w hw) same)
  · intro alike
    rw [sorted_eq_of_alike v w hw alike]

end Reroute.Json
