import Reroute.Proofs.Json.Numbers
import Reroute.Proofs.Json.Strings

/-!
# Written values read back

The two written forms of a value differ only in the space between its parts, so
both are layouts of the value. The reader gives an exact value back from every
layout of it (`readBack_of_exact`), and so from the text of a file
(`read_fileText`).
-/

namespace Reroute.Json

/-- How the parts of a value are spread over a text: what stands in front of a part
that lies `depth` levels deep, and what stands after a colon. All of it is space. -/
structure Layout where
  gap : (depth : Nat) → List Char
  colon : List Char
  gap_space : ∀ depth, ∀ c ∈ gap depth, isSpace c = true
  colon_space : ∀ c ∈ colon, isSpace c = true

mutual

/-- The value in a layout, at the given depth. -/
def laidOut (l : Layout) (depth : Nat) : Json → List Char
  | .null => "null".toList
  | .bool true => "true".toList
  | .bool false => "false".toList
  | .int i => Text.integer i
  | .real x => number x
  | .str s => string s
  | .arr [] => ['[', ']']
  | .arr (v :: vs) =>
    '[' :: l.gap (depth + 1) ++ laidOut l (depth + 1) v ++ itemsTail l depth vs
  | .obj [] => ['{', '}']
  | .obj ((k, v) :: ms) =>
    '{' :: l.gap (depth + 1) ++ string k ++ ':' :: l.colon ++ laidOut l (depth + 1) v ++
      membersTail l depth ms

/-- The items after the first one, and the end of the array. -/
def itemsTail (l : Layout) (depth : Nat) : List Json → List Char
  | [] => l.gap depth ++ [']']
  | v :: vs => ',' :: l.gap (depth + 1) ++ laidOut l (depth + 1) v ++ itemsTail l depth vs

/-- The members after the first one, and the end of the object. -/
def membersTail (l : Layout) (depth : Nat) : List (Points × Json) → List Char
  | [] => l.gap depth ++ ['}']
  | (k, v) :: ms =>
    ',' :: l.gap (depth + 1) ++ string k ++ ':' :: l.colon ++ laidOut l (depth + 1) v ++
      membersTail l depth ms

end

mutual

def depth : Json → Nat
  | .arr vs => itemsDepth vs + 1
  | .obj ms => membersDepth ms + 1
  | _ => 0

def itemsDepth : List Json → Nat
  | [] => 0
  | v :: vs => max v.depth (itemsDepth vs)

def membersDepth : List (Points × Json) → Nat
  | [] => 0
  | (_, v) :: ms => max v.depth (membersDepth ms)

end

mutual

/-- A value that its text tells exactly: its numbers are whole and not too long, no
text in it holds a pair in two halves, and no object has two members of one
name. -/
def Exact : Json → Prop
  | .int i => (Text.decimal i.natAbs).length ≤ Text.maxDigits
  | .real _ => False
  | .str s => s.Joined
  | .arr vs => ItemsExact vs
  | .obj ms => MembersExact ms ∧ (ms.map (·.1)).Nodup
  | _ => True

def ItemsExact : List Json → Prop
  | [] => True
  | v :: vs => v.Exact ∧ ItemsExact vs

/-- Every name and every value is exact. -/
def MembersExact : List (Points × Json) → Prop
  | [] => True
  | (k, v) :: ms => k.Joined ∧ v.Exact ∧ MembersExact ms

end

/-! ## What the reader meets between the parts -/

theorem skipSpace_append (gap rest : List Char) (hg : ∀ c ∈ gap, isSpace c = true) :
    skipSpace (gap ++ rest) = skipSpace rest := by
  simp only [skipSpace, List.dropWhile_append_of_pos hg]

theorem skipSpace_cons (c : Char) (rest : List Char) (h : isSpace c = false) :
    skipSpace (c :: rest) = c :: rest := by
  simp [skipSpace, h]

theorem ended_append (gap : List Char) (c : Char) (rest : List Char)
    (hg : ∀ c ∈ gap, isSpace c = true) (hc : Ended (c :: rest)) : Ended (gap ++ c :: rest) := by
  cases gap with
  | nil => exact hc
  | cons d t =>
    intro e he
    obtain rfl : d = e := by simpa using he
    have := hg d (by simp)
    simp only [isSpace, Bool.or_eq_true, decide_eq_true_eq] at this
    rcases this with ((rfl | rfl) | rfl) | rfl <;> decide

theorem ended_cons {c : Char} (rest : List Char)
    (hc : c.isDigit = false ∧ c ≠ '.' ∧ c ≠ 'e' ∧ c ≠ 'E') : Ended (c :: rest) := by
  intro d hd
  obtain rfl : c = d := by simpa using hd
  exact hc

theorem isSpace_of_isDigit (c : Char) (hc : c.isDigit = true) :
    isSpace c = false ∧ c ≠ ']' ∧ c.toNat < 0x80 := by
  simp only [Char.isDigit, Bool.and_eq_true, decide_eq_true_eq, ge_iff_le,
    UInt32.le_iff_toNat_le] at hc
  have small : c.toNat < 0x80 := by
    have : c.toNat ≤ 57 := hc.2
    omega
  refine ⟨?_, ?_, small⟩
  · cases h : isSpace c with
    | false => rfl
    | true =>
      simp only [isSpace, Bool.or_eq_true, decide_eq_true_eq] at h
      rcases h with ((rfl | rfl) | rfl) | rfl <;> revert hc <;> decide
  · intro close
    rw [close] at hc
    revert hc
    decide

/-- A value starts with a character that is neither space nor the end of a
container. -/
theorem laidOut_eq_cons (l : Layout) (depth : Nat) (v : Json) (hv : v.Exact) :
    ∃ c s, laidOut l depth v = c :: s ∧ isSpace c = false ∧ c ≠ ']' ∧ c.toNat < 0x80 := by
  cases v with
  | null => exact ⟨_, _, rfl, by decide, by decide, by decide⟩
  | bool b => cases b <;> exact ⟨_, _, rfl, by decide, by decide, by decide⟩
  | int i =>
    obtain ⟨c, s, hs, hc⟩ := Text.decimal_eq_digit_cons i.natAbs
    simp only [laidOut, Text.integer]
    split
    · exact ⟨'-', _, rfl, by decide, by decide, by decide⟩
    · exact ⟨c, s, hs, isSpace_of_isDigit c hc⟩
  | real x => exact absurd hv (by simp [Exact])
  | str s => exact ⟨_, _, rfl, by decide, by decide, by decide⟩
  | arr vs => cases vs <;> exact ⟨'[', _, rfl, by decide, by decide, by decide⟩
  | obj ms =>
    cases ms with
    | nil => exact ⟨'{', _, rfl, by decide, by decide, by decide⟩
    | cons m ms => exact ⟨'{', _, rfl, by decide, by decide, by decide⟩

/-! ## The steps of the reader -/

theorem valueAt_emptyArray (fuel room : Nat) (r rest : List Char) (hroom : room ≠ 0)
    (hr : skipSpace r = ']' :: rest) :
    valueAt (fuel + 1) room ('[' :: r) = .ok (.arr [], rest) := by
  rw [valueAt, if_neg hroom, hr]
  rfl

theorem valueAt_array (fuel room : Nat) (r s : List Char) (c : Char) (hroom : room ≠ 0)
    (hr : skipSpace r = c :: s) (hc : c ≠ ']') :
    valueAt (fuel + 1) room ('[' :: r) = itemsAt fuel (room - 1) [] (c :: s) := by
  rw [valueAt, if_neg hroom, hr]
  simp [hc]

theorem valueAt_emptyObject (fuel room : Nat) (r rest : List Char) (hroom : room ≠ 0)
    (hr : skipSpace r = '}' :: rest) :
    valueAt (fuel + 1) room ('{' :: r) = .ok (.obj [], rest) := by
  rw [valueAt, if_neg hroom, hr]
  rfl

theorem valueAt_object (fuel room : Nat) (r s : List Char) (hroom : room ≠ 0)
    (hr : skipSpace r = '"' :: s) :
    valueAt (fuel + 1) room ('{' :: r) = membersAt fuel (room - 1) [] ('"' :: s) := by
  rw [valueAt, if_neg hroom, hr]
  rfl

section
variable {fuel room : Nat} {s r rest : List Char} {v : Json}

theorem itemsAt_last (done : List Json) (hv : valueAt fuel room s = .ok (v, r))
    (hr : skipSpace r = ']' :: rest) :
    itemsAt (fuel + 1) room done s = .ok (.arr (v :: done).reverse, rest) := by
  rw [itemsAt, hv]
  simp [hr]

theorem itemsAt_next (done : List Json) (hv : valueAt fuel room s = .ok (v, r))
    (hr : skipSpace r = ',' :: rest) :
    itemsAt (fuel + 1) room done s = itemsAt fuel room (v :: done) (skipSpace rest) := by
  rw [itemsAt, hv]
  simp [hr]

variable {t after : List Char} {name : Points}

theorem membersAt_last (done : List (Points × Json)) (hn : stringTail s = .ok (name, t))
    (hc : skipSpace t = ':' :: after) (hv : valueAt fuel room (skipSpace after) = .ok (v, r))
    (hr : skipSpace r = '}' :: rest) :
    membersAt (fuel + 1) room done ('"' :: s) = .ok (.obj (put name v done), rest) := by
  rw [membersAt, hn]
  simp [hc, hv, hr]

theorem membersAt_next (done : List (Points × Json)) (hn : stringTail s = .ok (name, t))
    (hc : skipSpace t = ':' :: after) (hv : valueAt fuel room (skipSpace after) = .ok (v, r))
    (hr : skipSpace r = ',' :: rest) :
    membersAt (fuel + 1) room done ('"' :: s) =
      membersAt fuel room (put name v done) (skipSpace rest) := by
  rw [membersAt, hn]
  simp [hc, hv, hr]

end

theorem valueAt_integer (i : Int) (fuel room : Nat) (rest : List Char) (hr : Ended rest)
    (hi : (Text.decimal i.natAbs).length ≤ Text.maxDigits) :
    valueAt (fuel + 1) room (Text.integer i ++ rest) = .ok (.int i, rest) := by
  have atom := atomAt_integer i rest hr hi
  obtain ⟨c, s, hs, hc⟩ := Text.decimal_eq_digit_cons i.natAbs
  have head : ∃ d t, Text.integer i ++ rest = d :: t ∧ d ≠ '"' ∧ d ≠ '{' ∧ d ≠ '[' := by
    unfold Text.integer
    split
    · exact ⟨'-', _, rfl, by decide, by decide, by decide⟩
    · rw [hs]
      exact ⟨c, _, rfl, ne_of_isDigit hc rfl, ne_of_isDigit hc rfl, ne_of_isDigit hc rfl⟩
  obtain ⟨d, t, ht, hq, hb, ha⟩ := head
  rw [ht] at atom ⊢
  rw [valueAt]
  · exact atom
  all_goals simp_all

theorem put_of_not_mem (name : Points) (v : Json) (ms : List (Points × Json))
    (h : name ∉ ms.map (·.1)) : put name v ms = ms ++ [(name, v)] := by
  induction ms with
  | nil => rfl
  | cons m ms ih =>
    simp only [List.map_cons, List.mem_cons, not_or] at h
    rw [put, if_neg (Ne.symm h.1), ih h.2, List.cons_append]

theorem fresh_of_nodup {k : Points} {v : Json} {done ms : List (Points × Json)}
    (h : ((done ++ (k, v) :: ms).map (·.1)).Nodup) : k ∉ done.map (·.1) := by
  rw [List.map_append, List.nodup_append] at h
  intro hk
  exact h.2.2 k hk k (by simp) rfl

theorem exists_fuel (n fuel : Nat) (h : n + 1 ≤ fuel) : ∃ f, fuel = f + 1 ∧ n ≤ f :=
  ⟨fuel - 1, by omega, by omega⟩

/-- Space in front of a value is passed over, and no more. -/
theorem skipSpace_laidOut (l : Layout) (depth : Nat) (v : Json) (hv : v.Exact)
    (gap rest : List Char) (hg : ∀ c ∈ gap, isSpace c = true) :
    skipSpace (gap ++ (laidOut l depth v ++ rest)) = laidOut l depth v ++ rest := by
  obtain ⟨c, s, hs, hc, _⟩ := laidOut_eq_cons l depth v hv
  rw [skipSpace_append _ _ hg, hs, List.cons_append, skipSpace_cons c _ hc]

theorem skipSpace_close (l : Layout) (depth : Nat) (c : Char) (rest : List Char)
    (hc : isSpace c = false) : skipSpace (l.gap depth ++ c :: rest) = c :: rest := by
  rw [skipSpace_append _ _ (l.gap_space depth), skipSpace_cons c rest hc]

/-- What the reader makes of a layout of `v`, with fuel for its length, in front of
anything that does not go on with a number. -/
def ReadBack (l : Layout) (depth room : Nat) (v : Json) : Prop :=
  ∀ fuel rest, Ended rest → 2 * (laidOut l depth v).length ≤ fuel →
    valueAt fuel room (laidOut l depth v ++ rest) = .ok (v, rest)

-- Along the value, its items and its members at once. The lists are read with what is
-- done so far in hand, so their statements speak of any `done`; each unit of fuel goes
-- with a character that was read, which is why the length of the text is enough.
mutual

/-- The reader gives an exact value back from any layout of it. -/
theorem readBack_of_exact (l : Layout) (depth room : Nat) :
    (v : Json) → v.Exact → v.depth ≤ room → ReadBack l depth room v
  | .null, _, _, fuel, rest, _, hf => by
    obtain ⟨f, rfl, _⟩ := exists_fuel 0 fuel (by simp [laidOut] at hf; omega)
    rfl
  | .bool true, _, _, fuel, rest, _, hf => by
    obtain ⟨f, rfl, _⟩ := exists_fuel 0 fuel (by simp [laidOut] at hf; omega)
    rfl
  | .bool false, _, _, fuel, rest, _, hf => by
    obtain ⟨f, rfl, _⟩ := exists_fuel 0 fuel (by simp [laidOut] at hf; omega)
    rfl
  | .int i, hv, _, fuel, rest, hr, hf => by
    obtain ⟨c, s, hs, _⟩ := laidOut_eq_cons l depth (.int i) hv
    obtain ⟨f, rfl, _⟩ := exists_fuel 0 fuel (by rw [hs, List.length_cons] at hf; omega)
    exact valueAt_integer i f room rest hr hv
  | .real _, hv, _, _, _, _, _ => by simp [Exact] at hv
  | .str s, hv, _, fuel, rest, _, hf => by
    obtain ⟨f, rfl, _⟩ := exists_fuel 0 fuel (by simp [laidOut, string] at hf; omega)
    simp only [laidOut, string, List.cons_append, List.append_assoc, List.nil_append]
    rw [valueAt, stringTail_string s hv rest]
    rfl
  | .arr [], _, hd, fuel, rest, _, hf => by
    obtain ⟨f, rfl, _⟩ := exists_fuel 0 fuel (by simp [laidOut] at hf; omega)
    simp only [Json.depth, itemsDepth] at hd
    exact valueAt_emptyArray f room _ rest (by omega) (skipSpace_cons ']' rest (by decide))
  | .arr (v :: vs), hv, hd, fuel, rest, _, hf => by
    simp only [Exact, ItemsExact] at hv
    simp only [Json.depth, itemsDepth] at hd
    simp only [laidOut, List.cons_append, List.append_assoc, List.length_cons,
      List.length_append] at hf ⊢
    obtain ⟨f, rfl, enough⟩ := exists_fuel (2 * ((laidOut l (depth + 1) v).length +
      (itemsTail l depth vs).length)) fuel (by omega)
    -- The first item does not start with a bracket that closes, so the array goes on.
    obtain ⟨c, s, hs, _, hclose, _⟩ := laidOut_eq_cons l (depth + 1) v hv.1
    have start := skipSpace_laidOut l (depth + 1) v hv.1 (l.gap (depth + 1))
      (itemsTail l depth vs ++ rest) (l.gap_space _)
    have items := itemsAt_laidOut l depth (room - 1) rest vs v f [] hv.2 (by omega) enough
      (readBack_of_exact l (depth + 1) (room - 1) v hv.1 (by omega))
    rw [hs, List.cons_append] at start items ⊢
    rw [valueAt_array f room _ _ c (by omega) start hclose, items]
    rfl
  | .obj [], _, hd, fuel, rest, _, hf => by
    obtain ⟨f, rfl, _⟩ := exists_fuel 0 fuel (by simp [laidOut] at hf; omega)
    simp only [Json.depth, membersDepth] at hd
    exact valueAt_emptyObject f room _ rest (by omega) (skipSpace_cons '}' rest (by decide))
  | .obj ((k, v) :: ms), hv, hd, fuel, rest, _, hf => by
    simp only [Exact, MembersExact] at hv
    simp only [Json.depth, membersDepth] at hd
    simp only [laidOut, List.cons_append, List.append_assoc, List.length_cons,
      List.length_append] at hf ⊢
    obtain ⟨f, rfl, enough⟩ := exists_fuel (2 * ((laidOut l (depth + 1) v).length +
      (membersTail l depth ms).length)) fuel (by omega)
    have start := skipSpace_append (l.gap (depth + 1)) (string k ++ ':' :: (l.colon ++
      (laidOut l (depth + 1) v ++ (membersTail l depth ms ++ rest)))) (l.gap_space _)
    have members := membersAt_laidOut l depth (room - 1) rest ms k v f [] hv.1.1 hv.1.2.1
      hv.1.2.2 (by simpa using hv.2) (by omega) enough
      (readBack_of_exact l (depth + 1) (room - 1) v hv.1.2.1 (by omega))
    rw [valueAt_object f room _ _ (by omega) start]
    exact members

theorem itemsAt_laidOut (l : Layout) (depth room : Nat) (rest : List Char) :
    (vs : List Json) → (v : Json) → (fuel : Nat) → (done : List Json) → ItemsExact vs →
    itemsDepth vs ≤ room →
    2 * ((laidOut l (depth + 1) v).length + (itemsTail l depth vs).length) ≤ fuel →
    ReadBack l (depth + 1) room v →
    itemsAt fuel room done (laidOut l (depth + 1) v ++ (itemsTail l depth vs ++ rest)) =
      .ok (.arr (done.reverse ++ v :: vs), rest)
  | [], v, fuel, done, _, _, hf, first => by
    simp only [itemsTail, List.length_append, List.length_cons] at hf
    obtain ⟨f, rfl, enough⟩ := exists_fuel (2 * (laidOut l (depth + 1) v).length) fuel (by omega)
    have ended : Ended (l.gap depth ++ ']' :: rest) :=
      ended_append _ _ _ (l.gap_space depth) (ended_cons rest (by decide))
    simp only [itemsTail, List.append_assoc, List.cons_append, List.nil_append]
    rw [itemsAt_last done (first f _ ended enough) (skipSpace_close l depth ']' rest (by decide))]
    simp
  | w :: vs, v, fuel, done, hv, hd, hf, first => by
    simp only [ItemsExact] at hv
    simp only [itemsDepth] at hd
    simp only [itemsTail, List.length_append, List.length_cons] at hf
    obtain ⟨f, rfl, enough⟩ := exists_fuel (2 * ((laidOut l (depth + 1) v).length +
      (laidOut l (depth + 1) w).length + (itemsTail l depth vs).length)) fuel (by omega)
    have next := itemsAt_laidOut l depth room rest vs w f (v :: done) hv.2 (by omega) (by omega)
      (readBack_of_exact l (depth + 1) room w hv.1 (by omega))
    have start := skipSpace_laidOut l (depth + 1) w hv.1 (l.gap (depth + 1))
      (itemsTail l depth vs ++ rest) (l.gap_space _)
    simp only [itemsTail, List.append_assoc, List.cons_append]
    have value := first f (',' :: (l.gap (depth + 1) ++ (laidOut l (depth + 1) w ++
      (itemsTail l depth vs ++ rest)))) (ended_cons _ (by decide)) (by omega)
    rw [itemsAt_next done value (skipSpace_cons ',' _ (by decide)), start, next]
    simp

theorem membersAt_laidOut (l : Layout) (depth room : Nat) (rest : List Char) :
    (ms : List (Points × Json)) → (k : Points) → (v : Json) → (fuel : Nat) →
    (done : List (Points × Json)) → k.Joined → v.Exact → MembersExact ms →
    ((done ++ (k, v) :: ms).map (·.1)).Nodup → membersDepth ms ≤ room →
    2 * ((laidOut l (depth + 1) v).length + (membersTail l depth ms).length) ≤ fuel →
    ReadBack l (depth + 1) room v →
    membersAt fuel room done (string k ++ ':' :: (l.colon ++ (laidOut l (depth + 1) v ++
      (membersTail l depth ms ++ rest)))) = .ok (.obj (done ++ (k, v) :: ms), rest)
  | [], k, v, fuel, done, hk, hv, _, nodup, _, hf, first => by
    simp only [membersTail, List.length_append, List.length_cons] at hf
    obtain ⟨f, rfl, enough⟩ := exists_fuel (2 * (laidOut l (depth + 1) v).length) fuel (by omega)
    have ended : Ended (l.gap depth ++ '}' :: rest) :=
      ended_append _ _ _ (l.gap_space depth) (ended_cons rest (by decide))
    have value := first f _ ended enough
    -- The space after the colon is passed over before the value is read.
    rw [← skipSpace_laidOut l (depth + 1) v hv l.colon _ l.colon_space] at value
    simp only [membersTail, string, List.append_assoc, List.cons_append, List.nil_append]
    rw [membersAt_last done (stringTail_string k hk _) (skipSpace_cons ':' _ (by decide)) value
      (skipSpace_close l depth '}' rest (by decide)),
      put_of_not_mem k v done (fresh_of_nodup nodup)]
  | (k', v') :: ms, k, v, fuel, done, hk, hv, hms, nodup, hd, hf, first => by
    simp only [MembersExact] at hms
    simp only [membersDepth] at hd
    simp only [membersTail, List.length_append, List.length_cons] at hf
    obtain ⟨f, rfl, enough⟩ := exists_fuel (2 * ((laidOut l (depth + 1) v).length +
      (laidOut l (depth + 1) v').length + (membersTail l depth ms).length)) fuel (by omega)
    have value := first f (',' :: (l.gap (depth + 1) ++ (string k' ++ ':' :: (l.colon ++
      (laidOut l (depth + 1) v' ++ (membersTail l depth ms ++ rest))))))
      (ended_cons _ (by decide)) (by omega)
    rw [← skipSpace_laidOut l (depth + 1) v hv l.colon _ l.colon_space] at value
    have next := membersAt_laidOut l depth room rest ms k' v' f (done ++ [(k, v)]) hms.1 hms.2.1
      hms.2.2 (by simpa using nodup) (by omega) (by omega)
      (readBack_of_exact l (depth + 1) room v' hms.2.1 (by omega))
    have start := skipSpace_append (l.gap (depth + 1)) (string k' ++ ':' :: (l.colon ++
      (laidOut l (depth + 1) v' ++ (membersTail l depth ms ++ rest)))) (l.gap_space _)
    simp only [membersTail, string, List.append_assoc, List.cons_append,
      List.nil_append] at value next start ⊢
    rw [membersAt_next done (stringTail_string k hk _) (skipSpace_cons ':' _ (by decide)) value
      (skipSpace_cons ',' _ (by decide)), put_of_not_mem k v done (fresh_of_nodup nodup), start,
      skipSpace_cons '"' _ (by decide), next]

end

/-! ## Whole texts -/

theorem read_laidOut (l : Layout) (v : Json) (hv : v.Exact) (hd : v.depth ≤ maxDepth)
    (after : List Char) (ha : ∀ c ∈ after, isSpace c = true) :
    read (laidOut l 0 v ++ after) = .ok v := by
  obtain ⟨c, s, hs, _, _, small⟩ := laidOut_eq_cons l 0 v hv
  -- A value starts with an ASCII character, which no byte order mark is.
  have noMark : ¬ (laidOut l 0 v ++ after).head? = some (Char.ofNat 0xFEFF) := by
    rw [hs]
    simp only [List.cons_append, List.head?_cons, Option.some.injEq]
    intro mark
    rw [mark] at small
    revert small
    decide
  have ended : Ended after := by
    intro d hd
    have := ended_append after ']' [] ha (ended_cons [] (by decide))
    cases after with
    | nil => simp at hd
    | cons e t => exact this d (by simpa using hd)
  have start := skipSpace_laidOut l 0 v hv [] after (by simp)
  have stop : skipSpace after = [] := by
    have := skipSpace_append after [] ha
    rwa [List.append_nil] at this
  have value := readBack_of_exact l 0 maxDepth v hv hd
    (2 * (laidOut l 0 v ++ after).length + 2) after ended (by simp; omega)
  unfold read
  rw [if_neg noMark, ← List.nil_append (laidOut l 0 v ++ after), start, List.nil_append, value]
  simp [stop]

def fileLayout : Layout where
  gap := newLine
  colon := [' ']
  gap_space := by
    intro depth c hc
    simp only [newLine, List.mem_cons, List.mem_replicate] at hc
    rcases hc with rfl | ⟨_, rfl⟩ <;> decide
  colon_space := by simp [isSpace]

mutual

theorem laidOut_fileLayout (depth : Nat) :
    (v : Json) → laidOut fileLayout depth v = indentedAt depth v
  | .null => rfl
  | .bool true => rfl
  | .bool false => rfl
  | .int _ => rfl
  | .real _ => rfl
  | .str _ => rfl
  | .arr [] => rfl
  | .arr (v :: vs) => by
    simp only [laidOut, indentedAt, laidOut_fileLayout (depth + 1) v, itemsTail_fileLayout depth vs,
      List.append_assoc]
    rfl
  | .obj [] => rfl
  | .obj ((k, v) :: ms) => by
    simp only [laidOut, indentedAt, laidOut_fileLayout (depth + 1) v,
      membersTail_fileLayout depth ms, List.append_assoc]
    simp [fileLayout]

theorem itemsTail_fileLayout (depth : Nat) : (vs : List Json) →
    itemsTail fileLayout depth vs = indentedItems (depth + 1) vs ++ newLine depth ++ [']']
  | [] => rfl
  | v :: vs => by
    simp only [itemsTail, indentedItems, laidOut_fileLayout (depth + 1) v,
      itemsTail_fileLayout depth vs, List.append_assoc]
    simp [fileLayout]

theorem membersTail_fileLayout (depth : Nat) : (ms : List (Points × Json)) →
    membersTail fileLayout depth ms = indentedMembers (depth + 1) ms ++ newLine depth ++ ['}']
  | [] => rfl
  | (k, v) :: ms => by
    simp only [membersTail, indentedMembers, laidOut_fileLayout (depth + 1) v,
      membersTail_fileLayout depth ms, List.append_assoc]
    simp [fileLayout]

end

/-- The reader gives an exact value back from the text of its file. -/
theorem read_fileText (v : Json) (hv : v.Exact) (hd : v.depth ≤ maxDepth) :
    read v.fileText.toList = .ok v := by
  unfold fileText
  rw [String.toList_ofList, ← laidOut_fileLayout]
  exact read_laidOut fileLayout v hv hd ['\n'] (by simp [isSpace])

end Reroute.Json
