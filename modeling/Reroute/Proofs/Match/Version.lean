import Mathlib.Data.Set.Function
import Reroute.Match.RuleSet
import Reroute.Proofs.Json.Canonical
import Reroute.Proofs.RuleFile.RoundTrip
import Reroute.Proofs.Text.Utf8

/-!
# Versions

The fingerprint of a value is a digest of the bytes of its canonical text. Where no
two of the digested byte sequences have one digest, it tells the value up to the
order of members (`fingerprint_eq_iff_alike`). In the stored form of a rule the members
stand in order already, and a list has an order of its own, so the version of a rule
list tells the list (`version_eq_iff`).
-/

namespace Reroute

namespace Json

/-- The bytes that the fingerprint of a value is the digest of. -/
def hashed (v : Json) : List UInt8 := (String.ofList v.canonical).toUTF8.toList

theorem hashed_eq_iff (v w : Json) : v.hashed = w.hashed ↔ v.canonical = w.canonical := by
  refine ⟨fun same => ?_, fun same => by rw [hashed, hashed, same]⟩
  have read (u : Json) : Text.decodeLossyFrom [] none u.hashed = u.canonical := by
    rw [hashed, Text.decodeLossyFrom_toUTF8, String.toList_ofList]
  rw [← read v, same, read w]

section
variable {inputs : Set (List UInt8)} (free : Set.InjOn Digest.sha256 inputs)
include free

theorem fingerprint_eq_iff_alike {v w : Json} (hv : v.Exact) (hw : w.Exact)
    (mem : v.hashed ∈ inputs) (mem' : w.hashed ∈ inputs) :
    v.fingerprint = w.fingerprint ↔ v.Alike w := by
  calc v.fingerprint = w.fingerprint ↔ v.hashed = w.hashed := free.eq_iff mem mem'
    _ ↔ v.canonical = w.canonical := hashed_eq_iff v w
    _ ↔ v.Alike w := canonical_eq_iff_alike hv hw

end

end Json

namespace Rule

theorem listToJson_injective : Function.Injective listToJson := by
  intro rules rules' same
  have parsed := Shape.parse_listToJson rules
  rw [same, Shape.parse_listToJson rules'] at parsed
  exact (Except.ok.inj parsed).symm

theorem sorted_toJson (r : Rule) : r.toJson.sorted = r.toJson := by
  have le : Json.NameLe (("from" : Points), Json.str r.source) (("to" : Points), .str r.destination) := by
    show ("from" : Points).codes ≤ ("to" : Points).codes
    decide
  simp [toJson, Json.sorted, Json.sortedMembers, le]

theorem sorted_listToJson (rules : List Rule) :
    (listToJson rules).sorted = listToJson rules := by
  have items : Json.sortedItems (rules.map toJson) = rules.map toJson := by
    induction rules with
    | nil => rfl
    | cons r rules ih => rw [List.map_cons, Json.sortedItems, sorted_toJson, ih]
  rw [listToJson, Json.sorted, items]

/-- Nothing in the stored form of a list can stand in another order. -/
theorem alike_listToJson_iff (rules rules' : List Rule) (joined : ∀ r ∈ rules', r.Joined) :
    (listToJson rules).Alike (listToJson rules') ↔ rules = rules' := by
  constructor
  · intro alike
    have same := Json.sorted_eq_of_alike _ _ (RuleFile.exact_listToJson rules' joined) alike
    rw [sorted_listToJson, sorted_listToJson] at same
    exact listToJson_injective same
  · rintro rfl
    exact Json.alike_of_sorted_eq _ _ rfl

/-- Two values that their texts tell exactly have one canonical text exactly if they
are equal up to the order of the members of objects, at every depth. So, where no two of
the byte sequences in question have one digest, two rule lists have one version
exactly if they are the same list. -/
theorem version_eq_iff :
    (∀ v w : Json, v.Exact → w.Exact → (v.canonical = w.canonical ↔ v.Alike w)) ∧
      ∀ inputs : Set (List UInt8), Set.InjOn Digest.sha256 inputs →
        ∀ rules rules' : List Rule, (∀ r ∈ rules, r.Joined) → (∀ r ∈ rules', r.Joined) →
          (listToJson rules).hashed ∈ inputs → (listToJson rules').hashed ∈ inputs →
          (version rules = version rules' ↔ rules = rules') := by
  refine ⟨fun v w hv hw => Json.canonical_eq_iff_alike hv hw, ?_⟩
  intro inputs free rules rules' joined joined' mem mem'
  calc version rules = version rules' ↔ (listToJson rules).Alike (listToJson rules') :=
        Json.fingerprint_eq_iff_alike free (RuleFile.exact_listToJson rules joined)
          (RuleFile.exact_listToJson rules' joined') mem mem'
    _ ↔ rules = rules' := alike_listToJson_iff rules rules' joined'

/-- Members in another order, two levels deep, leave the canonical text as it is; two
rules in another order make another version. -/
theorem version_eq_iff_reordered :
    (Json.obj [("b", .obj [("y", .null), ("x", .int 2)]), ("a", .text "\"")]).canonical =
        (Json.obj [("a", .text "\""), ("b", .obj [("x", .int 2), ("y", .null)])]).canonical ∧
      ∃ inputs : Set (List UInt8), Set.InjOn Digest.sha256 inputs ∧
        (listToJson [⟨"a", "b"⟩, ⟨"c", "d"⟩]).hashed ∈ inputs ∧
        (listToJson [⟨"c", "d"⟩, ⟨"a", "b"⟩]).hashed ∈ inputs ∧
        version [⟨"a", "b"⟩, ⟨"c", "d"⟩] ≠ version [⟨"c", "d"⟩, ⟨"a", "b"⟩] := by
  constructor
  · have outer : (["b", "a"] : List Points).Nodup ∧ (["a", "b"] : List Points).Nodup := by decide
    have inner : (["y", "x"] : List Points).Nodup ∧ (["x", "y"] : List Points).Nodup := by decide
    have digits : (Text.decimal (2 : Int).natAbs).length ≤ Text.maxDigits := by decide +kernel
    have joined (s : String) : (s : Points).Joined := Points.joined_ofList _
    refine (version_eq_iff.1 _ _ ?_ ?_).mpr ?_
    · exact ⟨⟨joined _, ⟨⟨joined _, trivial, joined _, digits, trivial⟩, inner.1⟩,
        joined _, joined _, trivial⟩, outer.1⟩
    · exact ⟨⟨joined _, joined _, joined _, ⟨⟨joined _, digits, joined _, trivial, trivial⟩,
        inner.2⟩, trivial⟩, outer.2⟩
    · exact ⟨_, .swap _ _ _, rfl, ⟨_, .swap _ _ _, rfl, rfl, rfl, rfl, trivial⟩, rfl, rfl, trivial⟩
  · have joined (s t : String) : (Rule.mk s t).Joined :=
      ⟨Points.joined_ofList _, Points.joined_ofList _⟩
    have apart : Digest.sha256 (listToJson [⟨"a", "b"⟩, ⟨"c", "d"⟩]).hashed ≠
        Digest.sha256 (listToJson [⟨"c", "d"⟩, ⟨"a", "b"⟩]).hashed := by decide +kernel
    have free : Set.InjOn Digest.sha256 {(listToJson [⟨"a", "b"⟩, ⟨"c", "d"⟩]).hashed,
        (listToJson [⟨"c", "d"⟩, ⟨"a", "b"⟩]).hashed} :=
      Set.injOn_pair.mpr fun same => absurd same apart
    refine ⟨_, free, .inl rfl, .inr rfl, fun same => ?_⟩
    have list := (version_eq_iff.2 _ free _ _ (by simp [joined]) (by simp [joined]) (.inl rfl)
      (.inr rfl)).mp same
    revert list
    decide

end Rule

end Reroute
