import Reroute.Proofs.Json.Ascii
import Reroute.Proofs.Json.Joined
import Reroute.RuleFile.Format

/-!
# Rule files read back

A rule list whose texts are joined comes back from the JSON text that it is
written as (`parse_encode`), and every list that was read from JSON is of that
kind (`joined_of_parse`).
-/

namespace Reroute

namespace Rule

/-- Neither text of the rule holds a pair in two halves. -/
def Joined (r : Rule) : Prop := r.source.Joined ∧ r.destination.Joined

/-- The rule with the pairs in its texts united. -/
def unite (r : Rule) : Rule := ⟨r.source.unite, r.destination.unite⟩

theorem joined_unite (r : Rule) : r.unite.Joined :=
  ⟨r.source.joined_unite, r.destination.joined_unite⟩

theorem unite_of_joined {r : Rule} (h : r.Joined) : r.unite = r := by
  rw [unite, Points.unite_of_joined h.1, Points.unite_of_joined h.2]

theorem map_unite_of_joined {rules : List Rule} (h : ∀ r ∈ rules, r.Joined) :
    rules.map unite = rules := by
  calc rules.map unite = rules.map id := List.map_congr_left fun r hr => unite_of_joined (h r hr)
    _ = rules := List.map_id rules

theorem indentedAt_unite (depth : Nat) (r : Rule) :
    Json.indentedAt depth r.unite.toJson = Json.indentedAt depth r.toJson := by
  simp [toJson, unite, Json.indentedAt, Json.indentedMembers, Json.string_unite]

end Rule

namespace Datum

/-! ## Values without references -/

mutual

theorem unroll_none (outer : Datum) : (d : Datum) → unroll none outer d = d
  | .null | .bool _ | .int _ | .real _ | .noNumber _ | .str _ | .bytes _ | .date _ | .moment _
  | .set _ => by simp [unroll]
  | .again k b => by simp [unroll]
  | .list k vs => by rw [unroll, unrollAll_none outer vs]
  | .pair k a b => by rw [unroll, unroll_none outer a, unroll_none outer b]
  | .map k es => by rw [unroll, unrollEntries_none outer es]

theorem unrollAll_none (outer : Datum) : (vs : List Datum) → unrollAll none outer vs = vs
  | [] => rfl
  | v :: vs => by rw [unrollAll, unroll_none outer v, unrollAll_none outer vs]

theorem unrollEntries_none (outer : Datum) :
    (es : List (Datum × Datum)) → unrollEntries none outer es = es
  | [] => rfl
  | (k, v) :: es => by
    rw [unrollEntries, unroll_none outer k, unroll_none outer v, unrollEntries_none outer es]

end

theorem ofItems_eq_map (vs : List Json) : ofItems vs = vs.map ofJson := by
  induction vs with
  | nil => rfl
  | cons v vs ih => simp [ofItems, ih]

theorem ofMembers_eq_map (ms : List (Points × Json)) :
    ofMembers ms = ms.map fun m => (.str m.1, ofJson m.2) := by
  induction ms with
  | nil => rfl
  | cons m ms ih => simp [ofMembers, ih]

theorem items?_ofJson_arr (vs : List Json) :
    (ofJson (.arr vs)).items? = some (vs.map ofJson) := by
  simp [ofJson, items?, unrollAll_none, ofItems_eq_map]

theorem entries?_ofJson_obj (ms : List (Points × Json)) :
    (ofJson (.obj ms)).entries? = some (ms.map fun m => (.str m.1, ofJson m.2)) := by
  simp [ofJson, entries?, unrollEntries_none, ofMembers_eq_map]

theorem get?_ofJson_obj (name : Points) (ms : List (Points × Json)) :
    (ofJson (.obj ms)).get? name = (ms.find? fun m => m.1 = name).map fun m => ofJson m.2 := by
  simp only [get?, entries?_ofJson_obj, Option.bind_some, List.find?_map, Option.map_map]
  congr 1

theorem exists_of_items?_ofJson {v : Json} {items : List Datum}
    (h : (ofJson v).items? = some items) : ∃ vs, v = .arr vs ∧ items = vs.map ofJson := by
  cases v with
  | arr vs =>
    rw [items?_ofJson_arr] at h
    exact ⟨vs, rfl, (Option.some.inj h).symm⟩
  | real x =>
    simp only [ofJson] at h
    split at h <;> simp [items?] at h
  | _ => simp [ofJson, items?] at h

theorem entries?_ofJson (v : Json) :
    (∃ ms, v = .obj ms) ∨ (ofJson v).entries? = none := by
  cases v with
  | obj ms => exact .inl ⟨ms, rfl⟩
  | real x =>
    simp only [ofJson]
    split <;> exact .inr rfl
  | _ => exact .inr rfl

theorem eq_str_of_ofJson {v : Json} {s : Points} (h : ofJson v = .str s) : v = .str s := by
  cases v with
  | str t => rw [ofJson, Datum.str.injEq] at h; rw [h]
  | real x =>
    simp only [ofJson] at h
    split at h <;> simp at h
  | _ => simp [ofJson] at h

theorem mem_of_get?_ofJson {v : Json} {name s : Points} (h : (ofJson v).get? name = some (.str s)) :
    ∃ ms, v = .obj ms ∧ (name, Json.str s) ∈ ms := by
  rcases entries?_ofJson v with ⟨ms, rfl⟩ | none
  · rw [get?_ofJson_obj] at h
    obtain ⟨m, hm, hs⟩ := Option.map_eq_some_iff.mp h
    have named : m.1 = name := by simpa using List.find?_some hm
    refine ⟨ms, rfl, ?_⟩
    rw [← named, ← eq_str_of_ofJson hs]
    exact List.mem_of_find?_eq_some hm
  · simp [get?, none] at h

end Datum

namespace Shape

/-! ## Rules that were written -/

theorem textUnder_ofJson_obj (index : Nat) (key : String) (ms : List (Points × Json)) (s : Points)
    (h : (ms.find? fun m => m.1 = (key : Points)).map (·.2) = some (.str s)) :
    textUnder index key (Datum.ofJson (.obj ms)) = .ok (some s) := by
  obtain ⟨m, hm, hs⟩ := Option.map_eq_some_iff.mp h
  unfold textUnder
  rw [Datum.get?_ofJson_obj, hm, Option.map_some, hs]
  rfl

theorem ruleOf_toJson (index : Nat) (r : Rule) : ruleOf index (Datum.ofJson r.toJson) = .ok r := by
  have source := textUnder_ofJson_obj index sourceKey [("from", .str r.source),
    ("to", .str r.destination)] r.source rfl
  have destination := textUnder_ofJson_obj index destinationKey [("from", .str r.source),
    ("to", .str r.destination)] r.destination rfl
  have noMore : unexpectedKeys [(.str "from", Datum.ofJson (.str r.source)),
      (.str "to", Datum.ofJson (.str r.destination))] = [] := rfl
  unfold ruleOf
  simp only [Rule.toJson, Datum.entries?_ofJson_obj, List.map_cons, List.map_nil, source,
    destination, noMore]
  rfl

theorem rulesFrom_map_toJson (index : Nat) (rules : List Rule) :
    rulesFrom index (rules.map fun r => Datum.ofJson r.toJson) = .ok rules := by
  induction rules generalizing index with
  | nil => rfl
  | cons r rules ih =>
    rw [List.map_cons, rulesFrom, ruleOf_toJson, ih]
    rfl

theorem parse_listToJson (rules : List Rule) :
    parse (Datum.ofJson (Rule.listToJson rules)) = .ok rules := by
  have list : Datum.ofJson (Rule.listToJson rules) =
      .list none (rules.map fun r => Datum.ofJson r.toJson) := by
    simp [Rule.listToJson, Datum.ofJson, Datum.ofItems_eq_map]
  have items : (unwrap (.list none (rules.map fun r => Datum.ofJson r.toJson))).items? =
      some (rules.map fun r => Datum.ofJson r.toJson) := by
    simp [unwrap, Datum.get?, Datum.entries?, Datum.items?, Datum.unrollAll_none]
  rw [list]
  simp only [parse, items, rulesFrom_map_toJson]

theorem parse_congr {v w : Datum} (hv : v ≠ .null) (hw : w ≠ .null)
    (same : unwrap v = unwrap w) : parse v = parse w := by
  rw [parse, parse, same]
  · exact hw
  · exact hv

/-- A list stands for the same rules under the key `rules` of a map. -/
theorem parse_wrapped (vs : List Json) :
    parse (.ofJson (.obj [("rules", .arr vs)])) = parse (.ofJson (.arr vs)) := by
  have inner : (Datum.ofJson (.obj [("rules", .arr vs)])).get? "rules" =
      some (.ofJson (.arr vs)) := by
    rw [Datum.get?_ofJson_obj]
    simp
  have bare : (Datum.ofJson (.arr vs)).get? "rules" = none := by
    simp [Datum.get?, Datum.entries?, Datum.ofJson]
  apply parse_congr (by simp [Datum.ofJson]) (by simp [Datum.ofJson])
  rw [unwrap, inner, unwrap, bare]
  rfl

/-! ## Texts of the rules that were read -/

theorem get?_of_textUnder {index : Nat} {key : String} {d : Datum} {s : Points}
    (h : textUnder index key d = .ok (some s)) : d.get? key = some (.str s) := by
  unfold textUnder at h
  split at h
  · simp at h
  · next t ht =>
    rw [ht]
    simpa using h
  · simp at h

theorem joined_of_ruleOf {index : Nat} {v : Json} {r : Rule} (hv : v.Joined)
    (h : ruleOf index (Datum.ofJson v) = .ok r) : r.Joined := by
  have text (key : String) (s : Points) (ht : textUnder index key (Datum.ofJson v) = .ok (some s)) :
      s.Joined := by
    obtain ⟨ms, rfl, hm⟩ := Datum.mem_of_get?_ofJson (get?_of_textUnder ht)
    exact ((Json.membersJoined_iff ms).mp hv _ hm).2
  unfold ruleOf at h
  split at h
  · simp at h
  · next entries _ =>
    cases hs : textUnder index sourceKey (Datum.ofJson v) with
    | error e => simp [hs, bind, Except.bind] at h
    | ok source =>
      cases hd : textUnder index destinationKey (Datum.ofJson v) with
      | error e => simp [hs, hd, bind, Except.bind] at h
      | ok destination =>
        simp only [hs, hd, bind, Except.bind] at h
        split at h
        · simp at h
        · simp at h
        · obtain rfl := Except.ok.inj h
          exact ⟨text _ _ hs, text _ _ hd⟩
        · simp at h

theorem joined_of_rulesFrom : ∀ (vs : List Json) (index : Nat) (rules : List Rule),
    Json.ItemsJoined vs → rulesFrom index (vs.map Datum.ofJson) = .ok rules → ∀ r ∈ rules, r.Joined
  | [], _, rules, _, h => by
    obtain rfl := Except.ok.inj h
    simp
  | v :: vs, index, rules, hv, h => by
    rw [List.map_cons, rulesFrom] at h
    cases hr : ruleOf index (Datum.ofJson v) with
    | error e => simp [hr, bind, Except.bind] at h
    | ok r =>
      cases hrs : rulesFrom (index + 1) (vs.map Datum.ofJson) with
      | error e => simp [hr, hrs, bind, Except.bind] at h
      | ok rs =>
        simp only [hr, hrs, bind, Except.bind, pure, Except.pure, Except.ok.injEq] at h
        rw [← h, List.forall_mem_cons]
        exact ⟨joined_of_ruleOf hv.1 hr, joined_of_rulesFrom vs (index + 1) rs hv.2 hrs⟩

theorem exists_unwrap_ofJson {v : Json} (hv : v.Joined) :
    ∃ w : Json, unwrap (Datum.ofJson v) = Datum.ofJson w ∧ w.Joined := by
  unfold unwrap
  rcases Datum.entries?_ofJson v with ⟨ms, rfl⟩ | none
  · rw [Datum.get?_ofJson_obj]
    cases hm : ms.find? fun m => m.1 = ("rules" : Points) with
    | none => exact ⟨.obj ms, rfl, hv⟩
    | some m =>
      exact ⟨m.2, rfl, ((Json.membersJoined_iff ms).mp hv m (List.mem_of_find?_eq_some hm)).2⟩
  · refine ⟨v, ?_, hv⟩
    simp [Datum.get?, none]

theorem joined_of_parse {v : Json} {rules : List Rule} (hv : v.Joined)
    (h : parse (Datum.ofJson v) = .ok rules) : ∀ r ∈ rules, r.Joined := by
  obtain ⟨w, hw, joined⟩ := exists_unwrap_ofJson hv
  unfold parse at h
  split at h
  · obtain rfl := Except.ok.inj h
    simp
  · rw [hw] at h
    split at h
    · next items hi =>
      obtain ⟨vs, rfl, rfl⟩ := Datum.exists_of_items?_ofJson hi
      exact joined_of_rulesFrom vs 0 rules joined h
    · simp at h

end Shape

namespace RuleFile

/-! ## Files -/

theorem exact_toJson (r : Rule) (h : r.Joined) : r.toJson.Exact := by
  obtain ⟨source, destination⟩ := h
  have names : (["from", "to"] : List Points).Nodup := by decide
  exact ⟨⟨Points.joined_ofList _, source, Points.joined_ofList _, destination, trivial⟩, names⟩

theorem exact_listToJson (rules : List Rule) (h : ∀ r ∈ rules, r.Joined) :
    (Rule.listToJson rules).Exact := by
  show Json.ItemsExact (rules.map Rule.toJson)
  induction rules with
  | nil => trivial
  | cons r rules ih =>
    rw [List.forall_mem_cons] at h
    exact ⟨exact_toJson r h.1, ih h.2⟩

theorem depth_listToJson (rules : List Rule) : (Rule.listToJson rules).depth ≤ 2 := by
  have items : Json.itemsDepth (rules.map Rule.toJson) ≤ 1 := by
    induction rules with
    | nil => simp [Json.itemsDepth]
    | cons r rules ih =>
      have one : r.toJson.depth = 1 := rfl
      rw [List.map_cons, Json.itemsDepth, one]
      omega
  simp only [Rule.listToJson, Json.depth]
  omega

theorem read_encode (rules : List Rule) (h : ∀ r ∈ rules, r.Joined) :
    Json.read (encode .json rules).toList = .ok (Rule.listToJson rules) := by
  have := depth_listToJson rules
  exact Json.read_fileText _ (exact_listToJson rules h) (by unfold Json.maxDepth; omega)

theorem textOf_encode (rules : List Rule) (h : ∀ r ∈ rules, r.Joined) :
    textOf (encode .json rules).toUTF8 = .ok (encode .json rules).toList := by
  have plain := Json.plain_fileText _ (exact_listToJson rules h)
  unfold textOf
  rw [Text.decode?_toUTF8]
  exact congrArg _ (Text.unifyLineEnds_of_plain _ plain)

theorem not_allBlank_encode (rules : List Rule) :
    Text.allBlank (encode .json rules).toList = false := by
  have bracket : ∃ s, (encode .json rules).toList = '[' :: s := by
    cases rules with
    | nil => exact ⟨_, rfl⟩
    | cons r rules =>
      refine ⟨Json.newLine 1 ++ Json.indentedAt 1 r.toJson ++
        Json.indentedItems 1 (rules.map Rule.toJson) ++ Json.newLine 0 ++ [']'] ++ ['\n'], ?_⟩
      simp [encode, Rule.listToJson, Json.fileText, Json.indentedAt]
  obtain ⟨s, hs⟩ := bracket
  rw [hs]
  rfl

/-- A rule list whose texts are joined comes back from the file it was written to. -/
theorem parse_encode (p : Path) (hp : formatOf? p = some .json) (rules : List Rule)
    (h : ∀ r ∈ rules, r.Joined) : parse p (encode .json rules).toUTF8 = .ok rules := by
  have decoded : decode p .json (encode .json rules).toList =
      .ok (Datum.ofJson (Rule.listToJson rules)) := by
    simp [decode, not_allBlank_encode, read_encode rules h]
  unfold parse
  rw [textOf_encode rules h]
  simp only [hp, decoded, rulesOf, Shape.parse_listToJson, bind, Except.bind, Except.mapError]

theorem indentedItems_unite (depth : Nat) (rules : List Rule) :
    Json.indentedItems depth ((rules.map Rule.unite).map Rule.toJson) =
      Json.indentedItems depth (rules.map Rule.toJson) := by
  induction rules with
  | nil => rfl
  | cons r rules ih => simp only [List.map_cons, Json.indentedItems, Rule.indentedAt_unite, ih]

theorem encode_unite (rules : List Rule) :
    encode .json (rules.map Rule.unite) = encode .json rules := by
  cases rules with
  | nil => rfl
  | cons r rules =>
    simp only [encode, Rule.listToJson, Json.fileText, List.map_cons, Json.indentedAt,
      Rule.indentedAt_unite, indentedItems_unite]

/-- Any rule list comes back from the file it was written to, with its pairs united. -/
theorem parse_encode_unite (p : Path) (hp : formatOf? p = some .json) (rules : List Rule) :
    parse p (encode .json rules).toUTF8 = .ok (rules.map Rule.unite) := by
  have joined : ∀ r ∈ rules.map Rule.unite, r.Joined := by
    intro r hr
    obtain ⟨raw, -, rfl⟩ := List.mem_map.mp hr
    exact raw.joined_unite
  rw [← encode_unite]
  exact parse_encode p hp _ joined

/-- The texts of a rule list that was read from JSON are joined. -/
theorem joined_of_parse {p : Path} (hp : formatOf? p = some .json) {bytes : ByteArray}
    {rules : List Rule} (h : parse p bytes = .ok rules) : ∀ r ∈ rules, r.Joined := by
  unfold parse at h
  cases hs : textOf bytes with
  | error e => simp [hs, bind, Except.bind] at h
  | ok s =>
    cases hd : decode p .json s with
    | error e => simp [hs, hp, hd, bind, Except.bind] at h
    | ok d =>
      simp only [hs, hp, hd, bind, Except.bind, rulesOf] at h
      cases hr : Shape.parse d with
      | error e => simp [hr, Except.mapError] at h
      | ok found =>
        simp only [hr, Except.mapError, Except.ok.injEq] at h
        subst h
        -- An empty file is an empty list; any other one is what the reader gives.
        unfold decode at hd
        simp only at hd
        split at hd
        · obtain rfl := Except.ok.inj hd
          obtain rfl := Except.ok.inj hr
          simp
        · split at hd
          · next v hv =>
            obtain rfl := Except.ok.inj hd
            exact Shape.joined_of_parse (Json.joined_of_read hv) hr
          · simp at hd

end RuleFile

end Reroute
