import Reroute.Proofs.Serve.Freshness
import Reroute.Proofs.Store.Shadows

/-!
# When the rule set is replaced

A service holds on to its rule set until the stored list is another one. What a refresh
can do is said once (`refresh_cases`): it keeps the rule set that is held and logs
nothing, or it puts a new one in its place and tells of each rule and then of the whole,
and which of the two it does is a matter of stamp and version (`Changed`). Over a run the
sets are numbered, and no two that were held have one number unless they are the same
(`Tracked`); so a set that is put in the place of another was never seen before
(`replaced_of_run`).

The file may change and the list stay: `Rewritten` names the ways, and none of them makes
the service give up its rule set.
-/

namespace Reroute

namespace Store

/-! ## Changes that leave the list -/

variable {s : Store} {d d' : Disk}

/-- The file holds a text that describes a value. -/
def Describes (s : Store) (d : Disk) (v : Datum) : Prop :=
  ∃ bytes time text, d.status s.path = .ok (.file bytes time) ∧
    RuleFile.textOf bytes = .ok text ∧ RuleFile.decode s.path .json text = .ok v

theorem list_of_describes {v : Datum} (h : s.Describes d v) :
    s.list d = RuleFile.rulesOf s.path v := by
  obtain ⟨bytes, time, text, status, decoded, value⟩ := h
  rw [RuleFile.list_of_status status, RuleFile.parse, decoded, s.formatOf?_path]
  simp [value, bind, Except.bind]

/-- A change of the file that leaves its list: it is touched, it describes the same value
in another text, or the list under the key `rules` of a map, the list is saved once more,
or the file of an empty list is taken away. -/
inductive Rewritten (s : Store) (d : Disk) : Disk → Prop
  | touched {d' : Disk} (same : d'.read s.path = d.read s.path) : Rewritten s d d'
  | reformatted {d' : Disk} (v : Datum) (before : s.Describes d v) (after : s.Describes d' v) :
      Rewritten s d d'
  | wrapped {d' : Disk} (vs : List Json) (before : s.Describes d (.ofJson (.arr vs)))
      (after : s.Describes d' (.ofJson (.obj [("rules", .arr vs)]))) : Rewritten s d d'
  | saved {d' : Disk} (rules : List Rule) (log : List LogLine) (stored : s.list d = .ok rules)
      (saved : s.save rules d = (.ok log, d')) : Rewritten s d d'
  | deleted {d' : Disk} (empty : s.list d = .ok []) (gone : d'.status s.path = .error .notFound) :
      Rewritten s d d'

theorem list_of_rewritten (h : s.Rewritten d d') : s.list d' = s.list d := by
  cases h with
  | touched same => exact list_congr same
  | reformatted v before after => rw [list_of_describes before, list_of_describes after]
  | wrapped vs before after =>
    rw [list_of_describes before, list_of_describes after, RuleFile.rulesOf, RuleFile.rulesOf,
      Shape.parse_wrapped]
  | saved rules log stored saved =>
    rw [list_of_save saved, stored, Rule.map_unite_of_joined (joined_of_list stored)]
  | deleted empty gone =>
    rw [empty]
    simp [list, Disk.present, gone]

end Store

namespace Service

/-! ## What a refresh does -/

variable {s : Service} {d : Disk} {snapshot : Snapshot} {after : Serving}

/-- The list has changed for a service: it holds no rule set yet, or the stamp is not the
one it knows and the list has another version. -/
def Changed (s : Service) (d : Disk) : Prop :=
  s.held = none ∨ ∃ held stamp rules, s.held = some held ∧ s.store.stamp d = .ok stamp ∧
    stamp ≠ s.stamp ∧ s.store.list d = .ok rules ∧ Rule.version rules ≠ held.ruleSet.version

/-- A service that was brought up to date knows the stamp, and holds what it answers
from. -/
structure Settled (s : Service) (d : Disk) (snapshot : Snapshot) (after : Serving) : Prop where
  store : after.service.store = s.store
  stamp : s.store.stamp d = .ok after.service.stamp
  held : after.service.held = some snapshot

structure Kept (s : Service) (d : Disk) (snapshot : Snapshot) (after : Serving) : Prop
    extends Settled s d snapshot after where
  unchanged : ¬s.Changed d
  same : s.held = some snapshot
  log : after.log = []

structure Replaced (s : Service) (d : Disk) (rules : List Rule) (snapshot : Snapshot)
    (after : Serving) : Prop extends Settled s d snapshot after where
  changed : s.Changed d
  stored : s.store.list d = .ok rules
  current : snapshot = s.made rules
  log : after.log = rules.map createdLine ++ [updatedLine (RuleSet.ofRules rules)]

/-- A list that was read again is that of the rule set that is held, to go by the
version, or it makes a new one. -/
theorem take_cases {stamp : Option Stamp} {rules : List Rule}
    (stamped : s.store.stamp d = .ok stamp) (stored : s.store.list d = .ok rules)
    (unknown : ∀ snapshot, s.held = some snapshot → stamp ≠ s.stamp)
    (h : (take stamp rules).serve s = (.ok snapshot, after)) :
    s.Kept d snapshot after ∨ s.Replaced d rules snapshot after := by
  rw [OnService.serve_eq] at h
  rcases s.version_or_other rules with ⟨old, held, same⟩ | other
  · left
    rw [take_of_version (w := ⟨s, []⟩) held same] at h
    obtain ⟨found, rfl⟩ := Prod.mk.inj h
    obtain rfl := Except.ok.inj found
    refine ⟨⟨rfl, stamped, held⟩, ?_, held, rfl⟩
    intro changed
    rcases changed with none | ⟨snapshot', _, rules', held', _, _, stored', version⟩
    · simp [held] at none
    · obtain rfl := Option.some.inj (held.symm.trans held')
      obtain rfl := Except.ok.inj (stored.symm.trans stored')
      exact version same.symm
  · right
    rw [take_of_other (w := ⟨s, []⟩) other] at h
    obtain ⟨found, rfl⟩ := Prod.mk.inj h
    obtain rfl := Except.ok.inj found
    refine ⟨⟨rfl, stamped, rfl⟩, ?_, stored, rfl, rfl⟩
    cases held : s.held with
    | none => exact .inl held
    | some old =>
      exact .inr ⟨old, stamp, rules, held, stamped, unknown old held, stored,
        Ne.symm (other old held)⟩

theorem refresh_cases (h : (refresh d).serve s = (.ok snapshot, after)) :
    s.Kept d snapshot after ∨ ∃ rules, s.Replaced d rules snapshot after := by
  rw [OnService.serve_eq] at h
  cases stamped : s.store.stamp d with
  | error e =>
    rw [refresh_of_hidden (w := ⟨s, []⟩) stamped] at h
    exact absurd (Prod.mk.inj h).1 (by simp)
  | ok stamp =>
    rcases s.known_or_unknown stamp with ⟨old, held, rfl⟩ | unknown
    · left
      rw [refresh_of_known (w := ⟨s, []⟩) held stamped] at h
      obtain ⟨found, rfl⟩ := Prod.mk.inj h
      obtain rfl := Except.ok.inj found
      refine ⟨⟨rfl, stamped, held⟩, ?_, held, rfl⟩
      intro changed
      rcases changed with none | ⟨_, stamp, _, _, stamped', other, _⟩
      · simp [held] at none
      · exact other (Except.ok.inj (stamped'.symm.trans stamped))
    · rw [refresh_of_unknown (w := ⟨s, []⟩) stamped unknown] at h
      cases stored : s.store.list d with
      | error e =>
        rw [stored] at h
        exact absurd (Prod.mk.inj h).1 (by simp)
      | ok rules =>
        rw [stored] at h
        exact (take_cases stamped stored unknown h).imp_right fun replaced => ⟨rules, replaced⟩

theorem refresh_of_listed {stamp : Option Stamp} {rules : List Rule}
    (stamped : s.store.stamp d = .ok stamp) (listed : s.store.list d = .ok rules) :
    ∃ snapshot after, (refresh d).serve s = (.ok snapshot, after) := by
  rcases s.known_or_unknown stamp with ⟨old, held, rfl⟩ | unknown
  · exact ⟨_, _, refresh_of_known (w := ⟨s, []⟩) held stamped⟩
  · rw [OnService.serve_eq, refresh_of_unknown (w := ⟨s, []⟩) stamped unknown, listed]
    rcases s.version_or_other rules with ⟨old, held, same⟩ | other
    · exact ⟨_, _, take_of_version (w := ⟨s, []⟩) held same⟩
    · exact ⟨_, _, take_of_other (w := ⟨s, []⟩) other⟩

theorem settled (h : (refresh d).serve s = (.ok snapshot, after)) : s.Settled d snapshot after := by
  rcases refresh_cases h with kept | ⟨rules, replaced⟩
  · exact kept.toSettled
  · exact replaced.toSettled

/-- Neither a stamp that is known nor the list of the rule set that is held counts as a
change. -/
theorem not_changed {snapshot : Snapshot} (held : s.held = some snapshot)
    (made : snapshot.ruleSet = RuleSet.ofRules snapshot.ruleSet.rules)
    (same : s.store.stamp d = .ok s.stamp ∨ s.store.list d = .ok snapshot.ruleSet.rules) :
    ¬s.Changed d := by
  intro changed
  rcases changed with none | ⟨snapshot', stamp, rules, held', stamped, other, stored, version⟩
  · simp [held] at none
  · obtain rfl := Option.some.inj (held.symm.trans held')
    rcases same with known | list
    · exact other (Except.ok.inj (stamped.symm.trans known))
    · obtain rfl := Except.ok.inj (stored.symm.trans list)
      apply version
      rw [made]
      rfl

end Service

namespace World

/-! ## Runs -/

def run (w : World) (events : List Event) : World := events.foldl step w

theorem run_concat (w : World) (events : List Event) (e : Event) :
    w.run (events ++ [e]) = (w.run events).step e :=
  List.foldl_concat step w e events

theorem moments_concat (w : World) (events : List Event) (e : Event) :
    w.moments (events ++ [e]) = w.moments events ++ [w.run (events ++ [e])] := by
  induction events generalizing w with
  | nil => rfl
  | cons first events ih =>
    show w :: (w.step first).moments (events ++ [e]) = _
    rw [ih]
    rfl

theorem run_mem_moments (w : World) (events : List Event) : w.run events ∈ w.moments events := by
  induction events generalizing w with
  | nil => exact List.mem_singleton_self w
  | cons first events ih => exact .tail _ (ih (w.step first))

/-- A snapshot that was held at no moment. -/
def Unseen (history : List World) (snapshot : Snapshot) : Prop :=
  ∀ v ∈ history, ∀ old, v.service.held = some old → old.generation ≠ snapshot.generation

/-- The rule set that a service holds is made of its rules, and of all that were held at
some moment it is the one with the highest number. -/
structure Tracked (history : List World) (s : Service) : Prop where
  made : ∀ held, s.held = some held → held.ruleSet = RuleSet.ofRules held.ruleSet.rules
  latest : ∀ v ∈ history, ∀ old, v.service.held = some old →
    ∃ held, s.held = some held ∧ (old = held ∨ old.generation < held.generation)

variable {history : List World} {w : World} {snapshot : Snapshot} {after : Serving}

theorem Tracked.le_count {s : Service} (tracked : Tracked history s) {v : World} (hv : v ∈ history)
    {old : Snapshot} (h : v.service.held = some old) : old.generation ≤ s.count := by
  obtain ⟨held, here, same | less⟩ := tracked.latest v hv old h
  · simp [Service.count, here, same]
  · simp only [Service.count, here, Option.map_some, Option.getD_some]
    omega

/-- What a refresh leaves is made and numbered like what was held before. -/
theorem tracked_refresh (tracked : Tracked history w.service)
    (h : (Service.refresh w.disk).serve w.service = (.ok snapshot, after)) :
    Tracked history after.service := by
  rcases Service.refresh_cases h with kept | ⟨rules, replaced⟩
  · have same : after.service.held = w.service.held := kept.held.trans kept.same.symm
    refine ⟨?_, ?_⟩
    · rw [same]
      exact tracked.made
    · rw [same]
      exact tracked.latest
  · refine ⟨?_, ?_⟩
    · intro held h
      obtain rfl := Option.some.inj (replaced.held.symm.trans h)
      rw [replaced.current]
      rfl
    · intro v hv old h
      refine ⟨_, replaced.held, .inr ?_⟩
      rw [replaced.current]
      exact Nat.lt_succ_of_le (tracked.le_count hv h)

theorem Tracked.append {s : Service} {v : World} (tracked : Tracked history s) (now : v.service = s) :
    Tracked (history ++ [v]) s := by
  refine ⟨tracked.made, ?_⟩
  intro u hu old h
  rcases List.mem_append.mp hu with before | last
  · exact tracked.latest u before old h
  · rw [List.mem_singleton.mp last, now] at h
    exact ⟨old, h, .inl rfl⟩

theorem service_step_other {e : Event} (other : ¬e.IsCall) : (w.step e).service = w.service :=
  congrArg Serving.service (served_other other)

theorem service_step_call (h : (Service.refresh w.disk).serve w.service = (.ok snapshot, after))
    {call : Event} (isCall : call.IsCall) : (w.step call).service = after.service := by
  rw [step, service_served w isCall, h]

theorem tracked_step (tracked : Tracked history w.service) (e : Event) :
    Tracked (history ++ [w.step e]) (w.step e).service := by
  refine Tracked.append ?_ rfl
  by_cases call : e.IsCall
  · rcases refreshed : (Service.refresh w.disk).serve w.service with ⟨fault | snapshot, after⟩
    · rw [(call_of_error refreshed call).1]
      exact tracked
    · rw [service_step_call refreshed call]
      exact tracked_refresh tracked refreshed
  · rw [service_step_other call]
    exact tracked

theorem tracked_run (s : Store) (d : Disk) (events : List Event) :
    Tracked (moments ⟨d, .fresh s⟩ events) (run ⟨d, .fresh s⟩ events).service := by
  induction events using List.reverseRecOn with
  | nil =>
    have none : (Service.fresh s).held = none := rfl
    have before : Tracked [] (Service.fresh s) := by
      refine ⟨?_, ?_⟩
      · intro held h
        simp [none] at h
      · intro v hv
        simp at hv
    exact before.append rfl
  | append_singleton events e ih =>
    rw [moments_concat, run_concat]
    exact tracked_step ih e

theorem store_run (s : Store) (d : Disk) (events : List Event) :
    (run ⟨d, .fresh s⟩ events).service.store = s := by
  induction events using List.reverseRecOn with
  | nil => rfl
  | append_singleton events e ih =>
    rw [run_concat]
    generalize run ⟨d, .fresh s⟩ events = w at ih ⊢
    by_cases call : e.IsCall
    · rcases refreshed : (Service.refresh w.disk).serve w.service with ⟨fault | snapshot, after⟩
      · rw [(call_of_error refreshed call).1, ih]
      · rw [service_step_call refreshed call]
        exact (Service.settled refreshed).store.trans ih
    · rw [service_step_other call, ih]

/-- Some call of a run did not fail. -/
def Served (w : World) (events : List Event) : Prop :=
  ∃ before call, before ++ [call] <+: events ∧ call.IsCall ∧
    ∃ snapshot after, (Service.refresh (w.run before).disk).serve (w.run before).service =
      (.ok snapshot, after)

/-- A service that starts with nothing holds a rule set from its first call on that does
not fail. -/
theorem held_iff_served (empty : w.service.held = none) (events : List Event) :
    (w.run events).service.held ≠ none ↔ w.Served events := by
  induction events using List.reverseRecOn with
  | nil => simp [run, empty, Served]
  | append_singleton events e ih =>
    have last : w.Served (events ++ [e]) ↔ w.Served events ∨ e.IsCall ∧ ∃ snapshot after,
        (Service.refresh (w.run events).disk).serve (w.run events).service =
          (.ok snapshot, after) := by
      constructor
      · intro served
        obtain ⟨before, call, front, isCall, refreshed⟩ := served
        rcases List.prefix_concat_iff.mp front with whole | earlier
        · obtain ⟨rfl, same⟩ := List.append_inj' whole rfl
          obtain rfl : call = e := by simpa using same
          exact .inr ⟨isCall, refreshed⟩
        · exact .inl ⟨before, call, earlier, isCall, refreshed⟩
      · intro served
        rcases served with ⟨before, call, front, rest⟩ | now
        · exact ⟨before, call, front.trans (List.prefix_append _ _), rest⟩
        · exact ⟨events, e, List.prefix_refl _, now⟩
    rw [last, ← ih, run_concat]
    generalize w.run events = v
    by_cases call : e.IsCall
    · rcases refreshed : (Service.refresh v.disk).serve v.service with ⟨fault | snapshot, after⟩
      · rw [(call_of_error refreshed call).1]
        simp
      · rw [service_step_call refreshed call, (Service.settled refreshed).held]
        simp [call]
    · rw [service_step_other call]
      simp [call]

theorem unseen_iff_changed (tracked : Tracked history w.service) (now : w ∈ history)
    (h : (Service.refresh w.disk).serve w.service = (.ok snapshot, after)) :
    Unseen history snapshot ↔ w.service.Changed w.disk := by
  rcases Service.refresh_cases h with kept | ⟨rules, replaced⟩
  · constructor
    · intro unseen
      exact absurd rfl (unseen w now _ kept.same)
    · intro changed
      exact absurd changed kept.unchanged
  · constructor
    · intro unseen
      exact replaced.changed
    · intro changed v hv old held same
      have bound := tracked.le_count hv held
      rw [same, replaced.current] at bound
      exact absurd bound (Nat.not_succ_le_self _)

/-- A call that does not fail logs what a refresh logs, and at most one more line, which
tells of the answer. -/
theorem log_call (h : (Service.refresh w.disk).serve w.service = (.ok snapshot, after))
    {call : Event} (isCall : call.IsCall) :
    (w.served call).log = after.log ∨ ∃ line, (w.served call).log = after.log ++ [line] ∧
      ∃ url : Points, line = ⟨.debug, "No rule matched " ++ url⟩ ∨
        ∃ sent : Points, line = ⟨.info, "Redirecting from " ++ url ++ " to " ++ sent⟩ := by
  rw [OnService.serve_eq] at h
  have told (url : Points) (answer : Option Redirect) :
      Service.answerLine url answer = ⟨.debug, "No rule matched " ++ url⟩ ∨
        ∃ sent : Points, Service.answerLine url answer =
          ⟨.info, "Redirecting from " ++ url ++ " to " ++ sent⟩ := by
    cases answer with
    | none => exact .inl rfl
    | some redirect => exact .inr ⟨redirect.destination, rfl⟩
  cases call with
  | operation op => exact isCall.elim
  | outside change => exact isCall.elim
  | ruleSet => exact .inl (by rw [served, OnService.serve_eq, h])
  | evaluate url =>
    refine .inr ⟨_, ?_, url, told url (snapshot.ruleSet.redirect? url)⟩
    rw [served, OnService.serve_eq, Service.evaluate_apply, h]
  | rewrite url =>
    refine .inr ⟨_, ?_, url, told url (snapshot.ruleSet.redirect? url)⟩
    rw [served, OnService.serve_eq, Service.rewrite_apply, Service.evaluate_apply, h]

/-- The lines that tell of a new rule set: one for each rule, in the order of the list, and
one for the whole. -/
theorem updateLog_eq (rules : List Rule) :
    rules.map Service.createdLine ++ [Service.updatedLine (RuleSet.ofRules rules)] =
      (rules.map fun r => ⟨.debug, "Creating " ++ (match r.kind with
        | .whole => "exact"
        | .wildcard => "wildcard"
        | .leading => "prefix" : String) ++ " rule: " ++ r.source ++ " -> " ++ r.destination⟩) ++
      [⟨.info, "Redirect rules updated: " ++ toString rules.length ++ " rules (version " ++
        String.ofList ((Rule.version rules).toList.take 12) ++ ")"⟩] := by
  have created (r : Rule) : Service.createdLine r = ⟨.debug, "Creating " ++ (match r.kind with
      | .whole => "exact"
      | .wildcard => "wildcard"
      | .leading => "prefix" : String) ++ " rule: " ++ r.source ++ " -> " ++ r.destination⟩ := by
    rw [Service.createdLine]
    cases r.kind <;> rfl
  rw [List.map_congr_left fun r _ => created r]
  rfl

/-- At every moment of a run: from its first call on that does not fail, the service holds
a rule set with the matchers and the version of its rules. A refresh that does not fail
gives a rule set that was never held before, and tells of it, where the list has changed
for the service; elsewhere it gives the very rule set that is held and tells nothing. One
that fails changes nothing and tells nothing. Nothing has changed for the service where the
stamp is the one it knows, or where the file was only written anew. -/
theorem replaced_of_run (s : Store) (d : Disk) (events : List Event) :
    let start : World := ⟨d, .fresh s⟩
    let w := start.run events
    (w.service.held ≠ none ↔ start.Served events) ∧
    (∀ held, w.service.held = some held →
      held.ruleSet.matchers = held.ruleSet.rules.map Matcher.ofRule ∧
        held.ruleSet.version = Rule.version held.ruleSet.rules) ∧
    (∀ snapshot after, (Service.refresh w.disk).serve w.service = (.ok snapshot, after) →
      (Unseen (start.moments events) snapshot ↔ w.service.Changed w.disk) ∧
      (w.service.Changed w.disk → ∃ rules, s.list w.disk = .ok rules ∧
        snapshot.ruleSet = RuleSet.ofRules rules ∧
        after.log = (rules.map fun r => ⟨.debug, "Creating " ++ (match r.kind with
            | .whole => "exact"
            | .wildcard => "wildcard"
            | .leading => "prefix" : String) ++ " rule: " ++ r.source ++ " -> " ++
              r.destination⟩) ++
          [⟨.info, "Redirect rules updated: " ++ toString rules.length ++ " rules (version " ++
            String.ofList ((Rule.version rules).toList.take 12) ++ ")"⟩]) ∧
      (¬w.service.Changed w.disk → w.service.held = some snapshot ∧ after.log = []) ∧
      after.service.held = some snapshot ∧ s.stamp w.disk = .ok after.service.stamp ∧
      ∀ call : Event, call.IsCall → (w.step call).service = after.service ∧
        ((w.served call).log = after.log ∨ ∃ line, (w.served call).log = after.log ++ [line] ∧
          ∃ url : Points, line = ⟨.debug, "No rule matched " ++ url⟩ ∨
            ∃ sent : Points, line = ⟨.info, "Redirecting from " ++ url ++ " to " ++ sent⟩)) ∧
    (∀ e after, (Service.refresh w.disk).serve w.service = (.error e, after) →
      ∀ call : Event, call.IsCall → w.step call = w ∧ (w.served call).log = []) ∧
    ∀ held, w.service.held = some held →
      (s.stamp w.disk = .ok w.service.stamp ∨
        ∃ d', s.list d' = .ok held.ruleSet.rules ∧ s.Rewritten d' w.disk) →
      ¬w.service.Changed w.disk := by
  intro start w
  have tracked : Tracked (start.moments events) w.service := tracked_run s d events
  have store : w.service.store = s := store_run s d events
  refine ⟨held_iff_served rfl events, ?_, ?_, fun e after fails call => call_of_error fails, ?_⟩
  · intro held h
    have made := tracked.made held h
    exact ⟨congrArg RuleSet.matchers made, congrArg RuleSet.version made⟩
  · intro snapshot after refreshed
    have settled := Service.settled refreshed
    refine ⟨unseen_iff_changed tracked (run_mem_moments start events) refreshed, ?_, ?_,
      settled.held, store ▸ settled.stamp,
      fun call isCall => ⟨service_step_call refreshed isCall, log_call refreshed isCall⟩⟩
    · intro changed
      rcases Service.refresh_cases refreshed with kept | ⟨rules, replaced⟩
      · exact absurd changed kept.unchanged
      · exact ⟨rules, store ▸ replaced.stored, by rw [replaced.current]; rfl,
          replaced.log.trans (updateLog_eq rules)⟩
    · intro unchanged
      rcases Service.refresh_cases refreshed with kept | ⟨rules, replaced⟩
      · exact ⟨kept.same, kept.log⟩
      · exact absurd replaced.changed unchanged
  · intro held h same
    apply Service.not_changed h (tracked.made held h)
    rw [store]
    rcases same with known | ⟨d', stored, rewritten⟩
    · exact .inl known
    · exact .inr ((Store.list_of_rewritten rewritten).trans stored)

/-- A list with two kinds of rules is told of when it is read for the first time, and not
when its file is touched. -/
theorem replaced_of_run_touched :
    let s : Store := ⟨⟨"", ["store"]⟩⟩
    let rules : List Rule := [⟨"https://a.example/", "b.example"⟩,
      ⟨"https://c.example/*", "d.example"⟩]
    let bytes := (RuleFile.encode .json rules).toUTF8
    let start : World := ⟨holding bytes 1, .fresh s⟩
    let touched := start.run [.ruleSet, .outside fun _ => holding bytes 2]
    (∃ snapshot after, (Service.refresh start.disk).serve start.service = (.ok snapshot, after) ∧
      after.log = [⟨.debug, "Creating prefix rule: https://a.example/ -> b.example"⟩,
        ⟨.debug, "Creating wildcard rule: https://c.example/* -> d.example"⟩,
        ⟨.info, "Redirect rules updated: 2 rules (version 472e5b469106)"⟩]) ∧
    ∃ snapshot after, (Service.refresh touched.disk).serve touched.service =
        (.ok snapshot, after) ∧
      touched.service.held = some snapshot ∧ after.log = [] := by
  intro s rules bytes
  have listed (time : Int) : s.list (holding bytes time) = .ok rules := by
    rw [list_holding]
    refine RuleFile.parse_encode s.path s.formatOf?_path rules ?_
    exact Rule.joined_map_ofTexts [("https://a.example/", "b.example"),
      ("https://c.example/*", "d.example")]
  clear_value bytes
  intro start touched
  obtain ⟨snapshot, after, refreshed⟩ :=
    Service.refresh_of_listed (s := start.service) (stamp_holding bytes 1) (listed 1)
  obtain ⟨-, -, ok, -⟩ := replaced_of_run s (holding bytes 1) []
  obtain ⟨-, tells, -, held, -, -⟩ := ok snapshot after refreshed
  obtain ⟨rules', stored, current, log⟩ := tells (.inl rfl)
  obtain rfl : rules = rules' := Except.ok.inj ((listed 1).symm.trans stored)
  refine ⟨⟨snapshot, after, refreshed, ?_⟩, ?_⟩
  · rw [log]
    decide +kernel
  have service : touched.service = after.service :=
    (service_step_other (w := start.step .ruleSet) id).trans
      (service_step_call (w := start) refreshed trivial)
  have store : after.service.store = s := (Service.settled refreshed).store
  have stamped : touched.service.store.stamp touched.disk = .ok (some ⟨2, bytes.size⟩) := by
    rw [service, store]
    exact stamp_holding bytes 2
  have listed' : touched.service.store.list touched.disk = .ok rules := by
    rw [service, store]
    exact listed 2
  obtain ⟨snapshot', after', again⟩ := Service.refresh_of_listed stamped listed'
  obtain ⟨-, -, ok', -, same⟩ :=
    replaced_of_run s (holding bytes 1) [.ruleSet, .outside fun _ => holding bytes 2]
  obtain ⟨-, -, keeps, -⟩ := ok' snapshot' after' again
  have held' : touched.service.held = some snapshot := by
    rw [service]
    exact held
  -- The disk before and the disk after the touch hold the same bytes.
  have unchanged : ¬touched.service.Changed touched.disk := by
    refine same snapshot held' (.inr ⟨holding bytes 1, ?_, .touched ?_⟩)
    · rw [current]
      exact listed 1
    · rw [RuleFile.read_of_status (status_holding bytes 1).2]
      exact RuleFile.read_of_status (status_holding bytes 2).2
  exact ⟨snapshot', after', again, keeps unchanged⟩

end World

end Reroute
