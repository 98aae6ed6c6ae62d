import Mathlib
import Reroute.Proofs.Store.Runs
import Reroute.Serve.Service

/-!
# The service is never stale

The service answers from what it holds as long as the stamp of the file is the one
it knows. Over any run in which the file is written, replaced, spoilt and taken away
by anybody, its answers are those of the list that is stored at the moment, or the
failure to read that list (`fresh_of_run`).

What carries the proof is that the held rule set is that of a list which was stored at
some moment of the run with the known stamp (`Held`). That is worth something only as
stamps tell contents apart, and versions lists (`Telling`): a file that is replaced by
one of the same size within one tick of the clock is not noticed.
-/

namespace Reroute

namespace Store

/-! ## Stamps and lists -/

variable {s : Store} {d d' : Disk}

theorem status_ne_isDirectory (d : Disk) (p : Path) : d.status p ≠ .error .isDirectory := by
  intro h
  rcases Disk.status_eq_error h with refused | ⟨-, walked | ⟨-, -, missing⟩⟩
  · rcases Disk.accept_eq_error refused with ⟨bad, -⟩ | bad <;> simp at bad
  · rcases Disk.walk_eq_error walked with bad | bad | ⟨bad, -⟩ <;> simp at bad
  · simp at missing

/-- The list depends on the disk by what is read at the path of the file. -/
theorem list_congr (h : d.read s.path = d'.read s.path) : s.list d = s.list d' := by
  have byRead (d : Disk) : s.list d = match d.read s.path with
      | .ok bytes => RuleFile.parse s.path bytes
      | .error .isDirectory => .error (.disk .isDirectory)
      | .error .nameTooLong => .error (.disk .nameTooLong)
      | .error _ => .ok [] := by
    cases status : d.status s.path with
    | ok e =>
      cases e <;>
        simp [list, Disk.present, Disk.read, RuleFile.load, status, Failure.ofDisk, Except.mapError,
          bind, Except.bind, pure, Except.pure]
    | error fault =>
      cases fault with
      | isDirectory => exact absurd status (status_ne_isDirectory d s.path)
      | _ => simp [list, Disk.present, Disk.read, status, bind, Except.bind]
  rw [byRead, byRead, h]

theorem isSpellable_path (h : s.root.isSpellable = true) : s.path.isSpellable = true := by
  simp only [path, Path.child, Path.isSpellable, List.all_append] at h ⊢
  rw [h]
  decide

/-- Where the root is a directory or missing, the path of the file leads nowhere only
because it is missing or because the path is too long. -/
theorem status_path_eq_error {fault : DiskFault}
    (rooted : d.status s.root = .ok .directory ∨ d.status s.root = .error .notFound)
    (h : d.status s.path = .error fault) : fault = .notFound ∨ fault = .nameTooLong := by
  have accepted : Disk.accept s.root = .ok () := by
    rcases rooted with there | missing
    · exact (Disk.locate_eq_placeOf (Disk.entry_of_status there).1).1
    · rcases Disk.status_eq_error missing with refused | ⟨accepted, -⟩
      · rcases Disk.accept_eq_error refused with ⟨bad, -⟩ | bad <;> simp at bad
      · exact accepted
  rcases Disk.status_eq_error h with refused | ⟨-, walked | ⟨-, -, missing⟩⟩
  · rcases Disk.accept_eq_error refused with ⟨-, bad⟩ | long
    · rw [isSpellable_path (Disk.isSpellable_of_accept accepted)] at bad
      simp at bad
    · exact .inr long
  · left
    rw [walk_path] at walked
    rcases rooted with there | missing
    · obtain ⟨located, directory⟩ := Disk.entry_of_status there
      have arrived := (Disk.locate_eq_placeOf located).2.2
      have short : Disk.isLong fileName = false := by decide
      simp only [arrived, Except.bind, Disk.walk, directory, short] at walked
      simp at walked
    · rcases Disk.status_eq_error missing with refused | ⟨-, lost | ⟨arrived, free, -⟩⟩
      · simp [accepted] at refused
      · simpa [lost, Except.bind] using walked.symm
      · simpa [arrived, Except.bind, Disk.walk, free] using walked.symm
  · exact .inl missing

/-- With a root that is a directory or missing, what hides the stamp hides the list. -/
theorem list_eq_error_of_stamp {e : Failure}
    (rooted : d.status s.root = .ok .directory ∨ d.status s.root = .error .notFound)
    (h : s.stamp d = .error e) : s.list d = .error e := by
  unfold stamp at h
  split at h
  · simp at h
  · simp at h
  · simp at h
  · next fault other status =>
    obtain rfl := Except.error.inj h
    have long := (status_path_eq_error rooted status).resolve_left fun missing => other missing
    subst long
    simp [list, Disk.present, status]

end Store

/-! ## Steps of a service -/

namespace OnService

variable {α : Type}

theorem serve_eq (step : OnService α) (s : Service) : step.serve s = step ⟨s, []⟩ := rfl

@[simp] theorem service_apply (w : Serving) : service w = (.ok w.service, w) := rfl

@[simp] theorem read_apply (r : Except Failure α) (w : Serving) : read r w = (r, w) := rfl

@[simp] theorem assign_apply (change : Service → Service) (w : Serving) :
    assign change w = (.ok (), { w with service := change w.service }) := rfl

@[simp] theorem log_apply (lines : List LogLine) (w : Serving) :
    log lines w = (.ok (), { w with log := w.log ++ lines }) := rfl

end OnService

/-! ## Runs of a service -/

/-- A moment: a disk, and a service that looks at it. -/
structure World where
  disk : Disk
  service : Service

namespace World

/-- What happens between two moments: an operation on the store, anything that others do to
the disk, or a call of the service. -/
inductive Event where
  | operation (op : Store.Op)
  | outside (change : Disk → Disk)
  | evaluate (url : Points)
  | rewrite (url : Points)
  | ruleSet

/-- The service after an event, with the lines that it logged. -/
def served (w : World) : Event → Serving
  | .operation _ | .outside _ => ⟨w.service, []⟩
  | .evaluate url => ((Service.evaluate w.disk url).serve w.service).2
  | .rewrite url => ((Service.rewrite w.disk url).serve w.service).2
  | .ruleSet => ((Service.refresh w.disk).serve w.service).2

def diskAfter (w : World) : Event → Disk
  | .operation op => (op.run w.service.store w.disk).2
  | .outside change => change w.disk
  | .evaluate _ | .rewrite _ | .ruleSet => w.disk

def step (w : World) (e : Event) : World := ⟨w.diskAfter e, (w.served e).service⟩

def Event.IsCall : Event → Prop
  | .operation _ | .outside _ => False
  | .evaluate _ | .rewrite _ | .ruleSet => True

/-- The moments of a run, the first one included. -/
def moments : World → List Event → List World
  | w, [] => [w]
  | w, e :: events => w :: moments (w.step e) events

end World

/-- At no two moments the file has one stamp and two contents, nor two lists one version;
and the root is a directory or missing. -/
structure Telling (s : Store) (disks : List Disk) : Prop where
  rooted : ∀ d ∈ disks, d.status s.root = .ok .directory ∨ d.status s.root = .error .notFound
  stamped : ∀ d ∈ disks, ∀ d' ∈ disks, ∀ stamp, s.stamp d = .ok stamp → s.stamp d' = .ok stamp →
    d.read s.path = d'.read s.path
  versioned : ∀ d ∈ disks, ∀ d' ∈ disks, ∀ rules rules', s.list d = .ok rules →
    s.list d' = .ok rules' → Rule.version rules = Rule.version rules' → rules = rules'

namespace Service

variable {s : Service} {disks : List Disk} {d : Disk}

/-- The rule set that the service holds is that of a list which was stored on one of
the disks, with the stamp that the service knows. -/
def Held (s : Service) (disks : List Disk) : Prop :=
  ∀ held, s.held = some held → ∃ d ∈ disks, s.store.stamp d = .ok s.stamp ∧
    ∃ rules, s.store.list d = .ok rules ∧ held.ruleSet = RuleSet.ofRules rules

theorem held_fresh (store : Store) (disks : List Disk) : (fresh store).Held disks := by
  intro held h
  simp [fresh] at h

/-- The rule set of a list, with the number after that of the one that is held. -/
def made (s : Service) (rules : List Rule) : Snapshot := ⟨RuleSet.ofRules rules, s.count + 1⟩

variable {w w' : Serving} {stamp : Option Stamp} {rules : List Rule} {snapshot : Snapshot}

theorem replace_apply (rules : List Rule) (w : Serving) :
    replace rules w = (.ok (w.service.made rules),
      ⟨{ w.service with held := some (w.service.made rules) },
        w.log ++ rules.map createdLine ++ [updatedLine (RuleSet.ofRules rules)]⟩) := rfl

theorem take_of_version (held : w.service.held = some snapshot)
    (same : snapshot.ruleSet.version = Rule.version rules) :
    take stamp rules w = (.ok snapshot, { w with service := { w.service with stamp } }) := by
  simp [take, held, same]

theorem take_of_other (other : ∀ snapshot, w.service.held = some snapshot →
    snapshot.ruleSet.version ≠ Rule.version rules) :
    take stamp rules w = (.ok (w.service.made rules),
      ⟨{ w.service with stamp, held := some (w.service.made rules) },
        w.log ++ rules.map createdLine ++ [updatedLine (RuleSet.ofRules rules)]⟩) := by
  cases held : w.service.held with
  | none => simp [take, held, replace_apply]
  | some snapshot => simp [take, held, other snapshot held, replace_apply]

theorem version_or_other (s : Service) (rules : List Rule) :
    (∃ snapshot, s.held = some snapshot ∧ snapshot.ruleSet.version = Rule.version rules) ∨
      ∀ snapshot, s.held = some snapshot → snapshot.ruleSet.version ≠ Rule.version rules := by
  by_cases known : ∃ snapshot, s.held = some snapshot ∧
      snapshot.ruleSet.version = Rule.version rules
  · exact .inl known
  · right
    intro snapshot held same
    exact known ⟨snapshot, held, same⟩

theorem refresh_of_hidden {e : Failure} (hidden : w.service.store.stamp d = .error e) :
    refresh d w = (.error e, w) := by
  simp [refresh, hidden]

/-- A rule set with the stamp of the moment is answered from. -/
theorem refresh_of_known (held : w.service.held = some snapshot)
    (stamped : w.service.store.stamp d = .ok w.service.stamp) :
    refresh d w = (.ok snapshot, w) := by
  simp [refresh, stamped, held]

/-- Without a rule set that has the stamp of the moment, the list is read again, and that
is taken in, unless it cannot be read. -/
theorem refresh_of_unknown (stamped : w.service.store.stamp d = .ok stamp)
    (unknown : ∀ snapshot, w.service.held = some snapshot → stamp ≠ w.service.stamp) :
    refresh d w = match w.service.store.list d with
      | .ok rules => take stamp rules w
      | .error e => (.error e, w) := by
  cases held : w.service.held with
  | none => cases list : w.service.store.list d <;> simp [refresh, stamped, held, list]
  | some snapshot =>
    have other := unknown snapshot held
    cases list : w.service.store.list d <;> simp [refresh, stamped, held, other, list]

/-- A service that holds nothing looks at the stamp, and then it takes in the list. -/
theorem refresh_fresh_eq (s : Store) (d : Disk) : ((refresh d).serve (fresh s)).1 =
    (s.stamp d).bind fun _ => (s.list d).map (fresh s).made := by
  have nothing (snapshot : Snapshot) : (fresh s).held ≠ some snapshot := by simp [fresh]
  rw [OnService.serve_eq]
  cases stamped : s.stamp d with
  | error e => rw [refresh_of_hidden (w := ⟨fresh s, []⟩) stamped, Except.bind]
  | ok stamp =>
    have store : (fresh s).store = s := rfl
    rw [refresh_of_unknown (w := ⟨fresh s, []⟩) stamped
      fun snapshot held => absurd held (nothing snapshot)]
    cases listed : s.list d with
    | error e =>
      simp only [store, listed]
      rfl
    | ok rules =>
      simp only [store, listed]
      rw [take_of_other fun snapshot held => absurd held (nothing snapshot)]
      rfl

theorem known_or_unknown (s : Service) (stamp : Option Stamp) :
    (∃ snapshot, s.held = some snapshot ∧ stamp = s.stamp) ∨
      ∀ snapshot, s.held = some snapshot → stamp ≠ s.stamp := by
  by_cases known : ∃ snapshot, s.held = some snapshot ∧ stamp = s.stamp
  · exact .inl known
  · right
    intro snapshot held same
    exact known ⟨snapshot, held, same⟩

/-- Where a refresh fails, it has assigned nothing and logged nothing. -/
theorem refresh_eq_error {e : Failure} (h : refresh d w = (.error e, w')) : w' = w := by
  cases stamped : w.service.store.stamp d with
  | error e =>
    rw [refresh_of_hidden stamped] at h
    exact (Prod.mk.inj h).2.symm
  | ok stamp =>
    rcases w.service.known_or_unknown stamp with ⟨snapshot, held, rfl⟩ | unknown
    · rw [refresh_of_known held stamped] at h
      exact absurd (Prod.mk.inj h).1 (by simp)
    · rw [refresh_of_unknown stamped unknown] at h
      cases stored : w.service.store.list d with
      | error e =>
        rw [stored] at h
        exact (Prod.mk.inj h).2.symm
      | ok rules =>
        -- Once the list was read, nothing can fail.
        simp only [stored] at h
        rcases w.service.version_or_other rules with ⟨snapshot, held, same⟩ | other
        · rw [take_of_version held same] at h
          exact absurd (Prod.mk.inj h).1 (by simp)
        · rw [take_of_other other] at h
          exact absurd (Prod.mk.inj h).1 (by simp)

/-- Taking in the list that is stored now gives its rule set. A rule set that is kept
for its version is that of the same list. -/
theorem held_take (telling : Telling w.service.store disks) (held : w.service.Held disks)
    (now : d ∈ disks) (stamped : w.service.store.stamp d = .ok stamp)
    (stored : w.service.store.list d = .ok rules) :
    ∃ snapshot w', take stamp rules w = (.ok snapshot, w') ∧
      snapshot.ruleSet = RuleSet.ofRules rules ∧
      w'.service.store = w.service.store ∧ w'.service.Held disks := by
  -- The old snapshot and the new one alike are held from now on for the list `rules`.
  have holds (snapshot : Snapshot) (h : snapshot.ruleSet = RuleSet.ofRules rules) :
      Held ⟨w.service.store, stamp, some snapshot⟩ disks := by
    intro other same
    obtain rfl := Option.some.inj same
    exact ⟨d, now, stamped, rules, stored, h⟩
  rcases w.service.version_or_other rules with ⟨snapshot, known, same⟩ | other
  · obtain ⟨d', old, -, rules', stored', made⟩ := held snapshot known
    refine ⟨snapshot, _, take_of_version known same, ?_⟩
    rw [made] at same
    obtain rfl := telling.versioned d' old d now rules' rules stored' stored same
    refine ⟨made, rfl, ?_⟩
    show Held ⟨w.service.store, stamp, w.service.held⟩ disks
    rw [known]
    exact holds snapshot made
  · exact ⟨_, _, take_of_other other, rfl, rfl, holds _ rfl⟩

/-- One refresh gives the rule set of the list that is stored now, or the failure to
read it, and the service holds on to it. -/
theorem refresh_eq (telling : Telling w.service.store disks) (held : w.service.Held disks)
    (now : d ∈ disks) :
    (refresh d w).1.map Snapshot.ruleSet = (w.service.store.list d).map RuleSet.ofRules ∧
      (refresh d w).2.service.store = w.service.store ∧ (refresh d w).2.service.Held disks := by
  have rooted := telling.rooted d now
  cases stamped : w.service.store.stamp d with
  | error e =>
    rw [refresh_of_hidden stamped, Store.list_eq_error_of_stamp rooted stamped]
    exact ⟨rfl, rfl, held⟩
  | ok stamp =>
    rcases w.service.known_or_unknown stamp with ⟨snapshot, h, rfl⟩ | unknown
    · -- What is held was stored at another moment, with the stamp that is known now: so
      -- the file holds the same bytes now, and the list is the same.
      obtain ⟨d', old, stamped', rules, stored, made⟩ := held snapshot h
      have same : d'.read w.service.store.path = d.read w.service.store.path :=
        telling.stamped d' old d now w.service.stamp stamped' stamped
      rw [Store.list_congr same] at stored
      rw [refresh_of_known h stamped, stored]
      exact ⟨congrArg Except.ok made, rfl, held⟩
    · rw [refresh_of_unknown stamped unknown]
      cases stored : w.service.store.list d with
      | error e => exact ⟨rfl, rfl, held⟩
      | ok rules =>
        obtain ⟨snapshot, w', taken, made, store, holds⟩ := held_take telling held now stamped stored
        dsimp only
        rw [taken]
        exact ⟨congrArg Except.ok made, store, holds⟩

/-- An evaluation is a refresh, and one more line that tells of the answer. -/
theorem evaluate_apply (d : Disk) (url : Points) (w : Serving) :
    evaluate d url w = match refresh d w with
      | (.ok snapshot, w') => (.ok (snapshot.ruleSet.redirect? url),
          { w' with log := w'.log ++ [answerLine url (snapshot.ruleSet.redirect? url)] })
      | (.error e, w') => (.error e, w') := by
  rw [evaluate, Step.bind_apply]
  rcases refresh d w with ⟨_ | snapshot, w'⟩ <;> rfl

theorem rewrite_apply (d : Disk) (url : Points) (w : Serving) :
    rewrite d url w = ((evaluate d url w).1.map fun answer =>
      (answer.map Redirect.destination).getD url, (evaluate d url w).2) := by
  rw [rewrite, Step.bind_apply]
  rcases evaluate d url w with ⟨_ | _ | redirect, w'⟩ <;> rfl

theorem service_evaluate (d : Disk) (url : Points) (w : Serving) :
    (evaluate d url w).2.service = (refresh d w).2.service := by
  rw [evaluate_apply]
  rcases refresh d w with ⟨_ | snapshot, w'⟩ <;> rfl

theorem evaluate_eq (d : Disk) (url : Points) (w : Serving) :
    (evaluate d url w).1 = ((refresh d w).1.map Snapshot.ruleSet).map (·.redirect? url) := by
  rw [evaluate_apply]
  rcases refresh d w with ⟨_ | snapshot, w'⟩ <;> rfl

end Service

namespace World

variable {s : Store} {disks : List Disk} {w : World}

theorem service_served (w : World) {e : Event} (call : e.IsCall) :
    (w.served e).service = ((Service.refresh w.disk).serve w.service).2.service := by
  cases e with
  | operation op => exact call.elim
  | outside change => exact call.elim
  | evaluate url => exact Service.service_evaluate w.disk url _
  | rewrite url =>
    show (Service.rewrite w.disk url _).2.service = _
    rw [Service.rewrite_apply]
    exact Service.service_evaluate w.disk url _
  | ruleSet => rfl

theorem served_other {e : Event} (other : ¬e.IsCall) : w.served e = ⟨w.service, []⟩ := by
  cases e with
  | operation op => rfl
  | outside change => rfl
  | _ => exact absurd trivial other

theorem diskAfter_call (w : World) {e : Event} (call : e.IsCall) : w.diskAfter e = w.disk := by
  cases e with
  | operation op => exact call.elim
  | outside change => exact call.elim
  | _ => rfl

/-- A call that fails leaves the moment as it was, and logs nothing. -/
theorem call_of_error {e : Failure} {after : Serving}
    (h : (Service.refresh w.disk).serve w.service = (.error e, after)) {call : Event}
    (isCall : call.IsCall) : w.step call = w ∧ (w.served call).log = [] := by
  have same : after = ⟨w.service, []⟩ := Service.refresh_eq_error h
  rw [same] at h
  rw [OnService.serve_eq] at h
  have evaluated (url : Points) :
      Service.evaluate w.disk url ⟨w.service, []⟩ = (.error e, ⟨w.service, []⟩) := by
    rw [Service.evaluate_apply, h]
  have served : w.served call = ⟨w.service, []⟩ := by
    cases call with
    | operation op => rfl
    | outside change => rfl
    | evaluate url => rw [served, OnService.serve_eq, evaluated]
    | rewrite url => rw [served, OnService.serve_eq, Service.rewrite_apply, evaluated]
    | ruleSet => rw [served, OnService.serve_eq, h]
  refine ⟨?_, by rw [served]⟩
  rw [step, served, diskAfter_call w isCall]

/-- One event keeps the service at its store, with a rule set that was stored. -/
theorem held_step (telling : Telling s disks) (store : w.service.store = s)
    (held : w.service.Held disks) (now : w.disk ∈ disks) (e : Event) :
    (w.step e).service.store = s ∧ (w.step e).service.Held disks := by
  subst store
  by_cases call : e.IsCall
  · have after := (Service.refresh_eq (w := ⟨w.service, []⟩) telling held now).2
    show (w.served e).service.store = _ ∧ (w.served e).service.Held disks
    rw [service_served w call]
    exact after
  · show (w.served e).service.store = _ ∧ (w.served e).service.Held disks
    rw [served_other call]
    exact ⟨rfl, held⟩

theorem held_moments (telling : Telling s disks) : ∀ (events : List Event) (w : World),
    w.service.store = s → w.service.Held disks → (∀ v ∈ w.moments events, v.disk ∈ disks) →
    ∀ v ∈ w.moments events, v.service.store = s ∧ v.service.Held disks
  | [], w, store, held, _ => by
    intro v hv
    obtain rfl := List.mem_singleton.mp hv
    exact ⟨store, held⟩
  | e :: events, w, store, held, visited => by
    rw [moments, List.forall_mem_cons] at visited ⊢
    obtain ⟨store', held'⟩ := held_step telling store held visited.1 e
    exact ⟨⟨store, held⟩, held_moments telling events (w.step e) store' held' visited.2⟩

/-- At every moment of a run of a service that starts with nothing, the service answers
from the list that is stored at that moment, or with the failure to read it, which
leaves the service as it was. -/
theorem fresh_of_run (s : Store) (d : Disk) (events : List Event)
    (telling : Telling s ((moments ⟨d, .fresh s⟩ events).map World.disk)) :
    ∀ w ∈ moments ⟨d, .fresh s⟩ events,
      (∀ url, ((Service.evaluate w.disk url).serve w.service).1 =
        (s.list w.disk).map fun rules => (RuleSet.ofRules rules).redirect? url) ∧
      (∀ url, ((Service.rewrite w.disk url).serve w.service).1 =
        (s.list w.disk).map fun rules =>
          (((RuleSet.ofRules rules).redirect? url).map Redirect.destination).getD url) ∧
      ((Service.refresh w.disk).serve w.service).1.map Snapshot.ruleSet =
        (s.list w.disk).map RuleSet.ofRules ∧
      ∀ e, s.list w.disk = .error e → ∀ call : Event, call.IsCall → w.step call = w := by
  intro w hw
  have visited : ∀ v ∈ moments ⟨d, .fresh s⟩ events,
      v.disk ∈ (moments ⟨d, .fresh s⟩ events).map World.disk :=
    fun v hv => List.mem_map_of_mem hv
  obtain ⟨rfl, held⟩ := held_moments telling events ⟨d, .fresh s⟩ rfl
    (Service.held_fresh s _) visited w hw
  have current : ((Service.refresh w.disk).serve w.service).1.map Snapshot.ruleSet =
      (w.service.store.list w.disk).map RuleSet.ofRules :=
    (Service.refresh_eq (w := ⟨w.service, []⟩) telling held (visited w hw)).1
  have answers (url : Points) : ((Service.evaluate w.disk url).serve w.service).1 =
      (w.service.store.list w.disk).map fun rules => (RuleSet.ofRules rules).redirect? url := by
    refine (Service.evaluate_eq w.disk url _).trans ?_
    show (((Service.refresh w.disk).serve w.service).1.map _).map _ = _
    rw [current]
    cases w.service.store.list w.disk <;> rfl
  refine ⟨answers, fun url => ?_, current, fun e fails call isCall => ?_⟩
  · show (Service.rewrite w.disk url _).1 = _
    rw [Service.rewrite_apply]
    show ((Service.evaluate w.disk url).serve w.service).1.map _ = _
    rw [answers]
    cases w.service.store.list w.disk <;> rfl
  · rcases refreshed : (Service.refresh w.disk).serve w.service with ⟨e | snapshot, after⟩
    · exact (call_of_error refreshed isCall).1
    · rw [refreshed, fails] at current
      simp [Except.map] at current

/-! ## A file that is spoilt and repaired -/

/-- A disk with a file in the directory of a store, written at the given time. -/
def holding (bytes : ByteArray) (time : Int) : Disk :=
  ⟨[(["store"], .directory), (["store", "rules.json"], .file bytes time)], time⟩

theorem status_holding (bytes : ByteArray) (time : Int) :
    (holding bytes time).status ⟨"", ["store"]⟩ = .ok .directory ∧
      (holding bytes time).status (Store.path ⟨⟨"", ["store"]⟩⟩) = .ok (.file bytes time) := by
  constructor <;> cbv

theorem stamp_holding (bytes : ByteArray) (time : Int) :
    Store.stamp ⟨⟨"", ["store"]⟩⟩ (holding bytes time) = .ok (some ⟨time, bytes.size⟩) := by
  rw [Store.stamp, (status_holding bytes time).2]

theorem list_holding (bytes : ByteArray) (time : Int) :
    Store.list ⟨⟨"", ["store"]⟩⟩ (holding bytes time) =
      RuleFile.parse (Store.path ⟨⟨"", ["store"]⟩⟩) bytes := by
  simp [Store.list, Disk.present, RuleFile.load, Disk.read, (status_holding bytes time).2,
    Failure.ofDisk, Except.mapError, bind, Except.bind, pure, Except.pure]

/-- A run in which the file is spoilt and repaired between the calls. -/
theorem fresh_of_spoilt_and_repaired :
    let s : Store := ⟨⟨"", ["store"]⟩⟩
    let rules : List Rule := [⟨"https://a.example/", "b.example"⟩]
    let good := (RuleFile.encode .json rules).toUTF8
    let bad := "[".toUTF8
    let events : List Event := [.evaluate "https://a.example/x", .outside fun _ => holding bad 2,
      .evaluate "https://a.example/x", .outside fun _ => holding good 3, .ruleSet]
    let run := moments ⟨holding good 1, .fresh s⟩ events
    Telling s (run.map World.disk) ∧ ∀ w ∈ run,
      ((Service.refresh w.disk).serve w.service).1.map Snapshot.ruleSet =
        (s.list w.disk).map RuleSet.ofRules := by
  intro s rules good bad events run
  have stored (time : Int) : s.list (holding good time) = .ok rules := by
    rw [list_holding]
    refine RuleFile.parse_encode s.path s.formatOf?_path rules ?_
    rw [List.forall_mem_singleton]
    exact ⟨Points.joined_ofList _, Points.joined_ofList _⟩
  have spoilt : ∃ e, s.list (holding bad 2) = .error e := by
    rw [list_holding, RuleFile.parse, RuleFile.textOf, Text.decode?_toUTF8]
    exact ⟨_, rfl⟩
  have disks : run.map World.disk = [holding good 1, holding good 1, holding bad 2, holding bad 2,
      holding good 3, holding good 3] := by
    simp [run, events, moments, step, diskAfter]
  have telling : Telling s (run.map World.disk) := by
    -- Three disks occur. Their times tell them apart, and one list is stored at most.
    have forms : ∀ d ∈ run.map World.disk,
        d = holding good 1 ∨ d = holding bad 2 ∨ d = holding good 3 := by
      rw [disks]
      simp
    refine ⟨fun d hd => ?_, fun d hd d' hd' stamp stamped stamped' => ?_,
      fun d hd d' hd' found found' listed listed' _ => ?_⟩
    · rcases forms d hd with rfl | rfl | rfl <;> exact .inl (status_holding _ _).1
    · have one : s.stamp d = s.stamp d' := stamped.trans stamped'.symm
      rcases forms d hd with rfl | rfl | rfl <;> rcases forms d' hd' with rfl | rfl | rfl <;>
        first | rfl | simp [s, stamp_holding] at one
    · have only : ∀ d ∈ run.map World.disk, ∀ found, s.list d = .ok found → found = rules := by
        intro d hd found listed
        obtain ⟨e, fails⟩ := spoilt
        rcases forms d hd with rfl | rfl | rfl
        · exact (Except.ok.inj ((stored 1).symm.trans listed)).symm
        · simp [fails] at listed
        · exact (Except.ok.inj ((stored 3).symm.trans listed)).symm
      rw [only d hd found listed, only d' hd' found' listed']
  exact ⟨telling, fun w hw => (fresh_of_run s _ events telling w hw).2.2.1⟩

end World

end Reroute
