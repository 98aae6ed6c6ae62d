import Reroute.Proofs.Serve.Replacement

/-!
# Batches

A batch is pulled one URL at a time, while the store changes and the service is asked other
things. Pull number `k` evaluates the URL number `k`, then and not before, and says what an
evaluation says at that moment; once one has failed, or all URLs are used up, a pull does
nothing and says that the batch is at its end. Over a store that is left alone all URLs of
a batch are answered by one rule set (`pull_of_run`).

What a pull finds is told by inductions over the turns of a run, for a batch that is
anywhere: before the first failure (`yields_of_ok`) and after it (`yields_of_failed`). The
second half rests on a refresh that gives again what it gave before, as long as the file
stays as it is (`steady_step`).
-/

namespace Reroute

namespace Store

variable {s : Store} {d : Disk} {rules : List Rule}

/-- A store that can be looked at: its stamp and its list are told. -/
structure Loads (s : Store) (d : Disk) (rules : List Rule) : Prop where
  stamped : ∃ stamp, s.stamp d = .ok stamp
  listed : s.list d = .ok rules

/-- Only a root that is neither a directory nor missing hides the stamp of a list that is
told. -/
theorem loads_of_rooted
    (rooted : d.status s.root = .ok .directory ∨ d.status s.root = .error .notFound)
    (listed : s.list d = .ok rules) : s.Loads d rules := by
  refine ⟨?_, listed⟩
  cases stamped : s.stamp d with
  | ok stamp => exact ⟨stamp, rfl⟩
  | error e =>
    rw [list_eq_error_of_stamp rooted stamped] at listed
    simp at listed

end Store

namespace Service

variable {s : Service} {d d' : Disk} {rules : List Rule} {snapshot : Snapshot} {after w : Serving}

/-- A refresh depends on the disk by what the path of the file leads to. -/
theorem refresh_congr (same : d'.status w.service.store.path = d.status w.service.store.path) :
    refresh d' w = refresh d w := by
  have stamp : w.service.store.stamp d' = w.service.store.stamp d := by
    rw [Store.stamp, Store.stamp, same]
  have list : w.service.store.list d' = w.service.store.list d := by
    apply Store.list_congr
    rw [Disk.read, Disk.read, same]
  simp only [refresh, Step.bind_apply, OnService.service_apply, stamp, list]

theorem evaluateAll_cons {url : Points} {answer : Option Redirect}
    (first : evaluate d url w = (.ok answer, after)) (urls : List Points) :
    (evaluateAll d (url :: urls) w).1 =
      (evaluateAll d urls after).1.map fun answers => (url, answer) :: answers := by
  rw [evaluateAll, Step.bind_apply, first]
  dsimp only
  rw [Step.bind_apply]
  rcases evaluateAll d urls after with ⟨_ | answers, w'⟩ <;> rfl

/-- Where what a service holds has the stamp of the disk, all URLs are answered from it. -/
theorem evaluateAll_of_known (held : s.held = some snapshot)
    (stamped : s.store.stamp d = .ok s.stamp) (urls : List Points) (lines : List LogLine) :
    (evaluateAll d urls ⟨s, lines⟩).1 =
      .ok (urls.map fun url => (url, snapshot.ruleSet.redirect? url)) := by
  induction urls generalizing lines with
  | nil => rfl
  | cons url urls ih =>
    have first : evaluate d url ⟨s, lines⟩ = (.ok (snapshot.ruleSet.redirect? url),
        ⟨s, lines ++ [answerLine url (snapshot.ruleSet.redirect? url)]⟩) := by
      rw [evaluate_apply, refresh_of_known (w := ⟨s, lines⟩) held stamped]
    rw [evaluateAll_cons first, ih]
    rfl

/-- Evaluations one after another on one disk answer from one rule set: behind the first of
them the service holds what it answers from, with the stamp. -/
theorem evaluateAll_eq (h : (refresh d).serve s = (.ok snapshot, after)) (urls : List Points) :
    ((evaluateAll d urls).serve s).1 =
      .ok (urls.map fun url => (url, snapshot.ruleSet.redirect? url)) := by
  have settled := settled h
  have stamped : after.service.store.stamp d = .ok after.service.stamp := by
    rw [settled.store]
    exact settled.stamp
  rw [OnService.serve_eq] at h ⊢
  cases urls with
  | nil => rfl
  | cons url urls =>
    have first : evaluate d url ⟨s, []⟩ = (.ok (snapshot.ruleSet.redirect? url),
        ⟨after.service, after.log ++ [answerLine url (snapshot.ruleSet.redirect? url)]⟩) := by
      rw [evaluate_apply, h]
    rw [evaluateAll_cons first, evaluateAll_of_known settled.held stamped]
    rfl

theorem refresh_again (h : (refresh d).serve s = (.ok snapshot, after)) :
    (refresh d).serve after.service = (.ok snapshot, ⟨after.service, []⟩) := by
  have settled := settled h
  refine refresh_of_known (w := ⟨after.service, []⟩) settled.held ?_
  show after.service.store.stamp d = .ok after.service.stamp
  rw [settled.store]
  exact settled.stamp

end Service

/-- A pull ended in a failure. -/
def Batch.Pull.failed (p : Batch.Pull) : Bool :=
  match p.result with
  | .ok _ => false
  | .error _ => true

theorem Batch.failed_of_result {p : Pull} {found : Option (Points × Option Redirect)}
    (h : p.result = .ok found) : p.failed = false := by
  rw [Pull.failed, h]

namespace World

/-! ## Runs with a batch -/

/-- A moment with a batch that is under way. -/
structure Underway where
  world : World
  batch : Batch

/-- What happens while a batch is under way: a pull, or anything else. -/
inductive Turn where
  | pull
  | other (e : Event)

namespace Underway

def next (u : Underway) : Batch.Pull := u.batch.next u.world.service u.world.disk

def step (u : Underway) : Turn → Underway
  | .pull => ⟨{ u.world with service := u.next.service }, u.next.batch⟩
  | .other e => ⟨u.world.step e, u.batch⟩

/-- The pulls of a run, each with the moment before it. -/
def pulls : Underway → List Turn → List (World × Batch.Pull)
  | _, [] => []
  | u, .pull :: turns => (u.world, u.next) :: pulls (u.step .pull) turns
  | u, .other e :: turns => pulls (u.step (.other e)) turns

/-- The moments of a run, the first one included. -/
def worlds : Underway → List Turn → List World
  | u, [] => [u.world]
  | u, turn :: turns => u.world :: worlds (u.step turn) turns

end Underway

/-- What a pull says and does at a moment when it finds the given URL, or none. -/
def Yields (v : World) : Option Points → Batch.Pull → Prop
  | some url, p =>
    p.result = ((Service.evaluate v.disk url).serve v.service).1.map
        (fun answer => some (url, answer)) ∧
      p.service = (v.step (.evaluate url)).service ∧ p.log = (v.served (.evaluate url)).log
  | none, p => p.result = .ok none ∧ p.service = v.service ∧ p.log = []

variable {u : Underway} {turns : List Turn} {v w : World} {p : Batch.Pull}

/-- What one pull does: it uses up the first URL, and all of them if it fails. -/
theorem yields_next (u : Underway) : Yields u.world u.batch.urls.head? u.next ∧
    u.next.batch.urls = if u.next.failed then [] else u.batch.urls.tail := by
  obtain ⟨⟨disk, service⟩, ⟨_ | ⟨url, urls⟩⟩⟩ := u
  · exact ⟨⟨rfl, rfl, rfl⟩, rfl⟩
  · show Yields ⟨disk, service⟩ (some url) (Batch.next ⟨url :: urls⟩ service disk) ∧
      (Batch.next ⟨url :: urls⟩ service disk).batch.urls =
        if (Batch.next ⟨url :: urls⟩ service disk).failed then [] else urls
    rcases evaluated : (Service.evaluate disk url).serve service with ⟨result, after⟩
    have moment : served ⟨disk, service⟩ (.evaluate url) = after := by simp [served, evaluated]
    have yields (p : Batch.Pull) (found : p.result = result.map fun answer => some (url, answer))
        (assigned : p.service = after.service) (logged : p.log = after.log) :
        Yields ⟨disk, service⟩ (some url) p := by
      refine ⟨?_, ?_, ?_⟩
      · rw [found, evaluated]
      · rw [assigned, step, moment]
      · rw [logged, moment]
    cases result with
    | error e =>
      simp only [Batch.next, evaluated]
      exact ⟨yields _ rfl rfl rfl, rfl⟩
    | ok answer =>
      simp only [Batch.next, evaluated]
      exact ⟨yields _ rfl rfl rfl, rfl⟩

/-- As long as no pull has failed, pull number `k` finds URL number `k`. -/
theorem yields_of_ok (u : Underway) (turns : List Turn) (k : Nat)
    (h : (u.pulls turns)[k]? = some (v, p))
    (ok : ∀ e ∈ (u.pulls turns).take k, e.2.failed = false) : Yields v u.batch.urls[k]? p := by
  induction turns generalizing u k with
  | nil => simp [Underway.pulls] at h
  | cons turn turns ih =>
    cases turn with
    | other e => exact ih (u.step (.other e)) k h ok
    | pull =>
      obtain ⟨yields, left⟩ := yields_next u
      cases k with
      | zero =>
        obtain ⟨rfl, rfl⟩ := Prod.mk.inj (Option.some.inj h)
        rwa [← List.head?_eq_getElem?]
      | succ k =>
        rw [Underway.pulls, List.take_succ_cons, List.forall_mem_cons] at ok
        have later := ih (u.step .pull) k h ok.2
        have rest : (u.step .pull).batch.urls = u.batch.urls.tail := by
          show u.next.batch.urls = _
          rw [left, ok.1]
          rfl
        rwa [rest, List.getElem?_tail] at later

theorem yields_of_empty (u : Underway) (turns : List Turn) (empty : u.batch.urls = [])
    (h : (v, p) ∈ u.pulls turns) : Yields v none p := by
  induction turns generalizing u with
  | nil => simp [Underway.pulls] at h
  | cons turn turns ih =>
    cases turn with
    | other e => exact ih (u.step (.other e)) empty h
    | pull =>
      obtain ⟨yields, left⟩ := yields_next u
      rw [empty] at yields left
      rcases List.mem_cons.mp h with now | later
      · obtain ⟨rfl, rfl⟩ := Prod.mk.inj now
        exact yields
      · refine ih (u.step .pull) ?_ later
        show u.next.batch.urls = []
        rw [left]
        exact ite_self _

/-- A pull that fails uses up all URLs, so the pulls after it find none. -/
theorem yields_of_failed (u : Underway) (turns : List Turn) (k : Nat)
    (h : (u.pulls turns)[k]? = some (v, p))
    (fails : ∃ e ∈ (u.pulls turns).take k, e.2.failed = true) : Yields v none p := by
  induction turns generalizing u k with
  | nil => simp [Underway.pulls] at h
  | cons turn turns ih =>
    cases turn with
    | other e => exact ih (u.step (.other e)) k h fails
    | pull =>
      cases k with
      | zero => simp at fails
      | succ k =>
        rw [Underway.pulls, List.take_succ_cons, List.exists_mem_cons_iff] at fails
        rcases fails with now | later
        · refine yields_of_empty (u.step .pull) turns ?_ (List.mem_of_getElem? h)
          show u.next.batch.urls = []
          rw [(yields_next u).2, now]
          rfl
        · exact ih (u.step .pull) k h later

theorem exists_yields (u : Underway) (turns : List Turn) {e : World × Batch.Pull}
    (h : e ∈ u.pulls turns) : ∃ url?, Yields e.1 url? e.2 := by
  obtain ⟨k, here⟩ := List.mem_iff_getElem?.mp h
  by_cases ok : ∀ e ∈ (u.pulls turns).take k, e.2.failed = false
  · exact ⟨_, yields_of_ok u turns k here ok⟩
  · push Not at ok
    obtain ⟨e, he, fails⟩ := ok
    exact ⟨_, yields_of_failed u turns k here ⟨e, he, by simpa using fails⟩⟩

/-! ## A store that is left alone -/

/-- A moment at which the file is the given one, and a service of the store would answer
from the given snapshot. -/
structure Steady (s : Store) (status : Except DiskFault Entry) (snapshot : Snapshot)
    (w : World) : Prop where
  store : w.service.store = s
  file : w.disk.status s.path = status
  current : ∃ after, (Service.refresh w.disk).serve w.service = (.ok snapshot, after)

variable {s : Store} {status : Except DiskFault Entry} {snapshot : Snapshot}

/-- Whatever happens, the service answers from the same snapshot as long as the file stays
as it is. -/
theorem steady_step (steady : Steady s status snapshot w) (e : Event)
    (same : (w.step e).disk.status s.path = status) : Steady s status snapshot (w.step e) := by
  obtain ⟨after, refreshed⟩ := steady.current
  by_cases call : e.IsCall
  · have moment : w.step e = ⟨w.disk, after.service⟩ := by
      rw [step, diskAfter_call w call, service_served w call, refreshed]
    rw [moment] at same ⊢
    exact ⟨(Service.settled refreshed).store.trans steady.store, same, _,
      Service.refresh_again refreshed⟩
  · have kept : (w.step e).service = w.service := service_step_other call
    refine ⟨kept ▸ steady.store, same, after, ?_⟩
    rw [kept, OnService.serve_eq, ← refreshed, OnService.serve_eq]
    apply Service.refresh_congr
    show (w.step e).disk.status w.service.store.path = w.disk.status w.service.store.path
    rw [steady.store, same, steady.file]

theorem Steady.yields {url? : Option Points} (steady : Steady s status snapshot v)
    (yields : Yields v url? p) :
    p.result = .ok (url?.map fun url => (url, snapshot.ruleSet.redirect? url)) := by
  cases url? with
  | none => exact yields.1
  | some url =>
    obtain ⟨after, refreshed⟩ := steady.current
    rw [OnService.serve_eq] at refreshed
    rw [yields.1, OnService.serve_eq, Service.evaluate_apply, refreshed]
    rfl

/-- A pull is to the service what an evaluation is, or nothing. -/
theorem steady_pull (steady : Steady s status snapshot u.world) :
    Steady s status snapshot (u.step .pull).world := by
  have yields := (yields_next u).1
  cases first : u.batch.urls.head? with
  | none =>
    rw [first] at yields
    have same : (u.step .pull).world = u.world := by
      show { u.world with service := u.next.service } = u.world
      rw [yields.2.1]
    rwa [same]
  | some url =>
    rw [first] at yields
    have disk : (u.world.step (.evaluate url)).disk = u.world.disk := rfl
    have same : (u.step .pull).world = u.world.step (.evaluate url) := by
      show World.mk u.world.disk u.next.service = _
      rw [yields.2.1, ← disk]
    rw [same]
    apply steady_step steady
    rw [disk, steady.file]

theorem steady_pulls (u : Underway) (turns : List Turn) (steady : Steady s status snapshot u.world)
    (still : ∀ v ∈ u.worlds turns, v.disk.status s.path = status) :
    ∀ e ∈ u.pulls turns, Steady s status snapshot e.1 := by
  induction turns generalizing u with
  | nil => simp [Underway.pulls]
  | cons turn turns ih =>
    rw [Underway.worlds, List.forall_mem_cons] at still
    cases turn with
    | other e =>
      have now : (u.step (.other e)).world ∈ (u.step (.other e)).worlds turns := by
        cases turns <;> simp [Underway.worlds]
      exact ih _ (steady_step steady e (still.2 _ now)) still.2
    | pull =>
      rw [Underway.pulls, List.forall_mem_cons]
      exact ⟨steady, ih _ (steady_pull steady) still.2⟩

/-- Over a run of a service that starts with nothing, a list that is told is the one that
is answered from, where it has changed for the service or stamps and versions tell. -/
theorem current_of_run (s : Store) (d : Disk) (events : List Event) {rules : List Rule}
    {snapshot : Snapshot} {after : Serving}
    (stored : s.list (run ⟨d, .fresh s⟩ events).disk = .ok rules)
    (h : (Service.refresh (run ⟨d, .fresh s⟩ events).disk).serve
      (run ⟨d, .fresh s⟩ events).service = (.ok snapshot, after))
    (known : (run ⟨d, .fresh s⟩ events).service.Changed (run ⟨d, .fresh s⟩ events).disk ∨
      Telling s ((moments ⟨d, .fresh s⟩ events).map World.disk)) :
    snapshot.ruleSet = RuleSet.ofRules rules := by
  have store := store_run s d events
  rcases known with changed | telling
  · rcases Service.refresh_cases h with kept | ⟨rules', replaced⟩
    · exact absurd changed kept.unchanged
    · have read := replaced.stored
      rw [store, stored] at read
      obtain rfl := Except.ok.inj read
      rw [replaced.current]
      rfl
  · have visited : ∀ v ∈ moments ⟨d, .fresh s⟩ events,
        v.disk ∈ (moments ⟨d, .fresh s⟩ events).map World.disk :=
      fun v hv => List.mem_map_of_mem hv
    have last := run_mem_moments ⟨d, .fresh s⟩ events
    have held := (held_moments telling events _ rfl (Service.held_fresh s _) visited _ last).2
    have current := (Service.refresh_eq (w := ⟨_, []⟩) (store.symm ▸ telling) held
      (visited _ last)).1
    rw [OnService.serve_eq] at h
    rw [h] at current
    dsimp only at current
    rw [store, stored] at current
    exact Except.ok.inj current

/-- A batch is started at any moment of a run, and pulled while other things happen. As
long as no pull has failed, pull number `k` says and does what an evaluation of URL number
`k` says and does at that moment, its failure included, and nothing is left to pull behind
the last URL or a failure. Where the list can be looked at, pulls that follow one another
without a change of the file answer all URLs from one rule set, which is that of the
stored list. -/
theorem pull_of_run (s : Store) (d : Disk) (before : List Event) (urls : List Points)
    (turns : List Turn) :
    let w : World := run ⟨d, .fresh s⟩ before
    let u : Underway := ⟨w, ⟨urls⟩⟩
    (∀ k v p, (u.pulls turns)[k]? = some (v, p) →
      ((∀ e ∈ (u.pulls turns).take k, e.2.failed = false) → Yields v urls[k]? p) ∧
      ((∃ e ∈ (u.pulls turns).take k, e.2.failed = true) → Yields v none p)) ∧
    ∀ rules, s.list w.disk = .ok rules →
      (w.disk.status s.root = .ok .directory ∨ w.disk.status s.root = .error .notFound →
        s.Loads w.disk rules) ∧
      (s.Loads w.disk rules → ∃ ruleSet : RuleSet,
        ruleSet = RuleSet.ofRules ruleSet.rules ∧
        (w.service.Changed w.disk ∨ Telling s ((moments ⟨d, .fresh s⟩ before).map World.disk) →
          ruleSet.rules = rules) ∧
        ((Service.evaluateAll w.disk urls).serve w.service).1 =
          .ok (urls.map fun url => (url, ruleSet.redirect? url)) ∧
        ((∀ v ∈ u.worlds turns, v.disk.status s.path = w.disk.status s.path) →
          ∀ (k : Nat) (v : World) (p : Batch.Pull), (u.pulls turns)[k]? = some (v, p) →
            p.result = .ok (urls[k]?.map fun url => (url, ruleSet.redirect? url)))) := by
  intro w u
  have store : w.service.store = s := store_run s d before
  constructor
  · intro k v p h
    exact ⟨yields_of_ok u turns k h, yields_of_failed u turns k h⟩
  intro rules stored
  refine ⟨fun rooted => Store.loads_of_rooted rooted stored, ?_⟩
  intro loads
  obtain ⟨⟨stamp, stamped⟩, listed⟩ : w.service.store.Loads w.disk rules := store.symm ▸ loads
  obtain ⟨snapshot, after, refreshed⟩ := Service.refresh_of_listed stamped listed
  have tracked := tracked_refresh (tracked_run s d before) refreshed
  refine ⟨snapshot.ruleSet, tracked.made _ (Service.settled refreshed).held, ?_,
    Service.evaluateAll_eq refreshed urls, ?_⟩
  · intro known
    rw [current_of_run s d before stored refreshed known]
    rfl
  · intro still k v p h
    have steady : Steady s (w.disk.status s.path) snapshot w :=
      ⟨store, rfl, after, refreshed⟩
    have all := steady_pulls u turns steady still
    have ok : ∀ e ∈ (u.pulls turns).take k, e.2.failed = false := by
      intro e he
      obtain ⟨url?, yields⟩ := exists_yields u turns (List.mem_of_mem_take he)
      exact Batch.failed_of_result ((all e (List.mem_of_mem_take he)).yields yields)
    exact (all (v, p) (List.mem_of_getElem? h)).yields (yields_of_ok u turns k h ok)

end World

end Reroute
