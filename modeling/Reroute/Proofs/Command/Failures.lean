import Reroute.Proofs.Command.Route
import Reroute.Proofs.Store.Failures

/-!
# Calls that fail

A call that fails leaves `rules.json` as it was, and so does one that only looks at the
disk or writes another file (`sameFile_of_failure`). The rules are changed by a step on
the store, which fails before it has saved anything, and what follows it can fail in two
ways only: what was done is shown, which takes a home directory for the path of a file and
characters for every text.

So there are limits (`not_sameFile_of_failure`). Where the way to the file that is saved
leads through `rules.json`, while that is missing, a directory is made of it. And what
was imported is told of when it is done: without a home directory that fails, and the
rules are in. Nor can a panel be written that shows half of a surrogate pair: the rule
that it tells of is removed by then.
-/

namespace Reroute.Command

open Store

theorem Outcome.ending_showing (o : Outcome) (panels : List Panel) :
    (o.showing panels).ending = o.ending ∨ (o.showing panels).ending = .unwritable := by
  induction panels generalizing o with
  | nil => exact .inl rfl
  | cons p panels ih =>
    rw [showing]
    split
    · exact ih { o with panels := o.panels ++ [p] }
    · exact .inr rfl

namespace Call

variable {c : Call} {disk : Disk} {root : Path}

/-! ## Calls that only look -/

theorem disk_withStore {f : Store → Outcome} (h : ∀ store, (f store).disk = disk) :
    (c.withStore disk f).disk = disk := by
  unfold withStore
  cases c.rootPath? with
  | none => rfl
  | some root => exact h ⟨root⟩

theorem disk_list (c : Call) (disk : Disk) : (c.list disk).disk = disk := by
  refine disk_withStore fun store => ?_
  cases store.list disk with
  | error f => exact Outcome.disk_fail _ f
  | ok rules => exact Outcome.disk_showing _ _

theorem disk_matchUrls (c : Call) (disk : Disk) (urls : List Points) :
    (c.matchUrls disk urls).disk = disk := by
  refine disk_withStore fun store => ?_
  rcases (Service.evaluateAll disk urls).serve (Service.fresh store) with ⟨f | results, after⟩
  · exact Outcome.disk_fail _ f
  · exact Outcome.disk_showing _ _

/-- The disk that lines are read on, also where a line ends the call. -/
def diskAfter : Except Outcome (Service × Outcome) → Disk
  | .ok (_, o) | .error o => o.disk

theorem diskAfter_print (o : Outcome) (service : Service) (text : Points) :
    diskAfter ((service, ·) <$> o.print text) = o.disk := by
  unfold Outcome.print
  cases (printedLine text).string? <;> rfl

theorem disk_rewriteUrl (c : Call) (onlyMatched : Bool) (service : Service) (o : Outcome)
    (url : Points) : diskAfter (c.rewriteUrl onlyMatched service o url) = o.disk := by
  unfold rewriteUrl
  rcases (Service.evaluate o.disk url).serve service with ⟨f | _ | redirect, after⟩
  · exact Outcome.disk_fail _ f
  · cases onlyMatched with
    | true => rfl
    | false => exact diskAfter_print (o.logged c.verbosity after.log) after.service url
  · exact diskAfter_print (o.logged c.verbosity after.log) after.service redirect.destination

/-- However many lines are read, and whatever their URLs lead to. -/
theorem disk_rewriteLines (c : Call) (onlyMatched : Bool) (service : Service) (o : Outcome)
    (lines : List (List Char)) :
    diskAfter (c.rewriteLines onlyMatched service o lines) = o.disk := by
  induction lines generalizing service o with
  | nil => rfl
  | cons line lines ih =>
    unfold rewriteLines
    dsimp only
    split
    · exact ih service o
    · have url := c.disk_rewriteUrl onlyMatched service o
        (Points.ofList (Text.trim Text.isBlank line))
      rcases read : c.rewriteUrl onlyMatched service o
        (Points.ofList (Text.trim Text.isBlank line)) with ended | ⟨service', o'⟩
      · rw [read] at url
        exact url
      · rw [read] at url
        exact (ih service' o').trans url

theorem disk_rewriteStreams (c : Call) (onlyMatched : Bool) (service : Service) (o : Outcome)
    (streams : List Text.Streamed) :
    (c.rewriteStreams onlyMatched service o streams).disk = o.disk := by
  induction streams generalizing service o with
  | nil => rfl
  | cons stream streams ih =>
    have lines := c.disk_rewriteLines onlyMatched service o stream.lines
    unfold rewriteStreams
    rcases read : c.rewriteLines onlyMatched service o stream.lines with ended | ⟨service', o'⟩
    · rw [read] at lines
      exact lines
    · rw [read] at lines
      dsimp only
      split
      · exact (Outcome.disk_fail _ _).trans lines
      · exact (ih service' o').trans lines

/-! ## Calls that change the rules -/

variable {α : Type} {step : Store → OnDisk (Logged α)} {view : α → Option (List Panel)}

theorem disk_change_of_rootless (rootless : c.rootPath? = none) :
    (c.change disk step view).disk = disk := by
  rw [change, withStore, rootless]
  rfl

theorem disk_change (rooted : c.rootPath? = some root) :
    (c.change disk step view).disk = (step ⟨root⟩ disk).2 := by
  rw [change, withStore, rooted]
  dsimp only [ExceptT.run]
  rcases step ⟨root⟩ disk with ⟨f | r, d⟩
  · exact Outcome.disk_fail _ f
  · exact Outcome.disk_showing? _ _

/-- Where what the step gives can be shown, a call that fails does so with the step. -/
theorem change_failed (rooted : c.rootPath? = some root) (shown : ∀ a, view a ≠ none)
    (failed : (c.change disk step view).ending ≠ .code 0)
    (written : (c.change disk step view).ending ≠ .unwritable) :
    ∃ e, step ⟨root⟩ disk = (.error e, (c.change disk step view).disk) := by
  have after : (c.change disk step view).disk = (step ⟨root⟩ disk).2 := disk_change rooted
  rw [after]
  rw [change, withStore, rooted] at failed written
  dsimp only [ExceptT.run] at failed written
  rcases result : step ⟨root⟩ disk with ⟨e | r, d⟩
  · exact ⟨e, rfl⟩
  · rw [result] at failed written
    obtain ⟨panels, hp⟩ := Option.ne_none_iff_exists'.mp (shown r.value)
    dsimp only at failed written
    rw [hp] at failed written
    rcases Outcome.ending_showing ((Outcome.start d).logged c.verbosity r.log) panels with
      ended | ended
    · exact absurd ended failed
    · exact absurd ended written

theorem sameFile_change {p : Path} (rooted : c.rootPath? = some root)
    (shown : ∀ a, view a ≠ none) (around : OnDisk.FailsAround p (step ⟨root⟩))
    (spared : Spares ⟨root⟩ disk p) (failed : (c.change disk step view).ending ≠ .code 0)
    (written : (c.change disk step view).ending ≠ .unwritable) :
    SameFile ⟨root⟩ disk (c.change disk step view).disk := by
  obtain ⟨e, result⟩ := change_failed rooted shown failed written
  exact sameFile_of_failsAround around spared result

/-! ## Calls that write another file -/

theorem transfer?_ne_none {home : Points} (known : Home.path? home ≠ none)
    (verb path : Points) (count skipped : Int) :
    (View.transfer? home verb path count skipped).map ([·]) ≠ none := by
  obtain ⟨base, hb⟩ := Option.ne_none_iff_exists'.mp known
  have compact : ∃ short, Home.compact? home path = some short := by
    unfold Home.compact?
    rw [hb]
    dsimp only [bind, Option.bind]
    split
    · exact ⟨_, rfl⟩
    · split <;> exact ⟨_, rfl⟩
  obtain ⟨short, hs⟩ := compact
  simp [View.transfer?, hs]

theorem disk_exportRules (rooted : c.rootPath? = some root) (p : Path) :
    (c.exportRules disk p).disk = (Store.exportTo ⟨root⟩ p disk).2 := by
  rw [exportRules, disk_change rooted]
  exact Step.snd_bind_pure _ _ disk

theorem write_of_writeTyped {text : Points} {bytes : ByteArray} {disk' : Disk}
    (written : disk.writeTyped text bytes = .ok disk') :
    disk.write (Path.ofText text) bytes = .ok disk' := by
  unfold Disk.writeTyped at written
  split at written
  · simp at written
  · split at written
    · split at written <;> simp at written
    · exact written

theorem netRequest_cases (c : Call) (disk : Disk) (output : Points) :
    (c.netRequest disk output).disk = disk ∨
      output ≠ "-" ∧ (c.netRequest disk output).ending = .code 0 ∧
        ∃ bytes, disk.write (Path.ofText output) bytes = .ok (c.netRequest disk output).disk := by
  unfold netRequest withStore
  cases c.rootPath? with
  | none => exact .inl rfl
  | some root =>
    dsimp only
    cases Store.list ⟨root⟩ disk with
    | error f => exact .inl (Outcome.disk_fail _ f)
    | ok rules =>
      dsimp only
      split
      · exact .inl rfl
      · next named =>
        split
        · next written => exact .inr ⟨named, rfl, _, write_of_writeTyped written⟩
        · exact .inl (Outcome.disk_fail _ _)
        · exact .inl rfl

end Call

/-! ## Deeds -/

def Action.looks : Action → Bool
  | .list | .explain | .matchUrls | .rewrite => true
  | _ => false

/-- The file that the words of an action name to be written. -/
def Action.target? (a : Action) (words : List Points) : Option Path :=
  match a, readWords a.spec true none words with
  | .exportRules, .ok w | .netRequest, .ok w => w.others.head?.map Path.ofText
  | _, _ => none

/-- The file that an action saves, after the directories around it are made: that of the
store, or the one that its words name. -/
def Action.saved? (s : Store) (words : List Points) : Action → Option Path
  | .add | .remove | .clear | .importRules => some s.path
  | .exportRules => Action.exportRules.target? words
  | _ => none

variable {c : Call} {disk : Disk} {w : Words} {a : Action} {o : Outcome} {root : Path}
  {words : List Points}

theorem Does.disk_of_looks (does : Does c disk w a o) (looks : a.looks = true) :
    o.disk = disk := by
  cases does with
  | list => exact c.disk_list disk
  | explain source destination => exact Outcome.disk_showing _ _
  | matchUrls urls => exact c.disk_matchUrls disk urls
  | rewrite streams =>
    exact Call.disk_withStore fun store => c.disk_rewriteStreams _ _ _ streams
  | _ => simp [Action.looks] at looks

theorem Does.disk_of_rootless (does : Does c disk w a o) (rootless : c.rootPath? = none) :
    o.disk = disk := by
  cases looks : a.looks with
  | true => exact does.disk_of_looks looks
  | false =>
    cases does with
    | list | explain | matchUrls | rewrite => simp [Action.looks] at looks
    | netRequest =>
      unfold Call.netRequest Call.withStore
      rw [rootless]
      rfl
    | _ => exact Call.disk_change_of_rootless rootless

theorem Does.sameFile_elsewhere (does : Does c disk w a o)
    (read : readWords a.spec true none words = .ok w) (rooted : c.rootPath? = some root)
    (writes : a = .exportRules ∨ a = .netRequest)
    (another : ∀ p ∈ a.target? words, Disk.placeOf p ≠ place ⟨root⟩)
    (spared : ∀ p ∈ a.saved? ⟨root⟩ words, Spares ⟨root⟩ disk p) :
    SameFile ⟨root⟩ disk o.disk := by
  cases does with
  | exportRules word named =>
    have target : Path.ofText word ∈ Action.exportRules.target? words := by
      simp [Action.target?, read, named]
    rw [Call.disk_exportRules rooted]
    exact sameFile_exportTo (spared _ target) (another _ target)
  | netRequest =>
    rcases c.netRequest_cases disk (w.others.headD ("-" : Points)) with same | ⟨named, -, bytes, written⟩
    · rw [same]
      exact SameFile.refl _ disk
    · have target : Path.ofText (w.others.headD ("-" : Points)) ∈ Action.netRequest.target? words := by
        cases others : w.others with
        | nil => simp [others] at named
        | cons word rest => simp [Action.target?, read, others]
      exact sameFile_write written (another _ target)
  | _ => simp at writes

theorem Does.sameFile_of_failed (does : Does c disk w a o)
    (read : readWords a.spec true none words = .ok w) (rooted : c.rootPath? = some root)
    (spared : ∀ p ∈ a.saved? ⟨root⟩ words, Spares ⟨root⟩ disk p)
    (failed : o.ending ≠ .code 0) (written : o.ending ≠ .unwritable)
    (known : a = .importRules ∨ a = .exportRules → Home.path? c.environment.home ≠ none) :
    SameFile ⟨root⟩ disk o.disk := by
  cases looks : a.looks with
  | true =>
    rw [does.disk_of_looks looks]
    exact SameFile.refl _ disk
  | false =>
    cases does with
    | list | explain | matchUrls | rewrite => simp [Action.looks] at looks
    | add source destination =>
      have around := failsAround_add ⟨root⟩ source destination
      exact Call.sameFile_change rooted (by simp) around (spared _ rfl) failed written
    | remove position =>
      have around := failsAround_remove ⟨root⟩ position
      exact Call.sameFile_change rooted (by simp) around (spared _ rfl) failed written
    | clear asked =>
      exact Call.sameFile_change rooted (by simp) (failsAround_clear _) (spared _ rfl) failed written
    | importRules p replace =>
      have shown := Call.transfer?_ne_none (known (.inl rfl)) "Imported" p.text
      have around := failsAround_importFrom ⟨root⟩ p replace
      exact Call.sameFile_change rooted (fun n => shown n.added n.skipped) around (spared _ rfl)
        failed written
    | exportRules word named =>
      have shown := Call.transfer?_ne_none (known (.inr rfl)) "Exported" (Path.ofText word).text
      have around := (failsAround_exportTo ⟨root⟩ (Path.ofText word)).bind_pure
        fun n => (⟨n, []⟩ : Logged Nat)
      have target : Path.ofText word ∈ Action.exportRules.target? words := by
        simp [Action.target?, read, named]
      exact Call.sameFile_change rooted (fun n => shown n 0) around (spared _ target) failed written
    | netRequest =>
      rcases c.netRequest_cases disk (w.others.headD ("-" : Points)) with same | ⟨-, ended, -⟩
      · rw [same]
        exact SameFile.refl _ disk
      · exact absurd ended failed

/-! ## Calls -/

/-- An operation or a call that fails leaves the file of the store as it was, with its
bytes and its time, and exporting to another file leaves it so in any case. Calls that
only look, that lead nowhere, or that do not know their root leave the whole disk. -/
theorem sameFile_of_failure :
    (∀ (s : Store) (op : Op) (d d' : Disk) (e : Failure), op.run s d = (.error e, d') →
      (∀ p ∈ op.saved? s, s.Spares d p) → s.SameFile d d') ∧
    (∀ (s : Store) (p : Path) (d : Disk), s.Spares d p → Disk.placeOf p ≠ s.place →
      s.SameFile d (s.exportTo p d).2) ∧
    ∀ (env : Environment) (disk : Disk) (words : List Points),
      let o := run env disk words
      (route? env disk words = none → o.disk = disk) ∧
      ∀ c a rest, route? env disk words = some ⟨c, a, rest⟩ →
        (a.looks = true ∨ c.rootPath? = none → o.disk = disk) ∧
        ∀ root, c.rootPath? = some root →
          (∀ p ∈ a.saved? ⟨root⟩ rest, Spares ⟨root⟩ disk p) →
          (a = .exportRules ∨ a = .netRequest →
            (∀ p ∈ a.target? rest, Disk.placeOf p ≠ place ⟨root⟩) →
            SameFile ⟨root⟩ disk o.disk) ∧
          (o.ending ≠ .code 0 → o.ending ≠ .unwritable →
            (a = .importRules ∨ a = .exportRules → Home.path? env.home ≠ none) →
            SameFile ⟨root⟩ disk o.disk) := by
  refine ⟨?_, ?_, ?_⟩
  · intro s op d d' e failed spared
    exact Store.sameFile_of_failed failed spared
  · intro s p d spared another
    exact sameFile_exportTo spared another
  · intro env disk words o
    have follows := follows_route env disk words
    refine ⟨fun lost => ?_, fun c a rest led => ?_⟩
    · rw [lost] at follows
      exact follows
    · rw [led] at follows
      have same_env : c.environment = env := environment_of_route led
      have outcome : o = c.perform disk a rest := follows
      rw [outcome]
      rcases c.perform_cases disk a rest with same | ⟨w, read, does⟩
      · have unchanged (s : Store) : SameFile s disk (c.perform disk a rest).disk := by
          rw [same]
          exact SameFile.refl s disk
        exact ⟨fun _ => same, fun root _ _ => ⟨fun _ _ => unchanged _, fun _ _ _ => unchanged _⟩⟩
      · refine ⟨?_, fun root rooted spared => ⟨?_, ?_⟩⟩
        · rintro (looks | rootless)
          · exact does.disk_of_looks looks
          · exact does.disk_of_rootless rootless
        · intro writes another
          exact does.sameFile_elsewhere read rooted writes another spared
        · intro failed written known
          rw [← same_env] at known
          exact does.sameFile_of_failed read rooted spared failed written known

/-- A store whose file is no text, and one that is missing. -/
theorem sameFile_of_failure_spoilt :
    let s : Store := ⟨⟨"", ["store"]⟩⟩
    let copy : Path := ⟨"", ["out", "copy.json"]⟩
    let spoilt : Disk :=
      ⟨[(["store"], .directory), (["store", "rules.json"], .file ⟨#[0xFF]⟩ 5)], 7⟩
    let env : Environment := ⟨"home", none, ByteArray.empty⟩
    let c : Call := ⟨env, 0, some "store"⟩
    let removes : List Points := ["--root", "store", "rules", "remove", "7"]
    let exports : List Points := ["--root", "store", "rules", "export", "out/copy.json"]
    ((Op.clear.run s spoilt).1 = .error .notText ∧ s.Spares spoilt s.path ∧
      s.SameFile spoilt (Op.clear.run s spoilt).2) ∧
    (s.Spares Disk.empty copy ∧ Disk.placeOf copy ≠ s.place ∧
      s.SameFile Disk.empty (s.exportTo copy Disk.empty).2) ∧
    (route? env Disk.empty removes = some ⟨c, .remove, ["7"]⟩ ∧
      (run env Disk.empty removes).ending = .code 2 ∧
      s.SameFile Disk.empty (run env Disk.empty removes).disk) ∧
    (route? env Disk.empty exports = some ⟨c, .exportRules, ["out/copy.json"]⟩ ∧
      (run env Disk.empty exports).ending = .code 0 ∧
      s.SameFile Disk.empty (run env Disk.empty exports).disk) := by
  intro s copy spoilt env c removes exports
  have cleared : (Op.clear.run s spoilt).1 = .error .notText := rfl
  have removing : route? env Disk.empty removes = some ⟨c, .remove, ["7"]⟩ := rfl
  have exporting : route? env Disk.empty exports = some ⟨c, .exportRules, ["out/copy.json"]⟩ :=
    rfl
  have refused : (run env Disk.empty removes).ending = .code 2 := rfl
  have exported : (run env Disk.empty exports).ending = .code 0 := rfl
  have rooted : c.rootPath? = some ⟨"", ["store"]⟩ := rfl
  have named : Action.exportRules.target? ["out/copy.json"] = some copy := rfl
  have spares : s.Spares spoilt s.path := by
    intro free
    have there : spoilt.entry? s.place = some (.file ⟨#[0xFF]⟩ 5) := rfl
    simp [there] at free
  have sparesPath : s.Spares Disk.empty s.path := fun _ => by decide
  have sparesCopy : s.Spares Disk.empty copy := fun _ => by decide
  have another : Disk.placeOf copy ≠ s.place := by decide
  obtain ⟨failing, elsewhere, calls⟩ := sameFile_of_failure
  refine ⟨⟨cleared, spares, ?_⟩, ⟨sparesCopy, another, elsewhere s copy _ sparesCopy another⟩,
    ⟨removing, refused, ?_⟩, exporting, exported, ?_⟩
  · refine failing s .clear spoilt _ .notText (Prod.ext cleared rfl) fun p saved => ?_
    obtain rfl := Option.some.inj saved
    exact spares
  · obtain ⟨-, store⟩ := (calls env Disk.empty removes).2 c .remove ["7"] removing
    refine (store _ rooted fun p saved => ?_).2 (by simp [refused]) (by simp [refused]) (by simp)
    obtain rfl := Option.some.inj saved
    exact sparesPath
  · obtain ⟨-, store⟩ := (calls env Disk.empty exports).2 c .exportRules _ exporting
    have only {p : Path} (target : p ∈ Action.exportRules.target? ["out/copy.json"]) : copy = p := by
      rw [named] at target
      exact Option.some.inj target
    refine (store _ rooted fun p target => ?_).1 (.inl rfl) fun p target => ?_
    · obtain rfl := only target
      exact sparesCopy
    · obtain rfl := only target
      exact another

/-! ## What the limits are for -/

/-- An export whose way leads through the missing file makes a directory of it. -/
theorem exportTo_throughFile :
    let s : Store := ⟨⟨"", ["store"]⟩⟩
    let p : Path := ⟨"", ["store", "rules.json", "..", "d.json"]⟩
    let d : Disk := ⟨[(["store"], .directory), (["store", "d.json"], .directory)], 0⟩
    Disk.placeOf p ≠ s.place ∧ d.entry? s.place = none ∧
      (s.exportTo p d).1 = .error (.disk .isDirectory) ∧
      Disk.entry? (s.exportTo p d).2 s.place = some .directory := by
  refine ⟨by decide, ?_, ?_, ?_⟩ <;> cbv

theorem clear_throughRoot :
    let s : Store := ⟨⟨"", ["store", "rules.json", ".."]⟩⟩
    let d : Disk := Disk.empty
    d.entry? s.place = none ∧ (Op.clear.run s d).1 = .error (.disk .isDirectory) ∧
      Disk.entry? (Op.clear.run s d).2 s.place = some .directory := by
  refine ⟨?_, ?_, ?_⟩ <;> cbv

/-- A root that leads through a missing directory is found when that is made. -/
theorem clear_throughMissing :
    let s : Store := ⟨⟨"", ["a", "..", "store"]⟩⟩
    let d : Disk := ⟨[(["store"], .directory), (["store", "rules.json"], .directory)], 0⟩
    d.status s.path = .error .notFound ∧
      (Op.clear.run s d).1 = .error (.disk .isDirectory) ∧
      Disk.status (Op.clear.run s d).2 s.path = .ok .directory := by
  refine ⟨?_, ?_, ?_⟩ <;> cbv

/-- A disk with an empty rule list that may be imported. -/
def importable : Disk := ⟨[(["store"], .directory), (["f.json"], .file "[]".toUTF8 0)], 0⟩

/-- What was imported stays where there is no home directory to tell of it. -/
theorem import_homeless :
    run ⟨"~", none, ByteArray.empty⟩ importable ["--root", "store", "rules", "import", "f.json"] =
      ⟨⟨(["store", "rules.json"], .file "[]\n".toUTF8 0) :: importable.entries, 0⟩, "", "", [],
        .noHome⟩ := by
  cbv

/-- A disk with a rule whose source is half of a pair. -/
def halved : Disk :=
  ⟨[(["store"], .directory), (["store", "rules.json"],
    .file "[\x7b\"from\": \"\\ud83d\", \"to\": \"b.example\"\x7d]".toUTF8 0)], 0⟩

/-- What was removed stays removed where the panel that tells of it cannot be written. -/
theorem remove_unwritable :
    run ⟨"home", none, ByteArray.empty⟩ halved ["--root", "store", "rules", "remove", "1"] =
      ⟨⟨[(["store", "rules.json"], .file "[]\n".toUTF8 0), (["store"], .directory)], 0⟩, "", "",
        [], .unwritable⟩ := by
  cbv

/-- The file of the store is not the same after every failure: not where an export leads
through it while it is missing, nor where the root does, nor where the root leads
through a directory that is missing; nor after an import without a home directory, nor
after a removal whose panel cannot be written. -/
theorem not_sameFile_of_failure :
    (let s : Store := ⟨⟨"", ["store"]⟩⟩
      let p : Path := ⟨"", ["store", "rules.json", "..", "d.json"]⟩
      let d : Disk := ⟨[(["store"], .directory), (["store", "d.json"], .directory)], 0⟩
      Disk.placeOf p ≠ s.place ∧ d.entry? s.place = none ∧
        (s.exportTo p d).1 = .error (.disk .isDirectory) ∧
        Disk.entry? (s.exportTo p d).2 s.place = some .directory) ∧
    (let s : Store := ⟨⟨"", ["store", "rules.json", ".."]⟩⟩
      let d : Disk := Disk.empty
      d.entry? s.place = none ∧ (Op.clear.run s d).1 = .error (.disk .isDirectory) ∧
        Disk.entry? (Op.clear.run s d).2 s.place = some .directory) ∧
    (let s : Store := ⟨⟨"", ["a", "..", "store"]⟩⟩
      let d : Disk := ⟨[(["store"], .directory), (["store", "rules.json"], .directory)], 0⟩
      d.status s.path = .error .notFound ∧
        (Op.clear.run s d).1 = .error (.disk .isDirectory) ∧
        Disk.status (Op.clear.run s d).2 s.path = .ok .directory) ∧
    (let s : Store := ⟨⟨"", ["store"]⟩⟩
      let o := run ⟨"~", none, ByteArray.empty⟩ importable
        ["--root", "store", "rules", "import", "f.json"]
      o.ending = .noHome ∧ importable.entry? s.place = none ∧
        o.disk.entry? s.place = some (.file "[]\n".toUTF8 0)) ∧
    (let s : Store := ⟨⟨"", ["store"]⟩⟩
      let o := run ⟨"home", none, ByteArray.empty⟩ halved ["--root", "store", "rules", "remove", "1"]
      o.ending = .unwritable ∧ s.list halved = .ok [⟨.ofCodes [0xD83D], "b.example"⟩] ∧
        s.list o.disk = .ok []) := by
  refine ⟨exportTo_throughFile, clear_throughRoot, clear_throughMissing, ?_, ?_⟩
  · rw [import_homeless]
    exact ⟨rfl, rfl, rfl⟩
  · rw [remove_unwritable]
    refine ⟨rfl, ?_, ?_⟩ <;> cbv

end Reroute.Command
