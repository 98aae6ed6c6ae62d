import Reroute.Command.Run

/-!
# Where the words of a call lead

The words of a call lead to one action and the words behind its name (`route?`), or to
none: then the call ends in a help text or in a fault, and the disk stays as it was
(`follows_route`). An action in turn ends so, or it comes down to one of the deeds that
`Does` lists (`perform_cases`).
-/

namespace Reroute.Command

/-! ## Outcomes keep the disk -/

namespace Outcome

variable (o : Outcome)

@[simp] theorem disk_start (disk : Disk) : (start disk).disk = disk := rfl

@[simp] theorem disk_showing (panels : List Panel) : (o.showing panels).disk = o.disk := by
  induction panels generalizing o with
  | nil => rfl
  | cons p panels ih =>
    rw [showing]
    split
    · exact ih _
    · rfl

@[simp] theorem disk_showing? (panels : Option (List Panel)) :
    (o.showing? panels).disk = o.disk := by
  cases panels with
  | none => rfl
  | some panels => exact o.disk_showing panels

@[simp] theorem disk_fail (f : Failure) : (o.fail f).disk = o.disk := by
  unfold fail
  cases f.message? <;> rfl

@[simp] theorem disk_misused (spec : Spec) (fault : Fault) :
    (o.misused spec fault).disk = o.disk := by
  unfold misused
  cases fault.message? with
  | none => exact disk_fail o _
  | some message => cases fault.showsUsage <;> rfl

@[simp] theorem disk_help (spec : Spec) : (o.help spec).disk = o.disk := rfl

@[simp] theorem disk_helpForNothing (spec : Spec) : (o.helpForNothing spec).disk = o.disk := rfl

end Outcome

/-! ## Routes -/

/-- Where the words of a call lead: the call with its options, an action, and the
words behind its name. -/
structure Route where
  call : Call
  action : Action
  words : List Points

/-- The words in front of a command of a group, unless they make no sense or ask for
help. -/
def groupWords? (group : Spec) (words : List Points) : Option Words :=
  match readWords group false none words with
  | .ok w => if w.has .help then none else some w
  | .error _ => none

/-- Where the words behind `rules` lead. -/
def Call.rulesRoute? (c : Call) (words : List Points) : Option Route :=
  (groupWords? rulesGroup words).bind fun w =>
    match w.others with
    | [] => none
    | name :: rest => (ruleActions.find? fun a => (a.word : Points) = name).map (⟨c, ·, rest⟩)

/-- Where the words behind the options of the program lead. -/
def Call.topRoute? (c : Call) (name : Points) (rest : List Points) : Option Route :=
  match topActions.find? fun a => (a.word : Points) = name with
  | some a => some ⟨c, a, rest⟩
  | none => if rulesGroup.path.map Points.ofString = [name] then c.rulesRoute? rest else none

def route? (env : Environment) (disk : Disk) (words : List Points) : Option Route :=
  (groupWords? topGroup words).bind fun w =>
    match Call.namedRoot env disk w, w.others with
    | .ok root, name :: rest => Call.topRoute? ⟨env, w.count .verbose, root⟩ name rest
    | _, _ => none

/-- The outcome is that of a route, or there is none and the disk is as it was. -/
def Follows (disk : Disk) (o : Outcome) : Option Route → Prop
  | some r => o = r.call.perform disk r.action r.words
  | none => o.disk = disk

variable {disk : Disk}

namespace Call

theorem check_cases {α : Type} (disk : Disk) (spec : Spec) (r : Except Fault α)
    (f : α → Outcome) :
    (check disk spec r f).disk = disk ∨ ∃ v, r = .ok v ∧ check disk spec r f = f v := by
  cases r with
  | error fault => exact .inl (by simp [check])
  | ok v => exact .inr ⟨v, rfl, rfl⟩

theorem disk_check {α : Type} {spec : Spec} {r : Except Fault α} {f : α → Outcome}
    (h : ∀ v, (f v).disk = disk) : (check disk spec r f).disk = disk := by
  rcases check_cases disk spec r f with same | ⟨v, -, same⟩
  · exact same
  · rw [same, h v]

theorem disk_unknown (c : Call) (disk : Disk) (group : Spec) (name : Points)
    (rest : List Points) : (c.unknown disk group name rest).disk = disk := by
  unfold unknown
  dsimp only
  split
  · simp
  · refine disk_check fun w => ?_
    split
    · simp
    · split
      · exact disk_check fun _ => by simp
      · simp

theorem follows_group {group : Spec} {words : List Points} {f : Words → Outcome}
    {next : Words → Option Route} (onward : ∀ w, Follows disk (f w) (next w))
    (nothing : ∀ w, w.others = [] → next w = none) :
    Follows disk
      (if words.isEmpty then (Outcome.start disk).helpForNothing group
        else check disk group (readWords group false none words) fun w =>
          if w.has .help then (Outcome.start disk).help group else f w)
      ((groupWords? group words).bind next) := by
  cases words with
  | nil =>
    have none := nothing ⟨[], []⟩ rfl
    simp [groupWords?, readWords, Words.has, none, Follows]
  | cons word rest =>
    cases read : readWords group false none (word :: rest) with
    | error fault => simp [groupWords?, read, check, Follows]
    | ok w =>
      cases asked : w.has .help with
      | true => simp [groupWords?, read, check, asked, Follows]
      | false => simpa [groupWords?, read, check, asked] using onward w

theorem follows_rulesRoute (c : Call) (disk : Disk) (words : List Points) :
    Follows disk (c.performRules disk words) (c.rulesRoute? words) := by
  refine follows_group (fun w => ?_) (fun w nothing => by simp [nothing])
  cases w.others with
  | nil => exact Outcome.disk_misused _ _ _
  | cons name rest =>
    dsimp only
    cases ruleActions.find? fun a => (a.word : Points) = name with
    | none => exact c.disk_unknown disk rulesGroup name rest
    | some a => rfl

theorem follows_topRoute (c : Call) (disk : Disk) (name : Points) (rest : List Points) :
    Follows disk (c.performTop disk name rest) (c.topRoute? name rest) := by
  unfold performTop topRoute?
  cases topActions.find? fun a => (a.word : Points) = name with
  | some a => rfl
  | none =>
    dsimp only
    split
    · exact c.follows_rulesRoute disk rest
    · exact c.disk_unknown disk topGroup name rest

end Call

/-- A call does what its words lead to. -/
theorem follows_route (env : Environment) (disk : Disk) (words : List Points) :
    Follows disk (run env disk words) (route? env disk words) := by
  refine Call.follows_group (fun w => ?_) (fun w nothing => ?_)
  · cases Call.namedRoot env disk w with
    | error fault => simp [Call.check, Follows]
    | ok root =>
      dsimp only [Call.check]
      cases w.others with
      | nil => exact Outcome.disk_misused _ _ _
      | cons name rest => exact Call.follows_topRoute _ disk name rest
  · rw [nothing]
    cases Call.namedRoot env disk w <;> rfl

theorem environment_of_route {env : Environment} {words : List Points} {r : Route}
    (led : route? env disk words = some r) : r.call.environment = env := by
  obtain ⟨w, -, onward⟩ := Option.bind_eq_some_iff.mp led
  split at onward
  · next root name rest =>
    unfold Call.topRoute? at onward
    split at onward
    · obtain rfl := Option.some.inj onward
      rfl
    · split at onward
      · obtain ⟨w', -, inside⟩ := Option.bind_eq_some_iff.mp onward
        split at inside
        · simp at inside
        · obtain ⟨a, -, rfl⟩ := Option.map_eq_some_iff.mp inside
          rfl
      · simp at onward
  · simp at onward

/-! ## Deeds -/

/-- What an action comes down to with its words, where these make sense. -/
inductive Does (c : Call) (disk : Disk) (w : Words) : Action → Outcome → Prop
  | list : Does c disk w .list (c.list disk)
  | add (source destination : Points) : Does c disk w .add (c.add disk source destination)
  | remove (position : Int) : Does c disk w .remove (c.remove disk position)
  | clear (asked : String) :
    Does c disk w .clear { c.clear disk with out := asked ++ (c.clear disk).out }
  | explain (source destination : Points) :
    Does c disk w .explain (Call.explain disk source destination)
  | importRules (p : Path) (replace : Bool) :
    Does c disk w .importRules (c.importRules disk p replace)
  | exportRules (word : Points) (named : w.others.head? = some word) :
    Does c disk w .exportRules (c.exportRules disk (Path.ofText word))
  | matchUrls (urls : List Points) : Does c disk w .matchUrls (c.matchUrls disk urls)
  | rewrite (streams : List Text.Streamed) :
    Does c disk w .rewrite (c.withStore disk fun store =>
      c.rewriteStreams (w.has .onlyMatched) (Service.fresh store) (Outcome.start disk) streams)
  | netRequest : Does c disk w .netRequest (c.netRequest disk (w.others.headD ("-" : Points)))

namespace Call

/-- The outcome of an action leaves the disk, or is that of its deed. -/
def Acts (c : Call) (disk : Disk) (a : Action) (w : Words) (o : Outcome) : Prop :=
  o.disk = disk ∨ Does c disk w a o

variable {c : Call} {a : Action} {w : Words}

theorem acts_check {α : Type} {spec : Spec} {r : Except Fault α} {f : α → Outcome}
    (h : ∀ v, r = .ok v → c.Acts disk a w (f v)) : c.Acts disk a w (check disk spec r f) := by
  rcases check_cases disk spec r f with same | ⟨v, ok, same⟩
  · exact .inl same
  · rw [same]
    exact h v ok

theorem acts_askedClear (c : Call) (disk : Disk) (spec : Spec) (w : Words) (left : List Points) :
    c.Acts disk .clear w (c.askedClear disk spec w left) := by
  -- Whatever was asked before, the rules are removed or the words are at fault.
  have cleared (asked : String) : c.Acts disk .clear w
      { check disk spec (noneLeft left) fun _ => c.clear disk with
        out := asked ++ (check disk spec (noneLeft left) fun _ => c.clear disk).out } := by
    rcases check_cases disk spec (noneLeft left) fun _ => c.clear disk with same | ⟨_, _, same⟩
    · exact .inl same
    · rw [same]
      exact .inr (.clear asked)
  unfold askedClear
  dsimp only
  split
  · exact acts_check fun _ _ => .inr (by simpa using Does.clear (w := w) "")
  · split
    · exact cleared _
    · exact .inl rfl
    · exact .inl rfl

theorem filePath_eq_ok {present : Bool} {word : Points} {p : Path}
    (h : filePath disk present word = .ok p) : p = Path.ofText word := by
  unfold filePath at h
  dsimp only at h
  split at h
  · simp at h
  · simp at h
  · split at h
    · simp at h
    · exact (Except.ok.inj h).symm
  · exact (Except.ok.inj h).symm

theorem head?_of_bindOne {name : String} {word : Points} {words left : List Points}
    (bound : bindWords [⟨name, .one⟩] words = .ok ([[word]], left)) : words.head? = some word := by
  cases words with
  | nil => simp [bindWords, bind, Except.bind] at bound
  | cons first rest =>
    simp [bindWords, bind, Except.bind, pure, Except.pure] at bound
    simp [bound]

theorem headD_of_bindOptional {name : String} {usual : Points} {words output left : List Points}
    (bound : bindWords [⟨name, .optional⟩] words = .ok ([output], left)) :
    output.headD usual = words.headD usual := by
  cases words with
  | nil =>
    simp [bindWords, bind, Except.bind, pure, Except.pure] at bound
    simp [bound]
  | cons first rest =>
    simp [bindWords, bind, Except.bind, pure, Except.pure] at bound
    simp [← bound.1]

theorem acts_act (c : Call) (disk : Disk) (a : Action) (w : Words) :
    c.Acts disk a w (c.act disk a w) := by
  refine acts_check fun ⟨values, left⟩ bound => ?_
  dsimp only
  have done {a : Action} {spec : Spec} {o : Outcome} (does : Does c disk w a o) :
      c.Acts disk a w (check disk spec (noneLeft left) fun _ => o) :=
    acts_check fun _ _ => .inr does
  split
  · exact done .list
  · exact done (.add _ _)
  · exact acts_check fun n _ => done (.remove n)
  · exact c.acts_askedClear disk _ w left
  · exact done (.explain _ _)
  · exact acts_check fun p _ => done (.importRules p _)
  · next word =>
    refine acts_check fun p named => done ?_
    rw [filePath_eq_ok named]
    exact .exportRules word (head?_of_bindOne bound)
  · exact done (.matchUrls _)
  · exact acts_check fun streams _ => done (.rewrite streams)
  · rw [headD_of_bindOptional bound]
    exact done .netRequest
  · exact .inl rfl

/-- An action ends with its words, or its deed is done. -/
theorem perform_cases (c : Call) (disk : Disk) (a : Action) (words : List Points) :
    (c.perform disk a words).disk = disk ∨
      ∃ w, readWords a.spec true none words = .ok w ∧ Does c disk w a (c.perform disk a words) := by
  unfold perform
  rcases check_cases disk a.spec (readWords a.spec true none words) _ with same | ⟨w, read, same⟩
  · exact .inl same
  · rw [same]
    split
    · exact .inl rfl
    · exact (c.acts_act disk a w).imp_right fun does => ⟨w, read, does⟩

end Call

end Reroute.Command
