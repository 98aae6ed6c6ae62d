import Reroute.Proofs.Store.Runs
import Reroute.Proofs.Store.Shadows
import Reroute.Proofs.Url.United

/-!
# What stays true of a stored list

An operation that changes a store saves one list, which it makes of the stored one
(`Saves`). So what holds of the empty list, and passes from the stored list to the saved
one, holds of every list that is read during a run (`holds_of_reach`), those after
operations that failed included: a save that fails leaves nothing to be read, or the empty
list (`list_snd_save`).

Two such properties are that no two rules have one source, and that the rules are such as
`add` makes (`distinct_of_reach`). The first is lost where a source is added, or imported
from a file of YAML, that has a pair in two halves: in the memory it differs from the
source with the code point that they make, and in the file it does not (`not_distinct`).
-/

namespace Reroute

namespace Rule

/-- A rule such as `add` makes: neither of its texts is empty or has blanks at its ends, and
the destination is one that may be given. -/
structure Tidy (r : Rule) : Prop where
  source_ne : r.source ≠ ""
  source_trimmed : r.source.trimmed = r.source
  destination_ne : r.destination ≠ ""
  destination_trimmed : r.destination.trimmed = r.destination
  good : Url.isDestination r.destination = true

theorem Tidy.unite {r : Rule} (h : r.Tidy) : r.unite.Tidy where
  source_ne := Points.unite_ne_empty h.source_ne
  source_trimmed := Points.trimmed_unite h.source_trimmed
  destination_ne := Points.unite_ne_empty h.destination_ne
  destination_trimmed := Points.trimmed_unite h.destination_trimmed
  good := r.destination.isDestination_unite.trans h.good

end Rule

namespace Store

variable {s : Store} {d d' : Disk} {rules new incoming : List Rule} {op : Op}

theorem newRule_eq {source destination : Points} {rule : Rule}
    (h : newRule source destination = .ok rule) :
    rule = ⟨source.trimmed, destination.trimmed⟩ ∧ rule.Tidy := by
  unfold newRule at h
  dsimp only at h
  split at h
  · simp at h
  · next filled =>
    split at h
    · next good =>
      obtain rfl := Except.ok.inj h
      simp only [Bool.or_eq_true, Points.isEmpty_iff, not_or] at filled
      exact ⟨rfl, filled.1, source.trimmed_trimmed, filled.2, destination.trimmed_trimmed, good⟩
    · simp at h

/-! ## What is saved -/

/-- The list that an operation is to save. -/
inductive Saves (s : Store) (d : Disk) : Op → List Rule → Prop
  | add {source destination : Points} {rule : Rule} {rules : List Rule}
      (made : newRule source destination = .ok rule) (stored : s.list d = .ok rules)
      (another : hasSource rules rule.source = false) :
      Saves s d (.add source destination) (rules ++ [rule])
  | remove {position : Int} {rules : List Rule} (stored : s.list d = .ok rules) :
      Saves s d (.remove position) (rules.eraseIdx (position.toNat - 1))
  | clear : Saves s d .clear []
  | importFrom {p : Path} {replace : Bool} {incoming rules : List Rule}
      (loads : RuleFile.load d p = .ok incoming) (start : s.kept replace d = .ok rules) :
      Saves s d (.importFrom p replace) (merge rules incoming).1

theorem snd_look_bind {α β : Type} (look : Disk → Except Failure α) (f : α → OnDisk β) (d : Disk) :
    ((OnDisk.look look >>= f) d).2 = d ∨
      ∃ a, look d = .ok a ∧ ((OnDisk.look look >>= f) d).2 = (f a d).2 := by
  rw [Step.bind_apply, OnDisk.look_apply]
  cases look d with
  | error e => exact .inl rfl
  | ok a => exact .inr ⟨a, rfl, rfl⟩

/-- What an operation on the store does to the disk: nothing, or it saves its list. -/
theorem snd_run (s : Store) (d : Disk) (op : Op) (within : ∀ p, op ≠ .exportTo p) :
    (op.run s d).2 = d ∨ ∃ new, s.Saves d op new ∧ (op.run s d).2 = (s.save new d).2 := by
  cases op with
  | exportTo p => exact absurd rfl (within p)
  | list =>
    left
    rw [Op.run, Step.snd_bind_pure, OnDisk.look_apply]
  | add source destination =>
    rw [Op.run, Step.snd_bind_pure, Store.add]
    rcases snd_look_bind _ _ d with same | ⟨rule, made, same⟩
    · exact .inl same
    rw [same]
    rcases snd_look_bind _ _ d with same | ⟨rules, stored, same⟩
    · exact .inl same
    rw [same]
    split
    · exact .inl rfl
    · next another =>
      rw [Step.snd_bind_pure]
      exact .inr ⟨_, .add made stored (by simpa using another), rfl⟩
  | remove position =>
    rw [Op.run, Step.snd_bind_pure, Store.remove]
    rcases snd_look_bind _ _ d with same | ⟨rules, stored, same⟩
    · exact .inl same
    rw [same]
    cases ruleAt? rules position with
    | none => exact .inl rfl
    | some rule =>
      dsimp only
      rw [Step.snd_bind_pure]
      exact .inr ⟨_, .remove stored, rfl⟩
  | clear =>
    rw [Op.run, Step.snd_bind_pure, Store.clear]
    rcases snd_look_bind _ _ d with same | ⟨rules, stored, same⟩
    · exact .inl same
    rw [same, Step.snd_bind_pure]
    exact .inr ⟨_, .clear, rfl⟩
  | importFrom p replace =>
    rw [Op.run, Step.snd_bind_pure, importFrom_eq]
    rcases snd_look_bind _ _ d with same | ⟨incoming, loads, same⟩
    · exact .inl same
    rw [same]
    rcases snd_look_bind _ _ d with same | ⟨rules, start, same⟩
    · exact .inl same
    rw [same, Step.snd_bind_pure]
    exact .inr ⟨_, .importFrom loads start, rfl⟩

/-- After a list was to be saved, that list is read, or the empty one, or none. -/
theorem list_snd_save (s : Store) (d : Disk) (new : List Rule)
    (h : s.list (s.save new d).2 = .ok rules) : rules = new.map Rule.unite ∨ rules = [] := by
  have saving : (s.save new d).2 = (d.save s.path (RuleFile.encode .json new).toUTF8).1 := by
    rw [Store.save, Step.snd_bind_pure, OnDisk.save_apply]
  rw [saving] at h
  cases refused : (d.save s.path (RuleFile.encode .json new).toUTF8).2 with
  | none =>
    left
    rw [RuleFile.list_of_status (Disk.status_save refused),
      RuleFile.parse_encode_unite s.path s.formatOf?_path] at h
    exact (Except.ok.inj h).symm
  | some fault =>
    right
    rw [Disk.save_of_refused refused, parent_path] at h
    cases rules with
    | nil => rfl
    | cons r rules =>
      -- A file with a rule would be there, so it could have been saved.
      obtain ⟨bytes, time, status⟩ := status_of_list h (List.cons_ne_nil r rules)
      rw [Disk.snd_save, refusal_of_status_made status] at refused
      simp at refused

/-! ## Runs -/

/-- The disks that are reached by operations of a kind, while others leave the list of
the store as it is. -/
inductive Reach (s : Store) (allowed : Disk → Op → Prop) (d : Disk) : Disk → Prop
  | start : Reach s allowed d d
  | operation {d' : Disk} (reached : Reach s allowed d d') (op : Op) (ok : allowed d' op) :
      Reach s allowed d (op.run s d').2
  | aside {d' d'' : Disk} (reached : Reach s allowed d d') (same : s.list d'' = s.list d') :
      Reach s allowed d d''

/-- The list that is stored, if one can be read, has a property. -/
def Holds (s : Store) (P : List Rule → Prop) (d : Disk) : Prop :=
  ∀ rules, s.list d = .ok rules → P rules

variable {P : List Rule → Prop} {allowed : Disk → Op → Prop}

theorem Holds.run (h : s.Holds P d) (empty : P []) (within : ∀ p, op ≠ .exportTo p)
    (saves : ∀ new, s.Saves d op new → P (new.map Rule.unite)) : s.Holds P (op.run s d).2 := by
  intro rules stored
  rcases snd_run s d op within with same | ⟨new, saved, same⟩
  · rw [same] at stored
    exact h rules stored
  · rw [same] at stored
    rcases list_snd_save s d new stored with rfl | rfl
    · exact saves new saved
    · exact empty

/-- What holds of the empty list, and passes from the stored list to a saved one, holds
all through a run. -/
theorem holds_of_reach (empty : P []) (within : ∀ d op, allowed d op → ∀ p, op ≠ .exportTo p)
    (saves : ∀ d op new, allowed d op → s.Holds P d → s.Saves d op new → P (new.map Rule.unite))
    (start : s.Holds P d) (reached : s.Reach allowed d d') : s.Holds P d' := by
  induction reached with
  | start => exact start
  | operation reached op ok ih =>
    exact ih.run empty (within _ op ok) fun new saved => saves _ op new ok ih saved
  | aside reached same ih =>
    intro rules stored
    exact ih rules (same ▸ stored)

/-! ## Sources -/

def DistinctSources (rules : List Rule) : Prop := (rules.map Rule.source).Nodup

instance (rules : List Rule) : Decidable (DistinctSources rules) :=
  inferInstanceAs (Decidable (rules.map Rule.source).Nodup)

/-- An operation that saves no file but that of the store. The source that it adds, or the
sources in the file that it imports, have no pair in two halves. -/
def Op.Joins (d : Disk) : Op → Prop
  | .exportTo _ => False
  | .add source _ => source.Joined
  | .importFrom p _ => ∀ incoming, RuleFile.load d p = .ok incoming → ∀ r ∈ incoming, r.source.Joined
  | _ => True

theorem distinctSources_concat {rule : Rule} (h : DistinctSources rules)
    (another : hasSource rules rule.source = false) : DistinctSources (rules ++ [rule]) := by
  rw [DistinctSources, List.map_append, List.map_singleton]
  refine List.nodup_append.mpr ⟨h, List.nodup_singleton _, ?_⟩
  intro source old source' last
  obtain ⟨r, hr, rfl⟩ := List.mem_map.mp old
  rw [List.mem_singleton.mp last]
  intro same
  rw [hasSource_iff.mpr ⟨r, hr, same⟩] at another
  simp at another

theorem distinctSources_merge (h : DistinctSources rules) (incoming : List Rule) :
    DistinctSources (merge rules incoming).1 := by
  induction incoming generalizing rules with
  | nil => exact h
  | cons rule incoming ih =>
    rw [merge]
    split
    · exact ih h
    · next another => exact ih (distinctSources_concat h (by simpa using another))

theorem mem_merge {r : Rule} (h : r ∈ (merge rules incoming).1) : r ∈ rules ∨ r ∈ incoming := by
  induction incoming generalizing rules with
  | nil => exact .inl h
  | cons rule incoming ih =>
    rw [merge] at h
    split at h
    · exact (ih h).imp_right (.tail _)
    · rcases ih h with old | later
      · rcases List.mem_append.mp old with old | last
        · exact .inl old
        · exact .inr (List.mem_singleton.mp last ▸ .head _)
      · exact .inr (.tail _ later)

/-- To unite the pairs of a list changes no source that has none in two halves. -/
theorem distinctSources_unite (h : DistinctSources rules) (joined : ∀ r ∈ rules, r.source.Joined) :
    DistinctSources (rules.map Rule.unite) := by
  have same : (rules.map Rule.unite).map Rule.source = rules.map Rule.source := by
    rw [List.map_map]
    exact List.map_congr_left fun r hr => Points.unite_of_joined (joined r hr)
  rwa [DistinctSources, same]

theorem distinctSources_kept {replace : Bool} (h : s.Holds DistinctSources d)
    (start : s.kept replace d = .ok rules) : DistinctSources rules := by
  cases replace with
  | true =>
    obtain rfl := Except.ok.inj start
    exact List.nodup_nil
  | false => exact h rules start

theorem distinctSources_saved (ok : op.Joins d) (h : s.Holds DistinctSources d)
    (saved : s.Saves d op new) : DistinctSources (new.map Rule.unite) := by
  cases saved with
  | @add source _ rule rules made stored another =>
    apply distinctSources_unite (distinctSources_concat (h rules stored) another)
    intro r hr
    rcases List.mem_append.mp hr with old | last
    · exact (joined_of_list stored r old).1
    · rw [List.mem_singleton.mp last, (newRule_eq made).1]
      exact Points.Joined.trimmed ok
  | @remove position rules stored =>
    have rest := List.eraseIdx_sublist rules (position.toNat - 1)
    apply distinctSources_unite ((h rules stored).sublist (rest.map _))
    intro r hr
    exact (joined_of_list stored r (rest.subset hr)).1
  | clear => exact List.nodup_nil
  | importFrom loads start =>
    apply distinctSources_unite (distinctSources_merge (distinctSources_kept h start) _)
    intro r hr
    rcases mem_merge hr with old | new
    · exact (joined_of_kept start r old).1
    · exact ok _ loads r new

/-! ## Rules that are added -/

/-- An operation that works on the list of the store alone. -/
def Op.Edits : Op → Prop
  | .importFrom _ _ | .exportTo _ => False
  | _ => True

theorem tidy_saved (ok : op.Edits) (h : s.Holds (∀ r ∈ ·, r.Tidy) d) (saved : s.Saves d op new) :
    ∀ r ∈ new.map Rule.unite, r.Tidy := by
  have whole : ∀ r ∈ new, r.Tidy := by
    cases saved with
    | @add _ _ rule rules made stored another =>
      intro r hr
      rcases List.mem_append.mp hr with old | last
      · exact h rules stored r old
      · rw [List.mem_singleton.mp last]
        exact (newRule_eq made).2
    | remove stored =>
      intro r hr
      exact h _ stored r (List.eraseIdx_subset hr)
    | clear => simp
    | importFrom loads start => exact ok.elim
  exact List.forall_mem_map.mpr fun r hr => (whole r hr).unite

/-- At every moment of a run of listings, additions, removals, clearings and imports no
two stored rules have one source, if that is so at the start and no source that is added or
imported has a pair in two halves. In a run without imports that starts with no rules, all
stored rules are such as `add` makes. -/
theorem distinct_of_reach (s : Store) (d : Disk) :
    (s.Holds DistinctSources d → ∀ d', s.Reach Op.Joins d d' → s.Holds DistinctSources d') ∧
    (s.list d = .ok [] → ∀ d', s.Reach (fun _ op => op.Edits) d d' →
      s.Holds (∀ r ∈ ·, r.Tidy) d') := by
  constructor
  · intro start d' reached
    refine holds_of_reach List.nodup_nil ?_ ?_ start reached
    · rintro d _ ok p rfl
      exact ok
    · intro d op new ok held saved
      exact distinctSources_saved ok held saved
  · intro empty d' reached
    have start : s.Holds (∀ r ∈ ·, r.Tidy) d := by
      intro rules stored
      obtain rfl := Except.ok.inj (empty.symm.trans stored)
      simp
    refine holds_of_reach (by simp) ?_ ?_ start reached
    · rintro d _ ok p rfl
      exact ok
    · intro d op new ok held saved
      exact tidy_saved ok held saved

/-! ## One source in two forms -/

/-- A disk with a store, and the two halves of U+1F600 in a file of YAML. -/
def withHalves (stored : ByteArray) : Disk :=
  ⟨(["store"], .directory) :: (["store", "rules.json"], .file stored 0) :: halves.entries, 0⟩

theorem status_withHalves (stored : ByteArray) :
    (withHalves stored).status (path ⟨⟨"", ["store"]⟩⟩) = .ok (.file stored 0) ∧
      (withHalves stored).status ⟨"", ["halves.yaml"]⟩ = halves.status ⟨"", ["halves.yaml"]⟩ := by
  constructor <;> cbv

theorem load_withHalves (stored : ByteArray) :
    RuleFile.load (withHalves stored) ⟨"", ["halves.yaml"]⟩ =
      .ok [⟨twoHalves, "b.example"⟩] := by
  have read : (withHalves stored).read ⟨"", ["halves.yaml"]⟩ = halves.read ⟨"", ["halves.yaml"]⟩ := by
    rw [Disk.read, Disk.read, (status_withHalves stored).2]
  rw [← load_halves, RuleFile.load, RuleFile.load, read]

/-- To add a rule, or to import one, can store two rules with one source: its two halves are
another source until they are written. -/
theorem not_distinct :
    let s : Store := ⟨⟨"", ["store"]⟩⟩
    let p : Path := ⟨"", ["halves.yaml"]⟩
    let rules : List Rule := [⟨"😀", "a.example"⟩]
    let d := withHalves (RuleFile.encode .json rules).toUTF8
    s.list d = .ok rules ∧ DistinctSources rules ∧
      (∃ done d', s.add twoHalves "b.example" d = (.ok done, d') ∧
        done.value = ⟨twoHalves, "b.example"⟩ ∧
        s.list d' = .ok [⟨"😀", "a.example"⟩, ⟨"😀", "b.example"⟩] ∧
        ¬s.Holds DistinctSources d') ∧
      ∃ done d', s.importFrom p false d = (.ok done, d') ∧ done.value = ⟨1, 0⟩ ∧
        s.list d' = .ok [⟨"😀", "a.example"⟩, ⟨"😀", "b.example"⟩] ∧
        ¬s.Holds DistinctSources d' := by
  intro s p rules d
  let new : Rule := ⟨twoHalves, "b.example"⟩
  have status : d.status s.path = .ok (.file (RuleFile.encode .json rules).toUTF8 0) :=
    (status_withHalves _).1
  have stored : s.list d = .ok rules := by
    rw [RuleFile.list_of_status status]
    apply RuleFile.parse_encode _ s.formatOf?_path rules
    rw [List.forall_mem_singleton]
    exact Rule.joined_ofTexts ("😀", "a.example")
  have loads : RuleFile.load d p = .ok [new] := load_withHalves _
  -- Both save the list with the halves in it.
  obtain ⟨d', wrote⟩ := OnDisk.save_of_taken (refusal_of_status status)
    (RuleFile.encode .json (rules ++ [new]))
  have saved : s.save (rules ++ [new]) d = (.ok [s.savedLine (rules ++ [new])], d') := by
    simp [Store.save, wrote]
  have united : (rules ++ [new]).map Rule.unite =
      [⟨"😀", "a.example"⟩, ⟨"😀", "b.example"⟩] := by
    decide
  have listed := list_of_save saved
  rw [united] at listed
  have twice : ¬s.Holds DistinctSources d' := by
    intro distinct
    have nodup : DistinctSources [⟨"😀", "a.example"⟩, ⟨"😀", "b.example"⟩] := distinct _ listed
    revert nodup
    decide
  have accepted : newRule twoHalves "b.example" = .ok new := by decide
  have another : hasSource rules new.source = false := by decide
  have merged : merge rules [new] = (rules ++ [new], ⟨1, 0⟩) := by decide
  have added : s.add twoHalves "b.example" d =
      (.ok ⟨new, [s.savedLine (rules ++ [new])]⟩, d') := by
    simp [Store.add, accepted, stored, another, saved]
  have imported : s.importFrom p false d =
      (.ok ⟨⟨1, 0⟩, [s.savedLine (rules ++ [new])]⟩, d') := by
    simp [importFrom_eq, loads, kept, stored, merged, saved]
  exact ⟨stored, by decide, ⟨_, d', added, rfl, listed, twice⟩,
    _, d', imported, rfl, listed, twice⟩

end Store

end Reroute
