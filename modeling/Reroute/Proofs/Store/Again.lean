import Reroute.Proofs.Store.Distinct

/-!
# Files that are imported again

What a second import of a file does is settled by the list that the first one saved and by
what the file then holds. That is what it held before, unless it is the file of the store:
then it is the saved list (`load_afterSave_elsewhere`, `load_afterSave_here`). So the two
imports are two merges (`importsTwice_of_merges`), and a merge adds nothing where all
sources are known (`merge_of_known`) and everything where all are new (`merge_of_new`).

An exported list that is imported back is merged with itself, or with no list at all
(`importFrom_exported`).

Some files are not imported alike twice: those with a pair in two halves, and the file of
the store itself, where it has two rules with one source. Some lists do not come back, for
the export makes a directory of the file of the store, or a way to it (`not_again`).
-/

namespace Reroute

namespace Disk

variable {d : Disk} {p : Path} {place : Place}

theorem Grounded.walk {names : List Points} {q : Place} (h : Grounded d place)
    (arrived : d.walk place names = .ok q) (directory : d.entry? q = some .directory) :
    Grounded d q := by
  have made := makeAlong_of_walk arrived directory
  obtain ⟨-, grounded⟩ := walk_makeAlong h (congrArg Prod.snd made)
  rw [made] at grounded
  rwa [walk_eq_goal arrived]

theorem placeOf_of_file {bytes : ByteArray} {time : Int}
    (h : d.status p = .ok (.file bytes time)) : ∃ q, placeOf p = q ++ [p.name] := by
  obtain ⟨located, here⟩ := entry_of_status h
  obtain ⟨-, -, walked⟩ := locate_eq_placeOf located
  have start := grounded_startOf d p
  rcases List.eq_nil_or_concat' p.parts with bare | ⟨names, name, split⟩
  · -- Without names the path leads to a directory.
    rw [bare] at walked
    rw [← Except.ok.inj walked, start.directory] at here
    simp at here
  · have last : p.name = name := by simp [Path.name, split]
    rw [split, walk_append] at walked
    cases arrived : d.walk (startOf p) names with
    | error fault => simp [arrived, Except.bind] at walked
    | ok q =>
      rw [arrived] at walked
      obtain ⟨directory, -, ended⟩ := walk_cons_eq_ok walked
      have onward : next q name = placeOf p := Except.ok.inj ended
      by_cases up : name = (".." : Points)
      · -- Around a directory that was walked to there are only directories.
        have around := (start.walk arrived directory).above.directory
        rw [← onward, next, if_pos up, around] at here
        simp at here
      · rw [next, if_neg up] at onward
        exact ⟨q, by rw [← onward, last]⟩

end Disk

namespace RuleFile

variable {d : Disk} {p q : Path} {rules : List Rule}

theorem formatOf?_of_name (h : p.name = Store.fileName) : formatOf? p = some .json := by
  unfold formatOf? Path.suffix
  rw [h]
  rfl

theorem decode_congr {format : Format} {text : List Char} {v : Datum}
    (h : decode p format text = .ok v) : decode q format text = .ok v := by
  cases format with
  | json =>
    simp only [decode] at h ⊢
    split at h
    · next blank =>
      rw [if_pos blank]
      exact h
    · next filled =>
      rw [if_neg filled]
      split at h
      · exact h
      · simp at h
  | yaml => exact h

theorem parse_congr {bytes : ByteArray} (same : formatOf? q = formatOf? p)
    (h : parse p bytes = .ok rules) : parse q bytes = .ok rules := by
  unfold parse at h ⊢
  rw [same]
  cases text : textOf bytes with
  | error e => simp [text, bind, Except.bind] at h
  | ok s =>
    cases known : formatOf? p with
    | none => simp [text, known, bind, Except.bind] at h
    | some format =>
      simp only [text, known, bind, Except.bind] at h ⊢
      cases read : decode p format s with
      | error e => simp [read] at h
      | ok v =>
        rw [read] at h
        rw [decode_congr read]
        dsimp only [rulesOf] at h ⊢
        cases checked : Shape.parse v with
        | error fault => simp [checked, Except.mapError] at h
        | ok found =>
          rw [checked] at h
          exact h

theorem status_of_load (h : load d p = .ok rules) :
    ∃ bytes time, d.status p = .ok (.file bytes time) ∧ parse p bytes = .ok rules := by
  unfold load Disk.read at h
  cases status : d.status p with
  | error fault => simp [status, Failure.ofDisk, Except.mapError, bind, Except.bind] at h
  | ok e =>
    cases e with
    | directory => simp [status, Failure.ofDisk, Except.mapError, bind, Except.bind] at h
    | file bytes time =>
      refine ⟨bytes, time, rfl, ?_⟩
      rw [← h, status]
      rfl

theorem load_of_status {bytes : ByteArray} {time : Int}
    (h : d.status p = .ok (.file bytes time)) : load d p = parse p bytes :=
  load_of_read (read_of_status h)

end RuleFile

namespace Store

variable {s : Store} {d : Disk} {p : Path} {rules incoming new : List Rule} {replace : Bool}

/-! ## Merges -/

theorem hasSource_cons (r : Rule) (xs : List Rule) (source : Points) :
    hasSource (r :: xs) source = (decide (r.source = source) || hasSource xs source) := rfl

theorem hasSource_merge (rules incoming : List Rule) (source : Points) :
    hasSource (merge rules incoming).1 source =
      (hasSource rules source || hasSource incoming source) := by
  induction incoming generalizing rules with
  | nil => simp [merge, hasSource]
  | cons r incoming ih =>
    rw [merge, hasSource_cons]
    split
    · next known =>
      show hasSource (merge rules incoming).1 source = _
      rw [ih]
      by_cases same : r.source = source
      · simp [← same, known]
      · simp [same]
    · show hasSource (merge (rules ++ [r]) incoming).1 source = _
      rw [ih, hasSource_append, Bool.or_assoc]
      simp [hasSource]

theorem merge_of_known (known : ∀ r ∈ incoming, hasSource rules r.source = true) :
    merge rules incoming = (rules, ⟨0, incoming.length⟩) := by
  induction incoming with
  | nil => rfl
  | cons r incoming ih =>
    rw [List.forall_mem_cons] at known
    rw [merge, if_pos known.1, ih known.2]
    rfl

theorem merge_self (rules : List Rule) : merge rules rules = (rules, ⟨0, rules.length⟩) :=
  merge_of_known fun r hr => hasSource_iff.mpr ⟨r, hr, rfl⟩

/-- Nothing is added exactly where all sources are known. -/
theorem counts_of_known_iff : (merge rules incoming).2 = ⟨0, incoming.length⟩ ↔
    ∀ r ∈ incoming, hasSource rules r.source = true := by
  constructor
  · intro counts r hr
    obtain ⟨merged, added, -⟩ := merge_novel rules incoming
    rw [counts] at added
    have nothing : novel rules incoming = [] := List.length_eq_zero_iff.mp added.symm
    rw [nothing, List.append_nil] at merged
    have all := hasSource_merge rules incoming r.source
    rw [merged, hasSource_iff.mpr ⟨r, hr, rfl⟩, Bool.or_true] at all
    exact all
  · intro known
    rw [merge_of_known known]

theorem merge_of_new (distinct : DistinctSources (rules ++ incoming)) :
    merge rules incoming = (rules ++ incoming, ⟨incoming.length, 0⟩) := by
  induction incoming generalizing rules with
  | nil => simp [merge]
  | cons r incoming ih =>
    have another : hasSource rules r.source = false := by
      rw [Bool.eq_false_iff, Ne, hasSource_iff]
      rintro ⟨old, ho, same⟩
      rw [DistinctSources, List.map_append, List.nodup_append] at distinct
      exact distinct.2.2 _ (List.mem_map_of_mem ho) _ (List.mem_map_of_mem (List.mem_cons_self ..))
        same
    have regrouped : rules ++ r :: incoming = rules ++ [r] ++ incoming := by simp
    rw [regrouped] at distinct ⊢
    rw [merge, if_neg (by simp [another]), ih distinct]
    rfl

theorem novel_sublist (rules incoming : List Rule) : (novel rules incoming).Sublist incoming := by
  have numbered : (incoming.zipIdx.map (·.1)) = incoming := List.zipIdx_map_fst 0 incoming
  conv => rhs; rw [← numbered]
  exact List.filter_sublist.map _

theorem merge_nil (incoming : List Rule) : (merge [] incoming).1 = novel [] incoming :=
  (merge_novel [] incoming).1

theorem distinctSources_novel (incoming : List Rule) : DistinctSources (novel [] incoming) := by
  have nothing : DistinctSources [] := List.nodup_nil
  rw [← merge_nil]
  exact distinctSources_merge nothing incoming

theorem merge_nil_of_distinct (distinct : DistinctSources incoming) :
    merge [] incoming = (incoming, ⟨incoming.length, 0⟩) := by
  rw [← List.nil_append incoming] at distinct
  exact merge_of_new distinct

/-- The first rules of each source in a list are its rules, where no two have one source. -/
theorem novel_of_distinct (distinct : DistinctSources rules) : novel [] rules = rules := by
  rw [← merge_nil, merge_nil_of_distinct distinct]

theorem length_novel_eq_iff :
    (novel [] incoming).length = incoming.length ↔ DistinctSources incoming := by
  constructor
  · intro whole
    have same := (novel_sublist [] incoming).eq_of_length whole
    rw [← same]
    exact distinctSources_novel incoming
  · intro distinct
    rw [novel_of_distinct distinct]

theorem counts_eq_iff :
    ⟨(novel [] incoming).length, 0⟩ = (merge [] incoming).2 ↔ DistinctSources incoming := by
  obtain ⟨-, added, total⟩ := merge_novel [] incoming
  rw [← length_novel_eq_iff]
  cases counts : (merge [] incoming).2 with
  | mk more less =>
    simp only [counts] at added total
    rw [Imported.mk.injEq]
    omega

/-! ## A list that was saved -/

def afterSave (s : Store) (d : Disk) (new : List Rule) : Disk :=
  (d.save s.path (RuleFile.encode .json new).toUTF8).1

theorem save_of_taken (taken : d.refusal s.path = none) (new : List Rule) :
    s.save new d = (.ok [s.savedLine new], s.afterSave d new) := by
  rw [Store.save, Step.bind_apply, OnDisk.save_apply, Disk.snd_save, taken]
  rfl

theorem status_afterSave (taken : d.refusal s.path = none) (new : List Rule) :
    (s.afterSave d new).status s.path = .ok (.file (RuleFile.encode .json new).toUTF8 d.now) :=
  Disk.status_save ((Disk.snd_save d s.path _).trans taken)

theorem list_afterSave (taken : d.refusal s.path = none) (new : List Rule) :
    s.list (s.afterSave d new) = .ok (new.map Rule.unite) :=
  list_of_save (save_of_taken taken new)

theorem keeps_afterSave (s : Store) (d : Disk) (new : List Rule) : d.Keeps (s.afterSave d new) :=
  Disk.keeps_save d s.path _

theorem load_afterSave_elsewhere (loads : RuleFile.load d p = .ok incoming)
    (elsewhere : Disk.placeOf p ≠ s.place) (new : List Rule) :
    RuleFile.load (s.afterSave d new) p = .ok incoming := by
  obtain ⟨bytes, time, status, parsed⟩ := RuleFile.status_of_load loads
  obtain ⟨located, here⟩ := Disk.entry_of_status status
  have still : Disk.entry? (s.afterSave d new) (Disk.placeOf p) = some (.file bytes time) := by
    rcases Disk.entry_save d s.path (RuleFile.encode .json new).toUTF8 (Disk.placeOf p) with
      same | ⟨-, free, -⟩ | ⟨there, -⟩
    · exact same.trans here
    · simp [here] at free
    · exact absurd there elsewhere
  have located' := (keeps_afterSave s d new).locate located
  rw [RuleFile.load_of_status (Disk.status_of_locate located' still), parsed]

/-- A path to a file at the place of the file of the store has its name, and so its format. -/
theorem formatOf?_of_place {bytes : ByteArray} {time : Int}
    (status : d.status p = .ok (.file bytes time)) (here : Disk.placeOf p = s.place) :
    RuleFile.formatOf? p = some .json := by
  obtain ⟨q, place⟩ := Disk.placeOf_of_file status
  rw [here, place_eq, next_fileName] at place
  obtain ⟨-, name⟩ := List.append_inj' place rfl
  exact RuleFile.formatOf?_of_name (List.singleton_inj.mp name).symm

theorem load_afterSave_here (taken : d.refusal s.path = none)
    (loads : RuleFile.load d p = .ok incoming) (here : Disk.placeOf p = s.place)
    (new : List Rule) : RuleFile.load (s.afterSave d new) p = .ok (new.map Rule.unite) := by
  obtain ⟨bytes, time, status, -⟩ := RuleFile.status_of_load loads
  have located := (keeps_afterSave s d new).locate (Disk.entry_of_status status).1
  have saved := (Disk.entry_of_status (status_afterSave taken new)).2
  rw [here] at located
  rw [RuleFile.load_of_status (Disk.status_of_locate located saved)]
  exact RuleFile.parse_encode_unite p (formatOf?_of_place status here) new

/-- A file at the place of the file of the store has no pair in two halves. -/
theorem joined_of_place (loads : RuleFile.load d p = .ok incoming)
    (here : Disk.placeOf p = s.place) : ∀ r ∈ incoming, r.Joined := by
  obtain ⟨bytes, time, status, parsed⟩ := RuleFile.status_of_load loads
  exact RuleFile.joined_of_parse (formatOf?_of_place status here) parsed

/-- Where rules are loaded from the place of the file of the store, they are the listed
ones, or that file is not found. -/
theorem list_of_place (stored : s.list d = .ok rules) (loads : RuleFile.load d p = .ok incoming)
    (here : Disk.placeOf p = s.place) : rules = incoming ∨ rules = [] := by
  by_cases bare : rules = []
  · exact .inr bare
  · left
    obtain ⟨bytes, time, status⟩ := status_of_list stored bare
    obtain ⟨bytes', time', status', parsed⟩ := RuleFile.status_of_load loads
    have entry := (Disk.entry_of_status status).2
    have entry' := (Disk.entry_of_status status').2
    rw [here] at entry'
    obtain ⟨rfl, -⟩ := Entry.file.inj (Option.some.inj (entry.symm.trans entry'))
    have format : RuleFile.formatOf? s.path = RuleFile.formatOf? p := by
      rw [formatOf?_path, formatOf?_of_place status' here]
    rw [RuleFile.list_of_status status, RuleFile.parse_congr format parsed] at stored
    exact (Except.ok.inj stored).symm

/-- A file at the place of the file of the store is merged to as many rules as it has exactly
where they are the listed ones, or where no two of them have one source. -/
theorem length_merge_of_place (stored : s.list d = .ok rules)
    (loads : RuleFile.load d p = .ok incoming) (here : Disk.placeOf p = s.place) :
    (merge rules incoming).1.length = incoming.length ↔
      rules = incoming ∨ DistinctSources incoming := by
  rcases list_of_place stored loads here with rfl | rfl
  · simp [merge_self]
  · rw [merge_nil, length_novel_eq_iff]
    constructor
    · intro distinct
      exact .inr distinct
    · rintro (rfl | distinct)
      · exact List.nodup_nil
      · exact distinct

theorem ready_of_status {bytes : ByteArray} {time : Int}
    (h : d.status s.path = .ok (.file bytes time)) : Ready s d := by
  obtain ⟨located, here⟩ := Disk.entry_of_status h
  obtain ⟨accepted, made⟩ := makeDirectories_of_status h
  have rooted : (d.makeDirectories s.root).2 = none := congrArg Prod.snd made
  exact
    { accepted := (Disk.locate_eq_placeOf located).1
      rooted := rooted
      -- On the way to the root there is no file.
      apart := fun onTrail => ((rooted_iff accepted).mp rooted).1 _ onTrail bytes time here
      found := fun e he => Disk.status_of_locate located he }

/-! ## Imports one after the other -/

theorem importFrom_of_taken (taken : d.refusal s.path = none)
    (loads : RuleFile.load d p = .ok incoming) (start : s.kept replace d = .ok rules) :
    s.importFrom p replace d =
      (.ok ⟨(merge rules incoming).2, [s.savedLine (merge rules incoming).1]⟩,
        s.afterSave d (merge rules incoming).1) := by
  rw [importFrom_eq]
  simp [loads, start, save_of_taken taken]

/-- A file is imported twice: what the two imports count, and the bytes that the file of the
store has after each of them. -/
def ImportsTwice (s : Store) (d : Disk) (p : Path) (replace : Bool) (first second : Imported)
    (bytes bytes' : ByteArray) : Prop :=
  ∃ done d₁ again d₂,
    (s.importFrom p replace d = (.ok done, d₁) ∧ done.value = first ∧
      d₁.read s.path = .ok bytes) ∧
    s.importFrom p replace d₁ = (.ok again, d₂) ∧ again.value = second ∧
      d₂.read s.path = .ok bytes'

/-- The second import merges what it finds once the first merged list is saved. -/
theorem importsTwice_of_merges {rules' incoming' : List Rule} (taken : d.refusal s.path = none)
    (loads : RuleFile.load d p = .ok incoming) (start : s.kept replace d = .ok rules)
    (loads' : RuleFile.load (s.afterSave d (merge rules incoming).1) p = .ok incoming')
    (start' : s.kept replace (s.afterSave d (merge rules incoming).1) = .ok rules') :
    ImportsTwice s d p replace (merge rules incoming).2 (merge rules' incoming').2
      (RuleFile.encode .json (merge rules incoming).1).toUTF8
      (RuleFile.encode .json (merge rules' incoming').1).toUTF8 := by
  have status := status_afterSave taken (merge rules incoming).1
  have taken' := refusal_of_status status
  have status' := status_afterSave taken' (merge rules' incoming').1
  exact ⟨_, _, _, _,
    ⟨importFrom_of_taken taken loads start, rfl, RuleFile.read_of_status status⟩,
    importFrom_of_taken taken' loads' start', rfl, RuleFile.read_of_status status'⟩

/-- What was merged and written has the sources of the incoming rules, where these have no
pair in two halves. -/
theorem known_map_unite_iff :
    (∀ r ∈ incoming, hasSource ((merge rules incoming).1.map Rule.unite) r.source = true) ↔
      ∀ r ∈ incoming, r.source.Joined := by
  constructor
  · intro known r hr
    obtain ⟨u, hu, same⟩ := hasSource_iff.mp (known r hr)
    obtain ⟨m, -, rfl⟩ := List.mem_map.mp hu
    rw [← same]
    exact m.joined_unite.1
  · intro joined r hr
    have merged : hasSource (merge rules incoming).1 r.source = true := by
      rw [hasSource_merge, hasSource_iff.mpr ⟨r, hr, rfl⟩, Bool.or_true]
    obtain ⟨m, hm, same⟩ := hasSource_iff.mp merged
    refine hasSource_iff.mpr ⟨m.unite, List.mem_map_of_mem hm, ?_⟩
    show m.source.unite = r.source
    rw [same, Points.unite_of_joined (joined r hr)]

/-- A second import that keeps the list adds nothing and leaves out all that is in the file,
unless the file has a source with a pair in two halves, or is that of the store, other than
it was listed, and has a source twice. -/
theorem importsTwice_kept (stored : s.list d = .ok rules) (taken : d.refusal s.path = none)
    (loads : RuleFile.load d p = .ok incoming) :
    ∃ first second bytes bytes', ImportsTwice s d p false first second bytes bytes' ∧
      (second = ⟨0, incoming.length⟩ ↔ (∀ r ∈ incoming, r.source.Joined) ∧
        (Disk.placeOf p ≠ s.place ∨ rules = incoming ∨ DistinctSources incoming)) ∧
      (second = ⟨0, incoming.length⟩ → bytes' = bytes) := by
  have start : s.kept false (s.afterSave d (merge rules incoming).1) = _ :=
    list_afterSave taken (merge rules incoming).1
  by_cases here : Disk.placeOf p = s.place
  · have loads' := load_afterSave_here taken loads here (merge rules incoming).1
    have sources : ∀ r ∈ incoming, r.source.Joined :=
      fun r hr => (joined_of_place loads here r hr).1
    refine ⟨_, _, _, _, importsTwice_of_merges taken loads stored loads' start, ?_, ?_⟩
    · rw [merge_self, Imported.mk.injEq, List.length_map,
        length_merge_of_place stored loads here]
      simp only [true_and, here, ne_eq, not_true_eq_false, false_or]
      exact ⟨fun known => ⟨sources, known⟩, And.right⟩
    · intro _
      rw [merge_self, RuleFile.encode_unite]
  · have loads' := load_afterSave_elsewhere loads here (merge rules incoming).1
    refine ⟨_, _, _, _, importsTwice_of_merges taken loads stored loads' start, ?_, ?_⟩
    · rw [counts_of_known_iff, known_map_unite_iff]
      simp [here]
    · intro counts
      rw [merge_of_known (counts_of_known_iff.mp counts), RuleFile.encode_unite]

/-- A second import in the place of the list writes what the first one wrote. It counts alike,
unless the file is that of the store and has a source twice. -/
theorem importsTwice_replaced (taken : d.refusal s.path = none)
    (loads : RuleFile.load d p = .ok incoming) :
    ∃ first second bytes, ImportsTwice s d p true first second bytes bytes ∧
      (second = first ↔ Disk.placeOf p ≠ s.place ∨ DistinctSources incoming) := by
  have start (d' : Disk) : s.kept true d' = .ok [] := rfl
  by_cases here : Disk.placeOf p = s.place
  · have loads' := load_afterSave_here taken loads here (merge [] incoming).1
    have twice := importsTwice_of_merges taken loads (start d) loads' (start _)
    -- The first list has each source once, and it is written as it is.
    have joined : ∀ r ∈ novel [] incoming, r.Joined := fun r hr =>
      joined_of_place loads here r ((novel_sublist [] incoming).subset hr)
    have again : merge [] ((merge [] incoming).1.map Rule.unite) =
        (novel [] incoming, ⟨(novel [] incoming).length, 0⟩) := by
      rw [merge_nil, Rule.map_unite_of_joined joined]
      exact merge_nil_of_distinct (distinctSources_novel incoming)
    rw [again, merge_nil] at twice
    refine ⟨_, _, _, twice, ?_⟩
    rw [counts_eq_iff]
    simp [here]
  · have loads' := load_afterSave_elsewhere loads here (merge [] incoming).1
    refine ⟨_, _, _, importsTwice_of_merges taken loads (start d) loads' (start _), ?_⟩
    simp [here]

/-- A list that was exported as JSON is imported back: beside the list of its own store
nothing is added, and in the place of the list of any store it is listed, without the rules
whose source an earlier one has. -/
theorem importFrom_exported (ready : Ready s d) (stored : s.list d = .ok rules)
    (apart : s.Apart p) (format : RuleFile.formatOf? p = some .json)
    (taken : d.refusal p = none) :
    ∃ d₁, s.exportTo p d = (.ok rules.length, d₁) ∧
      (∃ done d₂, s.importFrom p false d₁ = (.ok done, d₂) ∧
        done.value = ⟨0, rules.length⟩ ∧ s.list d₂ = .ok rules) ∧
      ∀ s' : Store, d₁.refusal s'.path = none →
        ∃ done d₂, s'.importFrom p true d₁ = (.ok done, d₂) ∧
          s'.list d₂ = .ok (novel [] rules) := by
  have joined := joined_of_list stored
  obtain ⟨ready', same⟩ := list_saveElsewhere ready apart (RuleFile.encode .json rules).toUTF8
  have status := Disk.status_save
    ((Disk.snd_save d p (RuleFile.encode .json rules).toUTF8).trans taken)
  have written : OnDisk.save p (RuleFile.encode .json rules) d =
      (.ok (), (d.save p (RuleFile.encode .json rules).toUTF8).1) := by
    rw [OnDisk.save_apply, Disk.snd_save, taken]
    rfl
  generalize (d.save p (RuleFile.encode .json rules).toUTF8).1 = d₁ at ready' same status written
  have stored' : s.list d₁ = .ok rules := same.trans stored
  have loads : RuleFile.load d₁ p = .ok rules := by
    rw [RuleFile.load_of_status status, RuleFile.parse_encode p format rules joined]
  refine ⟨d₁, ?_, ?_, ?_⟩
  · simp [exportTo, stored, format, written]
  · have taken' : d₁.refusal s.path = none :=
      ready'.save_eq_none (ready'.not_directory stored') ByteArray.empty
    have listed := list_afterSave taken' (merge rules rules).1
    refine ⟨_, _, importFrom_of_taken taken' loads stored', ?_, ?_⟩
    · rw [merge_self]
    · rw [listed, merge_self, Rule.map_unite_of_joined joined]
  · intro s' taken'
    refine ⟨_, _, importFrom_of_taken taken' loads rfl, ?_⟩
    rw [list_afterSave taken', merge_nil]
    apply congrArg
    apply Rule.map_unite_of_joined
    intro r hr
    exact joined r ((novel_sublist [] rules).subset hr)

/-- Where the file of the store can be written, a file that is imported twice adds nothing the
second time and leaves the stored bytes as they are, exactly if it has no source with a pair in
two halves, and is not the file of the store, or is listed, or has each source once. In the
place of the list it leaves the same bytes both times, and counts alike exactly if it is not
the file of the store, or has each source once.

On a ready store the list that is exported as JSON, apart from the store, comes back: it adds
nothing to itself, and in the place of the list of any store that can be written the first
rule of each source is listed, which is the whole list where no two rules have one source. -/
theorem importFrom_again (s : Store) (d : Disk) (p : Path) (rules : List Rule)
    (stored : s.list d = .ok rules) :
    (d.refusal s.path = none → ∀ incoming, RuleFile.load d p = .ok incoming →
      (∃ first second bytes bytes', ImportsTwice s d p false first second bytes bytes' ∧
        (second = ⟨0, incoming.length⟩ ↔ (∀ r ∈ incoming, r.source.Joined) ∧
          (Disk.placeOf p ≠ s.place ∨ rules = incoming ∨ DistinctSources incoming)) ∧
        (second = ⟨0, incoming.length⟩ → bytes' = bytes)) ∧
      ∃ first second bytes, ImportsTwice s d p true first second bytes bytes ∧
        (second = first ↔ Disk.placeOf p ≠ s.place ∨ DistinctSources incoming)) ∧
    (Ready s d → s.Apart p → RuleFile.formatOf? p = some .json → d.refusal p = none →
      ∃ d₁, s.exportTo p d = (.ok rules.length, d₁) ∧
        (∃ done d₂, s.importFrom p false d₁ = (.ok done, d₂) ∧
          done.value = ⟨0, rules.length⟩ ∧ s.list d₂ = .ok rules) ∧
        (∀ s' : Store, d₁.refusal s'.path = none →
          ∃ done d₂, s'.importFrom p true d₁ = (.ok done, d₂) ∧
            s'.list d₂ = .ok (novel [] rules)) ∧
        (DistinctSources rules → novel [] rules = rules)) := by
  constructor
  · intro taken incoming loads
    exact ⟨importsTwice_kept stored taken loads, importsTwice_replaced taken loads⟩
  · intro ready apart format taken
    obtain ⟨d₁, exported, back, anywhere⟩ := importFrom_exported ready stored apart format taken
    exact ⟨d₁, exported, back, anywhere, novel_of_distinct⟩

theorem refusal_copy_withImport (stored new : ByteArray) :
    (withImport stored new).refusal ⟨"", ["out", "copy.json"]⟩ = none := by
  cbv

/-- An import of a known source, a new one and the new one again, and an export. -/
theorem importFrom_again_withImport :
    let s : Store := ⟨⟨"", ["store"]⟩⟩
    let p : Path := ⟨"", ["new.json"]⟩
    let copy : Path := ⟨"", ["out", "copy.json"]⟩
    let rules : List Rule := [⟨"a.example", "b.example"⟩]
    let incoming : List Rule := [⟨"a.example", "c.example"⟩, ⟨"d.example", "e.example"⟩,
      ⟨"d.example", "f.example"⟩]
    let d := withImport (RuleFile.encode .json rules).toUTF8 (RuleFile.encode .json incoming).toUTF8
    s.list d = .ok rules ∧ d.refusal s.path = none ∧ RuleFile.load d p = .ok incoming ∧
      (∃ first bytes, ImportsTwice s d p false first ⟨0, 3⟩ bytes bytes) ∧
      (∃ counts bytes, ImportsTwice s d p true counts counts bytes bytes) ∧
      Ready s d ∧ s.Apart copy ∧ RuleFile.formatOf? copy = some .json ∧ d.refusal copy = none ∧
      ∃ d₁, s.exportTo copy d = (.ok 1, d₁) ∧
        ∃ done d₂, s.importFrom copy false d₁ = (.ok done, d₂) ∧ done.value = ⟨0, 1⟩ ∧
          s.list d₂ = .ok rules := by
  intro s p copy rules incoming d
  have joined : ∀ r ∈ rules, r.Joined := Rule.joined_map_ofTexts [("a.example", "b.example")]
  have joined' : ∀ r ∈ incoming, r.Joined :=
    Rule.joined_map_ofTexts [("a.example", "c.example"), ("d.example", "e.example"),
      ("d.example", "f.example")]
  obtain ⟨status, -, taken⟩ := status_withImport (RuleFile.encode .json rules).toUTF8
    (RuleFile.encode .json incoming).toUTF8
  have stored : s.list d = .ok rules := list_withImport joined _
  have loads : RuleFile.load d p = .ok incoming := load_withImport joined' _
  have apart : s.Apart copy := ⟨by decide, by decide⟩
  have format : RuleFile.formatOf? copy = some .json := by decide
  have takenCopy : d.refusal copy = none := refusal_copy_withImport _ _
  obtain ⟨again, -⟩ := importFrom_again s d p rules stored
  obtain ⟨⟨first, second, bytes, bytes', kept, counts_iff, same⟩,
    counts, counts', replaced, twice, alike⟩ := again taken incoming loads
  have elsewhere : Disk.placeOf p ≠ s.place := by decide
  have counted := counts_iff.mpr ⟨fun r hr => (joined' r hr).1, .inl elsewhere⟩
  rw [same counted, counted] at kept
  rw [alike.mpr (.inl elsewhere)] at twice
  have ready := ready_of_status status
  obtain ⟨-, exported⟩ := importFrom_again s d copy rules stored
  obtain ⟨d₁, written, back, -⟩ := exported ready apart format takenCopy
  exact ⟨stored, taken, loads, ⟨first, bytes, kept⟩, ⟨counts, replaced, twice⟩, ready, apart, format,
    takenCopy, d₁, written, back⟩

/-! ## What the bounds are for -/

/-- Two rules of one source, in the file of a store. -/
def doubled : List Rule := [⟨"a.example", "b.example"⟩, ⟨"a.example", "c.example"⟩]

theorem importsTwice_halves :
    ∃ first second bytes bytes', ImportsTwice ⟨⟨"", ["store"]⟩⟩ halves ⟨"", ["halves.yaml"]⟩ false
      first second bytes bytes' ∧ second ≠ ⟨0, 1⟩ := by
  have stored : Store.list ⟨⟨"", ["store"]⟩⟩ halves = .ok [] := by cbv
  have taken : halves.refusal (path ⟨⟨"", ["store"]⟩⟩) = none := by cbv
  obtain ⟨first, second, bytes, bytes', twice, counts_iff, -⟩ :=
    importsTwice_kept stored taken load_halves
  refine ⟨first, second, bytes, bytes', twice, ?_⟩
  intro counted
  have joined := (counts_iff.mp counted).1
  revert joined
  simp only [List.forall_mem_singleton]
  decide

theorem importsTwice_doubled :
    let s : Store := ⟨⟨"", ["store"]⟩⟩
    let d := withImport (RuleFile.encode .json doubled).toUTF8 ByteArray.empty
    s.list d = .ok doubled ∧ RuleFile.load d s.path = .ok doubled ∧
      ∃ first second bytes, ImportsTwice s d s.path true first second bytes bytes ∧
        second ≠ first := by
  intro s d
  have joined : ∀ r ∈ doubled, r.Joined :=
    Rule.joined_map_ofTexts [("a.example", "b.example"), ("a.example", "c.example")]
  obtain ⟨status, -, taken⟩ := status_withImport (RuleFile.encode .json doubled).toUTF8
    ByteArray.empty
  have loads : RuleFile.load d s.path = .ok doubled := by
    rw [RuleFile.load_of_status status]
    exact RuleFile.parse_encode s.path s.formatOf?_path doubled joined
  refine ⟨list_withImport joined _, loads, ?_⟩
  obtain ⟨first, second, bytes, twice, alike⟩ := importsTwice_replaced taken loads
  refine ⟨first, second, bytes, twice, ?_⟩
  intro same
  rcases alike.mp same with elsewhere | distinct
  · exact elsewhere rfl
  · revert distinct
    decide

theorem list_besides :
    let s : Store := ⟨⟨"", ["a", "..", "store"]⟩⟩
    let copy : Path := ⟨"", ["a", "copy.json"]⟩
    s.list (s.importFrom copy false (s.exportTo copy beside).2).2 =
      .ok [⟨"a.example", "b.example"⟩] := by
  intro s copy
  -- Where the export has made the directory, the file of the store is found.
  have start : s.kept false (s.exportTo copy beside).2 = .ok [⟨"a.example", "b.example"⟩] := by
    rw [← snd_run_exportTo]
    exact runs_out_of_bounds.2.1
  have loads : RuleFile.load (s.exportTo copy beside).2 copy = .ok [] := rfl
  have taken : Disk.refusal (s.exportTo copy beside).2 s.path = none := by decide +kernel
  rw [importFrom_of_taken taken loads start, list_afterSave taken]
  decide

/-- A list that can be read and a file that can be loaded do not suffice: not for the import
of a file with a pair in two halves, nor for that of the file of the store with two rules of
one source in the place of its list, nor where the root is a file, nor for an export that
makes a directory of the file of the store, or a way to it. -/
theorem not_again :
    (let s : Store := ⟨⟨"", ["store"]⟩⟩
      let p : Path := ⟨"", ["halves.yaml"]⟩
      s.list halves = .ok [] ∧ (∃ r, RuleFile.load halves p = .ok [r]) ∧
        ∃ first second bytes bytes', ImportsTwice s halves p false first second bytes bytes' ∧
          second ≠ ⟨0, 1⟩) ∧
    (let s : Store := ⟨⟨"", ["store"]⟩⟩
      let d := withImport (RuleFile.encode .json doubled).toUTF8 ByteArray.empty
      s.list d = .ok doubled ∧ RuleFile.load d s.path = .ok doubled ∧
        ∃ first second bytes, ImportsTwice s d s.path true first second bytes bytes ∧
          second ≠ first) ∧
    (let s : Store := ⟨⟨"", ["file"]⟩⟩
      let p : Path := ⟨"", ["new.json"]⟩
      let d : Disk := ⟨[(["file"], .file ByteArray.empty 0), (["new.json"], .file "[]".toUTF8 0)], 0⟩
      s.list d = .ok [] ∧ RuleFile.load d p = .ok [] ∧
        (s.importFrom p true d).1 = .error (.disk .alreadyExists)) ∧
    (let s : Store := ⟨⟨"", ["store"]⟩⟩
      let beneath : Path := ⟨"", ["store", "rules.json", "copy.json"]⟩
      s.list Disk.empty = .ok [] ∧ RuleFile.formatOf? beneath = some .json ∧ beneath ≠ s.path ∧
        (s.exportTo beneath Disk.empty).1 = .ok 0 ∧
        (s.importFrom beneath false (s.exportTo beneath Disk.empty).2).1 =
          .error (.disk .isDirectory)) ∧
    (let s : Store := ⟨⟨"", ["a", "..", "store"]⟩⟩
      let copy : Path := ⟨"", ["a", "copy.json"]⟩
      s.list beside = .ok [] ∧ s.Apart copy ∧ (s.exportTo copy beside).1 = .ok 0 ∧
        s.list (s.importFrom copy false (s.exportTo copy beside).2).2 =
          .ok [⟨"a.example", "b.example"⟩]) := by
  refine ⟨⟨by cbv, ⟨_, load_halves⟩, importsTwice_halves⟩, importsTwice_doubled,
    ⟨by cbv, by cbv, by cbv⟩, ⟨by cbv, by decide, by decide, by cbv, by cbv⟩,
    ⟨by cbv, ⟨by decide, by decide⟩, by cbv, list_besides⟩⟩

end Store

end Reroute
