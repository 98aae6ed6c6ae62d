import Reroute.Proofs.Store.Ready

/-!
# Runs of a store

A store does to its file what the operations do to a plain list. `Act` is the plain
list: for each operation what it answers and which list it leaves. One operation on
a ready store is one act (`act_of_ready`), and so is every operation of a run, however
long (`follows_of_ready`).

Some things bound what a store can do. A file that is exported beneath `rules.json`,
while that is missing, makes a directory of it. A text that is added, or one in a file of
YAML, may hold a pair in two halves, which the stored text cannot tell from the code point
they make, so the list comes back with its pairs united. And a root that is missing may be one that cannot be
made, or that leads elsewhere once it is made (`not_plain`).
-/

namespace Reroute.Store

inductive Op where
  | list
  | add (source destination : Points)
  | remove (position : Int)
  | clear
  | importFrom (p : Path) (replace : Bool)
  | exportTo (p : Path)

/-- What an operation answers when it succeeds. -/
inductive Answer where
  | listed (rules : List Rule)
  | added (rule : Rule)
  | removed (rule : Rule)
  | cleared (count : Nat)
  | imported (counts : Imported)
  | exported (count : Nat)
  deriving DecidableEq

def Op.run (s : Store) : Op → OnDisk Answer
  | .list => do return .listed (← OnDisk.look s.list)
  | .add source destination => do return .added (← s.add source destination).value
  | .remove position => do return .removed (← s.remove position).value
  | .clear => do return .cleared (← s.clear).value
  | .importFrom p replace => do return .imported (← s.importFrom p replace).value
  | .exportTo p => do return .exported (← s.exportTo p)

/-! ## The plain list -/

/-- The rules from number `start` on of a list of incoming ones, without those whose
source is in the list `rules` or earlier among the incoming ones. -/
def novelFrom (rules incoming : List Rule) (start : Nat) : List Rule :=
  (((incoming.drop start).zipIdx start).filter fun e =>
    !hasSource rules e.1.source && !hasSource (incoming.take e.2) e.1.source).map (·.1)

/-- The incoming rules whose source is neither in the list `rules` nor earlier among
them. -/
def novel (rules incoming : List Rule) : List Rule := novelFrom rules incoming 0

/-- What an operation answers on a plain list, and the list it leaves. The rules in
a file are those that `file` tells, and `refusal` tells which files the disk does not
take. -/
inductive Act (file : Path → Except Failure (List Rule)) (refusal : Path → Option DiskFault) :
    List Rule → Op → Except Failure Answer → List Rule → Prop
  | list (rules : List Rule) : Act file refusal rules .list (.ok (.listed rules)) rules
  | add (rules : List Rule) (source destination : Points)
      (source_ne : source.trimmed ≠ "") (destination_ne : destination.trimmed ≠ "")
      (good : Url.isDestination destination.trimmed = true)
      (new : ∀ r ∈ rules, r.source ≠ source.trimmed) :
      Act file refusal rules (.add source destination)
        (.ok (.added ⟨source.trimmed, destination.trimmed⟩))
        ((rules ++ [(⟨source.trimmed, destination.trimmed⟩ : Rule)]).map Rule.unite)
  | addEmpty (rules : List Rule) (source destination : Points)
      (empty : source.trimmed = "" ∨ destination.trimmed = "") :
      Act file refusal rules (.add source destination) (.error .emptyText) rules
  | addBad (rules : List Rule) (source destination : Points)
      (source_ne : source.trimmed ≠ "") (destination_ne : destination.trimmed ≠ "")
      (bad : Url.isDestination destination.trimmed = false) :
      Act file refusal rules (.add source destination)
        (.error (.badDestination destination.trimmed)) rules
  | addAgain (rules : List Rule) (source destination : Points) (r : Rule)
      (source_ne : source.trimmed ≠ "") (destination_ne : destination.trimmed ≠ "")
      (good : Url.isDestination destination.trimmed = true)
      (old : r ∈ rules) (same : r.source = source.trimmed) :
      Act file refusal rules (.add source destination) (.error (.duplicate r.source)) rules
  | remove (before : List Rule) (r : Rule) (after : List Rule) :
      Act file refusal (before ++ r :: after) (.remove (before.length + 1)) (.ok (.removed r))
        (before ++ after)
  | removeNone (rules : List Rule) (position : Int)
      (outside : position < 1 ∨ rules.length < position) :
      Act file refusal rules (.remove position) (.error (.noRule position)) rules
  | clear (rules : List Rule) : Act file refusal rules .clear (.ok (.cleared rules.length)) []
  | importFrom (rules : List Rule) (p : Path) (replace : Bool) (incoming kept : List Rule)
      (counts : Imported) (loads : file p = .ok incoming)
      (start : kept = if replace then [] else rules)
      (added : counts.added = (novel kept incoming).length)
      (total : counts.added + counts.skipped = incoming.length) :
      Act file refusal rules (.importFrom p replace) (.ok (.imported counts))
        ((kept ++ novel kept incoming).map Rule.unite)
  | importNone (rules : List Rule) (p : Path) (replace : Bool) (e : Failure)
      (fails : file p = .error e) :
      Act file refusal rules (.importFrom p replace) (.error e) rules
  | exportTo (rules : List Rule) (p : Path) (format : RuleFile.formatOf? p ≠ none)
      (taken : refusal p = none) :
      Act file refusal rules (.exportTo p) (.ok (.exported rules.length)) rules
  | exportNone (rules : List Rule) (p : Path) (format : RuleFile.formatOf? p = none) :
      Act file refusal rules (.exportTo p) (.error (.unsupported p)) rules
  | exportRefused (rules : List Rule) (p : Path) (format : RuleFile.formatOf? p ≠ none)
      (fault : DiskFault) (refused : refusal p = some fault) :
      Act file refusal rules (.exportTo p) (.error (.disk fault)) rules

/-! ## Lists that are merged -/

variable {s : Store} {d : Disk} {rules : List Rule}

theorem hasSource_iff {source : Points} :
    hasSource rules source = true ↔ ∃ r ∈ rules, r.source = source := by
  simp [hasSource]

theorem hasSource_append (xs ys : List Rule) (source : Points) :
    hasSource (xs ++ ys) source = (hasSource xs source || hasSource ys source) :=
  List.any_append

theorem novelFrom_append_cons (old before : List Rule) (r : Rule) (rest : List Rule) :
    novelFrom old (before ++ r :: rest) before.length =
      (if hasSource old r.source || hasSource before r.source then [] else [r]) ++
        novelFrom old (before ++ r :: rest) (before.length + 1) := by
  have here : (before ++ r :: rest).drop before.length = r :: rest := List.drop_left
  have past : (before ++ r :: rest).take before.length = before := List.take_left
  have onward : (before ++ r :: rest).drop (before.length + 1) = rest := by
    rw [← List.drop_drop, here]
    rfl
  unfold novelFrom
  rw [here, onward, List.zipIdx_cons, List.filter_cons]
  simp only [past, ← Bool.not_or]
  cases hasSource old r.source || hasSource before r.source <;> simp

/-- Merging the rules after some `before`, where the list has the sources of an old
list and of those. -/
theorem merge_novelFrom (old : List Rule) : ∀ (rest before list : List Rule),
    (∀ source, hasSource list source = (hasSource old source || hasSource before source)) →
      (merge list rest).1 = list ++ novelFrom old (before ++ rest) before.length ∧
        (merge list rest).2.added = (novelFrom old (before ++ rest) before.length).length ∧
          (merge list rest).2.added + (merge list rest).2.skipped = rest.length
  | [], before, list, _ => by simp [merge, novelFrom]
  | r :: rest, before, list, sources => by
    have whole : before ++ r :: rest = (before ++ [r]) ++ rest := by simp
    have length : before.length + 1 = (before ++ [r]).length := by simp
    rw [novelFrom_append_cons, ← sources, whole, length, merge]
    -- The lists that are merged on are both told by their sources: a rule that is left
    -- out adds none that was not there, and one that is kept adds its own.
    cases known : hasSource list r.source with
    | true =>
      have sources' : ∀ source, hasSource list source =
          (hasSource old source || hasSource (before ++ [r]) source) := by
        intro source
        by_cases same : r.source = source
        · rw [← same, known, hasSource_append]
          simp [hasSource]
        · rw [sources, hasSource_append]
          simp [hasSource, same]
      obtain ⟨merged, added, total⟩ := merge_novelFrom old rest (before ++ [r]) list sources'
      refine ⟨by simpa using merged, by simpa using added, ?_⟩
      simp only [if_true, List.length_cons]
      omega
    | false =>
      have sources' : ∀ source, hasSource (list ++ [r]) source =
          (hasSource old source || hasSource (before ++ [r]) source) := by
        intro source
        simp only [hasSource_append, sources, Bool.or_assoc]
      obtain ⟨merged, added, total⟩ :=
        merge_novelFrom old rest (before ++ [r]) (list ++ [r]) sources'
      refine ⟨by simpa using merged, by simpa using added, ?_⟩
      simp only [Bool.false_eq_true, if_false, List.length_cons]
      omega

/-- A merged list is the old one with the novel rules behind it. -/
theorem merge_novel (rules incoming : List Rule) :
    (merge rules incoming).1 = rules ++ novel rules incoming ∧
      (merge rules incoming).2.added = (novel rules incoming).length ∧
        (merge rules incoming).2.added + (merge rules incoming).2.skipped = incoming.length :=
  merge_novelFrom rules incoming [] rules (by simp [hasSource])

/-! ## Runs -/

/-- An operation whose files are apart from the store. -/
def Op.Apart (s : Store) : Op → Prop
  | .exportTo p => s.Apart p
  | _ => True

/-- What an operation did on a ready store with the list `rules`: it is an act on
the plain list, and the list that the act leaves is the stored one. -/
def Acted (s : Store) (d : Disk) (rules : List Rule) (op : Op) : Prop :=
  ∃ new, Act (RuleFile.load d) d.refusal rules op (op.run s d).1 new ∧ Ready s (op.run s d).2 ∧
    s.list (op.run s d).2 = .ok new

theorem acted_of_save (ready : Ready s d) (stored : s.list d = .ok rules) {op : Op}
    {answer : Answer} {new : List Rule} (act : Act (RuleFile.load d) d.refusal rules op (.ok answer)
      (new.map Rule.unite))
    (run : ∀ d', s.save new d = (.ok [s.savedLine new], d') → op.run s d = (.ok answer, d')) :
    Acted s d rules op := by
  obtain ⟨d', saved, ready', stored'⟩ := list_save ready stored new
  rw [Acted, run d' saved]
  exact ⟨_, act, ready', stored'⟩

theorem acted_of_same (ready : Ready s d) (stored : s.list d = .ok rules) {op : Op}
    {answer : Except Failure Answer} (act : Act (RuleFile.load d) d.refusal rules op answer rules)
    (run : op.run s d = (answer, d)) : Acted s d rules op := by
  rw [Acted, run]
  exact ⟨_, act, ready, stored⟩

theorem acted_add (ready : Ready s d) (stored : s.list d = .ok rules)
    (source destination : Points) : Acted s d rules (.add source destination) := by
  by_cases empty : source.trimmed = "" ∨ destination.trimmed = ""
  · refine acted_of_same ready stored (.addEmpty rules source destination empty) ?_
    have refused : newRule source destination = .error .emptyText := by
      rcases empty with empty | empty <;> simp [newRule, empty]
    simp [Op.run, Store.add, refused]
  · rw [not_or] at empty
    cases good : Url.isDestination destination.trimmed with
    | false =>
      refine acted_of_same ready stored (.addBad rules source destination empty.1 empty.2 good) ?_
      have refused : newRule source destination =
          .error (.badDestination destination.trimmed) := by
        simp [newRule, empty, good]
      simp [Op.run, Store.add, refused]
    | true =>
      have accepted : newRule source destination =
          .ok ⟨source.trimmed, destination.trimmed⟩ := by
        simp [newRule, empty, good]
      cases known : hasSource rules source.trimmed with
      | true =>
        obtain ⟨r, old, same⟩ := hasSource_iff.mp known
        refine acted_of_same ready stored
          (.addAgain rules source destination r empty.1 empty.2 good old same) ?_
        simp [Op.run, Store.add, accepted, stored, known, same]
      | false =>
        have new : ∀ r ∈ rules, r.source ≠ source.trimmed := by
          intro r hr same
          rw [hasSource_iff.mpr ⟨r, hr, same⟩] at known
          simp at known
        have act : Act (RuleFile.load d) d.refusal _ _ _ _ :=
          .add rules source destination empty.1 empty.2 good new
        refine acted_of_save ready stored act fun d' saved => ?_
        simp [Op.run, Store.add, accepted, stored, known, saved]

theorem ruleAt?_append_cons (before : List Rule) (r : Rule) (after : List Rule) :
    ruleAt? (before ++ r :: after) (before.length + 1) = some r := by
  have inside : ¬(before.length : Int) + 1 < 1 := by omega
  simp [ruleAt?, inside]

theorem eraseIdx_append_cons (before : List Rule) (r : Rule) (after : List Rule) :
    (before ++ r :: after).eraseIdx before.length = before ++ after := by
  rw [List.eraseIdx_append_of_length_le (Nat.le_refl _)]
  simp

theorem acted_remove (ready : Ready s d) (stored : s.list d = .ok rules) (position : Int) :
    Acted s d rules (.remove position) := by
  by_cases outside : position < 1 ∨ rules.length < position
  · refine acted_of_same ready stored (.removeNone rules position outside) ?_
    have none : ruleAt? rules position = none := by
      unfold ruleAt?
      split
      · rfl
      · rw [List.getElem?_eq_none]
        omega
    simp [Op.run, Store.remove, stored, none]
  · -- The list is cut at the rule with that number, in the form that the act names.
    rw [not_or] at outside
    have inside : position.toNat - 1 < rules.length := by omega
    obtain ⟨before, r, after, split, length⟩ :
        ∃ before r after, rules = before ++ r :: after ∧ before.length = position.toNat - 1 :=
      ⟨rules.take (position.toNat - 1), rules[position.toNat - 1],
        rules.drop (position.toNat - 1 + 1), by simp, by simp; omega⟩
    have number : position = before.length + 1 := by omega
    have found : ruleAt? rules position = some r := by
      rw [number, split, ruleAt?_append_cons]
    have rest : rules.eraseIdx (position.toNat - 1) = before ++ after := by
      rw [← length, split, eraseIdx_append_cons]
    have joined : ∀ r ∈ before ++ after, r.Joined := by
      intro r hr
      refine joined_of_list stored r ?_
      rw [split]
      rcases List.mem_append.mp hr with first | last
      · exact List.mem_append_left _ first
      · exact List.mem_append_right _ (.tail _ last)
    have act : Act (RuleFile.load d) d.refusal _ _ _ _ := .remove before r after
    rw [← number, ← split, ← Rule.map_unite_of_joined joined] at act
    refine acted_of_save ready stored act fun d' saved => ?_
    simp [Op.run, Store.remove, stored, found, rest, saved]

theorem acted_clear (ready : Ready s d) (stored : s.list d = .ok rules) :
    Acted s d rules .clear := by
  have act : Act (RuleFile.load d) d.refusal rules .clear (.ok (.cleared rules.length))
      (([] : List Rule).map Rule.unite) := .clear rules
  refine acted_of_save ready stored act fun d' saved => ?_
  simp [Op.run, Store.clear, stored, saved]

theorem acted_importFrom (ready : Ready s d) (stored : s.list d = .ok rules) (p : Path)
    (replace : Bool) : Acted s d rules (.importFrom p replace) := by
  cases loads : RuleFile.load d p with
  | error e =>
    refine acted_of_same ready stored (.importNone rules p replace e loads) ?_
    simp [Op.run, Store.importFrom, loads]
  | ok incoming =>
    obtain ⟨kept, start⟩ : ∃ kept, kept = if replace then [] else rules := ⟨_, rfl⟩
    obtain ⟨merged, added, total⟩ := merge_novel kept incoming
    have act : Act (RuleFile.load d) d.refusal _ _ _ _ :=
      .importFrom rules p replace incoming kept (merge kept incoming).2 loads start added total
    rw [← merged] at act
    refine acted_of_save ready stored act fun d' saved => ?_
    cases replace <;> simp only [if_true, Bool.false_eq_true, if_false] at start <;> subst start <;>
      simp [Op.run, Store.importFrom, loads, stored, saved]

theorem acted_exportTo (ready : Ready s d) (stored : s.list d = .ok rules) (p : Path)
    (apart : s.Apart p) : Acted s d rules (.exportTo p) := by
  cases format : RuleFile.formatOf? p with
  | none =>
    refine acted_of_same ready stored (.exportNone rules p format) ?_
    simp [Op.run, Store.exportTo, stored, format]
  | some format' =>
    have known : RuleFile.formatOf? p ≠ none := by simp [format]
    -- Taken or refused, a file apart from the store leaves the list as it was.
    obtain ⟨ready', same⟩ :=
      list_saveElsewhere ready apart (RuleFile.encode format' rules).toUTF8
    have refusal := Disk.snd_save d p (RuleFile.encode format' rules).toUTF8
    rcases saved : d.save p (RuleFile.encode format' rules).toUTF8 with ⟨d', fault⟩
    rw [saved] at ready' same refusal
    cases fault with
    | none =>
      have wrote : OnDisk.save p (RuleFile.encode format' rules) d = (.ok (), d') := by
        rw [OnDisk.save_apply, saved]
        rfl
      have run : (Op.exportTo p).run s d = (.ok (.exported rules.length), d') := by
        simp [Op.run, Store.exportTo, stored, format, wrote]
      rw [Acted, run]
      exact ⟨rules, .exportTo rules p known refusal.symm, ready', same.trans stored⟩
    | some fault =>
      have refused : OnDisk.save p (RuleFile.encode format' rules) d =
          (.error (.disk fault), d') := by
        rw [OnDisk.save_apply, saved]
        rfl
      have run : (Op.exportTo p).run s d = (.error (.disk fault), d') := by
        simp [Op.run, Store.exportTo, stored, format, refused]
      rw [Acted, run]
      exact ⟨rules, .exportRefused rules p known fault refusal.symm, ready', same.trans stored⟩

theorem act_of_ready (ready : Ready s d) (stored : s.list d = .ok rules) (op : Op)
    (apart : op.Apart s) : Acted s d rules op := by
  cases op with
  | list =>
    refine acted_of_same ready stored (.list rules) ?_
    simp [Op.run, stored]
  | add source destination => exact acted_add ready stored source destination
  | remove position => exact acted_remove ready stored position
  | clear => exact acted_clear ready stored
  | importFrom p replace => exact acted_importFrom ready stored p replace
  | exportTo p => exact acted_exportTo ready stored p apart

/-- On a disk, operations do one after another what they do to a plain list, and after
each of them the stored list is the one that the act leaves. -/
def Follows (s : Store) : Disk → List Rule → List Op → Prop
  | _, _, [] => True
  | d, rules, op :: ops =>
    ∃ new, Act (RuleFile.load d) d.refusal rules op (op.run s d).1 new ∧
      s.list (op.run s d).2 = .ok new ∧ Follows s (op.run s d).2 new ops

/-- Every run on a ready store does step by step what its operations do to the plain
list that is stored at the start. -/
theorem follows_of_ready (s : Store) (d : Disk) (rules : List Rule) (ready : Ready s d)
    (stored : s.list d = .ok rules) (ops : List Op) (apart : ∀ op ∈ ops, op.Apart s) :
    Follows s d rules ops := by
  induction ops generalizing d rules with
  | nil => trivial
  | cons op ops ih =>
    rw [List.forall_mem_cons] at apart
    obtain ⟨new, act, ready', stored'⟩ := act_of_ready ready stored op apart.1
    exact ⟨new, act, stored', ih _ new ready' stored' apart.2⟩

theorem follows_on_empty_disk :
    let s : Store := ⟨⟨"", ["store"]⟩⟩
    let copy : Path := ⟨"", ["out", "copy.json"]⟩
    let ops : List Op := [.add " https://a.example/ " "b.example",
      .add "https://a.example/" "c.org", .exportTo copy, .importFrom copy true, .remove 1, .clear,
      .list]
    Ready s Disk.empty ∧ s.list Disk.empty = .ok [] ∧ (∀ op ∈ ops, op.Apart s) ∧
      Follows s Disk.empty [] ops := by
  intro s copy ops
  have ready : Ready s Disk.empty :=
    { accepted := by cbv
      rooted := by cbv
      apart := by decide
      found := by
        intro e he
        have free : Disk.empty.entry? s.place = none := rfl
        simp [free] at he }
  have stored : s.list Disk.empty = .ok [] := by cbv
  have copied : s.Apart copy := ⟨by decide, by decide⟩
  have apart : ∀ op ∈ ops, op.Apart s := by
    simp only [ops, List.forall_mem_cons]
    exact ⟨trivial, trivial, copied, trivial, trivial, trivial, trivial, by simp⟩
  exact ⟨ready, stored, apart, follows_of_ready s Disk.empty [] ready stored ops apart⟩

/-! ## What the bounds are for -/

theorem snd_run_exportTo (s : Store) (p : Path) (d : Disk) :
    ((Op.exportTo p).run s d).2 = (s.exportTo p d).2 :=
  Step.snd_bind_pure (s.exportTo p) Answer.exported d

/-- The two halves of U+1F600. -/
def twoHalves : Points := .ofCodes [0xD83D, 0xDE00]

/-- A disk with the two halves in a file of YAML. -/
def halves : Disk :=
  ⟨[(["halves.yaml"],
    .file "[\x7b\"from\": \"\\ud83d\\ude00\", \"to\": \"b.example\"\x7d]".toUTF8 0)], 0⟩

theorem load_halves :
    RuleFile.load halves ⟨"", ["halves.yaml"]⟩ = .ok [⟨twoHalves, "b.example"⟩] := by
  cbv

theorem ready_halves : Ready ⟨⟨"", ["store"]⟩⟩ halves where
  accepted := by cbv
  rooted := by cbv
  apart := by decide
  found := by
    intro e he
    have free : halves.entry? (place ⟨⟨"", ["store"]⟩⟩) = none := rfl
    simp [free] at he

/-- The halves of a pair that were added are listed as the one code point. -/
theorem list_addedHalves :
    ((Op.add twoHalves "b.example").run ⟨⟨"", ["store"]⟩⟩ halves).1 =
        .ok (.added ⟨twoHalves, "b.example"⟩) ∧
      Store.list ⟨⟨"", ["store"]⟩⟩ ((Op.add twoHalves "b.example").run
        ⟨⟨"", ["store"]⟩⟩ halves).2 = .ok [⟨.ofCodes [0x1F600], "b.example"⟩] := by
  have stored : Store.list ⟨⟨"", ["store"]⟩⟩ halves = .ok [] := by cbv
  obtain ⟨new, act, -, stored'⟩ := acted_add ready_halves stored twoHalves "b.example"
  generalize ((Op.add twoHalves "b.example").run ⟨⟨"", ["store"]⟩⟩ halves).1 = answer at act ⊢
  generalize none : ([] : List Rule) = rules at act
  cases act with
  | addEmpty _ _ _ empty => exact absurd empty (by decide)
  | addBad _ _ _ _ _ bad => exact absurd bad (by decide)
  | addAgain _ _ _ r _ _ _ old => simp [← none] at old
  | add =>
    subst none
    rw [stored']
    decide

theorem list_importedHalves :
    Store.list ⟨⟨"", ["store"]⟩⟩ ((Op.importFrom ⟨"", ["halves.yaml"]⟩ false).run
      ⟨⟨"", ["store"]⟩⟩ halves).2 = .ok [⟨.ofCodes [0x1F600], "b.example"⟩] := by
  have stored : Store.list ⟨⟨"", ["store"]⟩⟩ halves = .ok [] := by cbv
  obtain ⟨new, act, -, stored'⟩ := acted_importFrom ready_halves stored ⟨"", ["halves.yaml"]⟩ false
  generalize ((Op.importFrom ⟨"", ["halves.yaml"]⟩ false).run ⟨⟨"", ["store"]⟩⟩ halves).1 =
    answer at act
  generalize empty : ([] : List Rule) = rules at act
  cases act with
  | importNone _ _ _ e fails => simp [load_halves] at fails
  | importFrom _ _ _ incoming kept counts loads start =>
    rw [load_halves] at loads
    obtain rfl := Except.ok.inj loads
    subst start empty
    rw [stored']
    decide

/-- A disk on which a store stands, beside a directory that is missing. -/
def beside : Disk :=
  ⟨[(["store"], .directory), (["store", "rules.json"],
    .file "[\x7b\"from\": \"a.example\", \"to\": \"b.example\"\x7d]".toUTF8 0)], 0⟩

/-- Runs that the bounds keep out. A file exported beneath the missing `rules.json` makes a
directory of it, and one exported into the missing directory makes it, and with it a way to
the store. A root cannot be made beneath a file, and one that is made through the place of
the file makes a directory of it. -/
theorem runs_out_of_bounds :
    (Store.list ⟨⟨"", ["store"]⟩⟩ ((Op.exportTo ⟨"", ["store", "rules.json", "copy.json"]⟩).run
      ⟨⟨"", ["store"]⟩⟩ Disk.empty).2 = .error (.disk .isDirectory)) ∧
    (Store.list ⟨⟨"", ["a", "..", "store"]⟩⟩ ((Op.exportTo ⟨"", ["a", "copy.json"]⟩).run
      ⟨⟨"", ["a", "..", "store"]⟩⟩ beside).2 = .ok [⟨"a.example", "b.example"⟩]) ∧
    ((Op.clear.run ⟨⟨"", ["file", "store"]⟩⟩ ⟨[(["file"], .file ByteArray.empty 0)], 0⟩).1 =
      .error (.disk .notDirectory)) ∧
    ((Op.clear.run ⟨⟨"", ["store", "rules.json", ".."]⟩⟩ Disk.empty).1 =
      .error (.disk .isDirectory)) := by
  rw [snd_run_exportTo, snd_run_exportTo]
  refine ⟨?_, ?_, ?_, ?_⟩ <;> cbv

/-- The stored list is not in every run the one that the operations make of a plain
list, even where the exported files are others than `rules.json`: not after an export
beneath it, nor after a pair in two halves was added or imported, nor where the root is
missing and cannot be made, or leads through the file or a directory that is missing. -/
theorem not_plain :
    (let s : Store := ⟨⟨"", ["store"]⟩⟩
      let beneath : Path := ⟨"", ["store", "rules.json", "copy.json"]⟩
      s.list Disk.empty = .ok [] ∧ beneath ≠ s.path ∧
        s.list ((Op.exportTo beneath).run s Disk.empty).2 = .error (.disk .isDirectory)) ∧
    (let s : Store := ⟨⟨"", ["store"]⟩⟩
      let op : Op := .add twoHalves "b.example"
      s.list halves = .ok [] ∧
        ∃ r : Rule, (op.run s halves).1 = .ok (.added r) ∧
          s.list (op.run s halves).2 ≠ .ok [r]) ∧
    (let s : Store := ⟨⟨"", ["store"]⟩⟩
      let p : Path := ⟨"", ["halves.yaml"]⟩
      s.list halves = .ok [] ∧
        ∃ incoming, RuleFile.load halves p = .ok incoming ∧ novel [] incoming = incoming ∧
          s.list ((Op.importFrom p false).run s halves).2 ≠ .ok incoming) ∧
    (let s : Store := ⟨⟨"", ["file", "store"]⟩⟩
      let d : Disk := ⟨[(["file"], .file ByteArray.empty 0)], 0⟩
      d.status s.root = .error .notDirectory ∧ s.list d = .ok [] ∧
        (Op.clear.run s d).1 = .error (.disk .notDirectory)) ∧
    (let s : Store := ⟨⟨"", ["store", "rules.json", ".."]⟩⟩
      let d : Disk := Disk.empty
      d.status s.root = .error .notFound ∧ s.list d = .ok [] ∧
        (Op.clear.run s d).1 = .error (.disk .isDirectory)) ∧
    (let s : Store := ⟨⟨"", ["a", "..", "store"]⟩⟩
      let copy : Path := ⟨"", ["a", "copy.json"]⟩
      beside.status s.root = .error .notFound ∧ s.list beside = .ok [] ∧ s.Apart copy ∧
        s.list ((Op.exportTo copy).run s beside).2 = .ok [⟨"a.example", "b.example"⟩]) := by
  obtain ⟨beneath, besides, beneathFile, throughFile⟩ := runs_out_of_bounds
  obtain ⟨added, listed⟩ := list_addedHalves
  refine ⟨⟨by cbv, by decide, beneath⟩, ⟨by cbv, _, added, ?_⟩,
    ⟨by cbv, _, load_halves, by decide, ?_⟩, ⟨by cbv, by cbv, beneathFile⟩,
    ⟨by cbv, by cbv, throughFile⟩, ⟨by cbv, by cbv, ⟨by decide, by decide⟩, besides⟩⟩
  · rw [listed]
    decide
  · rw [list_importedHalves]
    decide

end Reroute.Store
