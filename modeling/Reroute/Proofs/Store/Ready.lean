import Reroute.Proofs.Disk.Trail
import Reroute.Proofs.RuleFile.RoundTrip
import Reroute.Store.Basic

/-!
# Stores that can be written

A store is ready on a disk when its root is a directory or can be made one, and
the file is found where it stands. On a ready store a list that is saved is the
list that is read next (`list_save`), and saving some other file apart from the
store leaves the list as it was (`list_saveElsewhere`).
-/

namespace Reroute

namespace Step

/-! ## Steps that may fail

A step goes from a state to the next one, and fails or gives a value. -/

variable {ε σ α β : Type} {m : ExceptT ε (StateM σ) α} {f : α → ExceptT ε (StateM σ) β} {w w' : σ}

@[simp] theorem bind_apply (m : ExceptT ε (StateM σ) α) (f : α → ExceptT ε (StateM σ) β) (w : σ) :
    (m >>= f) w = match m w with
      | (.ok a, w') => f a w'
      | (.error e, w') => (.error e, w') := by
  show (match m w with | (r, w') => ExceptT.bindCont f r w') = _
  rcases m w with ⟨_ | _, w'⟩ <;> rfl

@[simp] theorem map_apply (f : α → β) (m : ExceptT ε (StateM σ) α) (w : σ) :
    (f <$> m) w = match m w with
      | (.ok a, w') => (.ok (f a), w')
      | (.error e, w') => (.error e, w') := by
  rw [← bind_pure_comp, bind_apply]
  rfl

@[simp] theorem pure_apply (a : α) (w : σ) : (pure a : ExceptT ε (StateM σ) α) w = (.ok a, w) := rfl

@[simp] theorem throw_apply (e : ε) (w : σ) :
    (throw e : ExceptT ε (StateM σ) α) w = (.error e, w) := rfl

theorem snd_bind_pure (m : ExceptT ε (StateM σ) α) (f : α → β) (w : σ) :
    ((m >>= fun a => pure (f a)) w).2 = (m w).2 := by
  rw [bind_apply]
  rcases m w with ⟨_ | a, w'⟩ <;> rfl

theorem bind_eq_ok {b : β} (h : (m >>= f) w = (.ok b, w')) :
    ∃ a w₁, m w = (.ok a, w₁) ∧ f a w₁ = (.ok b, w') := by
  rw [bind_apply] at h
  rcases hm : m w with ⟨_ | a, w₁⟩ <;> rw [hm] at h
  · exact absurd (Prod.mk.inj h).1 (by simp)
  · exact ⟨a, w₁, rfl, h⟩

end Step

namespace OnDisk

variable {α : Type}

@[simp] theorem look_apply (f : Disk → Except Failure α) (d : Disk) : look f d = (f d, d) := rfl

theorem save_apply (p : Path) (text : String) (d : Disk) :
    save p text d =
      ((d.save p text.toUTF8).2.elim (.ok ()) fun fault => .error (.disk fault),
        (d.save p text.toUTF8).1) := by
  unfold save
  rcases d.save p text.toUTF8 with ⟨d', _ | fault⟩ <;> rfl

end OnDisk

namespace Store

/-! ## The place of the file -/

def place (s : Store) : Place := Disk.placeOf s.path

variable {s : Store} {d d' : Disk} {p : Path} {rules : List Rule}

theorem parent_path (s : Store) : s.path.parent = s.root := by
  simp [path, Path.child, Path.parent]

theorem formatOf?_path (s : Store) : RuleFile.formatOf? s.path = some .json := by
  have name : s.path.name = fileName := by simp [path, Path.child, Path.name]
  unfold RuleFile.formatOf? Path.suffix
  rw [name]
  rfl

theorem next_fileName (q : Place) : Disk.next q fileName = q ++ [fileName] := if_neg (by decide)

theorem place_eq (s : Store) : s.place = Disk.next (Disk.placeOf s.root) fileName := by
  calc s.place = (s.root.parts ++ [fileName]).foldl Disk.next (Disk.startOf s.root) := rfl
    _ = Disk.next (Disk.placeOf s.root) fileName := by rw [List.foldl_concat]; rfl

theorem trailOf_path (s : Store) : Disk.trailOf s.path = Disk.trailOf s.root ++ [s.place] := by
  calc Disk.trailOf s.path
      = Disk.trail (Disk.startOf s.root) (s.root.parts ++ [fileName]) := rfl
    _ = Disk.trailOf s.root ++ [Disk.next (Disk.placeOf s.root) fileName] :=
        Disk.trail_append _ _ _
    _ = Disk.trailOf s.root ++ [s.place] := by rw [place_eq]

theorem walk_path (s : Store) (d : Disk) : d.walk (Disk.startOf s.path) s.path.parts =
    (d.walk (Disk.startOf s.root) s.root.parts).bind fun q => d.walk q [fileName] :=
  Disk.walk_append d _ _ _

theorem joined_of_list (h : s.list d = .ok rules) : ∀ r ∈ rules, r.Joined := by
  unfold list at h
  split at h
  · unfold RuleFile.load at h
    cases hr : d.read s.path with
    | error fault => simp [hr, Failure.ofDisk, Except.mapError, bind, Except.bind] at h
    | ok bytes =>
      simp only [hr, Failure.ofDisk, Except.mapError, bind, Except.bind] at h
      exact RuleFile.joined_of_parse s.formatOf?_path h
  · obtain rfl := Except.ok.inj h
    simp
  · simp at h

/-! ## Ready stores -/

/-- The root is a directory or can be made one, and what stands at the place of the
file is found there. -/
structure Ready (s : Store) (d : Disk) : Prop where
  accepted : Disk.accept s.path = .ok ()
  rooted : (d.makeDirectories s.root).2 = none
  /-- To make the root is not to make a directory of the file. -/
  apart : s.place ∉ Disk.trailOf s.root
  found : ∀ e, d.entry? s.place = some e → d.status s.path = .ok e

theorem rooted_iff (accepted : Disk.accept s.root = .ok ()) :
    (d.makeDirectories s.root).2 = none ↔
      (∀ q ∈ Disk.trailOf s.root, d.NoFile q) ∧
        ∀ name ∈ s.root.parts, Disk.isLong name = false := by
  rw [Disk.makeDirectories_of_accept d accepted]
  exact Disk.makeAlong_eq_none_iff (Disk.grounded_startOf d s.root)

theorem short_of_rooted (rooted : (d.makeDirectories s.root).2 = none) :
    ∀ name ∈ s.path.parts, Disk.isLong name = false := by
  intro name hn
  rcases List.mem_append.mp hn with hn | hn
  · exact ((rooted_iff (Disk.accept_of_makeDirectories rooted)).mp rooted).2 name hn
  · obtain rfl := List.mem_singleton.mp hn
    decide

/-- A store that is ready is so on another disk where no file stands on the way to
the root and the file is found. -/
theorem Ready.of_noFile (h : Ready s d) (way : ∀ q ∈ Disk.trailOf s.root, d'.NoFile q)
    (found : ∀ e, d'.entry? s.place = some e → d'.status s.path = .ok e) : Ready s d' := by
  have accepted := Disk.accept_of_makeDirectories h.rooted
  have short := ((rooted_iff accepted).mp h.rooted).2
  exact ⟨h.accepted, (rooted_iff accepted).mpr ⟨way, short⟩, h.apart, found⟩

/-- On a tree and without `..` in its root, a store is ready as soon as the root can
be made. -/
theorem ready_of_tree (tree : d.Tree) (down : (".." : Points) ∉ s.root.parts)
    (accepted : Disk.accept s.path = .ok ()) (rooted : (d.makeDirectories s.root).2 = none) :
    Ready s d where
  accepted := accepted
  rooted := rooted
  apart := by
    intro onTrail
    -- Without `..` the place of the file is longer than any on the way to the root.
    have short := Disk.length_le_of_mem_trail onTrail
    rw [place_eq, next_fileName, List.length_append, Disk.placeOf, Disk.length_goal down] at short
    simp at short
  found := by
    intro e he
    have down' : (".." : Points) ∉ s.path.parts := by
      intro up
      rcases List.mem_append.mp up with up | up
      · exact down up
      · exact absurd (List.mem_singleton.mp up) (by decide)
    have there : d.entry? (Disk.goal (Disk.startOf s.path) s.path.parts) ≠ none :=
      Option.ne_none_iff_exists'.mpr ⟨e, he⟩
    have located : d.locate s.path = .ok s.place := by
      rw [Disk.locate_of_accept d accepted]
      exact tree.walk down' (short_of_rooted rooted) there
    exact Disk.status_of_locate located he

theorem Ready.noFile (h : Ready s d) : ∀ q ∈ Disk.trailOf s.root, d.NoFile q :=
  ((rooted_iff (Disk.accept_of_makeDirectories h.rooted)).mp h.rooted).1

theorem Ready.status_of_none (h : Ready s d) (free : d.entry? s.place = none) :
    ∃ fault, d.status s.path = .error fault ∧ fault ≠ .nameTooLong := by
  cases hs : d.status s.path with
  | ok e =>
    have there : d.entry? s.place = some e := (Disk.entry_of_status hs).2
    simp [free] at there
  | error fault =>
    refine ⟨fault, rfl, ?_⟩
    -- A name that is too long would have kept the root from being made.
    intro long
    subst long
    rcases Disk.status_eq_error hs with refused | ⟨-, walked | ⟨-, -, missing⟩⟩
    · simp [h.accepted] at refused
    · rcases Disk.walk_eq_error walked with bad | bad | ⟨-, name, hn, long⟩
      · simp at bad
      · simp at bad
      · simp [short_of_rooted h.rooted name hn] at long
    · simp at missing

theorem Ready.list_eq (h : Ready s d) :
    s.list d = match d.entry? s.place with
      | none => .ok []
      | some (.file bytes _) => RuleFile.parse s.path bytes
      | some .directory => .error (.disk .isDirectory) := by
  cases he : d.entry? s.place with
  | none =>
    obtain ⟨fault, status, other⟩ := h.status_of_none he
    cases fault with
    | nameTooLong => exact absurd rfl other
    | _ => simp [list, Disk.present, status]
  | some e =>
    have status := h.found e he
    cases e <;>
      simp [list, Disk.present, status, RuleFile.load, Disk.read, Failure.ofDisk, Except.mapError,
        bind, Except.bind, pure, Except.pure]

theorem Ready.not_directory (h : Ready s d) (stored : s.list d = .ok rules) :
    d.entry? s.place ≠ some .directory := by
  intro directory
  rw [h.list_eq, directory] at stored
  simp at stored

/-! ## Saving -/

/-- Where the root can be made and no directory stands in the place of the file, the
file can be saved. -/
theorem Ready.save_eq_none (h : Ready s d) (free : d.entry? s.place ≠ some .directory)
    (bytes : ByteArray) : (d.save s.path bytes).2 = none := by
  obtain ⟨walked, grounded⟩ := Disk.walk_makeDirectories h.rooted
  have around := Disk.entry_makeDirectories d s.root s.place
  obtain ⟨d₁, hd₁⟩ : ∃ d₁, d.makeDirectories s.root = (d₁, none) :=
    ⟨_, Prod.ext rfl h.rooted⟩
  simp only [hd₁] at walked grounded around
  -- Once the root is made, one more name leads from it to the file.
  have located : d₁.locate s.path = .ok s.place := by
    calc d₁.locate s.path
        = d₁.walk (Disk.startOf s.path) s.path.parts := Disk.locate_of_accept d₁ h.accepted
      _ = d₁.walk (Disk.placeOf s.root) [fileName] := by
          rw [walk_path, walked]
          rfl
      _ = .ok s.place := by
          rw [Disk.walk_cons_of_directory [] grounded.directory (by decide), place_eq]
          rfl
  have other : d₁.entry? s.place ≠ some .directory := by
    rcases around with same | ⟨onTrail, -⟩
    · rwa [same]
    · exact absurd onTrail h.apart
  unfold Disk.save
  rw [parent_path, hd₁]
  dsimp only
  rw [Disk.write, located]
  rcases he : d₁.entry? s.place with _ | ⟨bytes, time⟩ | _
  · simp [he, bind, Except.bind, pure, Except.pure]
  · simp [he, bind, Except.bind, pure, Except.pure]
  · exact absurd he other

theorem Ready.save (h : Ready s d) (free : d.entry? s.place ≠ some .directory)
    (bytes : ByteArray) :
    Ready s (d.save s.path bytes).1 ∧
      Disk.entry? (d.save s.path bytes).1 s.place = some (.file bytes d.now) := by
  have status := Disk.status_save (h.save_eq_none free bytes)
  have here : Disk.entry? (d.save s.path bytes).1 s.place = some (.file bytes d.now) :=
    (Disk.entry_of_status status).2
  refine ⟨h.of_noFile ?_ ?_, here⟩
  · intro q hq
    rcases Disk.entry_save d s.path bytes q with same | ⟨-, -, directory⟩ | ⟨there, -⟩
    · intro found time
      rw [same]
      exact h.noFile q hq found time
    · exact Disk.noFile_of_directory directory
    · rw [there] at hq
      exact absurd hq h.apart
  · intro e he
    rw [here, Option.some.injEq] at he
    rw [status, he]

/-- On a ready store a list that is saved is the list that is read next. -/
theorem list_save (h : Ready s d) (stored : s.list d = .ok rules) (new : List Rule) :
    ∃ d', s.save new d = (.ok [s.savedLine new], d') ∧ Ready s d' ∧
      s.list d' = .ok (new.map Rule.unite) := by
  have free := h.not_directory stored
  obtain ⟨ready, here⟩ := h.save free (RuleFile.encode .json new).toUTF8
  refine ⟨_, ?_, ready, ?_⟩
  · rw [Store.save, Step.bind_apply, OnDisk.save_apply, h.save_eq_none free]
    rfl
  · rw [ready.list_eq, here]
    exact RuleFile.parse_encode_unite s.path s.formatOf?_path new

/-- The places of the store and those on the way to the file `p` are apart. -/
structure Apart (s : Store) (p : Path) : Prop where
  /-- The file of the store is not on the way to `p`. -/
  file : s.place ∉ Disk.trailOf p.parent
  /-- What stands at `p` is neither the file of the store nor on the way to it. -/
  target : Disk.placeOf p ∉ Disk.trailOf s.path

theorem list_saveElsewhere (h : Ready s d) (apart : s.Apart p) (bytes : ByteArray) :
    Ready s (d.save p bytes).1 ∧ s.list (d.save p bytes).1 = s.list d := by
  have target := apart.target
  rw [trailOf_path, List.mem_append, not_or, List.mem_singleton] at target
  have same : Disk.entry? (d.save p bytes).1 s.place = d.entry? s.place := by
    rcases Disk.entry_save d p bytes s.place with same | ⟨onTrail, -⟩ | ⟨there, -⟩
    · exact same
    · exact absurd onTrail apart.file
    · exact absurd there.symm target.2
  have ready : Ready s (d.save p bytes).1 := by
    refine h.of_noFile ?_ ?_
    · intro q hq
      rcases Disk.entry_save d p bytes q with same | ⟨-, -, directory⟩ | ⟨there, -⟩
      · intro found time
        rw [same]
        exact h.noFile q hq found time
      · exact Disk.noFile_of_directory directory
      · exact absurd (there ▸ hq) target.1
    · intro e he
      rw [same] at he
      have located := (Disk.entry_of_status (h.found e he)).1
      exact Disk.status_of_locate ((Disk.keeps_save d p bytes).locate located) (same.trans he)
  exact ⟨ready, by rw [ready.list_eq, h.list_eq, same]⟩

end Store

end Reroute
