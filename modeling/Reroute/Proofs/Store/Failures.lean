import Reroute.Proofs.Store.Runs

/-!
# Operations that fail

Every operation on a store looks at the disk first and saves at most one file, last of
all. So one that fails has changed nothing, or it has made the directories around that
file and no more (`Op.run_eq_error`). The file of the store is then the same as before,
with its bytes and its time (`sameFile_of_failed`), unless it was missing and one of
those directories was made in its place: `Spares` says that none is.
-/

namespace Reroute

namespace OnDisk

/-! ## Steps that save one file last -/

variable {α β : Type} {p : Path} {m : OnDisk α}

/-- Where the step fails, it has changed nothing, or it has made the directories around
the file `p`. -/
def FailsAround (p : Path) (m : OnDisk α) : Prop :=
  ∀ d e d', m d = (.error e, d') → d' = d ∨ d' = (d.makeDirectories p.parent).1

theorem failsAround_throw (p : Path) (e : Failure) : FailsAround p (throw e : OnDisk α) := by
  intro d e' d' failed
  obtain ⟨-, same⟩ := Prod.mk.inj failed
  exact .inl same.symm

theorem failsAround_save (p : Path) (text : String) : FailsAround p (save p text) := by
  intro d e d' failed
  rw [save_apply] at failed
  obtain ⟨result, rfl⟩ := Prod.mk.inj failed
  cases refused : (d.save p text.toUTF8).2 with
  | none =>
    rw [refused] at result
    exact absurd result (by simp)
  | some fault => exact .inr (Disk.save_of_refused refused)

theorem FailsAround.look_bind {look' : Disk → Except Failure α} {f : α → OnDisk β}
    (h : ∀ a, FailsAround p (f a)) : FailsAround p (look look' >>= f) := by
  intro d e d' failed
  rw [Step.bind_apply, look_apply] at failed
  cases found : look' d with
  | error fault =>
    rw [found] at failed
    obtain ⟨-, same⟩ := Prod.mk.inj failed
    exact .inl same.symm
  | ok a =>
    rw [found] at failed
    exact h a d e d' failed

theorem FailsAround.bind_pure (h : FailsAround p m) (f : α → β) :
    FailsAround p (m >>= fun a => pure (f a)) := by
  intro d e d' failed
  rw [Step.bind_apply] at failed
  rcases hm : m d with ⟨fault | a, d₁⟩
  · rw [hm] at failed
    obtain ⟨-, rfl⟩ := Prod.mk.inj failed
    exact h d fault d₁ hm
  · rw [hm] at failed
    exact absurd (Prod.mk.inj failed).1 (by simp)

end OnDisk

namespace Store

open OnDisk

variable {s : Store} {d d' : Disk} {p : Path}

theorem failsAround_save (s : Store) (rules : List Rule) : FailsAround s.path (s.save rules) :=
  (OnDisk.failsAround_save s.path _).bind_pure _

theorem failsAround_add (s : Store) (source destination : Points) :
    FailsAround s.path (s.add source destination) := by
  refine .look_bind fun rule => .look_bind fun rules => ?_
  split
  · exact failsAround_throw s.path _
  · exact (failsAround_save s _).bind_pure _

theorem failsAround_remove (s : Store) (position : Int) :
    FailsAround s.path (s.remove position) := by
  refine .look_bind fun rules => ?_
  cases ruleAt? rules position with
  | none => exact failsAround_throw s.path _
  | some rule => exact (failsAround_save s _).bind_pure _

theorem failsAround_clear (s : Store) : FailsAround s.path s.clear := by
  refine .look_bind fun rules => ?_
  exact (failsAround_save s []).bind_pure _

theorem failsAround_importFrom (s : Store) (p : Path) (replace : Bool) :
    FailsAround s.path (s.importFrom p replace) := by
  refine .look_bind fun incoming => ?_
  have merged (rules : List Rule) : FailsAround s.path (do
      let log ← s.save (merge rules incoming).1
      return (⟨(merge rules incoming).2, log⟩ : Logged Imported)) :=
    (failsAround_save s _).bind_pure _
  cases replace with
  | true => exact merged []
  | false => exact .look_bind merged

theorem failsAround_exportTo (s : Store) (p : Path) : FailsAround p (s.exportTo p) := by
  refine .look_bind fun rules => ?_
  cases RuleFile.formatOf? p with
  | none => exact failsAround_throw p _
  | some format => exact (OnDisk.failsAround_save p _).bind_pure _

/-- The file that an operation saves. -/
def Op.saved? (s : Store) : Op → Option Path
  | .list => none
  | .exportTo p => some p
  | _ => some s.path

/-- An operation that fails has changed nothing, or it has made the directories around
the file that it would have saved. -/
theorem Op.run_eq_error {op : Op} {e : Failure} (failed : op.run s d = (.error e, d')) :
    d' = d ∨ ∃ p ∈ op.saved? s, d' = (d.makeDirectories p.parent).1 := by
  have around {α : Type} {m : OnDisk α} {answer : α → Answer} {p : Path} (h : FailsAround p m)
      (target : op.saved? s = some p)
      (failed : (m >>= fun a => pure (answer a)) d = (.error e, d')) :
      d' = d ∨ ∃ p ∈ op.saved? s, d' = (d.makeDirectories p.parent).1 :=
    (h.bind_pure answer d e d' failed).imp_right fun made => ⟨p, target, made⟩
  cases op with
  | list =>
    left
    rw [Op.run, Step.bind_apply, look_apply] at failed
    cases stored : s.list d with
    | error fault =>
      rw [stored] at failed
      exact (Prod.mk.inj failed).2.symm
    | ok rules =>
      rw [stored] at failed
      exact absurd (Prod.mk.inj failed).1 (by simp)
  | add source destination => exact around (failsAround_add s source destination) rfl failed
  | remove position => exact around (failsAround_remove s position) rfl failed
  | clear => exact around (failsAround_clear s) rfl failed
  | importFrom p replace => exact around (failsAround_importFrom s p replace) rfl failed
  | exportTo p => exact around (failsAround_exportTo s p) rfl failed

/-! ## The file of the store -/

/-- The file of the store is the same on two disks, with its bytes and its time. -/
structure SameFile (s : Store) (d d' : Disk) : Prop where
  entry : d'.entry? s.place = d.entry? s.place
  /-- Where the path leads to the file, it still does. -/
  status : (∀ e, d.entry? s.place = some e → d.status s.path = .ok e) →
    (d'.status s.path).toOption = (d.status s.path).toOption

/-- To make the directories around `p` does not make one in the place of the file,
while that is missing. -/
def Spares (s : Store) (d : Disk) (p : Path) : Prop :=
  d.entry? s.place = none → s.place ∉ Disk.trailOf p.parent

theorem SameFile.refl (s : Store) (d : Disk) : s.SameFile d d := ⟨rfl, fun _ => rfl⟩

theorem toOption_status_of_free (free : d.entry? s.place = none) :
    (d.status s.path).toOption = none := by
  cases found : d.status s.path with
  | error fault => rfl
  | ok e =>
    have there : d.entry? s.place = some e := (Disk.entry_of_status found).2
    simp [free] at there

theorem sameFile_of_keeps (keeps : Disk.Keeps d d') (entry : d'.entry? s.place = d.entry? s.place) :
    s.SameFile d d' := by
  refine ⟨entry, fun leads => ?_⟩
  cases here : d.entry? s.place with
  | none => rw [toOption_status_of_free here, toOption_status_of_free (entry.trans here)]
  | some e =>
    have before := leads e here
    have located := keeps.locate (Disk.entry_of_status before).1
    rw [before, Disk.status_of_locate located (entry.trans here)]

theorem sameFile_makeDirectories (spared : s.Spares d p) :
    s.SameFile d (d.makeDirectories p.parent).1 := by
  refine sameFile_of_keeps (Disk.keeps_makeDirectories d p.parent) ?_
  rcases Disk.entry_makeDirectories d p.parent s.place with same | ⟨onTrail, free, -⟩
  · exact same
  · exact absurd onTrail (spared free)

theorem sameFile_save (spared : s.Spares d p) (another : Disk.placeOf p ≠ s.place)
    (bytes : ByteArray) : s.SameFile d (d.save p bytes).1 := by
  refine sameFile_of_keeps (Disk.keeps_save d p bytes) ?_
  rcases Disk.entry_save d p bytes s.place with same | ⟨onTrail, free, -⟩ | ⟨there, -⟩
  · exact same
  · exact absurd onTrail (spared free)
  · exact absurd there.symm another

theorem sameFile_of_failsAround {α : Type} {m : OnDisk α} {e : Failure} (around : FailsAround p m)
    (spared : s.Spares d p) (failed : m d = (.error e, d')) : s.SameFile d d' := by
  rcases around d e d' failed with rfl | rfl
  · exact SameFile.refl s d'
  · exact sameFile_makeDirectories spared

theorem sameFile_write {bytes : ByteArray} (written : d.write p bytes = .ok d')
    (another : Disk.placeOf p ≠ s.place) : s.SameFile d d' := by
  refine sameFile_of_keeps (Disk.keeps_write written) ?_
  obtain ⟨-, -, rfl⟩ := Disk.write_eq_ok written
  exact Disk.entry_put_ne d _ another.symm

theorem sameFile_of_failed {op : Op} {e : Failure} (failed : op.run s d = (.error e, d'))
    (spared : ∀ p ∈ op.saved? s, s.Spares d p) : s.SameFile d d' := by
  rcases Op.run_eq_error failed with rfl | ⟨p, target, rfl⟩
  · exact SameFile.refl s d'
  · exact sameFile_makeDirectories (spared p target)

theorem snd_exportTo (s : Store) (p : Path) (d : Disk) :
    (s.exportTo p d).2 = d ∨ ∃ bytes, (s.exportTo p d).2 = (d.save p bytes).1 := by
  rw [exportTo, Step.bind_apply, look_apply]
  cases s.list d with
  | error fault => exact .inl rfl
  | ok rules =>
    dsimp only
    cases RuleFile.formatOf? p with
    | none => exact .inl rfl
    | some format =>
      right
      refine ⟨(RuleFile.encode format rules).toUTF8, ?_⟩
      dsimp only
      rw [Step.bind_apply, save_apply]
      cases (d.save p (RuleFile.encode format rules).toUTF8).2 <;> rfl

theorem sameFile_exportTo (spared : s.Spares d p) (another : Disk.placeOf p ≠ s.place) :
    s.SameFile d (s.exportTo p d).2 := by
  rcases snd_exportTo s p d with same | ⟨bytes, saved⟩
  · rw [same]
    exact SameFile.refl s d
  · rw [saved]
    exact sameFile_save spared another bytes

end Store

end Reroute
