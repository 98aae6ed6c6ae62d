import Reroute.Proofs.Serve.Freshness

/-!
# Two looks at one path

A service looks at the stamp of the file and then reads the list, and each look takes some
failures of the disk for a missing file. The list takes more of them so than the stamp:
where a file stands in the place of a directory on the way, and where the path is none at
all (`Obstructed`). A service that holds nothing answers there with that failure, although
the list is empty. Everywhere else it answers just as the list is read, whatever the file
holds, and fails as reading the list does (`evaluate_fresh_agrees`).

A root that is a directory or missing is never obstructed. One that is a file always is,
unless the path of `rules.json` is too long, which fails both looks.
-/

namespace Reroute

namespace Disk

variable {d : Disk} {p : Path}

theorem status_error_cases {fault : DiskFault} (h : d.status p = .error fault) :
    fault = .notFound ∨ fault = .notDirectory ∨ fault = .notPath ∨ fault = .nameTooLong := by
  rcases status_eq_error h with refused | ⟨-, walked | ⟨-, -, missing⟩⟩
  · rcases accept_eq_error refused with ⟨spelling, -⟩ | long
    · exact .inr (.inr (.inl spelling))
    · exact .inr (.inr (.inr long))
  · rcases walk_eq_error walked with missing | file | ⟨long, -⟩
    · exact .inl missing
    · exact .inr (.inl file)
    · exact .inr (.inr (.inr long))
  · exact .inl missing

theorem status_child_of_file {name : Points} {bytes : ByteArray} {time : Int}
    (file : d.status p = .ok (.file bytes time)) (accepted : accept (p.child name) = .ok ()) :
    d.status (p.child name) = .error .notDirectory := by
  obtain ⟨located, here⟩ := entry_of_status file
  obtain ⟨-, -, arrived⟩ := locate_eq_placeOf located
  have blocked : d.locate (p.child name) = .error .notDirectory := by
    calc d.locate (p.child name)
        = d.walk (startOf p) (p.parts ++ [name]) := locate_of_accept d accepted
      _ = d.walk (placeOf p) [name] := by
          rw [walk_append, arrived]
          rfl
      _ = .error .notDirectory := by rw [walk, here]
  rw [status, blocked]
  rfl

end Disk

namespace Store

variable {s : Store} {d : Disk}

/-- The path of the file leads through a file, or is no path. -/
def Obstructed (s : Store) (d : Disk) : Prop :=
  d.status s.path = .error .notDirectory ∨ d.status s.path = .error .notPath

/-- Where the path is obstructed there is a list, and no stamp. -/
theorem Obstructed.looks (h : s.Obstructed d) :
    s.list d = .ok [] ∧ ∃ fault, s.stamp d = .error (.disk fault) := by
  rcases h with file | spelling
  · exact ⟨by simp [list, Disk.present, file], .notDirectory, by simp [stamp, file]⟩
  · exact ⟨by simp [list, Disk.present, spelling], .notPath, by simp [stamp, spelling]⟩

/-- Elsewhere there is a stamp, or both looks fail alike. -/
theorem looks_of_not_obstructed (h : ¬s.Obstructed d) :
    (∃ stamp, s.stamp d = .ok stamp) ∨ ∃ e, s.stamp d = .error e ∧ s.list d = .error e := by
  cases status : d.status s.path with
  | ok e =>
    left
    cases e with
    | file bytes time => exact ⟨_, by rw [stamp, status]⟩
    | directory => exact ⟨_, by rw [stamp, status]⟩
  | error fault =>
    rcases Disk.status_error_cases status with rfl | rfl | rfl | rfl
    · exact .inl ⟨none, by rw [stamp, status]⟩
    · exact absurd (.inl status) h
    · exact absurd (.inr status) h
    · exact .inr ⟨.disk .nameTooLong, by simp [stamp, status], by simp [list, Disk.present, status]⟩

theorem not_obstructed_of_rooted
    (rooted : d.status s.root = .ok .directory ∨ d.status s.root = .error .notFound) :
    ¬s.Obstructed d := by
  intro obstructed
  rcases obstructed with file | spelling
  · rcases status_path_eq_error rooted file with other | other <;> simp at other
  · rcases status_path_eq_error rooted spelling with other | other <;> simp at other

theorem obstructed_of_file {bytes : ByteArray} {time : Int}
    (file : d.status s.root = .ok (.file bytes time)) (accepted : Disk.accept s.path = .ok ()) :
    s.Obstructed d :=
  .inl (Disk.status_child_of_file file accepted)

end Store

namespace Service

variable {s : Store} {d : Disk}

/-- A service that holds nothing looks at the stamp, and then it reads the list. -/
theorem evaluate_fresh_eq (s : Store) (d : Disk) (url : Points) :
    ((evaluate d url).serve (fresh s)).1 = (s.stamp d).bind fun _ =>
      (s.list d).map fun rules => (RuleSet.ofRules rules).redirect? url := by
  have refreshed := refresh_fresh_eq s d
  rw [OnService.serve_eq] at refreshed ⊢
  rw [evaluate_eq, refreshed]
  cases s.stamp d with
  | error e => rfl
  | ok stamp => cases s.list d <;> rfl

/-- Where the path of the file is not obstructed, a service that holds nothing answers every
URL just as the list is read: by the rules in it, or with the failure to read it; and an
empty list has a stamp. Where the path is obstructed the list is empty, and the service
fails. That is never so with a root that is a directory or missing, and always with one that
is a file, where the path is one that a disk can look for. -/
theorem evaluate_fresh_agrees (s : Store) (d : Disk) :
    (¬s.Obstructed d →
      (∀ url, ((evaluate d url).serve (fresh s)).1 =
        (s.list d).map fun rules => (RuleSet.ofRules rules).redirect? url) ∧
      (s.list d = .ok [] → ∃ stamp, s.stamp d = .ok stamp)) ∧
    (s.Obstructed d → s.list d = .ok [] ∧ ∃ fault, s.stamp d = .error (.disk fault) ∧
      ∀ url, ((evaluate d url).serve (fresh s)).1 = .error (.disk fault)) ∧
    (d.status s.root = .ok .directory ∨ d.status s.root = .error .notFound → ¬s.Obstructed d) ∧
    ∀ bytes time, d.status s.root = .ok (.file bytes time) → Disk.accept s.path = .ok () →
      s.Obstructed d := by
  refine ⟨?_, ?_, Store.not_obstructed_of_rooted, ?_⟩
  · intro free
    rcases Store.looks_of_not_obstructed free with ⟨stamp, stamped⟩ | ⟨e, stamped, fails⟩
    · constructor
      · intro url
        rw [evaluate_fresh_eq, stamped]
        rfl
      · intro _
        exact ⟨stamp, stamped⟩
    · constructor
      · intro url
        rw [evaluate_fresh_eq, stamped, fails]
        rfl
      · intro empty
        rw [fails] at empty
        simp at empty
  · intro obstructed
    obtain ⟨empty, fault, stamped⟩ := obstructed.looks
    refine ⟨empty, fault, stamped, ?_⟩
    intro url
    rw [evaluate_fresh_eq, stamped]
    rfl
  · intro bytes time file accepted
    exact Store.obstructed_of_file file accepted

/-- A root that is missing, and one that is a file, as the service finds them. -/
theorem evaluate_fresh_agrees_bothRoots :
    let s : Store := ⟨⟨"", ["store"]⟩⟩
    let d : Disk := ⟨[(["store"], .file ByteArray.empty 0)], 0⟩
    let url : Points := "https://a.example/"
    (Disk.empty.status s.root = .error .notFound ∧ ¬s.Obstructed Disk.empty ∧
      ((evaluate Disk.empty url).serve (fresh s)).1 =
        (s.list Disk.empty).map fun rules => (RuleSet.ofRules rules).redirect? url) ∧
    d.status s.root = .ok (.file ByteArray.empty 0) ∧ Disk.accept s.path = .ok () ∧
      s.Obstructed d ∧ s.list d = .ok [] := by
  intro s d url
  have missing : Disk.empty.status s.root = .error .notFound := by cbv
  have file : d.status s.root = .ok (.file ByteArray.empty 0) := by cbv
  have accepted : Disk.accept s.path = .ok () := by cbv
  obtain ⟨agrees, -, rooted, -⟩ := evaluate_fresh_agrees s Disk.empty
  obtain ⟨-, empty, -, beneath⟩ := evaluate_fresh_agrees s d
  have free := rooted (.inr missing)
  have obstructed := beneath _ _ file accepted
  exact ⟨⟨missing, free, (agrees free).1 url⟩, file, accepted, obstructed, (empty obstructed).1⟩

/-- A service can fail where the list is read, and is empty: with a root that is a file. -/
theorem evaluate_fresh_beneathFile :
    let s : Store := ⟨⟨"", ["store"]⟩⟩
    let d : Disk := ⟨[(["store"], .file ByteArray.empty 0)], 0⟩
    d.status s.root = .ok (.file ByteArray.empty 0) ∧ s.list d = .ok [] ∧
      s.stamp d = .error (.disk .notDirectory) ∧
      ((evaluate d "https://a.example/").serve (fresh s)).1 =
        .error (.disk .notDirectory) := by
  refine ⟨?_, ?_, ?_, ?_⟩ <;> cbv

end Service

end Reroute
