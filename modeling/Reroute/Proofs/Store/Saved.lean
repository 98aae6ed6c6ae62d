import Reroute.Proofs.Store.Ready

/-!
# Rule lists in files

A rule list is written in two places: into the file of a store, and into any file that
it is exported to. Where that is JSON the text is the same (`save_eq_dump`), it is
ASCII, and it is read back as the list that it was written from
(`load_saved_or_dumped`). So no two lists have one text (`encode_injective`).
-/

namespace Reroute

namespace OnDisk

/-! ## How a step ends -/

variable {α : Type} {d d' : Disk}

theorem look_eq_ok {look' : Disk → Except Failure α} {a : α} (h : look look' d = (.ok a, d')) :
    look' d = .ok a ∧ d' = d := by
  obtain ⟨found, same⟩ := Prod.mk.inj h
  exact ⟨found, same.symm⟩

theorem save_eq_ok {p : Path} {text : String} (h : save p text d = (.ok (), d')) :
    d'.status p = .ok (.file text.toUTF8 d.now) := by
  rw [save_apply] at h
  obtain ⟨result, rfl⟩ := Prod.mk.inj h
  cases refused : (d.save p text.toUTF8).2 with
  | some fault =>
    rw [refused] at result
    exact absurd result (by simp)
  | none => exact Disk.status_save refused

theorem save_of_taken {p : Path} (taken : d.refusal p = none) (text : String) :
    ∃ d', save p text d = (.ok (), d') := by
  rw [save_apply, Disk.snd_save, taken]
  exact ⟨_, rfl⟩

end OnDisk

namespace Rule

/-- The rule with two texts of characters. -/
def ofTexts (texts : String × String) : Rule := ⟨texts.1, texts.2⟩

theorem joined_ofTexts (texts : String × String) : (ofTexts texts).Joined :=
  ⟨Points.joined_ofList _, Points.joined_ofList _⟩

theorem ofTexts_injective : Function.Injective ofTexts := by
  intro t u same
  obtain ⟨source, destination⟩ := Rule.mk.inj same
  exact Prod.ext (Points.ofString_injective source) (Points.ofString_injective destination)

theorem joined_map_ofTexts (texts : List (String × String)) :
    ∀ r ∈ texts.map ofTexts, r.Joined := by
  intro r hr
  obtain ⟨t, -, rfl⟩ := List.mem_map.mp hr
  exact joined_ofTexts t

end Rule

namespace RuleFile

variable {d : Disk} {p : Path} {rules : List Rule}

/-- Writes a rule list into a file, in the format that its suffix asks for. -/
def dump (p : Path) (rules : List Rule) : OnDisk Unit :=
  match formatOf? p with
  | none => throw (.unsupported p)
  | some format => OnDisk.save p (encode format rules)

theorem exportTo_eq_dump (s : Store) (p : Path) :
    s.exportTo p = (do
      let rules ← OnDisk.look s.list
      dump p rules
      return rules.length) := by
  funext d
  unfold Store.exportTo dump
  cases formatOf? p <;> simp

theorem dump_json (hp : formatOf? p = some .json) (rules : List Rule) :
    dump p rules = OnDisk.save p (encode .json rules) := by
  rw [dump, hp]

theorem save_eq_dump (s : Store) (rules : List Rule) :
    s.save rules = (do
      dump s.path rules
      return [s.savedLine rules]) := by
  rw [dump_json s.formatOf?_path, Store.save]

/-! ## Texts -/

theorem plain_encode (joined : ∀ r ∈ rules, r.Joined) :
    ∀ c ∈ (encode .json rules).toList, IsPlain c :=
  Json.plain_fileText _ (exact_listToJson rules joined)

theorem encode_injective {rules' : List Rule} (joined : ∀ r ∈ rules, r.Joined)
    (joined' : ∀ r ∈ rules', r.Joined) (same : encode .json rules = encode .json rules') :
    rules = rules' := by
  have hp : formatOf? ⟨"", ["a.json"]⟩ = some .json := by decide
  have read := parse_encode _ hp rules joined
  rw [same, parse_encode _ hp rules' joined'] at read
  exact (Except.ok.inj read).symm

/-! ## Files -/

theorem read_of_status {bytes : ByteArray} {time : Int}
    (h : d.status p = .ok (.file bytes time)) : d.read p = .ok bytes := by
  simp [Disk.read, h, bind, Except.bind, pure, Except.pure]

theorem load_of_read {bytes : ByteArray} (h : d.read p = .ok bytes) : load d p = parse p bytes := by
  simp [load, h, Failure.ofDisk, Except.mapError, bind, Except.bind]

theorem list_of_status {s : Store} {bytes : ByteArray} {time : Int}
    (h : d.status s.path = .ok (.file bytes time)) : s.list d = parse s.path bytes := by
  rw [← load_of_read (read_of_status h)]
  simp [Store.list, Disk.present, h]

theorem status_dump (hp : formatOf? p = some .json) (taken : d.refusal p = none)
    (rules : List Rule) :
    ∃ d', dump p rules d = (.ok (), d') ∧
      d'.status p = .ok (.file (encode .json rules).toUTF8 d.now) := by
  obtain ⟨d', saved⟩ := OnDisk.save_of_taken taken (encode .json rules)
  exact ⟨_, by rw [dump_json hp, saved], OnDisk.save_eq_ok saved⟩

/-- Rules with texts of characters are written as ASCII, with one text for a store and
for an exported file of JSON; the disk that takes the file then holds that text, and
the list is read back from it. No other list has that text. -/
theorem load_saved_or_dumped (texts : List (String × String)) :
    let rules := texts.map Rule.ofTexts
    let text := encode .json rules
    (∀ c ∈ text.toList, c.toNat < 0x80) ∧
    (∀ (s : Store) (d : Disk), d.refusal s.path = none →
      ∃ d', s.save rules d = (.ok [s.savedLine rules], d') ∧ d'.read s.path = .ok text.toUTF8 ∧
        load d' s.path = .ok rules ∧ s.list d' = .ok rules) ∧
    (∀ (p : Path) (d : Disk), formatOf? p = some .json → d.refusal p = none →
      ∃ d', dump p rules d = (.ok (), d') ∧ d'.read p = .ok text.toUTF8 ∧
        load d' p = .ok rules) ∧
    ∀ texts', encode .json (texts'.map Rule.ofTexts) = text → texts' = texts := by
  intro rules text
  have joined : ∀ r ∈ rules, r.Joined := Rule.joined_map_ofTexts texts
  have back (p : Path) (hp : formatOf? p = some .json) : parse p text.toUTF8 = .ok rules :=
    parse_encode p hp rules joined
  refine ⟨fun c hc => (plain_encode joined c hc).1, ?_, ?_, ?_⟩
  · intro s d taken
    obtain ⟨d', dumped, status⟩ := status_dump s.formatOf?_path taken rules
    have read := read_of_status status
    refine ⟨d', ?_, read, ?_, ?_⟩
    · rw [save_eq_dump, Step.bind_apply, dumped]
      rfl
    · rw [load_of_read read, back _ s.formatOf?_path]
    · rw [list_of_status status, back _ s.formatOf?_path]
  · intro p d hp taken
    obtain ⟨d', dumped, status⟩ := status_dump hp taken rules
    have read := read_of_status status
    exact ⟨d', dumped, read, by rw [load_of_read read, back p hp]⟩
  · intro texts' same
    have lists := encode_injective (Rule.joined_map_ofTexts texts') joined same
    exact List.map_injective_iff.mpr Rule.ofTexts_injective lists

/-- Texts with all that has an escape, on an empty disk. -/
theorem load_saved_or_dumped_escapes :
    let s : Store := ⟨⟨"", ["store"]⟩⟩
    let copy : Path := ⟨"", ["out", "copy.JSON"]⟩
    let texts := [("", "\"\\/\x08\x0c\r\n\t\x7f"), ("\u2028é😀", "")]
    let rules := texts.map Rule.ofTexts
    Disk.empty.refusal s.path = none ∧ formatOf? copy = some .json ∧
      Disk.empty.refusal copy = none ∧
      (∃ d', s.save rules Disk.empty = (.ok [s.savedLine rules], d') ∧ s.list d' = .ok rules) ∧
      ∃ d', dump copy rules Disk.empty = (.ok (), d') ∧ load d' copy = .ok rules := by
  intro s copy texts rules
  have taken : Disk.empty.refusal s.path = none := by decide +kernel
  have json : formatOf? copy = some .json := by decide
  have taken' : Disk.empty.refusal copy = none := by decide +kernel
  obtain ⟨-, saved, dumped, -⟩ := load_saved_or_dumped texts
  obtain ⟨d₁, save, -, -, list⟩ := saved s Disk.empty taken
  obtain ⟨d₂, dump, -, load⟩ := dumped copy Disk.empty json taken'
  exact ⟨taken, json, taken', ⟨d₁, save, list⟩, d₂, dump, load⟩

end RuleFile

namespace Store

variable {s : Store} {d : Disk}

/-! ## A file that is there -/

/-- Where something is found at the path of the file, the root is there. -/
theorem makeDirectories_of_status {e : Entry} (h : d.status s.path = .ok e) :
    Disk.accept s.root = .ok () ∧ d.makeDirectories s.root = (d, none) := by
  obtain ⟨accepted, -, walked⟩ := Disk.locate_eq_placeOf (Disk.entry_of_status h).1
  have accepted' : Disk.accept s.root = .ok () := Disk.accept_of_child (by decide) accepted
  rw [walk_path] at walked
  cases arrived : d.walk (Disk.startOf s.root) s.root.parts with
  | error fault => simp [arrived, Except.bind] at walked
  | ok q =>
    rw [arrived] at walked
    have directory : d.entry? q = some .directory := (Disk.walk_cons_eq_ok walked).1
    refine ⟨accepted', ?_⟩
    rw [Disk.makeDirectories_of_accept d accepted', Disk.makeAlong_of_walk arrived directory]

theorem refusal_of_status {bytes : ByteArray} {time : Int}
    (h : d.status s.path = .ok (.file bytes time)) : d.refusal s.path = none := by
  obtain ⟨located, here⟩ := Disk.entry_of_status h
  rw [Disk.refusal, Disk.save, parent_path, (makeDirectories_of_status h).2]
  simp [Disk.write, located, here, bind, Except.bind, pure, Except.pure]

/-- A file that is found once the root was made can be saved right away. -/
theorem refusal_of_status_made {bytes : ByteArray} {time : Int}
    (h : (d.makeDirectories s.root).1.status s.path = .ok (.file bytes time)) :
    d.refusal s.path = none := by
  obtain ⟨accepted, made⟩ := makeDirectories_of_status h
  have rooted : ((d.makeDirectories s.root).1.makeDirectories s.root).2 = none := by rw [made]
  have rooted' : (d.makeDirectories s.root).2 = none := by
    rw [rooted_iff accepted] at rooted ⊢
    refine ⟨?_, rooted.2⟩
    intro q hq bytes time file
    rcases Disk.entry_makeDirectories d s.root q with same | ⟨-, free, -⟩
    · exact rooted.1 q hq bytes time (same.trans file)
    · simp [file] at free
  have whole : d.makeDirectories s.root = ((d.makeDirectories s.root).1, none) :=
    Prod.ext rfl rooted'
  have taken := refusal_of_status h
  rw [Disk.refusal, Disk.save, parent_path] at taken ⊢
  rw [made] at taken
  rw [whole]
  exact taken

theorem status_of_list {rules : List Rule} (h : s.list d = .ok rules) (filled : rules ≠ []) :
    ∃ bytes time, d.status s.path = .ok (.file bytes time) := by
  unfold list Disk.present at h
  cases status : d.status s.path with
  | ok e =>
    cases e with
    | file bytes time => exact ⟨bytes, time, rfl⟩
    | directory =>
      simp [status, RuleFile.load, Disk.read, Failure.ofDisk, Except.mapError, bind, Except.bind] at h
  | error fault =>
    rw [status] at h
    cases fault with
    | nameTooLong => simp at h
    | _ => exact absurd (Except.ok.inj h).symm filled

end Store

end Reroute
