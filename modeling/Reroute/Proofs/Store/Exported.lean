import Reroute.Proofs.Store.Saved
import Reroute.Proofs.Yaml.Building
import Reroute.Proofs.Yaml.Written

/-!
# Rule lists in YAML files

A rule list that is exported to a file of YAML is read back from it, whatever its texts
hold: how a text is quoted, where its lines are broken and what it would mean without
quotes makes no difference (`load_dumped_yaml`). The text is scanned to the tokens of the
list, these are composed to its nodes, and the nodes are valued as the list. The empty list
is written in brackets, which is a case of its own.
-/

namespace Reroute

namespace Yaml

theorem write_cons (t : String × String) (texts : List (String × String)) :
    (write ((t :: texts).map Rule.ofTexts)).toList = (t :: texts).flatMap writtenRule := by
  rw [List.map_cons, write, String.toList_ofList, ← List.map_cons, List.flatMap_map]
  · rfl
  · simp

theorem isWritten_write (texts : List (String × String)) :
    ∀ c ∈ (write (texts.map Rule.ofTexts)).toList, IsWritten c := by
  cases texts with
  | nil => exact List.forall_iff_forall_mem.mp (by decide)
  | cons t texts =>
    rw [write_cons]
    exact isWritten_of_mem (t :: texts)

theorem scan_brackets :
    scan ['[', ']', '\n'] = ([.flowSequenceStart, .flowSequenceEnd, .streamEnd], none) := by
  cbv

theorem read_write (texts : List (String × String)) :
    read (write (texts.map Rule.ofTexts)).toList =
      .ok (Datum.ofJson (Rule.listToJson (texts.map Rule.ofTexts))) := by
  have value : Datum.ofJson (Rule.listToJson (texts.map Rule.ofTexts)) =
      .list none (texts.map Builder.ruleValue) := by
    rw [Rule.listToJson, Datum.ofJson, Datum.ofItems_eq_map, List.map_map, List.map_map]
    rfl
  rw [value]
  cases texts with
  | nil =>
    have brackets : (write ([].map Rule.ofTexts)).toList = ['[', ']', '\n'] := by decide
    rw [brackets]
    exact read_of_compose (compose_brackets scan_brackets)
  | cons t texts =>
    rw [write_cons]
    exact read_of_compose (compose_of_scan (scan_written (List.cons_ne_nil t texts)))

end Yaml

namespace RuleFile

variable {p : Path}

theorem formatOf?_yaml
    (suffix : String.ofList (p.suffix.chars.map Char.toLower) ∈ [".yaml", ".yml"]) :
    formatOf? p = some .yaml := by
  rw [formatOf?]
  simp only [List.mem_cons, List.not_mem_nil, or_false] at suffix
  rcases suffix with long | short
  · rw [long]
    rfl
  · rw [short]
    rfl

theorem parse_encode_yaml (hp : formatOf? p = some .yaml) (texts : List (String × String)) :
    parse p (encode .yaml (texts.map Rule.ofTexts)).toUTF8 = .ok (texts.map Rule.ofTexts) := by
  have plain : ∀ c ∈ (encode .yaml (texts.map Rule.ofTexts)).toList, IsPlain c :=
    fun c hc => (Yaml.isWritten_write texts c hc).isPlain
  have text : textOf (encode .yaml (texts.map Rule.ofTexts)).toUTF8 =
      .ok (encode .yaml (texts.map Rule.ofTexts)).toList := by
    rw [textOf, Text.decode?_toUTF8]
    exact congrArg _ (Text.unifyLineEnds_of_plain _ plain)
  have decoded : decode p .yaml (encode .yaml (texts.map Rule.ofTexts)).toList =
      .ok (Datum.ofJson (Rule.listToJson (texts.map Rule.ofTexts))) := by
    rw [decode, encode, Yaml.read_write]
  rw [parse, text]
  simp only [hp, decoded, rulesOf, Shape.parse_listToJson, bind, Except.bind, Except.mapError]

/-- Rules with texts of characters are exported to any file of YAML that the disk takes, as
visible ASCII, and from a file that they were exported to the same list is read. -/
theorem load_dumped_yaml (texts : List (String × String)) (p : Path)
    (suffix : String.ofList (p.suffix.chars.map Char.toLower) ∈ [".yaml", ".yml"]) :
    let rules := texts.map Rule.ofTexts
    (∀ d d', dump p rules d = (.ok (), d') → load d' p = .ok rules) ∧
    (∀ d, d.refusal p = none → ∃ d', dump p rules d = (.ok (), d')) ∧
    ∀ c ∈ (encode .yaml rules).toList, c = '\n' ∨ 0x20 ≤ c.toNat ∧ c.toNat ≤ 0x7E := by
  intro rules
  have hp := formatOf?_yaml suffix
  have saves : dump p rules = OnDisk.save p (encode .yaml rules) := by rw [dump, hp]
  refine ⟨?_, ?_, Yaml.isWritten_write texts⟩
  · intro d d' dumped
    rw [saves] at dumped
    have read := read_of_status (OnDisk.save_eq_ok dumped)
    rw [load_of_read read]
    exact parse_encode_yaml hp texts
  · intro d taken
    rw [saves]
    exact OnDisk.save_of_taken taken _

/-- Texts that mean something without quotes, with blanks at their ends, with line breaks
and beyond ASCII, on an empty disk. -/
theorem load_dumped_yaml_quoted :
    let copy : Path := ⟨"", ["out", "copy.YmL"]⟩
    let texts := [("null", "- a: #b"), ("", " \t\n\n x "), ("é😀\u2028", "0o7"), ("<<", "=")]
    let rules := texts.map Rule.ofTexts
    String.ofList (copy.suffix.chars.map Char.toLower) ∈ [".yaml", ".yml"] ∧
      Disk.empty.refusal copy = none ∧
      ∃ d', dump copy rules Disk.empty = (.ok (), d') ∧ load d' copy = .ok rules := by
  intro copy texts rules
  have suffix : String.ofList (copy.suffix.chars.map Char.toLower) ∈ [".yaml", ".yml"] := by decide
  have taken : Disk.empty.refusal copy = none := by decide +kernel
  obtain ⟨load, dumps, -⟩ := load_dumped_yaml texts copy suffix
  obtain ⟨d', dumped⟩ := dumps Disk.empty taken
  exact ⟨suffix, taken, d', dumped, load Disk.empty d' dumped⟩

end RuleFile

end Reroute
