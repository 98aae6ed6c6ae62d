import Reroute.Proofs.Command.Numbering
import Reroute.Proofs.Command.Route
import Reroute.Proofs.Text.Lines
import Reroute.Proofs.Text.Utf8

/-!
# Rewriting and matching

The URLs on the lines of one or several streams are rewritten as a table of the same URLs
shows them, whatever stands around them on their lines (`rewrites_as_matched`). The loop
over the lines is followed with a service that has a rule set at hand (`Answering`) and
with an outcome that only gets longer (`Printed`). What is printed and shown is the text
without the characters that a terminal obeys; `not_verbatim` says what that costs.
-/

namespace Reroute

namespace Service

variable {s : Service} {d : Disk} {ruleSet : RuleSet}

/-- A service answers from a rule set, as long as the disk stays as it is. -/
def Answering (s : Service) (d : Disk) (ruleSet : RuleSet) : Prop :=
  ∃ snapshot after, (refresh d).serve s = (.ok snapshot, after) ∧ snapshot.ruleSet = ruleSet

theorem answering_fresh {store : Store} {rules : List Rule} (loads : store.Loads d rules) :
    (fresh store).Answering d (RuleSet.ofRules rules) :=
  refresh_fresh loads

theorem evaluate_of_answering (h : s.Answering d ruleSet) (url : Points) :
    ∃ after, (evaluate d url).serve s = (.ok (ruleSet.redirect? url), after) ∧
      after.service.Answering d ruleSet := by
  obtain ⟨snapshot, after, refreshed, rfl⟩ := h
  have again := refresh_again refreshed
  rw [OnService.serve_eq] at refreshed ⊢
  rw [evaluate_apply, refreshed]
  exact ⟨_, rfl, snapshot, _, again, rfl⟩

end Service

namespace Points

theorem isWhole_ofString (text : String) : (text : Points).isWhole = true :=
  List.all_eq_true.mpr fun c hc => by
    obtain ⟨_, -, rfl⟩ := List.mem_map.mp hc
    rfl

theorem isWhole_append (p q : Points) : (p ++ q).isWhole = (p.isWhole && q.isWhole) :=
  List.all_append

end Points

namespace Command

/-! ## Printing -/

theorem withoutSequences_sublist (skipped : Nat) (s : List Code) :
    (withoutSequences skipped s).Sublist s := by
  induction s generalizing skipped with
  | nil => cases skipped <;> exact List.Sublist.refl []
  | cons c s ih =>
    rw [withoutSequences.eq_def]
    cases skipped with
    | succ skipped => exact (ih skipped).cons c
    | zero =>
      dsimp only
      repeat' split
      all_goals first
        | exact (ih _).cons c
        | exact (ih _).cons_cons c

/-- What is printed of a text that is made of characters can be written. -/
theorem string?_printedLine {text : Points} (whole : text.isWhole = true) :
    (printedLine text).string? = some (printedLine text).toString := by
  have printed : (printedLine text).isWhole = true := by
    rw [Points.isWhole, List.all_eq_true] at whole ⊢
    intro c hc
    rcases List.mem_append.mp hc with kept | feed
    · exact whole c ((withoutSequences_sublist 0 text.toList).subset kept)
    · obtain rfl := List.mem_singleton.mp feed
      rfl
  rw [Points.string?, if_pos printed]

/-- An outcome goes on with a printed text. Log lines may have been added. -/
structure Printed (o o' : Outcome) (text : String) : Prop where
  disk : o'.disk = o.disk
  out : o'.out = o.out ++ text
  panels : o'.panels = o.panels
  ending : o'.ending = o.ending

namespace Printed

variable {o o' o'' : Outcome} {text text' : String}

theorem refl (o : Outcome) : Printed o o "" := ⟨rfl, by simp, rfl, rfl⟩

theorem trans (h : Printed o o' text) (h' : Printed o' o'' text') :
    Printed o o'' (text ++ text') where
  disk := h'.disk.trans h.disk
  out := by rw [h'.out, h.out, String.append_assoc]
  panels := h'.panels.trans h.panels
  ending := h'.ending.trans h.ending

theorem logged (o : Outcome) (verbosity : Nat) (log : List LogLine) :
    Printed o (o.logged verbosity log) "" :=
  ⟨rfl, by simp [Outcome.logged], rfl, rfl⟩

theorem print (o : Outcome) {line : Points} (whole : line.isWhole = true) :
    ∃ o', o.print line = .ok o' ∧ Printed o o' (printedLine line).toString := by
  rw [Outcome.print, string?_printedLine whole]
  exact ⟨_, rfl, rfl, rfl, rfl, rfl⟩

end Printed

def printedLines (lines : List Points) : String :=
  String.join (lines.map fun line => (printedLine line).toString)

theorem printedLines_append (xs ys : List Points) :
    printedLines (xs ++ ys) = printedLines xs ++ printedLines ys := by
  rw [printedLines, List.map_append, String.join_append]
  rfl

namespace Call

def sentBy (ruleSet : RuleSet) (url : Points) : Option Points :=
  (ruleSet.redirect? url).map (·.destination)

/-- What becomes of URLs: where they are sent, and of the others the URLs themselves
unless those are left out. -/
def rewritten (ruleSet : RuleSet) (onlyMatched : Bool) (urls : List Points) : List Points :=
  if onlyMatched then urls.filterMap (sentBy ruleSet)
  else urls.map fun url => (sentBy ruleSet url).getD url

theorem rewritten_append (ruleSet : RuleSet) (onlyMatched : Bool) (xs ys : List Points) :
    rewritten ruleSet onlyMatched (xs ++ ys) =
      rewritten ruleSet onlyMatched xs ++ rewritten ruleSet onlyMatched ys := by
  unfold rewritten
  split
  · exact List.filterMap_append
  · exact List.map_append

/-- A URL is made of characters, and so is the text of its destination. -/
def Writable (ruleSet : RuleSet) (url : Points) : Prop :=
  url.isWhole = true ∧ ∀ sent, sentBy ruleSet url = some sent → sent.isWhole = true

/-- Where no destination of the rules has half of a pair, none is written. -/
theorem writable_of_destinations {rules : List Rule} {url : Points}
    (destinations : ∀ r ∈ rules, r.destination.isWhole = true) (whole : url.isWhole = true) :
    Writable (RuleSet.ofRules rules) url := by
  refine ⟨whole, fun sent answered => ?_⟩
  obtain ⟨answer, found, rfl⟩ := Option.map_eq_some_iff.mp answered
  obtain ⟨i, -, ⟨m, there, sends⟩, -⟩ := (Matcher.firstFrom_eq_some_iff url 0 _ answer).mp found
  have there : (rules.map Matcher.ofRule)[i]? = some m := there
  rw [List.getElem?_map] at there
  obtain ⟨r, hr, rfl⟩ := Option.map_eq_some_iff.mp there
  have destination := destinations r (List.mem_of_getElem? hr)
  have ways : r.kind.Sends r.source r.destination url answer.destination :=
    (RuleSet.sends_ofRule r url _).mp sends
  revert ways
  cases r.kind with
  | whole => exact fun ways => ways.2 ▸ destination
  | wildcard => exact fun ways => ways.2 ▸ destination
  | leading =>
    rintro ⟨rest, rfl, sent⟩
    rw [sent, Points.isWhole_append, destination]
    rw [Points.isWhole_append, Bool.and_eq_true] at whole
    exact whole.2

/-! ## Lines and streams -/

variable {ruleSet : RuleSet} {onlyMatched : Bool}

/-- The texts on lines, as code points. -/
def urlsOf (lines : List (List Char)) : List Points := (Text.entriesOf lines).map Points.ofString

theorem urlsOf_cons (line : List Char) (lines : List (List Char)) :
    urlsOf (line :: lines) = urlsOf [line] ++ urlsOf lines := by
  rw [urlsOf, Text.entriesOf_cons, List.map_append]
  rfl

/-- One URL is rewritten as what becomes of it. -/
theorem rewriteUrl_of_answering (c : Call) {s : Service} {o : Outcome}
    (h : s.Answering o.disk ruleSet) {url : Points} (writable : Writable ruleSet url) :
    ∃ s' o', c.rewriteUrl onlyMatched s o url = .ok (s', o') ∧ s'.Answering o'.disk ruleSet ∧
      Printed o o' (printedLines (rewritten ruleSet onlyMatched [url])) := by
  obtain ⟨after, evaluated, answering⟩ := Service.evaluate_of_answering h url
  have logged := Printed.logged o c.verbosity after.log
  -- A text that can be written is printed behind the log lines.
  have line {text : Points} (whole : text.isWhole = true) :
      ∃ o', (o.logged c.verbosity after.log).print text = .ok o' ∧
        Printed o o' (printedLines [text]) := by
    obtain ⟨o', print, printed⟩ := Printed.print (o.logged c.verbosity after.log) whole
    exact ⟨o', print, by simpa [printedLines] using logged.trans printed⟩
  unfold rewriteUrl
  rw [evaluated]
  dsimp only
  cases sent : ruleSet.redirect? url with
  | some redirect =>
    have here : rewritten ruleSet onlyMatched [url] = [redirect.destination] := by
      cases onlyMatched <;> simp [rewritten, sentBy, sent]
    obtain ⟨o', print, printed⟩ := line (writable.2 redirect.destination (by simp [sentBy, sent]))
    rw [← printed.disk] at answering
    dsimp only
    rw [here, print]
    exact ⟨after.service, o', rfl, answering, printed⟩
  | none =>
    cases onlyMatched with
    | true =>
      have here : rewritten ruleSet true [url] = [] := by simp [rewritten, sentBy, sent]
      rw [here]
      exact ⟨after.service, _, rfl, answering, logged⟩
    | false =>
      have here : rewritten ruleSet false [url] = [url] := by simp [rewritten, sentBy, sent]
      obtain ⟨o', print, printed⟩ := line writable.1
      rw [← printed.disk] at answering
      dsimp only
      rw [here, if_neg Bool.false_ne_true, print]
      exact ⟨after.service, o', rfl, answering, printed⟩

theorem rewriteLines_of_answering (c : Call) {s : Service} {o : Outcome}
    (h : s.Answering o.disk ruleSet) (lines : List (List Char))
    (writable : ∀ url ∈ urlsOf lines, Writable ruleSet url) :
    ∃ s' o', c.rewriteLines onlyMatched s o lines = .ok (s', o') ∧
      s'.Answering o'.disk ruleSet ∧
      Printed o o' (printedLines (rewritten ruleSet onlyMatched (urlsOf lines))) := by
  induction lines generalizing s o with
  | nil =>
    refine ⟨s, o, rfl, h, ?_⟩
    have nothing : printedLines (rewritten ruleSet onlyMatched (urlsOf [])) = "" := by
      cases onlyMatched <;> rfl
    rw [nothing]
    exact .refl o
  | cons line lines ih =>
    rw [urlsOf_cons, List.forall_mem_append] at writable
    rw [rewriteLines, urlsOf_cons, rewritten_append, printedLines_append]
    have stripped : Points.ofList (Text.trim Text.isBlank line) =
        (String.ofList (Text.trim Text.isBlank line) : Points) := by
      rw [Points.ofString, String.toList_ofList]
    rw [stripped]
    generalize entry : String.ofList (Text.trim Text.isBlank line) = url
    dsimp only
    cases empty : (url : Points).isEmpty with
    | true =>
      -- A blank line is passed over.
      have none : urlsOf [line] = [] := by
        have blank : url = "" := Points.ofString_injective (Points.isEmpty_iff.mp empty)
        simp [urlsOf, Text.entriesOf, entry, blank]
      have nothing : printedLines (rewritten ruleSet onlyMatched (urlsOf [line])) = "" := by
        rw [none]
        cases onlyMatched <;> rfl
      obtain ⟨s', o', rest, answering, printed⟩ := ih h writable.2
      rw [nothing]
      exact ⟨s', o', rest, answering, (Printed.refl o).trans printed⟩
    | false =>
      have one : urlsOf [line] = [(url : Points)] := by
        have some : url.isEmpty = false := by
          rw [← Bool.not_eq_true, String.isEmpty_iff]
          rintro rfl
          exact absurd empty (by decide)
        simp [urlsOf, Text.entriesOf, entry, some]
      obtain ⟨s₁, o₁, first, answering, printed⟩ :=
        c.rewriteUrl_of_answering h (writable.1 url (by simp [one]))
      obtain ⟨s', o', rest, answering', printed'⟩ := ih answering writable.2
      rw [one]
      refine ⟨s', o', ?_, answering', printed.trans printed'⟩
      rw [if_neg Bool.false_ne_true, first]
      exact rest

theorem rewriteStreams_of_answering (c : Call) {s : Service} {o : Outcome}
    (h : s.Answering o.disk ruleSet) {parts : List (List String)} {streams : List Text.Streamed}
    (held : List.Forall₂ (fun part stream => Text.entriesOf stream.lines = part ∧
      stream.broken = false) parts streams)
    (writable : ∀ url ∈ parts.flatten, Writable ruleSet url) :
    Printed o (c.rewriteStreams onlyMatched s o streams)
      (printedLines (rewritten ruleSet onlyMatched (parts.flatten.map Points.ofString))) := by
  induction held generalizing s o with
  | nil =>
    have nothing :
        printedLines (rewritten ruleSet onlyMatched ([].flatten.map Points.ofString)) = "" := by
      cases onlyMatched <;> rfl
    rw [nothing]
    exact .refl o
  | @cons part stream parts streams here _ ih =>
    obtain ⟨lines, sound⟩ := here
    rw [List.flatten_cons, List.forall_mem_append] at writable
    have first : ∀ url ∈ urlsOf stream.lines, Writable ruleSet url := by
      rw [urlsOf, lines]
      exact List.forall_mem_map.mpr writable.1
    obtain ⟨s', o', read, answering, printed⟩ :
        ∃ s' o', c.rewriteLines onlyMatched s o stream.lines = .ok (s', o') ∧ _ ∧ _ :=
      c.rewriteLines_of_answering h stream.lines first
    rw [urlsOf, lines] at printed
    rw [rewriteStreams, read, List.flatten_cons, List.map_append, rewritten_append,
      printedLines_append]
    dsimp only
    rw [sound]
    exact printed.trans (ih answering writable.2)

end Call

/-! ## What is printed of a text -/

theorem printedLine_eq {s : Points} (still : ∀ c ∈ s.toList, c.toNat ≠ 0x1B) :
    printedLine s = s ++ ("\n" : Points) := by
  have kept : ∀ l : List Code, (∀ c ∈ l, c.toNat ≠ 0x1B) → withoutSequences 0 l = l := by
    intro l
    induction l with
    | nil => exact fun _ => rfl
    | cons c l ih =>
      intro h
      rw [List.forall_mem_cons] at h
      rw [withoutSequences.eq_def]
      dsimp only
      rw [if_neg h.1, ih h.2]
  rw [printedLine, kept s.toList still]

theorem ofText_eq {s : Points}
    (still : ∀ c ∈ s.toList, c.toNat ∉ [0x07, 0x08, 0x0B, 0x0C, 0x0D]) (style : Style) :
    Cell.ofText s style = .literal s style := by
  have kept : s.toList.filter (fun c => !Cell.isMotion c) = s.toList :=
    List.filter_eq_self.mpr fun c hc => by
      simpa [Cell.isMotion, List.contains_iff_mem] using still c hc
  rw [Cell.ofText, kept]

/-! ## Calls -/

/-- A text that a stream gives, with what ends its lines. -/
structure Fed where
  ending : Text.LineEnd
  text : String

/-- What the streams give that a call names. Lines end in line feeds alone on the standard
input, which is empty once it was read. -/
inductive Feeds (disk : Disk) : (input : ByteArray) → (names : List Points) → List Fed → Prop
  | none (input : ByteArray) : Feeds disk input [] []
  | standard {names : List Points} {feeds : List Fed} (text : String)
      (others : Feeds disk ByteArray.empty names feeds) :
      Feeds disk text.toUTF8 ("-" :: names) (⟨.feed, text⟩ :: feeds)
  | file {input : ByteArray} {name : Points} {names : List Points} {feeds : List Fed}
      (text : String) (named : name ≠ "-") (held : disk.readTyped name = .ok text.toUTF8)
      (others : Feeds disk input names feeds) :
      Feeds disk input (name :: names) (⟨.any, text⟩ :: feeds)

/-- URLs are laid out on the lines of what is fed, a part of them on each stream. -/
def LaidOut (parts : List (List String)) (feeds : List Fed) : Prop :=
  List.Forall₂ (fun part fed => Text.Laid fed.ending part fed.text.toList) parts feeds

namespace Call

variable {disk : Disk}

theorem openStreams_of_feeds {input : ByteArray} {names : List Points} {feeds : List Fed}
    (h : Feeds disk input names feeds) : openStreams disk input names =
      .ok (feeds.map fun fed => Text.streamed fed.ending fed.text.toUTF8) := by
  induction h with
  | none => rfl
  | standard text others ih =>
    rw [openStreams, if_pos rfl, ih]
    rfl
  | file text named held others ih =>
    rw [openStreams, if_neg named, held, ih]
    rfl

/-- Texts with entries laid out on their lines are streams of these entries. -/
theorem streams_of_laidOut {parts : List (List String)} {feeds : List Fed}
    (laid : LaidOut parts feeds) (all : ∀ entry ∈ parts.flatten, Text.IsEntry entry) :
    List.Forall₂ (fun part (stream : Text.Streamed) => Text.entriesOf stream.lines = part ∧
      stream.broken = false) parts
      (feeds.map fun fed => Text.streamed fed.ending fed.text.toUTF8) := by
  induction laid with
  | nil => exact .nil
  | cons here _ ih =>
    rw [List.flatten_cons, List.forall_mem_append] at all
    refine .cons ?_ (ih all.2)
    dsimp only
    rw [Text.streamed_toUTF8]
    exact ⟨Text.entriesOf_lines here all.1, rfl⟩

theorem withStore_of_rootPath {c : Call} {root : Path} (rooted : c.rootPath? = some root)
    (f : Store → Outcome) : c.withStore disk f = f ⟨root⟩ := by
  rw [withStore, rooted]

/-- What the table of URLs pairs with a URL. -/
def paired (ruleSet : RuleSet) (url : Points) : List Cell :=
  [View.plainCell url,
    match sentBy ruleSet url with
    | some sent => .ofText sent .green
    | none => .literal "no match" .dim]

theorem take_matchRow (ruleSet : RuleSet) (url : Points) :
    (View.matchRow url (ruleSet.redirect? url)).take 2 = paired ruleSet url := by
  unfold paired sentBy
  cases ruleSet.redirect? url <;> rfl

theorem any_isSome (ruleSet : RuleSet) (urls : List Points) :
    (urls.map fun url => (url, ruleSet.redirect? url)).any (·.2.isSome) =
      !(rewritten ruleSet true urls).isEmpty := by
  induction urls with
  | nil => rfl
  | cons url urls ih =>
    rw [← List.singleton_append, rewritten_append, List.singleton_append, List.map_cons,
      List.any_cons, ih]
    cases sent : ruleSet.redirect? url <;> simp [rewritten, sentBy, sent]

theorem isWhole_ofText {text : Points} (whole : text.isWhole = true) (style : Style) :
    (Cell.ofText text style).text.isWhole = true := by
  rw [Points.isWhole, List.all_eq_true] at whole ⊢
  exact fun c hc => whole c (List.mem_of_mem_filter hc)

theorem isWritable_matched {ruleSet : RuleSet} {urls : List Points}
    (writable : ∀ url ∈ urls, Writable ruleSet url) :
    (View.matched (urls.map fun url => (url, ruleSet.redirect? url))).isWritable = true := by
  rw [Panel.isWritable, List.all_eq_true]
  intro text ht
  obtain ⟨cell, hc, rfl⟩ := List.mem_map.mp ht
  obtain ⟨row, hr, hc⟩ := List.mem_flatten.mp hc
  obtain ⟨answer, ha, rfl⟩ := List.mem_map.mp hr
  obtain ⟨url, hu, rfl⟩ := List.mem_map.mp ha
  obtain ⟨whole, sentWhole⟩ := writable url hu
  have plain (text : String) : (View.plainCell text).text.isWhole = true :=
    isWhole_ofText (Points.isWhole_ofString text) .plain
  cases sent : ruleSet.redirect? url with
  | none =>
    simp only [View.matchRow, sent, List.mem_cons, List.not_mem_nil, or_false] at hc
    rcases hc with rfl | rfl | rfl
    · exact isWhole_ofText whole .plain
    · exact Points.isWhole_ofString "no match"
    · exact plain ""
  | some redirect =>
    simp only [View.matchRow, sent, List.mem_cons, List.not_mem_nil, or_false] at hc
    rcases hc with rfl | rfl | rfl
    · exact isWhole_ofText whole .plain
    · exact isWhole_ofText (sentWhole redirect.destination (by simp [sentBy, sent])) .green
    · exact plain _

variable {root : Path} {rules : List Rule}

theorem rewrite_of_loads (loads : Store.Loads ⟨root⟩ disk rules) {c : Call} {words : List Points}
    {w : Words} {feeds : List Fed} {parts : List (List String)}
    (rooted : c.rootPath? = some root)
    (read : readWords Action.rewrite.spec true none words = .ok w) (asked : w.has .help = false)
    (fed : Feeds disk c.environment.input (if w.others.isEmpty then ["-"] else w.others) feeds)
    (laid : LaidOut parts feeds) (all : ∀ entry ∈ parts.flatten, Text.IsEntry entry)
    (writable : ∀ url ∈ parts.flatten, Writable (RuleSet.ofRules rules) url) :
    Printed (Outcome.start disk) (c.perform disk .rewrite words)
      (printedLines (rewritten (RuleSet.ofRules rules) (w.has .onlyMatched)
        (parts.flatten.map Points.ofString))) := by
  have bound : bindWords Action.rewrite.spec.arguments w.others = .ok ([w.others], []) := rfl
  rw [perform, read, check, asked, if_neg Bool.false_ne_true, act, bound]
  dsimp only [check]
  rw [openStreams_of_feeds fed]
  dsimp only
  rw [withStore_of_rootPath rooted]
  exact c.rewriteStreams_of_answering (Service.answering_fresh loads) (streams_of_laidOut laid all)
    writable

/-- A call to match shows where each URL goes, and ends as at least one goes somewhere or
none does. -/
theorem match_of_loads (loads : Store.Loads ⟨root⟩ disk rules) {c : Call} {urls : List Points}
    (rooted : c.rootPath? = some root) (filled : urls ≠ [])
    (writable : ∀ url ∈ urls, Writable (RuleSet.ofRules rules) url) :
    let o := c.perform disk .matchUrls ("--" :: urls)
    (∃ rows, o.panels = [⟨"matches", .blue, .table ⟨View.matchColumns, rows, true⟩⟩] ∧
      rows.map (List.take 2) = urls.map (paired (RuleSet.ofRules rules))) ∧
    o.ending = .code (if rewritten (RuleSet.ofRules rules) true urls = [] then 1 else 0) := by
  obtain ⟨url, others, rfl⟩ := List.exists_cons_of_ne_nil filled
  have bound : bindWords Action.matchUrls.spec.arguments (url :: others) =
      .ok ([url :: others], []) := rfl
  have read : readWords Action.matchUrls.spec true none ("--" :: url :: others) =
      .ok ⟨[], url :: others⟩ := rfl
  have asked : Words.has ⟨[], url :: others⟩ .help = false := rfl
  intro o
  have shown : o = c.matchUrls disk (url :: others) := by
    show c.perform disk .matchUrls _ = _
    rw [perform, read, check, asked, if_neg Bool.false_ne_true, act, bound]
    rfl
  have answers := Service.evaluateAll_fresh loads (url :: others)
  rw [shown, matchUrls, withStore_of_rootPath rooted]
  rcases evaluated : (Service.evaluateAll disk (url :: others)).serve (.fresh ⟨root⟩) with
    ⟨results, after⟩
  rw [evaluated] at answers
  dsimp only at answers ⊢
  rw [answers]
  dsimp only
  rw [Outcome.showing, if_pos (isWritable_matched writable), Outcome.showing]
  refine ⟨⟨_, rfl, ?_⟩, ?_⟩
  · rw [List.map_map, List.map_map]
    exact List.map_congr_left fun url _ => take_matchRow _ url
  · dsimp only [Outcome.exit]
    rw [any_isSome]
    cases rewritten (RuleSet.ofRules rules) true (url :: others) <;> rfl

end Call

theorem run_of_route {env : Environment} {disk : Disk} {words : List Points} {r : Route}
    (led : route? env disk words = some r) :
    run env disk words = r.call.perform disk r.action r.words := by
  have follows := follows_route env disk words
  rw [led] at follows
  exact follows

/-- A call to rewrite the streams with URLs on their lines, which may be one stream or
many, prints on a line each where the URL is sent, and the URL itself of one that is sent
nowhere, unless only those that are sent somewhere are asked for. A call to match shows
the same URLs in a table, each paired with where it is sent, and ends with the code 0 if
the other would print a line when only those are asked for. What is printed is without the
control sequences of a terminal, and what is shown without its characters of motion. No URL
may be sent to a text with half of a surrogate pair in it, which cannot be written. -/
theorem rewrites_as_matched (disk : Disk) (root : Path) (rules : List Rule) (urls : List String)
    (loads : Store.Loads ⟨root⟩ disk rules) (filled : urls ≠ [])
    (entries : ∀ url ∈ urls, Text.IsEntry url)
    (whole : ∀ url ∈ urls, ∀ sent, Call.sentBy (RuleSet.ofRules rules) url = some sent →
      sent.isWhole = true) :
    let ruleSet := RuleSet.ofRules rules
    let sought : List Points := urls.map Points.ofString
    (∀ env words c rest w feeds parts, route? env disk words = some ⟨c, .rewrite, rest⟩ →
      c.rootPath? = some root → readWords Action.rewrite.spec true none rest = .ok w →
      w.has .help = false →
      Feeds disk env.input (if w.others.isEmpty then ["-"] else w.others) feeds →
      LaidOut parts feeds → parts.flatten = urls →
      let o := run env disk words
      o.ending = .code 0 ∧ o.panels = [] ∧
        o.out = printedLines (Call.rewritten ruleSet (w.has .onlyMatched) sought)) ∧
    (∀ env words c, route? env disk words = some ⟨c, .matchUrls, "--" :: sought⟩ →
      c.rootPath? = some root →
      let o := run env disk words
      (∃ rows, o.panels = [⟨"matches", .blue, .table ⟨View.matchColumns, rows, true⟩⟩] ∧
        rows.map (List.take 2) = sought.map (Call.paired ruleSet)) ∧
      o.ending = .code (if Call.rewritten ruleSet true sought = [] then 1 else 0)) ∧
    (∀ s : Points, (∀ c ∈ s.toList, c.toNat ≠ 0x1B) →
      printedLine s = s ++ ("\n" : Points)) ∧
    ∀ (s : Points) style, (∀ c ∈ s.toList, c.toNat ∉ [0x07, 0x08, 0x0B, 0x0C, 0x0D]) →
      Cell.ofText s style = .literal s style := by
  intro ruleSet sought
  have writable : ∀ url ∈ urls, Call.Writable ruleSet url := fun url hu =>
    ⟨Points.isWhole_ofString url, whole url hu⟩
  refine ⟨?_, ?_, fun s => printedLine_eq, fun s style still => ofText_eq still style⟩
  · intro env words c rest w feeds parts led rooted read asked fed laid flat o
    subst flat
    have same : c.environment = env := environment_of_route led
    rw [← same] at fed
    have printed := Call.rewrite_of_loads loads rooted read asked fed laid entries writable
    have performed : o = c.perform disk .rewrite rest := run_of_route led
    rw [← performed] at printed
    exact ⟨printed.ending, printed.panels, printed.out.trans (String.empty_append ..)⟩
  · intro env words c led rooted o
    have performed : o = c.perform disk .matchUrls ("--" :: sought) := run_of_route led
    rw [performed]
    exact Call.match_of_loads loads rooted (by simpa [sought] using filled)
      (List.forall_mem_map.mpr writable)

theorem readTyped_withImport (stored new : ByteArray) :
    (Store.withImport stored new).readTyped "new.json" = .ok new := by
  have path : Path.ofText "new.json" = ⟨"", ["new.json"]⟩ := by decide +kernel
  have slashless : Disk.asksForDirectory "new.json" = false := by decide +kernel
  have named : ("new.json" : Points).isEmpty = false := by decide
  have status : (Store.withImport stored new).statusTyped "new.json" = .ok (.file new 0) := by
    rw [Disk.statusTyped, named, path, (Store.status_withImport stored new).2.1, slashless]
    rfl
  rw [Disk.readTyped, status]
  rfl

/-- Two URLs, one in a file and one on the standard input, with blanks, a blank line and
no last line end. -/
theorem rewrites_as_matched_twoStreams :
    let rules : List Rule := [⟨"https://a.example/", "b.example/"⟩]
    let d := Store.withImport (RuleFile.encode .json rules).toUTF8
      " https://a.example/x\r\n\n".toUTF8
    let env : Environment := ⟨"home", none, "z.example".toUTF8⟩
    (run env d ["--root", "store", "rewrite", "new.json", "-"]).out =
      "b.example/x\nz.example\n" ∧
    (run env d ["--root", "store", "rewrite", "--only-matched", "new.json", "-"]).out =
      "b.example/x\n" ∧
    (run env d ["--root", "store", "match", "--", "https://a.example/x", "z.example"]).ending =
      .code 0 := by
  intro rules d env
  have joined : ∀ r ∈ rules, r.Joined :=
    Rule.joined_map_ofTexts [("https://a.example/", "b.example/")]
  have stored : Store.list ⟨⟨"", ["store"]⟩⟩ d = .ok rules := Store.list_withImport joined _
  have entries : ∀ url ∈ ["https://a.example/x", "z.example"], Text.IsEntry url := by
    intro url hu
    simp only [List.mem_cons, List.not_mem_nil, or_false] at hu
    rcases hu with rfl | rfl <;>
      exact ⟨by decide, by decide +kernel, by decide +kernel, fun _ => by decide +kernel⟩
  have whole : ∀ url ∈ ["https://a.example/x", "z.example"], ∀ sent,
      Call.sentBy (RuleSet.ofRules rules) url = some sent → sent.isWhole = true := by
    intro url _
    exact (Call.writable_of_destinations (by simp [rules, Points.isWhole_ofString])
      (Points.isWhole_ofString url)).2
  obtain ⟨rewrites, shows, -⟩ := rewrites_as_matched d ⟨"", ["store"]⟩ rules
    ["https://a.example/x", "z.example"] (Store.loads_of_list stored (by simp [rules])) (by simp)
    entries whole
  have blank {ending : Text.LineEnd} (pad : List Char) (padding : ∀ c ∈ pad, c = ' ') :
      Text.IsPadding ending pad := by
    refine ⟨⟨?_, fun _ => ?_⟩, ?_⟩ <;> intro h
    · exact absurd (padding _ h) (by decide)
    · exact absurd (padding _ h) (by decide)
    · intro there
      rw [padding _ there]
      rfl
  have first : Text.Laid .any ["https://a.example/x"] " https://a.example/x\r\n\n".toList := by
    have held : Text.OnLine .any _ _ :=
      .entry "https://a.example/x" (blank [' '] (by simp)) (blank [] (by simp))
    have laid := Text.Laid.line held (.inr ⟨rfl, .inr rfl⟩)
      (.line (.blank (blank [] (by simp))) (.inl rfl) (.last (.blank (blank [] (by simp)))))
    exact laid
  have laid : LaidOut [["https://a.example/x"], ["z.example"]]
      [⟨.any, " https://a.example/x\r\n\n"⟩, ⟨.feed, "z.example"⟩] :=
    .cons first (.cons (.single _) .nil)
  have feeds : Feeds d env.input ["new.json", "-"]
      [⟨.any, " https://a.example/x\r\n\n"⟩, ⟨.feed, "z.example"⟩] :=
    .file _ (by decide) (readTyped_withImport _ _) (.standard "z.example" (.none _))
  let c : Call := ⟨env, 0, some "store"⟩
  have rooted : c.rootPath? = some ⟨"", ["store"]⟩ := rfl
  refine ⟨?_, ?_, ?_⟩
  · have led : route? env d ["--root", "store", "rewrite", "new.json", "-"] =
        some ⟨c, .rewrite, ["new.json", "-"]⟩ := rfl
    have out := (rewrites env _ c _ ⟨[], ["new.json", "-"]⟩ _ _ led rooted rfl rfl
      feeds laid rfl).2.2
    rw [out]
    decide +kernel
  · have led : route? env d ["--root", "store", "rewrite", "--only-matched", "new.json", "-"] =
        some ⟨c, .rewrite, ["--only-matched", "new.json", "-"]⟩ := rfl
    have out := (rewrites env _ c _ ⟨[(.onlyMatched, "")], ["new.json", "-"]⟩ _ _ led rooted rfl rfl
      feeds laid rfl).2.2
    rw [out]
    decide +kernel
  · have led : route? env d ["--root", "store", "match", "--", "https://a.example/x", "z.example"] =
        some ⟨c, .matchUrls, ["--", "https://a.example/x", "z.example"]⟩ := rfl
    rw [(shows env _ c led rooted).2]
    decide +kernel

/-- A disk with a rule whose destination is half of a pair. -/
def halfSent : Disk :=
  ⟨[(["store"], .directory), (["store", "rules.json"],
    .file "[\x7b\"from\": \"a.example\", \"to\": \"\\ud83d\"\x7d]".toUTF8 0)], 0⟩

/-- A destination with half of a pair cannot be written, neither on a line nor in a table. -/
theorem rewrite_unwritable :
    (run ⟨"home", none, "a.example".toUTF8⟩ halfSent ["--root", "store", "rewrite"]).ending =
        .unwritable ∧
      (run ⟨"home", none, "".toUTF8⟩ halfSent
        ["--root", "store", "match", "--", "a.example"]).ending = .unwritable := by
  constructor <;> decide +kernel

/-- A URL is not always printed and shown as it is: not one with a control sequence of a
terminal, nor one with a character of motion. A carriage return alone ends no line of the
standard input, and a destination with half of a pair ends the call. And a store whose root
lies beneath a file has a list, but no stamp to answer from. -/
theorem not_verbatim :
    (let url := "\x1b[1ma"
      let o := run ⟨"home", none, url.toUTF8⟩ Disk.empty ["--root", "store", "rewrite"]
      Store.list ⟨⟨"", ["store"]⟩⟩ Disk.empty = .ok [] ∧ Text.IsEntry url ∧
        o.ending = .code 0 ∧ o.out = "a\n" ∧ url ++ "\n" ≠ "a\n") ∧
    (let url := "a\x07b"
      let o := run ⟨"home", none, "".toUTF8⟩ Disk.empty ["--root", "store", "match", "--", url]
      Text.IsEntry url ∧ ∃ rows,
        o.panels = [⟨"matches", .blue, .table ⟨View.matchColumns, rows, true⟩⟩] ∧
        rows.map (List.take 2) = [[.literal "ab" .plain, .literal "no match" .dim]]) ∧
    (let input := "a\rb"
      let o := run ⟨"home", none, input.toUTF8⟩ Disk.empty ["--root", "store", "rewrite"]
      Text.Laid .any ["a", "b"] input.toList ∧ o.out = "a\rb\n") ∧
    (let url := "a.example"
      let rule : Rule := ⟨url, .ofCodes [0xD83D]⟩
      Store.list ⟨⟨"", ["store"]⟩⟩ halfSent = .ok [rule] ∧ Text.IsEntry url ∧
        (run ⟨"home", none, url.toUTF8⟩ halfSent ["--root", "store", "rewrite"]).ending =
          .unwritable ∧
        (run ⟨"home", none, "".toUTF8⟩ halfSent ["--root", "store", "match", "--", url]).ending =
          .unwritable) ∧
    (let d : Disk := ⟨[(["f"], .file ByteArray.empty 0)], 0⟩
      let rewritten := run ⟨"home", none, "u".toUTF8⟩ d ["--root", "f/x", "rewrite"]
      let matched := run ⟨"home", none, "".toUTF8⟩ d ["--root", "f/x", "match", "--", "u"]
      Store.list ⟨⟨"", ["f", "x"]⟩⟩ d = .ok [] ∧ Text.IsEntry "u" ∧
        rewritten.ending = .failed (.disk .notDirectory) ∧
        matched.ending = .failed (.disk .notDirectory)) := by
  have entry (url : String) (some : url ≠ "")
      (tidy : Text.trim Text.isBlank url.toList = url.toList) (feed : '\n' ∉ url.toList)
      (turn : '\r' ∉ url.toList) : Text.IsEntry url :=
    ⟨some, tidy, feed, fun _ => turn⟩
  have listed : Store.list ⟨⟨"", ["store"]⟩⟩ Disk.empty = .ok [] := by cbv
  have loads : Store.Loads ⟨⟨"", ["store"]⟩⟩ Disk.empty [] :=
    Store.loads_of_rooted (.inr (by cbv)) listed
  refine ⟨?_, ?_, ?_, ?_, ?_⟩
  · intro url o
    have sequence : Text.IsEntry url :=
      entry _ (by decide +kernel) (by decide +kernel) (by decide +kernel) (by decide +kernel)
    let c : Call := ⟨⟨"home", none, url.toUTF8⟩, 0, some "store"⟩
    have rooted : c.rootPath? = some ⟨"", ["store"]⟩ := rfl
    have led : route? c.environment Disk.empty ["--root", "store", "rewrite"] =
        some ⟨c, .rewrite, []⟩ := rfl
    have feeds : Feeds Disk.empty c.environment.input ["-"] [⟨.feed, url⟩] :=
      .standard url (.none _)
    have read : readWords Action.rewrite.spec true none [] = .ok ⟨[], []⟩ := rfl
    have laid : LaidOut [[url]] [⟨.feed, url⟩] := .cons (.single url) .nil
    have printed := Call.rewrite_of_loads loads rooted read rfl feeds laid (by simpa using sequence)
      fun _ _ => Call.writable_of_destinations (by simp) (Points.isWhole_ofString _)
    have performed : o = c.perform Disk.empty .rewrite [] := run_of_route led
    rw [← performed] at printed
    refine ⟨listed, sequence, printed.ending, ?_, by decide +kernel⟩
    rw [printed.out]
    decide +kernel
  · intro url o
    let c : Call := ⟨⟨"home", none, "".toUTF8⟩, 0, some "store"⟩
    have rooted : c.rootPath? = some ⟨"", ["store"]⟩ := rfl
    have led : route? c.environment Disk.empty ["--root", "store", "match", "--", url] =
        some ⟨c, .matchUrls, ["--", url]⟩ := rfl
    have filled : [(url : Points)] ≠ [] := List.cons_ne_nil _ _
    obtain ⟨⟨rows, panels, pairs⟩, -⟩ := Call.match_of_loads loads rooted filled
      fun _ hu => Call.writable_of_destinations (by simp) (by
        obtain rfl := List.mem_singleton.mp hu
        exact Points.isWhole_ofString url)
    have performed : o = c.perform Disk.empty .matchUrls ["--", url] := run_of_route led
    rw [← performed] at panels
    refine ⟨entry _ (by decide +kernel) (by decide +kernel) (by decide +kernel)
      (by decide +kernel), rows, panels, pairs.trans ?_⟩
    decide +kernel
  · intro input o
    have nothing : Text.IsPadding .any [] := ⟨by simp [Text.IsFlat], by simp⟩
    have split : input.toList = [] ++ "a".toList ++ [] ++ ['\r'] ++ "b".toList := by decide
    refine ⟨?_, by decide +kernel⟩
    rw [split]
    exact .line (.entry "a" nothing nothing) (.inr ⟨rfl, .inl rfl⟩) (.single "b")
  · exact ⟨by cbv, entry _ (by decide +kernel) (by decide +kernel) (by decide +kernel)
      (by decide +kernel), rewrite_unwritable⟩
  · refine ⟨by cbv, entry _ ?_ ?_ ?_ ?_, by cbv, by cbv⟩ <;> decide +kernel

end Command

end Reroute
