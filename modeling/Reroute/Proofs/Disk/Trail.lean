import Reroute.Disk.Basic
import Reroute.Proofs.Text.Points

/-!
# Trails

Where the names of a path lead does not depend on the disk, as long as they lead
somewhere: `trail` lists the places on the way. Making the directories along some
names puts directories on places of their trail that were empty and changes
nothing else (`entry_makeAlong`), and it succeeds when no file stands on the trail
and no name is too long (`makeAlong_eq_none_iff`). Saving a file changes its place
besides (`entry_save`), where the file is found afterwards (`status_save`).
-/

namespace Reroute.Disk

/-- The place that a name leads to. -/
def next (place : Place) (name : Points) : Place :=
  if name = ".." then above place else place ++ [name]

/-- The places that names lead to, one after another. -/
def trail : Place → List Points → List Place
  | _, [] => []
  | place, name :: rest => next place name :: trail (next place name) rest

/-- The place that names lead to in the end. -/
def goal (place : Place) (names : List Points) : Place := names.foldl next place

def placeOf (p : Path) : Place := goal (startOf p) p.parts

/-- The places on the way to a path, its own place included. -/
def trailOf (p : Path) : List Place := trail (startOf p) p.parts

variable {d d' : Disk} {p : Path} {place : Place}

theorem trail_append (place : Place) (xs ys : List Points) :
    trail place (xs ++ ys) = trail place xs ++ trail (goal place xs) ys := by
  induction xs generalizing place with
  | nil => rfl
  | cons x xs ih => exact congrArg _ (ih (next place x))

/-! ## Entries -/

theorem entry_of_isBase (d : Disk) (h : isBase place = true) :
    d.entry? place = some .directory := if_pos h

theorem not_isBase_of_entry (h : d.entry? place ≠ some .directory) : isBase place = false := by
  by_contra base
  exact h (entry_of_isBase d (by simpa using base))

theorem entry_put_self (d : Disk) (e : Entry) (h : isBase place = false) :
    entry? (d.put place e) place = some e := by
  simp [put, entry?, h]

theorem entry_put_free (e : Entry) (h : d.entry? place = none) :
    entry? (d.put place e) place = some e :=
  entry_put_self d e (not_isBase_of_entry (d := d) (by simp [h]))

theorem lookup_filter_ne {q : Place} (h : q ≠ place) (es : List (Place × Entry)) :
    (es.filter fun old => old.1 ≠ place).lookup q = es.lookup q := by
  induction es with
  | nil => rfl
  | cons old es ih =>
    by_cases hold : old.1 = place
    · have other : (q == old.1) = false := by simpa [hold] using h
      rw [List.filter_cons_of_neg (by simpa using hold), ih, List.lookup, other]
    · rw [List.filter_cons_of_pos (by simpa using hold)]
      simp only [List.lookup]
      rw [ih]

theorem entry_put_ne {q : Place} (d : Disk) (e : Entry) (h : q ≠ place) :
    entry? (d.put place e) q = d.entry? q := by
  have other : (q == place) = false := by simpa using h
  unfold entry? put
  simp only [List.lookup, other, lookup_filter_ne h]

/-- No directory of the one disk is missing on the other. -/
def Keeps (d d' : Disk) : Prop :=
  ∀ place, d.entry? place = some .directory → d'.entry? place = some .directory

/-! ## Walks -/

theorem walk_cons_of_directory {name : Points} (rest : List Points)
    (h : d.entry? place = some .directory) (short : isLong name = false) :
    d.walk place (name :: rest) = d.walk (next place name) rest := by
  simp [walk, h, short, next]

theorem walk_append (d : Disk) (place : Place) (xs ys : List Points) :
    d.walk place (xs ++ ys) = (d.walk place xs).bind fun q => d.walk q ys := by
  induction xs generalizing place with
  | nil => rfl
  | cons x xs ih =>
    rw [List.cons_append, walk, walk]
    split
    · rfl
    · rfl
    · split
      · rfl
      · exact ih _

/-- A walk that arrives has gone from directory to directory. -/
theorem walk_cons_eq_ok {name : Points} {rest : List Points} {q : Place}
    (h : d.walk place (name :: rest) = .ok q) :
    d.entry? place = some .directory ∧ isLong name = false ∧
      d.walk (next place name) rest = .ok q := by
  rw [walk] at h
  split at h
  · simp at h
  · simp at h
  · next directory =>
    split at h
    · simp at h
    · next short => exact ⟨directory, by simpa using short, h⟩

theorem walk_eq_goal {names : List Points} {q : Place} (h : d.walk place names = .ok q) :
    q = goal place names := by
  induction names generalizing place with
  | nil => exact (Except.ok.inj h).symm
  | cons name rest ih =>
    obtain ⟨-, -, onward⟩ := walk_cons_eq_ok h
    exact ih onward

theorem Keeps.walk {names : List Points} {q : Place} (keeps : Keeps d d')
    (h : d.walk place names = .ok q) : d'.walk place names = .ok q := by
  induction names generalizing place with
  | nil => exact h
  | cons name rest ih =>
    obtain ⟨directory, short, onward⟩ := walk_cons_eq_ok h
    rw [walk_cons_of_directory rest (keeps place directory) short]
    exact ih onward

theorem walk_eq_error {names : List Points} {fault : DiskFault}
    (h : d.walk place names = .error fault) :
    fault = .notFound ∨ fault = .notDirectory ∨
      fault = .nameTooLong ∧ ∃ name ∈ names, isLong name = true := by
  induction names generalizing place with
  | nil => simp [walk] at h
  | cons name rest ih =>
    rw [walk] at h
    split at h
    · exact .inl (Except.error.inj h).symm
    · exact .inr (.inl (Except.error.inj h).symm)
    · split at h
      · next long => exact .inr (.inr ⟨(Except.error.inj h).symm, name, by simp, long⟩)
      · rcases ih h with missing | file | ⟨long, n, hn, bad⟩
        · exact .inl missing
        · exact .inr (.inl file)
        · exact .inr (.inr ⟨long, n, .tail _ hn, bad⟩)

theorem locate_of_accept (d : Disk) (h : accept p = .ok ()) :
    d.locate p = d.walk (startOf p) p.parts := by
  unfold locate
  rw [h]
  rfl

theorem locate_eq_placeOf {q : Place} (h : d.locate p = .ok q) :
    accept p = .ok () ∧ q = placeOf p ∧ d.walk (startOf p) p.parts = .ok q := by
  cases ha : accept p with
  | error fault => simp [locate, ha, bind, Except.bind] at h
  | ok u =>
    rw [locate_of_accept d ha] at h
    exact ⟨rfl, walk_eq_goal h, h⟩

theorem Keeps.locate {q : Place} (keeps : Keeps d d') (h : d.locate p = .ok q) :
    d'.locate p = .ok q := by
  obtain ⟨accepted, -, walked⟩ := locate_eq_placeOf h
  rw [locate_of_accept d' accepted]
  exact keeps.walk walked

theorem entry_of_status {e : Entry} (h : d.status p = .ok e) :
    d.locate p = .ok (placeOf p) ∧ d.entry? (placeOf p) = some e := by
  unfold status at h
  cases hl : d.locate p with
  | error fault => simp [hl, bind, Except.bind] at h
  | ok q =>
    obtain ⟨-, rfl, -⟩ := locate_eq_placeOf hl
    simp only [hl, bind, Except.bind] at h
    split at h
    · next found he => exact ⟨rfl, by rw [he, Except.ok.inj h]⟩
    · simp at h

theorem status_eq_error {fault : DiskFault} (h : d.status p = .error fault) :
    accept p = .error fault ∨
      accept p = .ok () ∧ (d.walk (startOf p) p.parts = .error fault ∨
        d.walk (startOf p) p.parts = .ok (placeOf p) ∧ d.entry? (placeOf p) = none ∧
          fault = .notFound) := by
  unfold status at h
  cases ha : accept p with
  | error bad =>
    left
    simpa [locate, ha, bind, Except.bind] using h
  | ok u =>
    right
    rw [locate_of_accept d ha] at h
    cases hw : d.walk (startOf p) p.parts with
    | error bad => exact ⟨rfl, .inl (by simpa [hw, bind, Except.bind] using h)⟩
    | ok q =>
      obtain rfl : q = placeOf p := walk_eq_goal hw
      simp only [hw, bind, Except.bind] at h
      split at h
      · simp [pure, Except.pure] at h
      · next free => exact ⟨rfl, .inr ⟨rfl, free, (Except.error.inj h).symm⟩⟩

theorem accept_eq_error {fault : DiskFault} (h : accept p = .error fault) :
    fault = .notPath ∧ p.isSpellable = false ∨ fault = .nameTooLong := by
  unfold accept at h
  split at h
  · next bad => exact .inl ⟨(Except.error.inj h).symm, by simpa using bad⟩
  · split at h
    · exact .inr (Except.error.inj h).symm
    · simp at h

theorem isSpellable_of_accept (h : accept p = .ok ()) : p.isSpellable = true := by
  unfold accept at h
  split at h
  · simp at h
  · next good => simpa using good

theorem byteSize_append (s t : Points) : byteSize (s ++ t) = byteSize s + byteSize t := by
  simp [byteSize]

/-- The text of an entry of a directory is no shorter than that of the directory. -/
theorem byteSize_text_le (p : Path) {name : Points} (named : 0 < byteSize name) :
    byteSize p.text ≤ byteSize (p.child name).text := by
  have child : (p.child name).text = p.root ++ Points.join "/" (p.parts ++ [name]) := by
    simp [Path.text, Path.child]
  rw [child, byteSize_append]
  by_cases bare : p.parts = []
  · by_cases here : p.root = ""
    · -- The empty path is spelled with one dot.
      have dot : p.text = "." := by simp [Path.text, bare, here]
      rw [dot, bare]
      exact le_add_left named
    · have text : p.text = p.root ++ Points.join "/" [] := by simp [Path.text, bare, here]
      rw [text, byteSize_append, bare]
      exact Nat.add_le_add_left (Nat.zero_le _) _
  · have text : p.text = p.root ++ Points.join "/" p.parts := by simp [Path.text, bare]
    rw [text, byteSize_append, Points.join_concat "/" bare, byteSize_append, byteSize_append]
    omega

theorem accept_of_child {name : Points} (named : 0 < byteSize name)
    (h : accept (p.child name) = .ok ()) : accept p = .ok () := by
  have spelled : p.isSpellable = true := by
    have whole := isSpellable_of_accept h
    simp only [Path.isSpellable, Path.child, List.all_append, Bool.and_eq_true] at whole
    exact whole.1
  have short : byteSize (p.child name).text ≤ maxPath := by
    unfold accept at h
    split at h
    · simp at h
    · split at h
      · simp at h
      · omega
  have shorter := byteSize_text_le p named
  have short' : ¬maxPath < byteSize p.text := by omega
  simp [accept, spelled, short']

theorem status_of_locate {e : Entry} (located : d.locate p = .ok place)
    (h : d.entry? place = some e) : d.status p = .ok e := by
  simp [status, located, h, bind, Except.bind, pure, Except.pure]

/-! ## Directories that are made -/

/-- A place and all those around it are directories. -/
def Grounded (d : Disk) (place : Place) : Prop :=
  ∀ n : Nat, d.entry? (above^[n] place) = some .directory

theorem Grounded.directory (h : Grounded d place) : d.entry? place = some .directory := h 0

theorem Grounded.above (h : Grounded d place) : Grounded d (above place) := fun n => h (n + 1)

theorem Grounded.keeps (h : Grounded d place) (keeps : Keeps d d') : Grounded d' place :=
  fun n => keeps _ (h n)

theorem isBase_above (h : isBase place = true) : isBase (above place) = true := by
  simp only [isBase, Bool.or_eq_true, decide_eq_true_eq] at h ⊢
  unfold above
  rcases h with rfl | h
  · exact .inl rfl
  · by_cases root : place = [("/" : Points)]
    · exact .inl (by rw [if_pos root, root])
    · rw [if_neg root, if_pos h]
      exact .inr (by simpa using h)

theorem grounded_of_isBase (d : Disk) (h : isBase place = true) : Grounded d place := by
  intro n
  induction n generalizing place with
  | zero => exact entry_of_isBase d h
  | succ n ih => exact ih (isBase_above h)

theorem grounded_startOf (d : Disk) (p : Path) : Grounded d (startOf p) := by
  refine grounded_of_isBase d ?_
  unfold startOf
  split <;> rfl

theorem above_append {name : Points} (h : isBase (place ++ [name]) = false) :
    above (place ++ [name]) = place := by
  simp only [isBase, Bool.or_eq_false_iff, decide_eq_false_iff_not] at h
  unfold above
  rw [if_neg h.1, if_neg (by simpa using h.2), List.dropLast_concat]

theorem Grounded.append {name : Points} (h : Grounded d place)
    (directory : d.entry? (place ++ [name]) = some .directory) : Grounded d (place ++ [name]) := by
  cases base : isBase (place ++ [name]) with
  | true => exact grounded_of_isBase d base
  | false =>
    intro n
    cases n with
    | zero => exact directory
    | succ n =>
      rw [Function.iterate_succ_apply, above_append base]
      exact h n

/-- No file stands at a place. -/
def NoFile (d : Disk) (place : Place) : Prop :=
  ∀ bytes time, d.entry? place ≠ some (.file bytes time)

theorem noFile_of_directory (h : d.entry? place = some .directory) : NoFile d place := by
  intro bytes time file
  rw [h] at file
  simp at file

/-- The first step of making directories: it goes on where a directory stands, makes
one where nothing does, and fails at a file or at a name that is too long. -/
theorem makeAlong_cons (d : Disk) (place : Place) (name : Points) (rest : List Points) :
    ((name = ".." ∨ isLong name = false ∧ d.entry? (next place name) = some .directory) ∧
        d.makeAlong place (name :: rest) = d.makeAlong (next place name) rest) ∨
      (isLong name = false ∧ d.entry? (next place name) = none ∧
        d.makeAlong place (name :: rest) =
          (d.put (next place name) .directory).makeAlong (next place name) rest) ∨
      (isLong name = true ∨ ¬NoFile d (next place name)) ∧
        ∃ fault, d.makeAlong place (name :: rest) = (d, some fault) := by
  by_cases up : name = ".."
  · left
    simp [makeAlong, next, up]
  · have ahead : next place name = place ++ [name] := if_neg up
    rw [ahead]
    cases long : isLong name with
    | true => exact .inr (.inr ⟨.inl rfl, .nameTooLong, by simp [makeAlong, up, long]⟩)
    | false =>
      rcases he : d.entry? (place ++ [name]) with _ | ⟨bytes, time⟩ | _
      · exact .inr (.inl ⟨rfl, rfl, by simp [makeAlong, up, long, he]⟩)
      · refine .inr (.inr ⟨.inr fun none => none bytes time he, ?_⟩)
        simp [makeAlong, up, long, he]
      · exact .inl ⟨.inr ⟨rfl, rfl⟩, by simp [makeAlong, up, long, he]⟩

/-- What making directories does to a place: nothing, or it puts a directory where
nothing was. -/
theorem entry_makeAlong (d : Disk) (place : Place) (names : List Points) (q : Place) :
    entry? (d.makeAlong place names).1 q = d.entry? q ∨
      q ∈ trail place names ∧ d.entry? q = none ∧
        entry? (d.makeAlong place names).1 q = some .directory := by
  induction names generalizing d place with
  | nil => exact .inl rfl
  | cons name rest ih =>
    rw [trail]
    rcases makeAlong_cons d place name rest with ⟨-, he⟩ | ⟨-, free, he⟩ | ⟨-, fault, he⟩
    · rw [he]
      exact (ih d _).imp_right fun h => ⟨.tail _ h.1, h.2⟩
    · rw [he]
      by_cases hq : q = next place name
      · -- Once it is made, the directory stays, whatever is made after it.
        right
        have made : entry? (d.put (next place name) .directory) q = some .directory := by
          rw [hq]
          exact entry_put_free .directory free
        refine ⟨hq ▸ .head _, hq ▸ free, ?_⟩
        rcases ih (d.put (next place name) .directory) (next place name) with same | ⟨-, -, new⟩
        · exact same.trans made
        · exact new
      · rw [← entry_put_ne d .directory hq]
        exact (ih _ _).imp_right fun h => ⟨.tail _ h.1, h.2⟩
    · rw [he]
      exact .inl rfl

theorem keeps_makeAlong (d : Disk) (place : Place) (names : List Points) :
    Keeps d (d.makeAlong place names).1 := by
  intro q directory
  rcases entry_makeAlong d place names q with same | ⟨-, free, -⟩
  · rw [same, directory]
  · simp [directory] at free

theorem keeps_put_directory (d : Disk) (q : Place) : Keeps d (d.put q .directory) := by
  intro other directory
  by_cases hq : other = q
  · subst hq
    cases base : isBase other with
    | true => exact entry_of_isBase _ base
    | false => exact entry_put_self d .directory base
  · rw [entry_put_ne d .directory hq, directory]

theorem now_makeAlong (d : Disk) (place : Place) (names : List Points) :
    (d.makeAlong place names).1.now = d.now := by
  induction names generalizing d place with
  | nil => rfl
  | cons name rest ih =>
    rcases makeAlong_cons d place name rest with ⟨-, he⟩ | ⟨-, -, he⟩ | ⟨-, fault, he⟩
    · rw [he, ih]
    · rw [he, ih]
      rfl
    · rw [he]

theorem grounded_next {name : Points} (h : Grounded d place)
    (there : name = ".." ∨ d.entry? (next place name) = some .directory) :
    Grounded d (next place name) := by
  by_cases up : name = ".."
  · rw [next, if_pos up]
    exact h.above
  · have directory := there.resolve_left up
    rw [next, if_neg up] at directory ⊢
    exact h.append directory

theorem grounded_put {name : Points} (h : Grounded d place)
    (free : d.entry? (next place name) = none) :
    Grounded (d.put (next place name) .directory) (next place name) := by
  have keeps := keeps_put_directory d (next place name)
  exact grounded_next (h.keeps keeps) (.inr (entry_put_free .directory free))

/-- Directories can be made along names that are not too long where no file stands
in the way. -/
theorem makeAlong_eq_none_iff {names : List Points} (h : Grounded d place) :
    (d.makeAlong place names).2 = none ↔
      (∀ q ∈ trail place names, NoFile d q) ∧ ∀ name ∈ names, isLong name = false := by
  induction names generalizing d place with
  | nil => simp [makeAlong, trail]
  | cons name rest ih =>
    rw [trail, List.forall_mem_cons, List.forall_mem_cons]
    rcases makeAlong_cons d place name rest with ⟨there, he⟩ | ⟨short, free, he⟩ | ⟨bad, _, he⟩
    · have grounded := grounded_next h (there.imp_right And.right)
      have here := noFile_of_directory grounded.directory
      have short : isLong name = false := by
        rcases there with rfl | ⟨short, -⟩
        · decide
        · exact short
      rw [he, ih grounded]
      simp [here, short]
    · have grounded := grounded_put h free
      have here : NoFile d (next place name) := by
        intro bytes time
        simp [free]
      -- A new directory is no file, and nothing else has changed.
      have same (q : Place) : NoFile (d.put (next place name) .directory) q ↔ NoFile d q := by
        by_cases hq : q = next place name
        · subst hq
          exact ⟨fun _ => here, fun _ => noFile_of_directory grounded.directory⟩
        · simp only [NoFile, entry_put_ne d .directory hq]
      rw [he, ih grounded]
      simp [here, short, same]
    · rw [he]
      rcases bad with long | file
      · simp [long]
      · simp [file]

/-- Along names that lead to a directory there is none to be made. -/
theorem makeAlong_of_walk {names : List Points} {q : Place} (h : d.walk place names = .ok q)
    (directory : d.entry? q = some .directory) : d.makeAlong place names = (d, none) := by
  induction names generalizing place with
  | nil => rfl
  | cons name rest ih =>
    obtain ⟨-, short, onward⟩ := walk_cons_eq_ok h
    have there : d.entry? (next place name) = some .directory := by
      cases rest with
      | nil =>
        obtain rfl := Except.ok.inj onward
        exact directory
      | cons name' rest => exact (walk_cons_eq_ok onward).1
    rcases makeAlong_cons d place name rest with ⟨-, same⟩ | ⟨-, free, -⟩ | ⟨bad, -⟩
    · rw [same, ih onward]
    · simp [there] at free
    · rcases bad with long | file
      · simp [short] at long
      · exact absurd (noFile_of_directory there) file

theorem walk_makeAlong {names : List Points} (h : Grounded d place)
    (made : (d.makeAlong place names).2 = none) :
    (d.makeAlong place names).1.walk place names = .ok (goal place names) ∧
      Grounded (d.makeAlong place names).1 (goal place names) := by
  induction names generalizing d place with
  | nil => exact ⟨rfl, h⟩
  | cons name rest ih =>
    have short := ((makeAlong_eq_none_iff h).mp made).2 name (by simp)
    have here := (h.keeps (keeps_makeAlong d place (name :: rest))).directory
    rw [walk_cons_of_directory rest here short]
    show _ ∧ Grounded _ (goal (next place name) rest)
    rcases makeAlong_cons d place name rest with ⟨there, he⟩ | ⟨-, free, he⟩ | ⟨-, _, he⟩
    · rw [he] at made ⊢
      exact ih (grounded_next h (there.imp_right And.right)) made
    · rw [he] at made ⊢
      exact ih (grounded_put h free) made
    · simp [he] at made

/-! ## Disks that are trees -/

/-- What stands on the disk stands in a directory. -/
def Tree (d : Disk) : Prop :=
  ∀ place e, d.entry? place = some e → d.entry? (above place) = some .directory

theorem Tree.around {name : Points} (tree : d.Tree) (down : name ≠ "..")
    (h : d.entry? (place ++ [name]) ≠ none) : d.entry? place = some .directory := by
  obtain ⟨e, he⟩ := Option.ne_none_iff_exists'.mp h
  cases base : isBase (place ++ [name]) with
  | false => exact above_append base ▸ tree _ e he
  | true =>
    have root : place = [] := by
      simp only [isBase, Bool.or_eq_true, decide_eq_true_eq, List.all_append] at base
      rcases base with root | up
      · simpa using congrArg List.length root
      · simp [down] at up
    rw [root]
    exact entry_of_isBase d rfl

/-- On a tree, names without `..` lead to where something stands. -/
theorem Tree.walk {names : List Points} (tree : d.Tree) (down : (".." : Points) ∉ names)
    (short : ∀ name ∈ names, isLong name = false) (h : d.entry? (goal place names) ≠ none) :
    d.walk place names = .ok (goal place names) := by
  -- From the end of the names: that something stands at a place makes the place
  -- around it a directory, and so on back to the start.
  induction names using List.reverseRecOn with
  | nil => rfl
  | append_singleton names name ih =>
    have last : next (goal place names) name = goal place names ++ [name] :=
      if_neg fun up => down (by simp [up])
    have ahead : goal place (names ++ [name]) = goal place names ++ [name] := by
      rw [goal, List.foldl_concat]
      exact last
    rw [ahead] at h ⊢
    have directory := tree.around (fun up => down (by simp [up])) h
    have arrived := ih (fun up => down (by simp [up])) (fun n hn => short n (by simp [hn]))
      (by simp [directory])
    rw [walk_append, arrived]
    show d.walk (goal place names) [name] = _
    rw [walk_cons_of_directory [] directory (short name (by simp)), last]
    rfl

theorem length_next_le (place : Place) (name : Points) :
    (next place name).length ≤ place.length + 1 := by
  unfold next above
  split
  · split
    · omega
    · split
      · simp
      · simp
        omega
  · simp

theorem length_le_of_mem_trail {names : List Points} {q : Place} (h : q ∈ trail place names) :
    q.length ≤ place.length + names.length := by
  induction names generalizing place with
  | nil => simp [trail] at h
  | cons name rest ih =>
    have one := length_next_le place name
    rcases List.mem_cons.mp h with rfl | h
    · simp only [List.length_cons]
      omega
    · have more := ih h
      simp only [List.length_cons]
      omega

theorem length_goal {names : List Points} (down : (".." : Points) ∉ names) :
    (goal place names).length = place.length + names.length := by
  induction names generalizing place with
  | nil => rfl
  | cons name rest ih =>
    have ahead : next place name = place ++ [name] := if_neg fun up => down (by simp [up])
    show (goal (next place name) rest).length = _
    rw [ih fun up => down (by simp [up]), ahead, List.length_append]
    simp only [List.length_cons, List.length_nil]
    omega

/-! ## Files that are saved -/

theorem makeDirectories_of_accept (d : Disk) (h : accept p = .ok ()) :
    d.makeDirectories p = d.makeAlong (startOf p) p.parts := by
  rw [makeDirectories, h]

theorem accept_of_makeDirectories (h : (d.makeDirectories p).2 = none) : accept p = .ok () := by
  unfold makeDirectories at h
  split at h
  · simp at h
  · assumption

theorem entry_makeDirectories (d : Disk) (p : Path) (q : Place) :
    entry? (d.makeDirectories p).1 q = d.entry? q ∨
      q ∈ trailOf p ∧ d.entry? q = none ∧ entry? (d.makeDirectories p).1 q = some .directory := by
  unfold makeDirectories
  split
  · exact .inl rfl
  · exact entry_makeAlong d (startOf p) p.parts q

theorem keeps_makeDirectories (d : Disk) (p : Path) : Keeps d (d.makeDirectories p).1 := by
  intro q directory
  rcases entry_makeDirectories d p q with same | ⟨-, free, -⟩
  · rw [same, directory]
  · simp [directory] at free

theorem now_makeDirectories (d : Disk) (p : Path) : (d.makeDirectories p).1.now = d.now := by
  unfold makeDirectories
  split
  · rfl
  · exact now_makeAlong d _ _

theorem walk_makeDirectories (made : (d.makeDirectories p).2 = none) :
    (d.makeDirectories p).1.walk (startOf p) p.parts = .ok (placeOf p) ∧
      (d.makeDirectories p).1.Grounded (placeOf p) := by
  have accepted := accept_of_makeDirectories made
  rw [makeDirectories_of_accept d accepted] at made ⊢
  exact walk_makeAlong (grounded_startOf d p) made

/-- A file that was written is found at its place, where no directory was, and
nothing else is changed. -/
theorem write_eq_ok {bytes : ByteArray} (h : d.write p bytes = .ok d') :
    d.locate p = .ok (placeOf p) ∧ d.entry? (placeOf p) ≠ some .directory ∧
      d' = d.put (placeOf p) (.file bytes d.now) := by
  unfold write at h
  cases hl : d.locate p with
  | error fault => simp [hl, bind, Except.bind] at h
  | ok q =>
    obtain ⟨-, rfl, -⟩ := locate_eq_placeOf hl
    simp only [hl, bind, Except.bind] at h
    split at h
    · simp at h
    · next other => exact ⟨rfl, fun directory => other directory, (Except.ok.inj h).symm⟩

theorem keeps_write {bytes : ByteArray} (h : d.write p bytes = .ok d') : Keeps d d' := by
  obtain ⟨-, other, rfl⟩ := write_eq_ok h
  intro q directory
  have hq : q ≠ placeOf p := fun same => other (same ▸ directory)
  rw [entry_put_ne d _ hq, directory]

/-- Why the disk does not take a file, if so. -/
def refusal (d : Disk) (p : Path) : Option DiskFault := (d.save p ByteArray.empty).2

/-- Whether a file can be saved does not depend on what it holds. -/
theorem snd_save (d : Disk) (p : Path) (bytes : ByteArray) : (d.save p bytes).2 = d.refusal p := by
  unfold refusal save
  rcases d.makeDirectories p.parent with ⟨d₁, fault⟩
  cases fault with
  | some fault => rfl
  | none =>
    dsimp only
    unfold write
    cases d₁.locate p with
    | error fault => rfl
    | ok place =>
      rcases he : d₁.entry? place with _ | ⟨_, _⟩ | _ <;>
        simp [he, bind, Except.bind, pure, Except.pure]

/-- What saving a file does to a place: nothing, or it puts a directory on the way
to the file where nothing was, or it puts the file at its place. -/
theorem entry_save (d : Disk) (p : Path) (bytes : ByteArray) (q : Place) :
    entry? (d.save p bytes).1 q = d.entry? q ∨
      (q ∈ trailOf p.parent ∧ d.entry? q = none ∧
        entry? (d.save p bytes).1 q = some .directory) ∨
      q = placeOf p ∧ d.entry? q ≠ some .directory := by
  have around := entry_makeDirectories d p.parent q
  unfold save
  rcases hm : d.makeDirectories p.parent with ⟨d₁, fault⟩
  rw [hm] at around
  cases fault with
  | some fault => exact around.imp_right .inl
  | none =>
    dsimp only
    cases hw : d₁.write p bytes with
    | error fault => exact around.imp_right .inl
    | ok d₂ =>
      obtain ⟨-, other, rfl⟩ := write_eq_ok hw
      by_cases hq : q = placeOf p
      · subst hq
        refine .inr (.inr ⟨rfl, fun directory => other ?_⟩)
        rcases around with same | ⟨-, free, -⟩
        · rw [same, directory]
        · simp [directory] at free
      · dsimp only
        rw [entry_put_ne d₁ _ hq]
        exact around.imp_right .inl

theorem keeps_save (d : Disk) (p : Path) (bytes : ByteArray) : Keeps d (d.save p bytes).1 := by
  intro q directory
  rcases entry_save d p bytes q with same | ⟨-, free, -⟩ | ⟨-, other⟩
  · rw [same, directory]
  · simp [directory] at free
  · exact absurd directory other

/-- A file that is refused leaves nothing but the directories around it. -/
theorem save_of_refused {bytes : ByteArray} {fault : DiskFault}
    (refused : (d.save p bytes).2 = some fault) :
    (d.save p bytes).1 = (d.makeDirectories p.parent).1 := by
  unfold save at refused ⊢
  rcases hm : d.makeDirectories p.parent with ⟨d₁, _ | fault⟩
  · rw [hm] at refused
    dsimp only at refused ⊢
    cases hw : d₁.write p bytes with
    | error fault => rfl
    | ok d₂ => simp [hw] at refused
  · rfl

theorem status_save {bytes : ByteArray} (h : (d.save p bytes).2 = none) :
    (d.save p bytes).1.status p = .ok (.file bytes d.now) := by
  unfold save at h ⊢
  rcases hm : d.makeDirectories p.parent with ⟨d₁, fault⟩
  have now : d₁.now = d.now := by rw [← now_makeDirectories d p.parent, hm]
  rw [hm] at h
  cases fault with
  | some fault => simp at h
  | none =>
    dsimp only at h ⊢
    cases hw : d₁.write p bytes with
    | error fault => simp [hw] at h
    | ok d₂ =>
      -- No directory was at the place, so the way to it is still there.
      have keeps := keeps_write hw
      obtain ⟨located, other, rfl⟩ := write_eq_ok hw
      have here := entry_put_self d₁ (.file bytes d₁.now) (not_isBase_of_entry other)
      rw [← now]
      exact status_of_locate (keeps.locate located) here

end Reroute.Disk
