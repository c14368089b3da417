import Inkwell.Proofs.Cache.Recency
import Inkwell.Proofs.Glyph.Acceptance

/-!
# Sheets as last-write-wins maps

A sheet keeps its drawings in an array and the ids of the sequences in a table beside
it.  What it shows can be told from the insertions it accepted alone: a sequence has
the place of its first accepted insertion among the distinct ones as its id, and the
drawing of its last.

The ledger of accepted insertions is kept by a rule of its own.  A sheet follows its
ledger through every sequence of insertions, refused ones included.
-/

namespace Inkwell

/-- A list with one more element holds the old ones in their places and the new one
after them. -/
theorem getElem?_concat_eq_some_iff {α : Type} {l : List α} {last a : α} {i : Nat} :
    (l ++ [last])[i]? = some a ↔ l[i]? = some a ∨ (i = l.length ∧ last = a) := by
  rw [List.getElem?_append]
  split
  · rename_i inside
    have notLast : i ≠ l.length := Nat.ne_of_lt inside
    simp [notLast]
  · rename_i outside
    rw [List.getElem?_eq_none (Nat.le_of_not_lt outside), List.getElem?_singleton]
    split
    · have isLast : i = l.length := by omega
      simp [isLast]
    · have notLast : i ≠ l.length := by omega
      simp [notLast]

/-! ## Ledgers -/

/-- Accepted insertions, in order. -/
abbrev Ledger := List (List Char × Drawing)

namespace Ledger

/-- The distinct sequences, in the order in which they were first accepted. -/
def sequences (l : Ledger) : List (List Char) := (l.map Prod.fst).eraseDups

/-- The drawing that was accepted last for a sequence. -/
def latest? (l : Ledger) (sequence : List Char) : Option Drawing :=
  l.reverse.lookup sequence

/-- A drawing for the sequence is accepted: it holds one or two characters, and it is
known or there is an id left for it. -/
def accepts (l : Ledger) (sequence : List Char) : Bool :=
  (sequence.length == 1 || sequence.length == 2) &&
    (decide (sequence ∈ l.sequences) || decide (l.sequences.length < 65536))

/-- Enter an insertion if it is accepted. -/
def enter (l : Ledger) (insertion : List Char × Drawing) : Ledger :=
  if l.accepts insertion.1 then l ++ [insertion] else l

/-- The ledger of insertions into an empty sheet. -/
def ofInsertions (insertions : List (List Char × Drawing)) : Ledger :=
  insertions.foldl enter []

theorem ofInsertions_concat (insertions : List (List Char × Drawing))
    (insertion : List Char × Drawing) :
    ofInsertions (insertions ++ [insertion]) = (ofInsertions insertions).enter insertion := by
  rw [ofInsertions, List.foldl_append, List.foldl_cons, List.foldl_nil]
  rfl

variable {l : Ledger} {sequence : List Char}

theorem mem_sequences_iff : sequence ∈ l.sequences ↔ sequence ∈ l.map Prod.fst :=
  List.mem_eraseDups

theorem nodup_sequences (l : Ledger) : l.sequences.Nodup :=
  nodup_eraseDups _

/-- A sequence stands in one place. -/
theorem place_unique {i j : Nat} (first : l.sequences[i]? = some sequence)
    (second : l.sequences[j]? = some sequence) : i = j := by
  obtain ⟨inside, _⟩ := List.getElem?_eq_some_iff.mp first
  exact (List.getElem?_inj inside l.nodup_sequences).mp (first.trans second.symm)

/-- A known sequence stays where it is, and a new one comes last. -/
theorem sequences_concat (l : Ledger) (sequence : List Char) (drawing : Drawing) :
    sequences (l ++ [(sequence, drawing)]) =
      if sequence ∈ l.sequences then l.sequences else l.sequences ++ [sequence] := by
  rw [sequences, List.map_append, List.eraseDups_append, ← sequences]
  by_cases known : sequence ∈ l.sequences
  · have listed := mem_sequences_iff.mp known
    rw [if_pos known]
    simp [List.removeAll, listed]
  · have notListed : sequence ∉ l.map Prod.fst := fun listed =>
      known (mem_sequences_iff.mpr listed)
    rw [if_neg known]
    simp [List.removeAll, notListed, List.eraseDups_cons]

/-- No sequence ever changes its place. -/
theorem sequences_enter {i : Nat} (insertion : List Char × Drawing)
    (placed : l.sequences[i]? = some sequence) :
    (l.enter insertion).sequences[i]? = some sequence := by
  unfold enter
  split
  · rw [sequences_concat]
    split
    · exact placed
    · exact getElem?_concat_eq_some_iff.mpr (.inl placed)
  · exact placed

theorem latest?_concat (l : Ledger) (sequence other : List Char) (drawing : Drawing) :
    latest? (l ++ [(sequence, drawing)]) other =
      if other = sequence then some drawing else l.latest? other := by
  rw [latest?, List.reverse_append, List.reverse_singleton, List.singleton_append,
    List.lookup_cons]
  by_cases same : other = sequence
  · simp [same]
  · rw [beq_false_of_ne same, if_neg same]
    rfl

theorem accepts_iff :
    l.accepts sequence = true ↔ (sequence.length = 1 ∨ sequence.length = 2) ∧
      (sequence ∈ l.sequences ∨ l.sequences.length < 65536) := by
  simp [accepts]

end Ledger

/-! ## Sheets that follow a ledger -/

namespace Sheet

/-- The sheet shows what a ledger says. -/
structure Follows (s : Sheet) (l : Ledger) : Prop where
  size_eq : s.drawings.size = l.sequences.length
  size_le : l.sequences.length ≤ 65536
  /-- The id of a sequence is its place. -/
  id_iff : ∀ (sequence : List Char) (id : UInt16),
    s.ids[String.ofList sequence]? = some id ↔ l.sequences[id.toNat]? = some sequence
  /-- The drawing of a sequence is the one that was accepted last. -/
  drawing_eq : ∀ {i : Nat} {sequence : List Char}, l.sequences[i]? = some sequence →
    s.drawings[i]? = l.latest? sequence

variable {s after : Sheet} {l : Ledger} {sequence : List Char} {drawing : Drawing}
  {id : UInt16}

theorem follows_create (name : String) (design : UInt16) (metrics : LineMetrics) :
    (create name design metrics).Follows [] where
  size_eq := rfl
  size_le := Nat.zero_le _
  id_iff sequence id := by simp [create, Ledger.sequences]
  drawing_eq placed := by cases placed

/-- A sequence has an id precisely when it is listed. -/
theorem Follows.known_iff (follows : s.Follows l) :
    s.ids.contains (String.ofList sequence) = true ↔ sequence ∈ l.sequences := by
  rw [Std.HashMap.contains_eq_isSome_getElem?, Option.isSome_iff_exists]
  constructor
  · rintro ⟨id, known⟩
    exact List.mem_of_getElem? ((follows.id_iff sequence id).mp known)
  · intro listed
    obtain ⟨i, inside, rfl⟩ := List.getElem_of_mem listed
    have small : i < 65536 := Nat.lt_of_lt_of_le inside follows.size_le
    refine ⟨UInt16.ofNat i, (follows.id_iff _ _).mpr ?_⟩
    rw [UInt16.toNat_ofNat_of_lt' small]
    exact List.getElem?_eq_getElem inside

/-- A sheet follows its ledger when a known sequence gets another drawing. -/
theorem Follows.replace (follows : s.Follows l)
    (known : s.ids[String.ofList sequence]? = some id) :
    Follows { s with drawings := s.drawings.setIfInBounds id.toNat drawing }
      (l ++ [(sequence, drawing)]) := by
  have placed := (follows.id_iff sequence id).mp known
  have listed := List.mem_of_getElem? placed
  have sameSequences : Ledger.sequences (l ++ [(sequence, drawing)]) = l.sequences := by
    rw [Ledger.sequences_concat, if_pos listed]
  constructor
  case size_eq =>
    rw [sameSequences, Array.size_setIfInBounds]
    exact follows.size_eq
  case size_le =>
    rw [sameSequences]
    exact follows.size_le
  case id_iff =>
    rw [sameSequences]
    exact follows.id_iff
  case drawing_eq =>
    intro i other place
    rw [sameSequences] at place
    rw [Ledger.latest?_concat, Array.getElem?_setIfInBounds]
    by_cases same : other = sequence
    · subst other
      have inside : id.toNat < s.drawings.size := by
        rw [follows.size_eq]
        exact (List.getElem?_eq_some_iff.mp placed).1
      rw [if_pos rfl, if_pos (Ledger.place_unique placed place), if_pos inside]
    · have apart : id.toNat ≠ i := by
        rintro rfl
        exact same (Option.some.inj (place.symm.trans placed))
      rw [if_neg same, if_neg apart]
      exact follows.drawing_eq place

/-- A sheet follows its ledger when a new sequence gets the next id. -/
theorem Follows.append (follows : s.Follows l) (new : sequence ∉ l.sequences)
    (room : l.sequences.length < 65536) :
    Follows
      { s with
        drawings := s.drawings.push drawing
        ids := s.ids.insert (String.ofList sequence) (UInt16.ofNat s.drawings.size) }
      (l ++ [(sequence, drawing)]) := by
  have moreSequences : Ledger.sequences (l ++ [(sequence, drawing)]) =
      l.sequences ++ [sequence] := by
    rw [Ledger.sequences_concat, if_neg new]
  have nextId : (UInt16.ofNat s.drawings.size).toNat = l.sequences.length := by
    rw [follows.size_eq, UInt16.toNat_ofNat_of_lt' room]
  constructor
  case size_eq =>
    rw [moreSequences, Array.size_push, follows.size_eq, List.length_append,
      List.length_singleton]
  case size_le =>
    rw [moreSequences, List.length_append, List.length_singleton]
    exact room
  case id_iff =>
    intro other id
    rw [moreSequences, getElem?_concat_eq_some_iff, Std.HashMap.getElem?_insert]
    by_cases same : sequence = other
    · subst other
      have notPlaced : l.sequences[id.toNat]? ≠ some sequence := fun placed =>
        new (List.mem_of_getElem? placed)
      rw [if_pos (beq_self_eq_true _), Option.some.injEq, ← UInt16.toNat_inj, nextId]
      simp [notPlaced, eq_comm]
    · have apart : ¬ (String.ofList sequence == String.ofList other) = true := by
        rw [beq_iff_eq, String.ofList_inj]
        exact same
      rw [if_neg apart, follows.id_iff]
      simp [same]
  case drawing_eq =>
    intro i other place
    rw [moreSequences, getElem?_concat_eq_some_iff] at place
    rw [Ledger.latest?_concat, Array.getElem?_push, follows.size_eq]
    rcases place with placed | ⟨rfl, rfl⟩
    · have apart : i ≠ l.sequences.length :=
        Nat.ne_of_lt (List.getElem?_eq_some_iff.mp placed).1
      have different : other ≠ sequence := by
        rintro rfl
        exact new (List.mem_of_getElem? placed)
      rw [if_neg apart, if_neg different]
      exact follows.drawing_eq placed
    · rw [if_pos rfl, if_pos rfl]

/-- A drawing that is accepted is entered, and its sequence gets its place as id. -/
theorem Follows.put (follows : s.Follows l) (drawing : Drawing)
    (accepted : l.accepts sequence = true) :
    (s.put sequence drawing).2.Follows (l ++ [(sequence, drawing)]) ∧
      (Ledger.sequences (l ++ [(sequence, drawing)]))[(s.put sequence drawing).1.toNat]? =
        some sequence := by
  have entered : (s.put sequence drawing).2.Follows (l ++ [(sequence, drawing)]) ∧
      (s.put sequence drawing).2.ids[String.ofList sequence]? =
        some (s.put sequence drawing).1 := by
    unfold Sheet.put
    split
    · rename_i id known
      exact ⟨follows.replace known, known⟩
    · rename_i unknown
      have new : sequence ∉ l.sequences := by
        rw [← follows.known_iff, Std.HashMap.contains_eq_isSome_getElem?, unknown]
        exact Bool.false_ne_true
      have room := (Ledger.accepts_iff.mp accepted).2.resolve_left new
      exact ⟨follows.append new room, Std.HashMap.getElem?_insert_self⟩
  exact ⟨entered.1, (entered.1.id_iff _ _).mp entered.2⟩

/-- What an insertion does: it is accepted, or refused for the length of its sequence
or because the sequence is new and no id is left. -/
theorem Follows.insert_eq (follows : s.Follows l) (sequence : List Char)
    (drawing : Drawing) :
    s.insert sequence drawing =
      if l.accepts sequence then .ok (s.put sequence drawing)
      else .error (if sequence.length = 1 ∨ sequence.length = 2 then .full s.name
        else .sequenceLength sequence) := by
  unfold Sheet.insert refusal?
  simp only [follows.known_iff, follows.size_eq, maxSequence, Ledger.accepts_iff]
  by_cases short : sequence.length = 1 ∨ sequence.length = 2
  · have notRefused : ¬ (sequence.length = 0 ∨ 2 < sequence.length) := by omega
    rw [if_neg notRefused]
    by_cases fits : sequence ∈ l.sequences ∨ l.sequences.length < 65536
    · rw [if_pos fits.symm, if_pos ⟨short, fits⟩]
    · rw [if_neg fun room => fits room.symm, if_neg fun accepted => fits accepted.2,
        if_pos short]
  · have refused : sequence.length = 0 ∨ 2 < sequence.length := by omega
    rw [if_pos refused, if_neg fun accepted => short accepted.1, if_neg short]

/-- When an insertion is refused. -/
theorem Follows.insert_eq_error_iff (follows : s.Follows l) {e : SheetError} :
    s.insert sequence drawing = .error e ↔
      (sequence.length ≠ 1 ∧ sequence.length ≠ 2 ∧ e = .sequenceLength sequence) ∨
      ((sequence.length = 1 ∨ sequence.length = 2) ∧
        sequence ∉ l.map Prod.fst ∧ s.size = 65536 ∧ e = .full s.name) := by
  have size_eq : s.size = l.sequences.length := follows.size_eq
  have size_le := follows.size_le
  rw [follows.insert_eq, ← Ledger.mem_sequences_iff, size_eq]
  simp only [Ledger.accepts_iff]
  by_cases short : sequence.length = 1 ∨ sequence.length = 2
  · simp only [if_pos short]
    grind
  · simp only [if_neg short]
    grind

/-- A refused insertion is not entered. -/
theorem Follows.enter_of_error (follows : s.Follows l) {e : SheetError}
    (refused : s.insert sequence drawing = .error e) : l.enter (sequence, drawing) = l := by
  rw [follows.insert_eq] at refused
  split at refused
  · cases refused
  · rename_i notAccepted
    exact if_neg notAccepted

/-- Any other insertion is entered, and its id is the place of its sequence. -/
theorem Follows.enter_of_ok (follows : s.Follows l)
    (inserted : s.insert sequence drawing = .ok (id, after)) :
    l.enter (sequence, drawing) = l ++ [(sequence, drawing)] ∧
      (Ledger.sequences (l ++ [(sequence, drawing)]))[id.toNat]? = some sequence := by
  rw [follows.insert_eq] at inserted
  split at inserted
  · rename_i accepted
    obtain ⟨_, placed⟩ := follows.put drawing accepted
    rw [Except.ok.inj inserted] at placed
    exact ⟨if_pos accepted, placed⟩
  · cases inserted

/-- Try insertions one after the other.  A refused one leaves the sheet as it is. -/
def insertAll (s : Sheet) : List (List Char × Drawing) → Sheet
  | [] => s
  | (sequence, drawing) :: rest =>
      match s.insert sequence drawing with
      | .error _ => s.insertAll rest
      | .ok (_, after) => after.insertAll rest

theorem insertAll_append (s : Sheet) (first second : List (List Char × Drawing)) :
    s.insertAll (first ++ second) = (s.insertAll first).insertAll second := by
  induction first generalizing s with
  | nil => rfl
  | cons insertion rest inductionHypothesis =>
      rw [List.cons_append, insertAll, insertAll]
      split
      · exact inductionHypothesis s
      · exact inductionHypothesis _

/-- One insertion more is one entry more, if it is accepted. -/
theorem Follows.insertAll_one (follows : s.Follows l)
    (insertion : List Char × Drawing) :
    (s.insertAll [insertion]).Follows (l.enter insertion) := by
  rcases insertion with ⟨sequence, drawing⟩
  rw [insertAll, follows.insert_eq, Ledger.enter]
  cases accepted : l.accepts sequence with
  | true => exact (follows.put drawing accepted).1
  | false => exact follows

/-- A sheet follows its ledger through every sequence of insertions. -/
theorem Follows.insertAll (follows : s.Follows l)
    (insertions : List (List Char × Drawing)) :
    (s.insertAll insertions).Follows (insertions.foldl Ledger.enter l) := by
  induction insertions generalizing s l with
  | nil => exact follows
  | cons insertion rest inductionHypothesis =>
      rw [← List.singleton_append, insertAll_append]
      exact inductionHypothesis (follows.insertAll_one insertion)

/-- The ids of a sheet that follows a ledger are places in it. -/
theorem Follows.glyphFor?_eq_some_iff (follows : s.Follows l) {cluster : Cluster} :
    s.glyphFor? cluster = some id ↔ l.sequences[id.toNat]? = some cluster.scalars :=
  follows.id_iff cluster.scalars id

theorem Follows.isSome_glyphFor? (follows : s.Follows l) (cluster : Cluster) :
    (s.glyphFor? cluster).isSome = true ↔ cluster.scalars ∈ l.map Prod.fst := by
  rw [← Ledger.mem_sequences_iff, ← follows.known_iff,
    Std.HashMap.contains_eq_isSome_getElem?]
  rfl

/-- A glyph that is found has the drawing that was accepted last for its characters. -/
theorem Follows.exists_drawing (follows : s.Follows l) {cluster : Cluster}
    (found : s.glyphFor? cluster = some id) :
    ∃ drawing, s.drawings[id.toNat]? = some drawing ∧
      l.latest? cluster.scalars = some drawing := by
  have placed := follows.glyphFor?_eq_some_iff.mp found
  have inside : id.toNat < s.drawings.size := by
    rw [follows.size_eq]
    exact (List.getElem?_eq_some_iff.mp placed).1
  have shown := Array.getElem?_eq_getElem inside
  exact ⟨_, shown, (follows.drawing_eq placed).symm.trans shown⟩

/-- No glyph ever changes its id. -/
theorem Follows.glyphFor?_insertAll (follows : s.Follows l) {cluster : Cluster}
    (found : s.glyphFor? cluster = some id) (insertions : List (List Char × Drawing)) :
    (s.insertAll insertions).glyphFor? cluster = some id := by
  have placed := follows.glyphFor?_eq_some_iff.mp found
  rw [(follows.insertAll insertions).glyphFor?_eq_some_iff]
  clear follows found
  induction insertions generalizing l with
  | nil => exact placed
  | cons insertion rest inductionHypothesis =>
      exact inductionHypothesis (Ledger.sequences_enter insertion placed)

/-- Take any insertions into an empty sheet, and the ledger of those that are accepted.
Any further insertion is refused precisely when its sequence does not hold one or two
characters, or is new while 65536 drawings are there; then sheet and ledger stay as
they are.  Otherwise it is entered, and the sequence gets as its id its place among
the distinct ones in the order of their first entries.  The sheet has as many drawings as
there are distinct sequences.  The glyph of a cluster is found precisely when all its
characters together were accepted as a sequence; its id is the place of that sequence
now and after any further insertions, and its drawing is the one accepted last.  So no
pair is matched by an entry for its first character alone. -/
theorem insertions_are_last_write_wins (name : String) (design : UInt16)
    (metrics : LineMetrics) (insertions : List (List Char × Drawing)) :
    let s := (create name design metrics).insertAll insertions
    let l := Ledger.ofInsertions insertions
    (∀ sequence drawing,
      (∀ e, s.insert sequence drawing = .error e ↔
        (sequence.length ≠ 1 ∧ sequence.length ≠ 2 ∧ e = .sequenceLength sequence) ∨
        ((sequence.length = 1 ∨ sequence.length = 2) ∧
          sequence ∉ l.map Prod.fst ∧ s.size = 65536 ∧ e = .full s.name)) ∧
      (∀ e, s.insert sequence drawing = .error e →
        (create name design metrics).insertAll (insertions ++ [(sequence, drawing)]) = s ∧
        Ledger.ofInsertions (insertions ++ [(sequence, drawing)]) = l) ∧
      ∀ id after, s.insert sequence drawing = .ok (id, after) →
        (create name design metrics).insertAll (insertions ++ [(sequence, drawing)]) =
          after ∧
        Ledger.ofInsertions (insertions ++ [(sequence, drawing)]) =
          l ++ [(sequence, drawing)] ∧
        (Ledger.sequences (l ++ [(sequence, drawing)]))[id.toNat]? = some sequence) ∧
    s.size = l.sequences.length ∧
    (∀ cluster, (s.glyphFor? cluster).isSome = true ↔
      cluster.scalars ∈ l.map Prod.fst) ∧
    (∀ cluster id, s.glyphFor? cluster = some id →
      l.sequences[id.toNat]? = some cluster.scalars ∧
      (∃ drawing, s.drawings[id.toNat]? = some drawing ∧
        l.latest? cluster.scalars = some drawing) ∧
      ∀ more, (s.insertAll more).glyphFor? cluster = some id) ∧
    ∀ first second start, [first, second] ∉ l.map Prod.fst →
      s.glyphFor? (.pair first second start) = none := by
  intro s l
  have follows : s.Follows l := (follows_create name design metrics).insertAll insertions
  have oneMore : ∀ insertion,
      (create name design metrics).insertAll (insertions ++ [insertion]) =
        s.insertAll [insertion] := fun insertion =>
    insertAll_append _ insertions [insertion]
  refine ⟨fun sequence drawing => ⟨fun e => follows.insert_eq_error_iff, ?_, ?_⟩,
    follows.size_eq, follows.isSome_glyphFor?, ?_, ?_⟩
  · intro e refused
    rw [oneMore, insertAll, refused, Ledger.ofInsertions_concat]
    exact ⟨rfl, follows.enter_of_error refused⟩
  · intro id after inserted
    rw [oneMore, insertAll, inserted, Ledger.ofInsertions_concat]
    exact ⟨rfl, follows.enter_of_ok inserted⟩
  · intro cluster id found
    exact ⟨follows.glyphFor?_eq_some_iff.mp found, follows.exists_drawing found,
      follows.glyphFor?_insertAll found⟩
  · intro first second start absent
    rw [← Option.not_isSome_iff_eq_none, follows.isSome_glyphFor?]
    exact absent

end Sheet

end Inkwell
