import Inkwell.Proofs.Text.Seam
import Mathlib.Data.List.Basic

/-!
# Clusters as a greedy pairing

Splitting reads a text from left to right with one character of lookahead.  What comes
out can be said without reference to the reading: the text is cut into groups of one or
two characters, every pair is matched by a rule, and no character on its own is matched
with the one after it.  A text has precisely one such pairing, so that of a rule table
only the pairs it matches count.
-/

namespace Inkwell

namespace RuleTable

variable {table : RuleTable}

/-- Some rule of the table matches the pair. -/
def Matches (table : RuleTable) (c d : Char) : Prop :=
  ∃ rule ∈ table.rules, rule.joins c d = true

theorem joins_iff_matches {c d : Char} :
    table.joins c d = true ↔ table.Matches c d := by
  simp [joins, find?, Matches]

/-- The groups are a text, cut into matched pairs and characters that are not matched
with the next one. -/
structure Greedy (table : RuleTable) (cs : List Char) (groups : List (List Char)) :
    Prop where
  length_eq : ∀ group ∈ groups, group.length = 1 ∨ group.length = 2
  flatten_eq : groups.flatten = cs
  matched : ∀ c d, [c, d] ∈ groups → table.Matches c d
  unmatched : ∀ i c d rest, groups[i]? = some [c] →
    groups[i + 1]? = some (d :: rest) → ¬ table.Matches c d

/-! ## The first group -/

theorem greedy_nil_iff {groups : List (List Char)} :
    table.Greedy [] groups ↔ groups = [] := by
  constructor
  · intro greedy
    cases groups with
    | nil => rfl
    | cons group others =>
        have length_eq := greedy.length_eq group List.mem_cons_self
        have isNil := (List.append_eq_nil_iff.mp greedy.flatten_eq).1
        rw [isNil] at length_eq
        simp at length_eq
  · rintro rfl
    constructor <;> simp

/-- The first character of a paired text begins its first group. -/
theorem Greedy.mem_head?_iff {cs : List Char} {groups : List (List Char)}
    (greedy : table.Greedy cs groups) {d : Char} :
    d ∈ cs.head? ↔ ∃ rest, groups[0]? = some (d :: rest) := by
  rw [← greedy.flatten_eq]
  cases groups with
  | nil => simp
  | cons group others =>
      cases group with
      | nil => simpa using greedy.length_eq [] List.mem_cons_self
      | cons c rest => simp

/-- What follows the first group is a pairing by itself. -/
theorem Greedy.tail {cs group : List Char} {others : List (List Char)}
    (greedy : table.Greedy cs (group :: others)) :
    table.Greedy others.flatten others where
  length_eq other member := greedy.length_eq other (List.mem_cons_of_mem _ member)
  flatten_eq := rfl
  matched c d member := greedy.matched c d (List.mem_cons_of_mem _ member)
  unmatched i := greedy.unmatched (i + 1)

/-- A pairing with one more group before it. -/
theorem Greedy.cons {cs : List Char} {others : List (List Char)}
    (greedy : table.Greedy cs others) (group : List Char)
    (length_eq : group.length = 1 ∨ group.length = 2)
    (matched : ∀ c d, group = [c, d] → table.Matches c d)
    (unmatched : ∀ c, group = [c] → ∀ d ∈ cs.head?, ¬ table.Matches c d) :
    table.Greedy (group ++ cs) (group :: others) where
  length_eq := List.forall_mem_cons.mpr ⟨length_eq, greedy.length_eq⟩
  flatten_eq := by
    rw [List.flatten_cons, greedy.flatten_eq]
  matched c d member := by
    rcases List.mem_cons.mp member with isFirst | member
    · exact matched c d isFirst.symm
    · exact greedy.matched c d member
  unmatched i c d rest isSingle isNext := by
    cases i with
    | zero =>
        have beginsRest := greedy.mem_head?_iff.mpr ⟨rest, isNext⟩
        exact unmatched c (Option.some.inj isSingle) d beginsRest
    | succ i => exact greedy.unmatched i c d rest isSingle isNext

theorem Greedy.cons_pair {c d : Char} {cs : List Char} {others : List (List Char)}
    (greedy : table.Greedy cs others) (pair : table.Matches c d) :
    table.Greedy (c :: d :: cs) ([c, d] :: others) := by
  refine greedy.cons [c, d] (.inr rfl) ?_ ?_
  · rintro _ _ ⟨⟩
    exact pair
  · rintro _ ⟨⟩

theorem Greedy.cons_single {c : Char} {cs : List Char} {others : List (List Char)}
    (greedy : table.Greedy cs others) (single : ∀ d ∈ cs.head?, ¬ table.Matches c d) :
    table.Greedy (c :: cs) ([c] :: others) := by
  refine greedy.cons [c] (.inl rfl) ?_ ?_
  · rintro _ _ ⟨⟩
  · rintro _ ⟨⟩
    exact single

/-- The first group of a pairing is the first character if that is not matched with the
second, and both of them if it is. -/
theorem Greedy.first_group {c : Char} {cs : List Char} {groups : List (List Char)}
    (greedy : table.Greedy (c :: cs) groups) :
    (∃ others, groups = [c] :: others ∧ (∀ d ∈ cs.head?, ¬ table.Matches c d) ∧
      table.Greedy cs others) ∨
    ∃ d rest others, cs = d :: rest ∧ groups = [c, d] :: others ∧
      table.Matches c d ∧ table.Greedy rest others := by
  cases groups with
  | nil => cases greedy.flatten_eq
  | cons group others =>
      have whole : group ++ others.flatten = c :: cs := greedy.flatten_eq
      rcases greedy.length_eq group List.mem_cons_self with one | two
      · obtain ⟨a, rfl⟩ := List.length_eq_one_iff.mp one
        obtain ⟨rfl, rfl⟩ := List.cons.inj whole
        refine .inl ⟨others, rfl, fun d isNext => ?_, greedy.tail⟩
        obtain ⟨rest, isNext⟩ := greedy.tail.mem_head?_iff.mp isNext
        exact greedy.unmatched 0 a d rest rfl isNext
      · obtain ⟨a, d, rfl⟩ := List.length_eq_two.mp two
        obtain ⟨rfl, rfl⟩ := List.cons.inj whole
        exact .inr ⟨d, others.flatten, others, rfl, rfl,
          greedy.matched a d List.mem_cons_self, greedy.tail⟩

/-! ## The only pairing -/

/-- A text has at most one greedy pairing. -/
theorem Greedy.unique {cs : List Char} {groups others : List (List Char)}
    (greedy : table.Greedy cs groups) (other : table.Greedy cs others) :
    groups = others := by
  induction groups generalizing cs others with
  | nil =>
      obtain rfl : [] = cs := greedy.flatten_eq
      exact (greedy_nil_iff.mp other).symm
  | cons group rest inductionHypothesis =>
      cases cs with
      | nil => cases greedy_nil_iff.mp greedy
      | cons c cs =>
          -- Whether the first two characters are matched decides the first group of both.
          rcases greedy.first_group with
            ⟨_, ⟨⟩, single, greedy⟩ | ⟨d, _, _, rfl, ⟨⟩, pair, greedy⟩
          · rcases other.first_group with
              ⟨_, rfl, _, other⟩ | ⟨d, _, _, rfl, _, pair, _⟩
            · rw [inductionHypothesis greedy other]
            · exact absurd pair (single d rfl)
          · rcases other.first_group with
              ⟨_, _, single, _⟩ | ⟨_, _, _, ⟨⟩, rfl, _, other⟩
            · exact absurd pair (single d rfl)
            · rw [inductionHypothesis greedy other]

/-- Splitting makes a greedy pairing. -/
theorem greedy_segmentFrom (table : RuleTable) (start : Nat) (cs : List Char) :
    table.Greedy cs ((table.segmentFrom start cs).map Cluster.scalars) := by
  fun_induction segmentFrom table start cs with
  | case1 => exact greedy_nil_iff.mpr rfl
  | case2 start c =>
      refine (greedy_nil_iff.mpr rfl).cons_single fun d isNext => ?_
      cases isNext
  | case3 start c d rest joins cluster inductionHypothesis =>
      exact inductionHypothesis.cons_pair (joins_iff_matches.mp joins)
  | case4 start c d rest apart cluster inductionHypothesis =>
      refine inductionHypothesis.cons_single fun other isNext => ?_
      cases isNext
      exact fun pair => apart (joins_iff_matches.mpr pair)

/-- Tables that match the same pairs split every text alike. -/
theorem segmentFrom_congr {other : RuleTable}
    (same : ∀ c d, other.Matches c d ↔ table.Matches c d) (start : Nat)
    (cs : List Char) : other.segmentFrom start cs = table.segmentFrom start cs := by
  have sameJoins : ∀ c d, other.joins c d = table.joins c d := fun c d => by
    rw [Bool.eq_iff_iff, joins_iff_matches, joins_iff_matches]
    exact same c d
  fun_induction segmentFrom table start cs with
  | case1 => rfl
  | case2 start c => rfl
  | case3 start c d rest joins cluster inductionHypothesis =>
      rw [segmentFrom_of_joins ((sameJoins c d).trans joins), inductionHypothesis]
  | case4 start c d rest apart cluster inductionHypothesis =>
      rw [segmentFrom_of_apart (sameJoins c d ▸ apart), inductionHypothesis]

/-- Take any rules and any text.  Its clusters are one greedy pairing of the text and the
only one: groups of one or two characters that make up the text, where some rule matches
every pair, and no rule matches a character on its own with the first character of the
next group.  Hence any table that matches the same pairs makes the same clusters, and so
does any with the same rules in another order or number. -/
theorem clusters_are_only_greedy_pairing (table : RuleTable) (cs : List Char) :
    (∀ groups, table.Greedy cs groups ↔
      groups = (table.segment cs).map Cluster.scalars) ∧
    (∀ other : RuleTable, (∀ c d, other.Matches c d ↔ table.Matches c d) →
      other.segment cs = table.segment cs) ∧
    ∀ other : RuleTable, (∀ rule, rule ∈ other.rules ↔ rule ∈ table.rules) →
      other.segment cs = table.segment cs := by
  have made := table.greedy_segmentFrom 0 cs
  refine ⟨fun groups => ⟨fun greedy => greedy.unique made, ?_⟩,
    fun other samePairs => segmentFrom_congr samePairs 0 cs, fun other sameRules => ?_⟩
  · rintro rfl
    exact made
  · refine segmentFrom_congr (fun c d => ?_) 0 cs
    simp only [Matches, sameRules]

/-- The standard rules in another order, keycaps twice, and a rule whose range is
empty. -/
def crowded : RuleTable :=
  ⟨[JoinRule.keycap, ⟨"none", ⟨0x7A, 0x61⟩, CodeRange.any⟩, JoinRule.flag,
    JoinRule.keycap]⟩

theorem matches_crowded_iff (c d : Char) :
    crowded.Matches c d ↔ standard.Matches c d := by
  have empty : JoinRule.joins ⟨"none", ⟨0x7A, 0x61⟩, CodeRange.any⟩ c d = false := by
    simp only [JoinRule.joins, CodeRange.contains, UInt32.le_iff_toNat_le]
    grind
  simp only [Matches, crowded, standard, List.mem_cons, List.not_mem_nil, or_false,
    exists_eq_or_imp, exists_eq_left, empty, Bool.false_eq_true, false_or]
  grind

/-- A mark on its own, a flag, and a leftover indicator that joins the next mark. -/
def flagAndMarks : List Char :=
  [0x20E3, 0x1F1EE, 0x1F1F9, 0x1F1FA, 0x20E3].map Char.ofNat

theorem clusters_are_only_greedy_pairing_crowded :
    (standard.Greedy flagAndMarks
        ([[0x20E3], [0x1F1EE, 0x1F1F9], [0x1F1FA, 0x20E3]].map (·.map Char.ofNat)) ∧
      ¬ standard.Greedy flagAndMarks
        ([[0x20E3], [0x1F1EE], [0x1F1F9, 0x1F1FA], [0x20E3]].map (·.map Char.ofNat))) ∧
    crowded.segment flagAndMarks = standard.segment flagAndMarks ∧
    (RuleTable.mk [JoinRule.keycap, JoinRule.flag, JoinRule.keycap]).segment flagAndMarks =
      standard.segment flagAndMarks := by
  obtain ⟨only, samePairs, sameRules⟩ :=
    clusters_are_only_greedy_pairing standard flagAndMarks
  refine ⟨⟨(only _).mpr (by decide), fun greedy => ?_⟩, samePairs _ matches_crowded_iff,
    sameRules _ fun rule => ?_⟩
  · exact absurd ((only _).mp greedy) (by decide)
  · simp only [standard, List.mem_cons]
    grind

end RuleTable

end Inkwell
