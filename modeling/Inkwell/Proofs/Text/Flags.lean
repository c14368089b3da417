import Inkwell.Proofs.Text.Pairing

/-!
# Flags in runs of indicators

Under the standard rules two regional indicators make a flag, and any character takes a
keycap mark that follows it.  A run of indicators is paired from its left end, whatever
comes before it: no rule joins an indicator to a character that is none, so the scan
always comes to the first indicator of a run, and from there it moves on by two.
-/

namespace Inkwell

/-- The character is a regional indicator. -/
def IsIndicator (c : Char) : Prop := 0x1F1E6 ≤ c.toNat ∧ c.toNat ≤ 0x1F1FF

instance (c : Char) : Decidable (IsIndicator c) :=
  inferInstanceAs (Decidable (_ ∧ _))

/-- The mark that makes a keycap of the character before it. -/
def keycapMark : Char := '\u20E3'

namespace CodeRange

theorem contains_regionalIndicator_iff {c : Char} :
    regionalIndicator.contains c = true ↔ IsIndicator c := by
  simp only [contains, regionalIndicator, Bool.and_eq_true,
    decide_eq_true_eq, UInt32.le_iff_toNat_le]
  rfl

theorem contains_any (c : Char) : any.contains c = true := by
  have upper : c.val.toNat ≤ 0x10FFFF := by
    rcases c.valid with low | high
    · omega
    · omega
  simp only [contains, any, UInt32.le_iff_toNat_le]
  grind

theorem contains_single_iff {code : UInt32} {c : Char} :
    (single code).contains c = true ↔ c.val = code := by
  rw [contains, Bool.and_eq_true]
  constructor
  · rintro ⟨lower, upper⟩
    exact UInt32.le_antisymm (of_decide_eq_true upper) (of_decide_eq_true lower)
  · rintro rfl
    exact ⟨decide_eq_true (UInt32.le_refl _), decide_eq_true (UInt32.le_refl _)⟩

end CodeRange

namespace RuleTable

variable {table : RuleTable} {cs : List Char} {i : Nat}

/-! ## Places of the scan -/

/-- The scan of the text comes to place `i`: the characters from there on are split
without regard to those before. -/
def Reaches (table : RuleTable) (cs : List Char) (i : Nat) : Prop :=
  ∃ before start, table.segment cs = before ++ table.segmentFrom start (cs.drop i)

/-- The characters of `group` stand at place `i` of the text and are one cluster. -/
def ClusterAt (table : RuleTable) (cs : List Char) (i : Nat) (group : List Char) : Prop :=
  ∃ before cluster after, table.segment cs = before ++ cluster :: after ∧
    before.flatMap Cluster.scalars = cs.take i ∧ cluster.scalars = group

theorem drop_eq_cons {c : Char} (isFirst : cs[i]? = some c) :
    cs.drop i = c :: cs.drop (i + 1) := by
  rw [List.drop_eq_getElem?_toList_append, isFirst]
  rfl

/-- What was split off before a place are the characters before it. -/
theorem flatMap_scalars_eq_take {before : List Cluster} {start : Nat}
    (split : table.segment cs = before ++ table.segmentFrom start (cs.drop i)) :
    before.flatMap Cluster.scalars = cs.take i := by
  have whole := table.flatMap_scalars_segment cs
  rw [split, List.flatMap_append, flatMap_scalars_segmentFrom] at whole
  exact List.append_cancel_right (whole.trans (List.take_append_drop i cs).symm)

/-- The scan comes to every place where no rule joins the character before it with the
one at it. -/
theorem reaches_of_apart (apart : ∀ q c d, q + 1 = i → cs[q]? = some c →
    cs[i]? = some d → ¬ table.joins c d = true) : table.Reaches cs i := by
  have parts : table.Parts (cs.take i) (cs.drop i) := by
    intro c isLast d isNext
    rw [List.head?_drop] at isNext
    cases i with
    | zero => simp at isLast
    | succ q =>
        obtain ⟨inside, _⟩ := List.getElem?_eq_some_iff.mp isNext
        have isPrevious := List.getElem?_eq_getElem (Nat.lt_of_succ_lt inside)
        rw [List.take_add_one, isPrevious, Option.toList_some, List.getLast?_concat] at isLast
        cases isLast
        exact Bool.eq_false_iff.mpr (apart q _ d rfl isPrevious isNext)
  refine ⟨table.segmentFrom 0 (cs.take i), 0 + Utf16.textLength (cs.take i), ?_⟩
  rw [← segmentFrom_append 0 parts, List.take_append_drop]
  rfl

/-- Joined characters at a place of the scan are a cluster, and the scan moves on by
two. -/
theorem Reaches.pair {c d : Char} (reaches : table.Reaches cs i)
    (isFirst : cs[i]? = some c) (isSecond : cs[i + 1]? = some d)
    (joins : table.joins c d = true) :
    table.ClusterAt cs i [c, d] ∧ table.Reaches cs (i + 2) := by
  obtain ⟨before, start, split⟩ := reaches
  have isBefore := flatMap_scalars_eq_take split
  rw [drop_eq_cons isFirst, drop_eq_cons isSecond, segmentFrom_of_joins joins] at split
  refine ⟨⟨before, _, _, split, isBefore, rfl⟩,
    before ++ [Cluster.pair c d start], (Cluster.pair c d start).stop, ?_⟩
  rw [split, List.append_assoc]
  rfl

/-- A character at a place of the scan that is not joined with the next one is a
cluster. -/
theorem Reaches.single {c : Char} (reaches : table.Reaches cs i)
    (isFirst : cs[i]? = some c) (apart : ∀ d ∈ cs[i + 1]?, ¬ table.joins c d = true) :
    table.ClusterAt cs i [c] := by
  obtain ⟨before, start, split⟩ := reaches
  have isBefore := flatMap_scalars_eq_take split
  rw [drop_eq_cons isFirst] at split
  cases isRest : cs.drop (i + 1) with
  | nil =>
      rw [isRest] at split
      exact ⟨before, _, _, split, isBefore, rfl⟩
  | cons d rest =>
      have isSecond : cs[i + 1]? = some d := by
        rw [← List.head?_drop, isRest]
        rfl
      rw [isRest, segmentFrom_of_apart (apart d isSecond)] at split
      exact ⟨before, _, _, split, isBefore, rfl⟩

/-! ## Runs of indicators -/

/-- The standard rules join two indicators, and any character and a keycap mark. -/
theorem joins_standard_iff {c d : Char} :
    standard.joins c d = true ↔ (IsIndicator c ∧ IsIndicator d) ∨ d = keycapMark := by
  have isMark : (CodeRange.single 0x20E3).contains d = true ↔ d = keycapMark := by
    rw [CodeRange.contains_single_iff, Char.ext_iff]
    rfl
  simp [joins_iff_matches, Matches, standard, JoinRule.joins, JoinRule.flag, JoinRule.keycap,
    CodeRange.contains_regionalIndicator_iff, CodeRange.contains_any, isMark]

/-- There is an indicator at place `i` of the text. -/
def IndicatorAt (cs : List Char) (i : Nat) : Prop := ∃ c ∈ cs[i]?, IsIndicator c

instance (cs : List Char) (i : Nat) : Decidable (IndicatorAt cs i) :=
  Option.decidableExistsMem cs[i]?

/-- There are `n` indicators from place `p` of the text on, and no further one on either
side of them. -/
structure IndicatorRun (cs : List Char) (p n : Nat) : Prop where
  indicators : ∀ i < n, IndicatorAt cs (p + i)
  before : 0 < p → ¬ IndicatorAt cs (p - 1)
  after : ¬ IndicatorAt cs (p + n)

instance (cs : List Char) (p n : Nat) : Decidable (IndicatorRun cs p n) :=
  decidable_of_iff
    ((∀ i < n, IndicatorAt cs (p + i)) ∧ (0 < p → ¬ IndicatorAt cs (p - 1)) ∧
      ¬ IndicatorAt cs (p + n))
    ⟨fun ⟨indicators, before, after⟩ => ⟨indicators, before, after⟩,
      fun ⟨indicators, before, after⟩ => ⟨indicators, before, after⟩⟩

namespace IndicatorRun

variable {p n : Nat}

/-- The scan comes to the first indicator of a run. -/
theorem reaches (run : IndicatorRun cs p n) (nonempty : 0 < n) :
    standard.Reaches cs p := by
  refine reaches_of_apart fun q c d isPrevious isLast isNext => ?_
  obtain ⟨first, isFirst, indicator⟩ := run.indicators 0 nonempty
  cases isFirst.symm.trans isNext
  cases isPrevious
  rw [joins_standard_iff]
  rintro (⟨other, _⟩ | rfl)
  · exact run.before (Nat.succ_pos q) ⟨c, isLast, other⟩
  · exact absurd indicator (by decide)

/-- Two indicators of a run next to each other are joined. -/
theorem exists_joins (run : IndicatorRun cs p n) {i : Nat} (inside : i + 1 < n) :
    ∃ c d, cs[p + i]? = some c ∧ cs[p + i + 1]? = some d ∧ standard.joins c d = true := by
  obtain ⟨c, isFirst, first⟩ := run.indicators i (Nat.lt_of_succ_lt inside)
  obtain ⟨d, isSecond, second⟩ := run.indicators (i + 1) inside
  exact ⟨c, d, isFirst, isSecond, joins_standard_iff.mpr (.inl ⟨first, second⟩)⟩

/-- Within a run the scan moves on by two. -/
theorem reaches_even (run : IndicatorRun cs p n) (nonempty : 0 < n) {j : Nat}
    (inside : 2 * j ≤ n) : standard.Reaches cs (p + 2 * j) := by
  induction j with
  | zero => exact run.reaches nonempty
  | succ j inductionHypothesis =>
      obtain ⟨c, d, isFirst, isSecond, joins⟩ := run.exists_joins (Nat.lt_of_succ_le inside)
      have reaches := inductionHypothesis (Nat.le_of_lt (Nat.lt_of_succ_lt inside))
      exact (reaches.pair isFirst isSecond joins).2

end IndicatorRun

/-- Take any text and any run of `n` indicators in it from place `p` on that is not part
of a longer one.  Two by two from the left, they are clusters.  An indicator that is left
over is a cluster with the keycap mark when one follows the run, and a cluster of its own
otherwise. -/
theorem flags_pair_from_left (cs : List Char) (p n : Nat) (run : IndicatorRun cs p n) :
    (∀ j, 2 * j + 1 < n → ∃ c d, cs[p + 2 * j]? = some c ∧
      cs[p + 2 * j + 1]? = some d ∧ standard.ClusterAt cs (p + 2 * j) [c, d]) ∧
    ∀ k, n = 2 * k + 1 → ∃ c, cs[p + 2 * k]? = some c ∧
      (cs[p + n]? = some keycapMark →
        standard.ClusterAt cs (p + 2 * k) [c, keycapMark]) ∧
      (cs[p + n]? ≠ some keycapMark → standard.ClusterAt cs (p + 2 * k) [c]) := by
  constructor
  · intro j inside
    obtain ⟨c, d, isFirst, isSecond, joins⟩ := run.exists_joins inside
    have reaches := run.reaches_even (Nat.zero_lt_of_lt inside)
      (Nat.le_of_lt (Nat.lt_of_succ_lt inside))
    exact ⟨c, d, isFirst, isSecond, (reaches.pair isFirst isSecond joins).1⟩
  · rintro k rfl
    obtain ⟨c, isLast, _⟩ := run.indicators (2 * k) (Nat.lt_succ_self _)
    have reaches := run.reaches_even (Nat.succ_pos _) (Nat.le_succ (2 * k))
    refine ⟨c, isLast, fun marked => ?_, fun notMarked => ?_⟩
    · exact (reaches.pair isLast marked (joins_standard_iff.mpr (.inr rfl))).1
    · refine reaches.single isLast fun d isNext => ?_
      rw [joins_standard_iff]
      rintro (⟨_, second⟩ | rfl)
      · exact run.after ⟨d, isNext, second⟩
      · exact notMarked isNext

/-- A keycap, a mark on its own, three indicators, a mark and one more indicator. -/
def keycapsAndFlag : List Char :=
  [0x31, 0x20E3, 0x20E3, 0x1F1EE, 0x1F1F9, 0x1F1FA, 0x20E3, 0x1F1EE].map Char.ofNat

theorem flags_pair_from_left_keycaps :
    (IndicatorRun keycapsAndFlag 3 3 ∧ IndicatorRun keycapsAndFlag 7 1) ∧
    standard.ClusterAt keycapsAndFlag 3 ([0x1F1EE, 0x1F1F9].map Char.ofNat) ∧
    standard.ClusterAt keycapsAndFlag 5 ([0x1F1FA, 0x20E3].map Char.ofNat) ∧
    standard.ClusterAt keycapsAndFlag 7 ([0x1F1EE].map Char.ofNat) := by
  obtain ⟨pairs, leftOver⟩ := flags_pair_from_left keycapsAndFlag 3 3 (by decide)
  obtain ⟨_, alone⟩ := flags_pair_from_left keycapsAndFlag 7 1 (by decide)
  refine ⟨by decide, ?_, ?_, ?_⟩
  · obtain ⟨c, d, isFirst, isSecond, flag⟩ := pairs 0 (by decide)
    cases isFirst
    cases isSecond
    exact flag
  · obtain ⟨c, isLast, keycap, _⟩ := leftOver 1 rfl
    cases isLast
    exact keycap rfl
  · obtain ⟨c, isLast, _, single⟩ := alone 0 rfl
    cases isLast
    exact single (by decide)

end RuleTable

end Inkwell
