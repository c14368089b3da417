import Inkwell.Proofs.Text.Tiling

/-!
# Texts put together

Where two texts meet, decoding could pair the last unit of the first with the first
unit of the second, and splitting could join their characters.  When neither happens
at the seam, nothing of one text is seen by the other: the clusters of both together
are those of the first, followed by those of the second moved to their new place.
-/

namespace Inkwell

namespace Utf16

/-- No surrogate pair reaches over the seam of two texts. -/
def Unpaired (before after : List UInt16) : Prop :=
  ∀ unit ∈ before.getLast?, ∀ next ∈ after.head?,
    ¬ (isHigh unit && isLow next) = true

theorem Unpaired.tail {unit : UInt16} {before after : List UInt16}
    (unpaired : Unpaired (unit :: before) after) : Unpaired before after := by
  intro last isLast
  apply unpaired
  cases before with
  | nil => cases isLast
  | cons next rest => exact isLast

/-- Texts without a surrogate pair over their seam decode separately. -/
theorem decode_append {before after : List UInt16}
    (unpaired : Unpaired before after) :
    decode (before ++ after) = decode before ++ decode after := by
  fun_induction decode before with
  | case1 => rfl
  | case2 unit => exact decode_cons_of_not_pair (unpaired unit rfl)
  | case3 unit next rest isPair inductionHypothesis =>
      rw [List.cons_append, List.cons_append, decode, if_pos isPair,
        inductionHypothesis unpaired.tail.tail]
      rfl
  | case4 unit next rest notPair inductionHypothesis =>
      have others := inductionHypothesis unpaired.tail
      rw [List.cons_append] at others
      rw [List.cons_append, List.cons_append, decode, if_neg notPair, others]
      rfl

end Utf16

namespace Cluster

/-- The cluster in a text with more units before it. -/
def shift (offset : Nat) (cluster : Cluster) : Cluster :=
  { cluster with start := cluster.start + offset }

@[simp]
theorem stop_shift (offset : Nat) (cluster : Cluster) :
    (cluster.shift offset).stop = cluster.stop + offset := by
  simp only [stop, shift, scalars]
  omega

end Cluster

namespace RuleTable

/-- No rule joins characters over the seam of two texts. -/
def Parts (table : RuleTable) (before after : List Char) : Prop :=
  ∀ c ∈ before.getLast?, ∀ d ∈ after.head?, table.joins c d = false

variable {table : RuleTable}

theorem Parts.tail {c : Char} {before after : List Char}
    (parts : table.Parts (c :: before) after) : table.Parts before after := by
  intro last isLast
  apply parts
  cases before with
  | nil => cases isLast
  | cons next rest => exact isLast

theorem segmentFrom_of_joins {c d : Char} (joins : table.joins c d = true)
    (start : Nat) (rest : List Char) :
    table.segmentFrom start (c :: d :: rest) =
      Cluster.pair c d start ::
        table.segmentFrom (Cluster.pair c d start).stop rest := by
  rw [segmentFrom, if_pos joins]

theorem segmentFrom_of_apart {c d : Char} (apart : ¬ table.joins c d = true)
    (start : Nat) (rest : List Char) :
    table.segmentFrom start (c :: d :: rest) =
      Cluster.single c start ::
        table.segmentFrom (Cluster.single c start).stop (d :: rest) := by
  rw [segmentFrom, if_neg apart]

/-- Characters that no rule joins over a seam are split separately. -/
theorem segmentFrom_append (start : Nat) {before after : List Char}
    (parts : table.Parts before after) :
    table.segmentFrom start (before ++ after) =
      table.segmentFrom start before ++
        table.segmentFrom (start + Utf16.textLength before) after := by
  fun_induction segmentFrom table start before with
  | case1 => rfl
  | case2 start c =>
      cases after with
      | nil => rfl
      | cons d rest =>
          have apart : ¬ table.joins c d = true := by
            rw [parts c rfl d rfl]
            exact Bool.false_ne_true
          exact segmentFrom_of_apart apart start rest
  | case3 start c d rest joins cluster inductionHypothesis =>
      have stop_eq : start + Utf16.textLength (c :: d :: rest) =
          cluster.stop + Utf16.textLength rest :=
        (cluster.stop_add_textLength rest).symm
      rw [List.cons_append, List.cons_append, segmentFrom_of_joins joins, stop_eq,
        inductionHypothesis parts.tail.tail]
      rfl
  | case4 start c d rest apart cluster inductionHypothesis =>
      have stop_eq : start + Utf16.textLength (c :: d :: rest) =
          cluster.stop + Utf16.textLength (d :: rest) :=
        (cluster.stop_add_textLength (d :: rest)).symm
      have others := inductionHypothesis parts.tail
      rw [List.cons_append] at others
      rw [List.cons_append, List.cons_append, segmentFrom_of_apart apart, stop_eq,
        others]
      rfl

/-- Splitting does not depend on where a text begins. -/
theorem segmentFrom_shift (start offset : Nat) (cs : List Char) :
    table.segmentFrom (start + offset) cs =
      (table.segmentFrom start cs).map (Cluster.shift offset) := by
  fun_induction segmentFrom table start cs with
  | case1 => rfl
  | case2 start c => rfl
  | case3 start c d rest joins cluster inductionHypothesis =>
      have stop_eq : (Cluster.pair c d (start + offset)).stop = cluster.stop + offset :=
        Cluster.stop_shift offset cluster
      rw [segmentFrom_of_joins joins, stop_eq, inductionHypothesis]
      rfl
  | case4 start c d rest apart cluster inductionHypothesis =>
      have stop_eq : (Cluster.single c (start + offset)).stop = cluster.stop + offset :=
        Cluster.stop_shift offset cluster
      rw [segmentFrom_of_apart apart, stop_eq, inductionHypothesis]
      rfl

/-- The clusters of two texts put together, when nothing reaches over their
seam. -/
theorem segment_decode_append {before after : List UInt16}
    (unpaired : Utf16.Unpaired before after)
    (parts : table.Parts (Utf16.decode before) (Utf16.decode after)) :
    table.segment (Utf16.decode (before ++ after)) =
      table.segment (Utf16.decode before) ++
        (table.segment (Utf16.decode after)).map (Cluster.shift before.length) := by
  rw [Utf16.decode_append unpaired, segment, segmentFrom_append 0 parts,
    Utf16.textLength_decode, segmentFrom_shift]
  rfl

end RuleTable

end Inkwell
