import Inkwell.Toml.Quoted
import Mathlib.Data.List.Infix

/-!
# Quotes in a row

The form of a string is chosen by its longest runs of quotes, which are counted in bytes.
The count is the length of the longest run, and it overflows precisely when 256 equal
quotes stand in a row.
-/

namespace Inkwell.Toml

/-! ## Runs -/

/-- Some `least` quotes stand next to each other in a text that follows `run`
quotes. -/
def hasRun (quote : Char) (least : Nat) : (run : Nat) → List Char → Bool
  | run, [] => least ≤ run
  | run, c :: rest =>
      least ≤ run || hasRun quote least (if c = quote then run + 1 else 0) rest

section Runs

variable {quote c : Char} {least run : Nat} {text : List Char}

theorem replicate_prefix_iff (other : c ≠ quote) (least run : Nat) (text : List Char) :
    List.replicate least quote <+: List.replicate run quote ++ c :: text ↔ least ≤ run := by
  induction run generalizing least with
  | zero =>
      cases least with
      | zero => simp
      | succ least => simp [List.replicate_succ, Ne.symm other]
  | succ run inductionHypothesis =>
      cases least with
      | zero => simp
      | succ least => simp [List.replicate_succ, List.cons_prefix_cons, inductionHypothesis]

/-- A run of quotes lies before the first other character or after it. -/
theorem replicate_infix_iff (other : c ≠ quote) :
    List.replicate least quote <:+: List.replicate run quote ++ c :: text ↔
      least ≤ run ∨ List.replicate least quote <:+: text := by
  induction run with
  | zero =>
      have first := replicate_prefix_iff other least 0 text
      simp only [List.replicate_zero, List.nil_append] at first ⊢
      rw [List.infix_cons_iff, first]
  | succ run inductionHypothesis =>
      have first := replicate_prefix_iff other least (run + 1) text
      simp only [List.replicate_succ, List.cons_append] at first ⊢
      rw [List.infix_cons_iff, first, inductionHypothesis, ← or_assoc]
      have either : least ≤ run + 1 ∨ least ≤ run ↔ least ≤ run + 1 := by omega
      rw [either]

theorem replicate_infix_of_le (enough : least ≤ run) (quote : Char) (text : List Char) :
    List.replicate least quote <:+: List.replicate run quote ++ text :=
  ⟨[], List.replicate (run - least) quote ++ text, by
    rw [List.nil_append, ← List.append_assoc, List.replicate_append_replicate,
      Nat.add_sub_cancel' enough]⟩

/-- The quotes that were counted stand before the text that is left. -/
theorem hasRun_iff :
    hasRun quote least run text = true ↔
      List.replicate least quote <:+: List.replicate run quote ++ text := by
  induction text generalizing run with
  | nil =>
      rw [hasRun, decide_eq_true_iff, List.append_nil]
      constructor
      · intro enough
        simpa using replicate_infix_of_le enough quote []
      · intro isInfix
        simpa using isInfix.length_le
  | cons c text inductionHypothesis =>
      rw [hasRun, Bool.or_eq_true, decide_eq_true_iff, inductionHypothesis]
      by_cases isQuote : c = quote
      · have moved : List.replicate run quote ++ c :: text =
            List.replicate (run + 1) quote ++ text := by
          rw [isQuote, List.replicate_succ', List.append_assoc]
          rfl
        rw [if_pos isQuote, moved]
        exact or_iff_right_of_imp fun enough => replicate_infix_of_le (by omega) _ _
      · rw [if_neg isQuote, replicate_infix_iff isQuote]
        rfl

theorem hasRun_of_le (enough : least ≤ run) (quote : Char) (text : List Char) :
    hasRun quote least run text = true :=
  hasRun_iff.mpr (replicate_infix_of_le enough quote text)

end Runs

/-! ## Computations that overflow -/

/-- The computation returns unless the condition holds, and then an addition
overflows. -/
structure OverflowsWhen {α : Type} (condition : Prop) (computation : Checked α) : Prop where
  returns : ¬ condition → ∃ value, computation = .ok value
  overflows : condition → computation = .error (.overflow .add)

section Overflows

variable {α β : Type} {condition later : Prop} {first : Checked α} {next : α → Checked β}

theorem overflowsWhen_pure (value : α) : OverflowsWhen False (pure value : Checked α) :=
  ⟨fun _ => ⟨value, rfl⟩, False.elim⟩

theorem OverflowsWhen.congr (overflows : OverflowsWhen condition first)
    (same : condition ↔ later) : OverflowsWhen later first where
  returns no := overflows.returns (mt same.mp no)
  overflows holds := overflows.overflows (same.mpr holds)

theorem OverflowsWhen.bind (overflows : OverflowsWhen condition first)
    (after : ∀ value, OverflowsWhen later (next value)) :
    OverflowsWhen (condition ∨ later) (first >>= next) where
  returns neither := by
    obtain ⟨value, isFirst⟩ := overflows.returns fun holds => neither (.inl holds)
    rw [isFirst]
    exact (after value).returns fun holds => neither (.inr holds)
  overflows either := by
    by_cases holds : condition
    · rw [overflows.overflows holds]
      rfl
    · obtain ⟨value, isFirst⟩ := overflows.returns holds
      rw [isFirst]
      exact (after value).overflows (either.resolve_left holds)

/-- What is done with the result does not overflow. -/
theorem OverflowsWhen.map (overflows : OverflowsWhen condition first) (change : α → β) :
    OverflowsWhen condition (first >>= fun value => pure (change value)) :=
  (overflows.bind fun value => overflowsWhen_pure (change value)).congr (by rw [or_false])

end Overflows

/-! ## Counting quotes -/

section Counting

variable {quote : Char} {run longest count : UInt8} {text : List Char}

theorem toNat_max (a b : UInt8) : (max a b).toNat = max a.toNat b.toNat := by
  show (if a ≤ b then b else a).toNat = max a.toNat b.toNat
  rw [Nat.max_def, apply_ite UInt8.toNat]
  rfl

/-- One more quote is counted if a byte can hold the count. -/
theorem longestRun_quote (below : run.toNat + 1 < 256) (longest : UInt8)
    (text : List Char) :
    ∃ next : UInt8, next.toNat = run.toNat + 1 ∧
      longestRun quote run longest (quote :: text) =
        longestRun quote next (max longest next) text := by
  refine ⟨UInt8.ofNat (run.toNat + 1), UInt8.toNat_ofNat_of_lt' below, ?_⟩
  rw [longestRun, if_pos rfl, Word.exactUInt8, if_pos below]
  rfl

/-- Without a run that is too long, the count is the length of the longest run. -/
theorem longestRun_of_not_hasRun {before : Nat} (isRun : run.toNat = before)
    (le : before ≤ longest.toNat) (noRun : hasRun quote 256 before text = false) :
    ∃ count, longestRun quote run longest text = .ok count ∧ ∀ least,
      least ≤ count.toNat ↔ least ≤ longest.toNat ∨ hasRun quote least before text = true := by
  induction text generalizing run longest before with
  | nil =>
      refine ⟨longest, rfl, fun least => ?_⟩
      rw [hasRun, decide_eq_true_iff]
      omega
  | cons c text inductionHypothesis =>
      simp only [hasRun, Bool.or_eq_false_iff] at noRun
      simp only [hasRun, Bool.or_eq_true, decide_eq_true_iff]
      by_cases isQuote : c = quote
      · subst isQuote isRun
        simp only [if_true] at noRun ⊢
        have below : run.toNat + 1 < 256 := by
          by_contra above
          simp [hasRun_of_le (Nat.not_lt.mp above)] at noRun
        obtain ⟨next, isNext, counted⟩ := longestRun_quote below longest text
        have inLongest : run.toNat + 1 ≤ (max longest next).toNat := by
          rw [toNat_max]
          omega
        obtain ⟨count, isCount, length⟩ := inductionHypothesis isNext inLongest noRun.2
        refine ⟨count, counted.trans isCount, fun least => ?_⟩
        have counts : least ≤ run.toNat + 1 → hasRun c least (run.toNat + 1) text = true :=
          fun enough => hasRun_of_le enough c text
        have either : least ≤ max longest.toNat (run.toNat + 1) ↔
            least ≤ longest.toNat ∨ least ≤ run.toNat + 1 := by omega
        rw [length, toNat_max, isNext, either]
        have shorter : least ≤ run.toNat → least ≤ run.toNat + 1 := Nat.le_succ_of_le
        tauto
      · simp only [if_neg isQuote] at noRun ⊢
        obtain ⟨count, isCount, length⟩ : ∃ count,
            longestRun quote 0 longest text = .ok count ∧ _ :=
          inductionHypothesis rfl (Nat.zero_le _) noRun.2
        refine ⟨count, ?_, fun least => ?_⟩
        · rw [longestRun, if_neg isQuote, isCount]
        · have shorter : least ≤ before → least ≤ longest.toNat := fun enough =>
            enough.trans le
          rw [length]
          tauto

/-- A run that is too long overflows the count. -/
theorem longestRun_of_hasRun {before : Nat} (isRun : run.toNat = before)
    (tooLong : hasRun quote 256 before text = true) :
    longestRun quote run longest text = .error (.overflow .add) := by
  have few := run.toNat_lt
  induction text generalizing run longest before with
  | nil =>
      rw [hasRun, decide_eq_true_iff] at tooLong
      omega
  | cons c text inductionHypothesis =>
      rw [hasRun, Bool.or_eq_true, decide_eq_true_iff] at tooLong
      have later := tooLong.resolve_left (by omega)
      by_cases isQuote : c = quote
      · subst isQuote isRun
        rw [if_pos rfl] at later
        by_cases below : run.toNat + 1 < 256
        · obtain ⟨next, isNext, counted⟩ := longestRun_quote below longest text
          rw [counted]
          exact inductionHypothesis isNext later next.toNat_lt
        · rw [longestRun, if_pos rfl, Word.exactUInt8, if_neg below]
          rfl
      · rw [if_neg isQuote] at later
        rw [longestRun, if_neg isQuote]
        exact inductionHypothesis rfl later (by decide)

theorem hasRun_zero_iff {least : Nat} :
    hasRun quote least 0 text = true ↔ List.replicate least quote <:+: text :=
  hasRun_iff

/-- The count overflows precisely when 256 quotes stand in a row, and otherwise it is the
length of the longest run. -/
theorem longestRun_cases (quote : Char) (text : List Char) :
    (List.replicate 256 quote <:+: text ∧
      longestRun quote 0 0 text = .error (.overflow .add)) ∨
    (¬ List.replicate 256 quote <:+: text ∧
      ∃ count, longestRun quote 0 0 text = .ok count ∧
        ∀ least, least ≤ count.toNat ↔ List.replicate least quote <:+: text) := by
  simp only [← hasRun_zero_iff]
  by_cases tooLong : hasRun quote 256 0 text = true
  · exact .inl ⟨tooLong, longestRun_of_hasRun rfl tooLong⟩
  · obtain ⟨count, isCount, length⟩ : ∃ count,
        longestRun quote 0 0 text = .ok count ∧ _ :=
      longestRun_of_not_hasRun rfl (Nat.zero_le _) (Bool.not_eq_true _ ▸ tooLong)
    refine .inr ⟨tooLong, count, isCount, fun least => (length least).trans ?_⟩
    exact or_iff_right_of_imp fun none => hasRun_of_le none quote text

theorem overflowsWhen_longestRun (quote : Char) (text : List Char) :
    OverflowsWhen (List.replicate 256 quote <:+: text) (longestRun quote 0 0 text) := by
  rcases longestRun_cases quote text with ⟨tooLong, overflows⟩ | ⟨fits, count, isCount, _⟩
  · exact ⟨fun fits => absurd tooLong fits, fun _ => overflows⟩
  · exact ⟨fun _ => ⟨count, isCount⟩, fun tooLong => absurd tooLong fits⟩

/-- The count is the length of the longest run. -/
theorem le_longestRun_iff (isCount : longestRun quote 0 0 text = .ok count) (least : Nat) :
    least ≤ count.toNat ↔ List.replicate least quote <:+: text := by
  rcases longestRun_cases quote text with ⟨_, overflows⟩ | ⟨_, _, counted, length⟩
  · cases isCount.symm.trans overflows
  · cases isCount.symm.trans counted
    exact length least

theorem not_mem_of_longestRun (isCount : longestRun quote 0 0 text = .ok 0) :
    quote ∉ text := by
  intro member
  have isInfix : List.replicate 1 quote <:+: text := by
    obtain ⟨before, after, rfl⟩ := List.append_of_mem member
    exact ⟨before, after, by simp⟩
  exact absurd ((le_longestRun_iff isCount 1).mpr isInfix) (by decide)

theorem not_hasRun_of_longestRun (isCount : longestRun quote 0 0 text = .ok count)
    (few : count ≤ 2) : hasRun quote 3 0 text = false := by
  rw [← Bool.not_eq_true, hasRun_zero_iff, ← le_longestRun_iff isCount]
  have atMost : count.toNat ≤ 2 := UInt8.le_iff_toNat_le.mp few
  omega

end Counting

end Inkwell.Toml
