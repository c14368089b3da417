import Inkwell.Layout.Stamp
import Inkwell.Proofs.Paint.Painting

/-!
# What stamping paints

Stamping a run reads the coverage of the pixels that can be seen and paints those
that are covered.  It returns precisely when all these coverages can be read; then
it has painted the covered pixels of the run's masks as far as the clip allows.
Only a mask of more bytes than a word can count has a coverage that cannot be read.
-/

namespace Inkwell

namespace Checked

instance (outcome : Checked Unit) : Decidable (outcome = .ok ()) :=
  match outcome with
  | .ok () => .isTrue rfl
  | .error _ => .isFalse nofun

variable {State : Type} {first : Checked Unit × State}
  {next : State → Checked Unit × State}

/-- Go on from the state that a computation leaves, unless it was abandoned. -/
def andThen (first : Checked Unit × State) (next : State → Checked Unit × State) :
    Checked Unit × State :=
  match first with
  | (.error fault, state) => (.error fault, state)
  | (.ok (), state) => next state

theorem andThen_of_returns (returns : first.1 = .ok ()) :
    andThen first next = next first.2 := by
  rcases first with ⟨result, state⟩
  cases returns
  rfl

theorem andThen_returns_iff :
    (andThen first next).1 = .ok () ↔
      first.1 = .ok () ∧ (next first.2).1 = .ok () := by
  rcases first with ⟨result, state⟩
  cases result with
  | error fault => simp [andThen]
  | ok _ => simp [andThen]

end Checked

namespace Mask

/-- The coverage of a pixel can be read: the place of its byte fits a word. -/
def Readable (m : Mask) (left top : Int32) (px py : Int) : Prop :=
  ∃ coverage, m.coverageOver left top px py = .ok coverage

/-- The mask covers a pixel. -/
def Inks (m : Mask) (left top : Int32) (px py : Int) : Prop :=
  ∃ coverage, m.coverageOver left top px py = .ok coverage ∧ coverage ≠ 0

/-- A mask without pixels has an area without points. -/
theorem area_isEmpty {m : Mask} (empty : m.isEmpty = true) (x baseline : Int32) :
    (m.area x baseline).isEmpty = true := by
  rw [Rect.isEmpty_iff]
  simp only [isEmpty, Bool.or_eq_true, beq_iff_eq] at empty
  rcases empty with noWidth | noHeight
  · left
    simp [area, noWidth]
  · right
    simp [area, noHeight]

/-- A mask whose bytes a word can count has no byte that is out of reach. -/
theorem exists_coverageAt {m : Mask}
    (countable : m.width.toNat * m.height.toNat ≤ 4294967296) (x y : UInt32) :
    ∃ coverage, m.coverageAt x y = .ok coverage := by
  unfold coverageAt
  by_cases outside : m.width ≤ x ∨ m.height ≤ y
  · rw [if_pos outside]
    exact ⟨0, rfl⟩
  · rw [if_neg outside]
    simp only [not_or, UInt32.not_le, UInt32.lt_iff_toNat_lt] at outside
    obtain ⟨inWidth, inHeight⟩ := outside
    have lastRow : (y.toNat + 1) * m.width.toNat ≤ 4294967296 :=
      calc
        (y.toNat + 1) * m.width.toNat
          ≤ m.height.toNat * m.width.toNat := Nat.mul_le_mul_right _ inHeight
        _ = m.width.toNat * m.height.toNat := Nat.mul_comm _ _
        _ ≤ 4294967296 := countable
    rw [Nat.add_mul, Nat.one_mul] at lastRow
    have isPlace := UInt32.toNat_ofNat_of_lt'
      (show y.toNat * m.width.toNat + x.toNat < 4294967296 by omega)
    exact ⟨_, Checked.bind_eq_ok_iff.mpr ⟨_, bytePosition_eq_ok_iff.mpr isPlace, rfl⟩⟩

/-- Inside its area, every coverage of such a mask can be read. -/
theorem readable_of_countable {m : Mask} {x baseline : Int32}
    (countable : m.width.toNat * m.height.toNat ≤ 4294967296) {px py : Int}
    (inArea : (m.area x baseline).contains px py = true) :
    m.Readable (m.left x) (m.top baseline) px py := by
  have left_fits := Word.fitsInt32_toInt (m.left x)
  have top_fits := Word.fitsInt32_toInt (m.top baseline)
  have width_fits := Word.fitsInt32_toInt (m.area x baseline).width
  have height_fits := Word.fitsInt32_toInt (m.area x baseline).height
  rw [Rect.contains_iff, Rect.toInt_right, Rect.toInt_bottom] at inArea
  have left_eq : (m.area x baseline).x = m.left x := rfl
  have top_eq : (m.area x baseline).y = m.top baseline := rfl
  rw [left_eq, top_eq] at inArea
  unfold Word.FitsInt32 at left_fits top_fits width_fits height_fits
  have column_fits : Word.FitsInt32 (px - (m.left x).toInt) := by
    unfold Word.FitsInt32
    omega
  have row_fits : Word.FitsInt32 (py - (m.top baseline).toInt) := by
    unfold Word.FitsInt32
    omega
  unfold Readable coverageOver Word.exactInt32
  rw [if_pos column_fits, if_pos row_fits]
  exact exists_coverageAt countable _ _

end Mask

namespace Brush

variable {m : Mask} {left top : Int32}

/-! ## Rows of a mask -/

theorem stampRow_returns_iff {py : Int} {count : Nat} {px : Int} {b : Brush} :
    (stampRow m left top py count px b).1 = .ok () ↔
      ∀ x, px ≤ x → x < px + count → m.Readable left top x py := by
  induction count generalizing px b with
  | zero =>
      constructor
      · intro _ x fromFirst toStop
        omega
      · intro _
        rfl
  | succ count inductionHypothesis =>
      rw [stampRow]
      cases read : m.coverageOver left top px py with
      | error fault =>
          constructor
          · intro returns
            cases returns
          · intro readable
            obtain ⟨coverage, isCoverage⟩ := readable px (Int.le_refl px) (by omega)
            cases read.symm.trans isCoverage
      | ok coverage =>
          simp only [inductionHypothesis]
          constructor
          · intro readable x fromFirst toStop
            rcases Int.le_iff_lt_or_eq.mp fromFirst with later | rfl
            · exact readable x (by omega) (by omega)
            · exact ⟨coverage, read⟩
          · intro readable x fromFirst toStop
            exact readable x (by omega) (by omega)

theorem painted_stampRow {py : Int} {count : Nat} {px : Int} {b : Brush}
    (returns : (stampRow m left top py count px b).1 = .ok ()) :
    Painted
      (fun x y => y = py ∧ px ≤ x ∧ x < px + count ∧ m.Inks left top x y)
      b.color.solid b (stampRow m left top py count px b).2 := by
  induction count generalizing px b with
  | zero =>
      apply painted_self
      rintro x y _ ⟨_, fromFirst, toStop, _⟩
      omega
  | succ count inductionHypothesis =>
      rw [stampRow] at returns ⊢
      cases read : m.coverageOver left top px py with
      | error fault =>
          rw [read] at returns
          cases returns
      | ok coverage =>
          simp only [read] at returns ⊢
          have tail := inductionHypothesis returns
          by_cases zero : coverage = 0
          · rw [if_pos zero] at tail ⊢
            apply tail.congr
            intro x y _
            constructor
            · rintro ⟨rfl, fromFirst, toStop, inks⟩
              rcases Int.le_iff_lt_or_eq.mp fromFirst with later | rfl
              · exact ⟨rfl, later, by omega, inks⟩
              · obtain ⟨inked, isInked, nonzero⟩ := inks
                cases read.symm.trans isInked
                exact absurd zero nonzero
            · rintro ⟨rfl, later, toStop, inks⟩
              exact ⟨rfl, by omega, by omega, inks⟩
          · rw [if_neg zero] at tail ⊢
            have head := b.painted_paint b.color.solid px py
            rw [plot, head.color_eq] at tail
            apply (head.trans tail).congr
            intro x y _
            constructor
            · rintro ⟨rfl, fromFirst, toStop, inks⟩
              rcases Int.le_iff_lt_or_eq.mp fromFirst with later | rfl
              · exact .inr ⟨rfl, later, by omega, inks⟩
              · exact .inl ⟨rfl, rfl⟩
            · rintro (⟨rfl, rfl⟩ | ⟨rfl, later, toStop, inks⟩)
              · exact ⟨rfl, Int.le_refl x, by omega, coverage, read, zero⟩
              · exact ⟨rfl, by omega, by omega, inks⟩

theorem stampRows_succ (px : Int) (width count : Nat) (py : Int) (b : Brush) :
    stampRows m left top px width (count + 1) py b =
      Checked.andThen (stampRow m left top py width px b)
        (stampRows m left top px width count (py + 1)) := by
  rw [stampRows]
  rcases stampRow m left top py width px b with ⟨_ | _, painted⟩ <;> rfl

theorem stampRows_returns_iff {px : Int} {width count : Nat} {py : Int} {b : Brush} :
    (stampRows m left top px width count py b).1 = .ok () ↔
      ∀ x y, (px ≤ x ∧ x < px + width) ∧ (py ≤ y ∧ y < py + count) →
        m.Readable left top x y := by
  induction count generalizing py b with
  | zero =>
      constructor
      · intro _ x y inside
        omega
      · intro _
        rfl
  | succ count inductionHypothesis =>
      rw [stampRows_succ, Checked.andThen_returns_iff, stampRow_returns_iff,
        inductionHypothesis]
      constructor
      · rintro ⟨firstRow, otherRows⟩ x y ⟨inColumns, inRows⟩
        rcases Int.le_iff_lt_or_eq.mp inRows.1 with later | rfl
        · exact otherRows x y ⟨inColumns, by omega⟩
        · exact firstRow x inColumns.1 inColumns.2
      · intro readable
        constructor
        · intro x fromFirst toStop
          exact readable x py ⟨⟨fromFirst, toStop⟩, by omega⟩
        · rintro x y ⟨inColumns, inRows⟩
          exact readable x y ⟨inColumns, by omega⟩

theorem painted_stampRows {px : Int} {width count : Nat} {py : Int} {b : Brush}
    (returns : (stampRows m left top px width count py b).1 = .ok ()) :
    Painted
      (fun x y => ((px ≤ x ∧ x < px + width) ∧ (py ≤ y ∧ y < py + count)) ∧
        m.Inks left top x y)
      b.color.solid b (stampRows m left top px width count py b).2 := by
  induction count generalizing py b with
  | zero =>
      apply painted_self
      rintro x y _ ⟨inside, _⟩
      omega
  | succ count inductionHypothesis =>
      rw [stampRows_succ] at returns ⊢
      obtain ⟨rowReturns, othersReturn⟩ := Checked.andThen_returns_iff.mp returns
      rw [Checked.andThen_of_returns rowReturns]
      have head := painted_stampRow rowReturns
      have tail := inductionHypothesis othersReturn
      rw [head.color_eq] at tail
      apply (head.trans tail).congr
      intro x y _
      constructor
      · rintro ⟨⟨inColumns, inRows⟩, inks⟩
        rcases Int.le_iff_lt_or_eq.mp inRows.1 with later | rfl
        · exact .inr ⟨⟨inColumns, by omega⟩, inks⟩
        · exact .inl ⟨rfl, inColumns.1, inColumns.2, inks⟩
      · rintro (⟨rfl, fromFirst, toStop, inks⟩ | ⟨⟨inColumns, inRows⟩, inks⟩)
        · exact ⟨⟨⟨fromFirst, toStop⟩, by omega⟩, inks⟩
        · exact ⟨⟨inColumns, by omega⟩, inks⟩

/-! ## Whole masks -/

/-- The points that stamping a mask visits. -/
theorem visible_iff {m : Mask} {x baseline : Int32} {clip : Rect}
    (nonempty : ¬ ((m.area x baseline).intersect clip).isEmpty = true) {px py : Int} :
    ((((m.area x baseline).intersect clip).x.toInt ≤ px ∧
      px < ((m.area x baseline).intersect clip).x.toInt +
        ((m.area x baseline).intersect clip).width.toInt.toNat) ∧
    (((m.area x baseline).intersect clip).y.toInt ≤ py ∧
      py < ((m.area x baseline).intersect clip).y.toInt +
        ((m.area x baseline).intersect clip).height.toInt.toNat)) ↔
      (m.area x baseline).contains px py = true ∧ clip.contains px py = true := by
  rw [← Rect.contains_intersect, Rect.contains_intersect_iff nonempty]
  rw [Rect.isEmpty_iff] at nonempty
  omega

/-- Stamping a mask without a point in sight does nothing; otherwise it stamps the
visible rows. -/
theorem stampMask_cases (m : Mask) (x baseline : Int32) (b : Brush) :
    ((∀ px py, ¬ ((m.area x baseline).contains px py = true ∧
        b.clip.contains px py = true)) ∧
      stampMask m x baseline b = (.ok (), b)) ∨
    (¬ ((m.area x baseline).intersect b.clip).isEmpty = true ∧
      stampMask m x baseline b =
        stampRows m (m.left x) (m.top baseline)
          ((m.area x baseline).intersect b.clip).x.toInt
          ((m.area x baseline).intersect b.clip).width.toInt.toNat
          ((m.area x baseline).intersect b.clip).height.toInt.toNat
          ((m.area x baseline).intersect b.clip).y.toInt b) := by
  unfold stampMask
  dsimp only
  by_cases hidden : ((m.area x baseline).intersect b.clip).isEmpty = true
  · left
    constructor
    · intro px py visible
      rw [← Rect.contains_intersect] at visible
      exact Rect.not_contains_of_isEmpty hidden px py visible
    · simp [hidden]
  · by_cases empty : m.isEmpty = true
    · left
      constructor
      · rintro px py ⟨inArea, _⟩
        exact Rect.not_contains_of_isEmpty (Mask.area_isEmpty empty x baseline) px py
          inArea
      · simp [empty]
    · right
      constructor
      · exact hidden
      · simp [hidden, empty]

/-- Stamping a mask returns precisely when every coverage in sight can be read. -/
theorem stampMask_returns_iff {m : Mask} {x baseline : Int32} {b : Brush} :
    (stampMask m x baseline b).1 = .ok () ↔
      ∀ px py, (m.area x baseline).contains px py = true ∧
        b.clip.contains px py = true →
          m.Readable (m.left x) (m.top baseline) px py := by
  rcases stampMask_cases m x baseline b with ⟨hidden, stamped⟩ | ⟨nonempty, stamped⟩
  · rw [stamped]
    constructor
    · intro _ px py visible
      exact absurd visible (hidden px py)
    · intro _
      rfl
  · rw [stamped, stampRows_returns_iff]
    simp only [visible_iff nonempty]

theorem painted_stampMask {m : Mask} {x baseline : Int32} {b : Brush}
    (returns : (stampMask m x baseline b).1 = .ok ()) :
    Painted
      (fun px py => (m.area x baseline).contains px py = true ∧
        m.Inks (m.left x) (m.top baseline) px py)
      b.color.solid b (stampMask m x baseline b).2 := by
  rcases stampMask_cases m x baseline b with ⟨hidden, stamped⟩ | ⟨nonempty, stamped⟩
  · rw [stamped]
    apply painted_self
    rintro px py inClip ⟨inArea, _⟩
    exact hidden px py ⟨inArea, inClip⟩
  · rw [stamped] at returns ⊢
    apply (painted_stampRows returns).congr
    intro px py inClip
    simp only [visible_iff nonempty, inClip, and_true]

end Brush

/-! ## Runs -/

namespace PlacedGlyph

/-- Every coverage of the glyph in sight can be read. -/
def Readable (g : PlacedGlyph) (clip : Rect) : Prop :=
  ∀ m, g.mask = some m → ∀ x y,
    (m.area g.x g.baseline).contains x y = true ∧ clip.contains x y = true →
      m.Readable (m.left g.x) (m.top g.baseline) x y

/-- The glyph has a mask that covers a pixel. -/
def Inks (g : PlacedGlyph) (x y : Int) : Prop :=
  ∃ m, g.mask = some m ∧ (m.area g.x g.baseline).contains x y = true ∧
    m.Inks (m.left g.x) (m.top g.baseline) x y

end PlacedGlyph

namespace Brush

/-- Stamp one glyph of a run. -/
def stampGlyph (g : PlacedGlyph) (b : Brush) : Checked Unit × Brush :=
  match g.mask with
  | none => (.ok (), b)
  | some m => stampMask m g.x g.baseline b

theorem stampGlyph_returns_iff {g : PlacedGlyph} {b : Brush} :
    (stampGlyph g b).1 = .ok () ↔ g.Readable b.clip := by
  unfold stampGlyph PlacedGlyph.Readable
  cases isMask : g.mask with
  | none => simp
  | some m =>
      simp only [stampMask_returns_iff, Option.some.injEq]
      constructor
      · rintro readable _ rfl
        exact readable
      · intro readable
        exact readable m rfl

theorem painted_stampGlyph {g : PlacedGlyph} {b : Brush}
    (returns : (stampGlyph g b).1 = .ok ()) :
    Painted g.Inks b.color.solid b (stampGlyph g b).2 := by
  unfold stampGlyph at returns ⊢
  cases isMask : g.mask with
  | none =>
      apply painted_self
      rintro x y _ ⟨m, isSome, _⟩
      cases isMask.symm.trans isSome
  | some m =>
      simp only [isMask] at returns ⊢
      apply (painted_stampMask returns).congr
      intro x y _
      constructor
      · rintro ⟨other, isOther, inks⟩
        cases isMask.symm.trans isOther
        exact inks
      · intro inks
        exact ⟨m, isMask, inks⟩

theorem stampGlyphs_cons (g : PlacedGlyph) (rest : List PlacedGlyph) (b : Brush) :
    stampGlyphs (g :: rest) b =
      Checked.andThen (stampGlyph g b) (stampGlyphs rest) := by
  rw [stampGlyphs, stampGlyph]
  cases g.mask with
  | none => rfl
  | some m =>
      dsimp only
      rcases stampMask m g.x g.baseline b with ⟨_ | _, painted⟩ <;> rfl

theorem stampGlyphs_returns_iff {glyphs : List PlacedGlyph} {b : Brush} :
    (stampGlyphs glyphs b).1 = .ok () ↔ ∀ g ∈ glyphs, g.Readable b.clip := by
  induction glyphs generalizing b with
  | nil => simp [stampGlyphs]
  | cons g rest inductionHypothesis =>
      rw [stampGlyphs_cons, Checked.andThen_returns_iff, List.forall_mem_cons,
        inductionHypothesis, ← stampGlyph_returns_iff]
      apply and_congr_right
      intro returns
      rw [(painted_stampGlyph returns).clip_eq]

theorem painted_stampGlyphs {glyphs : List PlacedGlyph} {b : Brush}
    (returns : (stampGlyphs glyphs b).1 = .ok ()) :
    Painted (fun x y => ∃ g ∈ glyphs, g.Inks x y) b.color.solid b
      (stampGlyphs glyphs b).2 := by
  induction glyphs generalizing b with
  | nil =>
      apply painted_self
      rintro x y _ ⟨g, member, _⟩
      cases member
  | cons g rest inductionHypothesis =>
      rw [stampGlyphs_cons] at returns ⊢
      obtain ⟨glyphReturns, restReturns⟩ := Checked.andThen_returns_iff.mp returns
      rw [Checked.andThen_of_returns glyphReturns]
      have head := painted_stampGlyph glyphReturns
      have tail := inductionHypothesis restReturns
      rw [head.color_eq] at tail
      apply (head.trans tail).congr
      intro x y _
      simp only [List.mem_cons, exists_eq_or_imp]

/-- Stamping a run returns precisely when every coverage in sight can be read. -/
theorem stamp_returns_iff {run : Run} {b : Brush} :
    (b.stamp run).1 = .ok () ↔ ∀ g ∈ run.glyphs, g.Readable b.clip :=
  stampGlyphs_returns_iff

/-- A run that was stamped has painted the pixels that its glyphs cover. -/
theorem painted_stamp {run : Run} {b : Brush}
    (returns : (b.stamp run).1 = .ok ()) :
    Painted (fun x y => ∃ g ∈ run.glyphs, g.Inks x y) b.color.solid b (b.stamp run).2 :=
  painted_stampGlyphs returns

end Brush

end Inkwell
