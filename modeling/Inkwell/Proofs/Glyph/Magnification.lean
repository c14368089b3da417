import Inkwell.Proofs.Glyph.Redrawing
import Inkwell.Proofs.Glyph.Rounding
import Mathlib.Algebra.BigOperators.Ring.Finset

/-!
# Whole multiples of the design size

At a whole multiple of its design size a drawing is neither rounded nor resampled
unevenly: every length is multiplied, and every pixel becomes a square of pixels.  At the
design size itself nothing changes, so that showing a drawing as it is and redrawing it
come to the same.
-/

namespace Inkwell

/-! ## Sums over grids -/

/-- The sum over a grid is the sum of its rows. -/
theorem sum_grid (width height : Nat) (f : Nat → Nat → Nat) :
    ∑ i ∈ Finset.range (width * height), f (i / width) (i % width) =
      ∑ y ∈ Finset.range height, ∑ x ∈ Finset.range width, f y x := by
  induction height with
  | zero => rfl
  | succ height inductionHypothesis =>
      rw [Nat.mul_succ, Finset.sum_range_add, inductionHypothesis, Finset.sum_range_succ]
      congr 1
      refine Finset.sum_congr rfl fun x inRow => ?_
      have inRow := Finset.mem_range.mp inRow
      rw [Nat.mul_add_div (Nat.zero_lt_of_lt inRow), Nat.div_eq_of_lt inRow, Nat.add_zero,
        Nat.mul_add_mod, Nat.mod_eq_of_lt inRow]

/-- A sum in which every term is repeated `k` times. -/
theorem sum_repeated (k n : Nat) (f : Nat → Nat) :
    ∑ i ∈ Finset.range (k * n), f (i / k) = k * ∑ i ∈ Finset.range n, f i := by
  rw [sum_grid k n fun i _ => f i, Finset.mul_sum]
  simp only [Finset.sum_const, Finset.card_range, Nat.nsmul_eq_mul]

theorem countP_ofFn {α : Type} (p : α → Bool) (n : Nat) (f : Nat → α) :
    (Array.ofFn fun i : Fin n => f i).countP p =
      ∑ i ∈ Finset.range n, if p (f i) then 1 else 0 := by
  induction n with
  | zero => rfl
  | succ n inductionHypothesis =>
      rw [Array.ofFn_succ, Array.countP_push, Finset.sum_range_succ, ← inductionHypothesis]
      rfl

/-- The entries of a grid, counted row by row. -/
theorem countP_grid {α : Type} (p : α → Bool) (width height : Nat)
    (entry : Nat → Nat → α) :
    (grid width height entry).countP p =
      ∑ y ∈ Finset.range height, ∑ x ∈ Finset.range width,
        if p (entry x y) then 1 else 0 := by
  rw [← sum_grid width height fun y x => if p (entry x y) then 1 else 0]
  exact countP_ofFn p (width * height) fun i => entry (i % width) (i / width)

namespace Sheet

variable {s : Sheet} {d : Drawing} {size : UInt16} {k : Nat}

/-! ## Magnified pixels -/

theorem nearest_mul {source : Nat} (positive : 0 < source) (i : Nat) :
    nearest source (k * source) i = i / k :=
  Nat.mul_div_mul_right i k positive

theorem nearest_self {source : Nat} (positive : 0 < source) (i : Nat) :
    nearest source source i = i :=
  Nat.mul_div_cancel i positive

/-- A grid redrawn with as many pixels as it has stays as it is. -/
theorem resample_self {coverage : Array UInt8} {width height : Nat} (width_pos : 0 < width)
    (height_pos : 0 < height) (size_eq : coverage.size = width * height) :
    resample coverage width height width height = coverage := by
  apply Array.ext
  · rw [resample, size_grid, size_eq]
  · intro i _ bound
    simp only [resample, grid, Array.getElem_ofFn, nearest_self width_pos,
      nearest_self height_pos, Nat.div_add_mod', Array.getElem?_eq_getElem bound, Option.getD_some]

/-- Every byte of a magnified grid stands for `k * k` of the magnified ones. -/
theorem countP_resample_mul (p : UInt8 → Bool) {coverage : Array UInt8} {width height : Nat}
    (width_pos : 0 < width) (height_pos : 0 < height)
    (size_eq : coverage.size = width * height) (k : Nat) :
    (resample coverage width height (k * width) (k * height)).countP p =
      k ^ 2 * coverage.countP p := by
  have original := resample_self width_pos height_pos size_eq
  rw [← congrArg (Array.countP p) original, resample, resample, countP_grid, countP_grid]
  simp only [nearest_mul width_pos, nearest_mul height_pos, nearest_self width_pos,
    nearest_self height_pos]
  calc
    ∑ y ∈ Finset.range (k * height), ∑ x ∈ Finset.range (k * width),
        (if p (coverage[y / k * width + x / k]?.getD 0) then 1 else 0)
      = ∑ y ∈ Finset.range (k * height), k * ∑ x ∈ Finset.range width,
          if p (coverage[y / k * width + x]?.getD 0) then 1 else 0 :=
        Finset.sum_congr rfl fun y _ => sum_repeated k width fun x =>
          if p (coverage[y / k * width + x]?.getD 0) then 1 else 0
    _ = k * ∑ y ∈ Finset.range height, k * ∑ x ∈ Finset.range width,
          if p (coverage[y * width + x]?.getD 0) then 1 else 0 :=
        sum_repeated k height fun y => k * ∑ x ∈ Finset.range width,
          if p (coverage[y * width + x]?.getD 0) then 1 else 0
    _ = k ^ 2 * ∑ y ∈ Finset.range height, ∑ x ∈ Finset.range width,
          if p (coverage[y * width + x]?.getD 0) then 1 else 0 := by
        rw [← Finset.mul_sum, ← Nat.mul_assoc, Nat.pow_two]

/-! ## Magnified lengths -/

theorem extents_pos (inked : ¬ (d.width = 0 ∨ d.height = 0)) :
    0 < d.width.toNat ∧ 0 < d.height.toNat := by
  rw [not_or, ← UInt32.toNat_inj, ← UInt32.toNat_inj] at inked
  exact ⟨Nat.pos_of_ne_zero inked.1, Nat.pos_of_ne_zero inked.2⟩

/-- At a multiple of the design size every length is multiplied. -/
theorem scaled_of_multiple (multiple : size.toNat = k * s.design.toNat) (value : Int32) :
    s.scaled value size = k * value.toInt := by
  have isScaled := s.rounds_scaled value size
  rw [multiple, Int.natCast_mul, ← Int.mul_assoc] at isScaled
  rw [isScaled.unique (.of_mul _ s.design_pos) s.design_pos, Int.mul_comm]

theorem scaled_bearing_of_multiple (multiple : size.toNat = k * s.design.toNat)
    (bearing : Int16) : s.scaled (Int32.ofInt bearing.toInt) size = k * bearing.toInt := by
  rw [scaled_of_multiple multiple, toInt_ofInt_bearing]

/-- An extent that a signed word can hold is multiplied as well. -/
theorem scaledExtent_of_multiple (multiple : size.toNat = k * s.design.toNat)
    (positive : 1 ≤ k) {extent : UInt32} (extent_pos : 0 < extent.toNat)
    (fits : extent.toNat < 2147483648) : s.scaledExtent extent size = k * extent.toNat := by
  have product_pos : 0 < k * extent.toNat := Nat.mul_pos positive extent_pos
  have toInt_eq : (Int32.ofInt extent.toNat).toInt = extent.toNat :=
    Word.toInt_ofInt_of_fits ⟨by omega, by omega⟩
  rw [scaledExtent, scaled_of_multiple multiple, toInt_eq]
  omega

/-- The mask shows the drawing with every pixel as a square of `k` by `k` pixels.  A word
for a bearing may be too small for the magnified one. -/
structure Magnifies (d : Drawing) (k : Nat) (mask : Mask) : Prop where
  width : mask.width.toNat = k * d.width.toNat
  height : mask.height.toNat = k * d.height.toNat
  bearingX : Word.FitsInt16 (k * d.bearingX.toInt) →
    mask.bearingX.toInt = k * d.bearingX.toInt
  bearingY : Word.FitsInt16 (k * d.bearingY.toInt) →
    mask.bearingY.toInt = k * d.bearingY.toInt
  size_eq : mask.coverage.size = mask.width.toNat * mask.height.toNat
  byte : ∀ x < mask.width.toNat, ∀ y < mask.height.toNat, ∃ byte,
    d.coverage[y / k * d.width.toNat + x / k]? = some byte ∧
      mask.coverage[y * mask.width.toNat + x]? = some byte
  ink : mask.ink = k ^ 2 * d.mask.ink

/-- A drawing with one byte for each pixel magnifies itself once. -/
theorem magnifies_mask (filled : d.Filled) : Magnifies d 1 d.mask where
  width := (Nat.one_mul _).symm
  height := (Nat.one_mul _).symm
  bearingX _ := (Int.one_mul _).symm
  bearingY _ := (Int.one_mul _).symm
  size_eq := filled
  byte x inRow y inColumn := by
    have bound : y * d.width.toNat + x < d.coverage.size := by
      rw [filled]
      exact place_lt_area inRow inColumn
    rw [Nat.div_one, Nat.div_one]
    exact ⟨_, Array.getElem?_eq_getElem bound, Array.getElem?_eq_getElem bound⟩
  ink := by rw [Nat.one_pow, Nat.one_mul]

/-- Redrawing a drawing at a multiple of the design size magnifies it. -/
theorem magnifies_redrawn (redrawable : s.Redrawable d size) (filled : d.Filled)
    (provides : d.Provides (s.scaledExtent d.width size) (s.scaledExtent d.height size))
    (multiple : size.toNat = k * s.design.toNat) (positive : 1 ≤ k)
    (width_pos : 0 < d.width.toNat) (height_pos : 0 < d.height.toNat)
    (widthFits : d.width.toNat < 2147483648) (heightFits : d.height.toNat < 2147483648) :
    Magnifies d k (s.redrawn d size) := by
  have width_eq := scaledExtent_of_multiple multiple positive width_pos widthFits
  have height_eq := scaledExtent_of_multiple multiple positive height_pos heightFits
  have isWidth : (s.redrawn d size).width.toNat = k * d.width.toNat :=
    redrawable.toNat_width.trans width_eq
  have isHeight : (s.redrawn d size).height.toNat = k * d.height.toNat :=
    redrawable.toNat_height.trans height_eq
  have isCoverage : (s.redrawn d size).coverage = resample d.coverage d.width.toNat
      d.height.toNat (k * d.width.toNat) (k * d.height.toNat) := by
    rw [redrawn, width_eq, height_eq]
  constructor
  case width => exact isWidth
  case height => exact isHeight
  case bearingX =>
    intro fits
    rw [← scaled_bearing_of_multiple multiple] at fits ⊢
    exact Word.toInt_ofInt_of_fitsInt16 fits
  case bearingY =>
    intro fits
    rw [← scaled_bearing_of_multiple multiple] at fits ⊢
    exact Word.toInt_ofInt_of_fitsInt16 fits
  case size_eq => rw [isCoverage, isWidth, isHeight, resample, size_grid]
  case byte =>
    intro x inRow y inColumn
    rw [isWidth] at inRow ⊢
    rw [isHeight] at inColumn
    rw [width_eq, height_eq] at provides
    have reads := Array.getElem?_eq_getElem (provides x inRow y inColumn).2
    rw [isCoverage, getElem?_resample d.coverage _ _ inRow inColumn, reads, Option.getD_some,
      ← nearest_mul width_pos x, ← nearest_mul height_pos y, reads]
    exact ⟨_, rfl, rfl⟩
  case ink =>
    rw [Mask.ink, isCoverage]
    exact countP_resample_mul (· != 0) width_pos height_pos filled k

/-- A drawing that can be magnified at least twice can be counted by a word. -/
theorem Redrawable.countable_of_multiple (redrawable : s.Redrawable d size)
    (multiple : size.toNat = k * s.design.toNat) (several : 2 ≤ k)
    (width_pos : 0 < d.width.toNat) (height_pos : 0 < d.height.toNat)
    (widthFits : k * d.width.toNat < 4294967296)
    (heightFits : k * d.height.toNat < 4294967296) : d.Countable := by
  have twiceWidth := Nat.mul_le_mul_right d.width.toNat several
  have twiceHeight := Nat.mul_le_mul_right d.height.toNat several
  have area := redrawable.area
  rw [scaledExtent_of_multiple multiple (by omega) width_pos (by omega),
    scaledExtent_of_multiple multiple (by omega) height_pos (by omega)] at area
  exact Nat.lt_of_le_of_lt (Nat.mul_le_mul (by omega) (by omega)) area

/-- Redrawing a drawing at the design size itself gives the drawing. -/
theorem redrawn_design (s : Sheet) (filled : d.Filled) (width_pos : 0 < d.width.toNat)
    (height_pos : 0 < d.height.toNat) (widthFits : d.width.toNat < 2147483648)
    (heightFits : d.height.toNat < 2147483648) : s.redrawn d s.design = d.mask := by
  have once : s.design.toNat = 1 * s.design.toNat := (Nat.one_mul _).symm
  have extent_eq {extent : UInt32} (extent_pos : 0 < extent.toNat)
      (fits : extent.toNat < 2147483648) : s.scaledExtent extent s.design = extent.toNat := by
    rw [scaledExtent_of_multiple once (Nat.le_refl 1) extent_pos fits, Nat.one_mul]
  have bearing_eq (bearing : Int16) :
      s.scaled (Int32.ofInt bearing.toInt) s.design = bearing.toInt := by
    rw [scaled_bearing_of_multiple once, Int.natCast_one, Int.one_mul]
  rw [redrawn, extent_eq width_pos widthFits, extent_eq height_pos heightFits, bearing_eq,
    bearing_eq, resample_self width_pos height_pos filled, UInt32.ofNat_toNat,
    UInt32.ofNat_toNat, Int16.ofInt_toInt, Int16.ofInt_toInt]
  rfl

/-- A size is the design size precisely when it is once the design size. -/
theorem eq_design_iff (multiple : size.toNat = k * s.design.toNat) :
    size = s.design ↔ k = 1 := by
  rw [← UInt16.toNat_inj, multiple, Nat.mul_eq_right s.design_pos.ne']

/-! ## Magnified glyphs -/

section Glyphs

variable {id : UInt16} (stored : s.drawings[id.toNat]? = some d)
  (multiple : size.toNat = k * s.design.toNat) (positive : 1 ≤ k)

include stored multiple

include positive in
/-- A drawing with one byte for each pixel is shown at a multiple of the design size
precisely when it is shown as it is or can be redrawn. -/
theorem rasterize_multiple_returns_iff (filled : d.Filled)
    (inked : ¬ (d.width = 0 ∨ d.height = 0)) (widthFits : k * d.width.toNat < 4294967296)
    (heightFits : k * d.height.toNat < 4294967296) :
    (∃ outcome, s.rasterize id size = .ok outcome) ↔ k = 1 ∨ s.Redrawable d size := by
  simp only [rasterize_eq_ok_iff stored, exists_and_left, exists_eq, and_true, Showable,
    Legible, eq_design_iff multiple, ← or_assoc, inked, false_or]
  constructor
  · rintro ⟨showable, _⟩
    exact showable
  · intro showable
    refine ⟨showable, or_iff_not_imp_left.mpr fun notOnce => ?_⟩
    obtain ⟨width_pos, height_pos⟩ := extents_pos inked
    have countable := (showable.resolve_left notOnce).countable_of_multiple multiple
      (Nat.lt_of_le_of_ne positive (Ne.symm notOnce)) width_pos height_pos widthFits
      heightFits
    exact (filled.sound countable).provides width_pos height_pos _ _

include positive in
/-- What is shown at a multiple of the design size is the drawing, magnified. -/
theorem magnifies_of_rasterize (filled : d.Filled) (inked : ¬ (d.width = 0 ∨ d.height = 0))
    (widthFits : k * d.width.toNat < 4294967296)
    (heightFits : k * d.height.toNat < 4294967296) {outcome : Except Error Mask}
    (returns : s.rasterize id size = .ok outcome) :
    ∃ mask, outcome = .ok mask ∧ Magnifies d k mask := by
  obtain ⟨⟨showable, legible⟩, rfl⟩ := (rasterize_eq_ok_iff stored).mp returns
  refine ⟨_, rfl, ?_⟩
  rw [shown, if_neg inked]
  split
  · rename_i designed
    rw [(eq_design_iff multiple).mp designed]
    exact magnifies_mask filled
  · rename_i other
    -- What is magnified at least twice and fits a word is also positive as a signed word.
    have several : 2 ≤ k := by
      have notOnce := mt (eq_design_iff multiple).mpr other
      omega
    have twiceWidth := Nat.mul_le_mul_right d.width.toNat several
    have twiceHeight := Nat.mul_le_mul_right d.height.toNat several
    obtain ⟨width_pos, height_pos⟩ := extents_pos inked
    exact magnifies_redrawn (showable.redrawable inked other) filled
      (legible.provides inked other) multiple positive width_pos height_pos (by omega)
      (by omega)

theorem advance_of_multiple (fits : k * d.advance.toNat < 65536) {advance : UInt16}
    (returns : s.advance id size = .ok advance) : advance.toNat = k * d.advance.toNat := by
  obtain ⟨_, rfl⟩ := (advance_eq_ok_iff stored).mp returns
  rw [scaledAdvance, scaled_of_multiple multiple, toInt_ofNat_advance,
    UInt16.toNat_ofNat_of_lt' (by rw [UInt16.size]; omega)]
  omega

/-- At the design size a drawing is shown as it would be redrawn. -/
theorem rasterize_of_redraw (once : k = 1) (filled : d.Filled)
    (inked : ¬ (d.width = 0 ∨ d.height = 0)) (widthFits : d.width.toNat < 2147483648)
    (heightFits : d.height.toNat < 2147483648)
    {mask : Mask} (redraws : s.redraw d size = .ok mask) :
    s.rasterize id size = .ok (.ok mask) := by
  obtain ⟨width_pos, height_pos⟩ := extents_pos inked
  have designed := (eq_design_iff multiple).mpr once
  obtain ⟨_, _, rfl⟩ := redraw_eq_ok_iff.mp redraws
  refine (rasterize_eq_ok_iff stored).mpr
    ⟨⟨.inr (.inr (.inl designed)), .inr (.inr (.inl designed))⟩, ?_⟩
  rw [shown, if_neg inked, if_pos designed, designed,
    redrawn_design s filled width_pos height_pos widthFits heightFits]

end Glyphs

theorem lineMetrics_returns_iff :
    (∃ metrics, s.lineMetrics size = .ok metrics) ↔
      s.Scalable s.metrics.ascent size ∧ s.Scalable s.metrics.descent size := by
  constructor
  · rintro ⟨metrics, returns⟩
    exact (lineMetrics_eq_ok_iff.mp returns).1
  · rintro ⟨ascent, descent⟩
    exact ⟨⟨_, _⟩, lineMetrics_eq_ok_iff.mpr ⟨⟨ascent, descent⟩,
      Word.toInt_ofInt_of_fits ascent.fits_scaled,
      Word.toInt_ofInt_of_fits descent.fits_scaled⟩⟩

theorem lineMetrics_of_multiple (multiple : size.toNat = k * s.design.toNat)
    {metrics : LineMetrics} (returns : s.lineMetrics size = .ok metrics) :
    metrics.ascent.toInt = k * s.metrics.ascent.toInt ∧
      metrics.descent.toInt = k * s.metrics.descent.toInt := by
  have values := (lineMetrics_eq_ok_iff.mp returns).2
  rw [scaled_of_multiple multiple, scaled_of_multiple multiple] at values
  exact values

/-- Take any drawing of any sheet that has one byte for each pixel, and a size that is `k`
times the design size.  Whenever
nothing overflows, the mask of a drawing with pixels shows each of them as a square of `k`
by `k` pixels, and its extents, bearings and ink are multiplied accordingly; the advance
and the metrics of a line are multiplied by `k`.  The words of the result have to hold
these values.  At the design size, the drawing is shown as it would be redrawn, if its
extents fit the signed words in which lengths are scaled. -/
theorem magnification_is_exact (s : Sheet) (id size : UInt16) (d : Drawing) (k : Nat)
    (stored : s.drawings[id.toNat]? = some d) (filled : d.Filled) (positive : 1 ≤ k)
    (multiple : size.toNat = k * s.design.toNat) :
    (¬ (d.width = 0 ∨ d.height = 0) →
      k * d.width.toNat < 4294967296 → k * d.height.toNat < 4294967296 →
      ((∃ outcome, s.rasterize id size = .ok outcome) ↔ k = 1 ∨ s.Redrawable d size) ∧
      ∀ outcome, s.rasterize id size = .ok outcome →
        ∃ mask, outcome = .ok mask ∧ Magnifies d k mask) ∧
    (((∃ advance, s.advance id size = .ok advance) ↔
        s.Scalable (Int32.ofNat d.advance.toNat) size) ∧
      ∀ advance, s.advance id size = .ok advance → k * d.advance.toNat < 65536 →
        advance.toNat = k * d.advance.toNat) ∧
    (((∃ metrics, s.lineMetrics size = .ok metrics) ↔
        s.Scalable s.metrics.ascent size ∧ s.Scalable s.metrics.descent size) ∧
      ∀ metrics, s.lineMetrics size = .ok metrics →
        metrics.ascent.toInt = k * s.metrics.ascent.toInt ∧
          metrics.descent.toInt = k * s.metrics.descent.toInt) ∧
    (k = 1 → ¬ (d.width = 0 ∨ d.height = 0) →
      d.width.toNat < 2147483648 → d.height.toNat < 2147483648 →
      ∀ mask, s.redraw d size = .ok mask → s.rasterize id size = .ok (.ok mask)) := by
  refine ⟨fun inked widthFits heightFits => ⟨?_, fun _ returns => ?_⟩,
    ⟨?_, fun _ returns fits => ?_⟩, ⟨lineMetrics_returns_iff, fun _ returns => ?_⟩,
    fun once inked widthFits heightFits _ redraws => ?_⟩
  · exact rasterize_multiple_returns_iff stored multiple positive filled inked widthFits
      heightFits
  · exact magnifies_of_rasterize stored multiple positive filled inked widthFits heightFits
      returns
  · simp only [advance_eq_ok_iff stored, exists_and_left, exists_eq, and_true]
  · exact advance_of_multiple stored multiple fits returns
  · exact lineMetrics_of_multiple multiple returns
  · exact rasterize_of_redraw stored multiple once filled inked widthFits heightFits redraws

/-- A hook of two by three pixels that reaches below the baseline and to the left of the
pen. -/
def hook : Drawing := ⟨2, 3, -1, 2, 4, #[0, 255, 0, 255, 255, 255]⟩

/-- A sheet of an odd design size with the hook as its only drawing. -/
def hookSheet : Sheet := { Sheet.create "hooks" 7 ⟨5, -2⟩ with drawings := #[hook] }

/-- At three times its design size the hook has nine pixels for each of its own. -/
theorem magnification_is_exact_hook :
    (∃ mask, hookSheet.rasterize 0 21 = .ok (.ok mask) ∧ Magnifies hook 3 mask ∧
      mask.width.toNat = 6 ∧ mask.height.toNat = 9 ∧ mask.bearingX.toInt = -3 ∧
      mask.bearingY.toInt = 6 ∧ mask.ink = 36) ∧
    (∃ advance, hookSheet.advance 0 21 = .ok advance ∧ advance.toNat = 12) ∧
    (∃ metrics, hookSheet.lineMetrics 21 = .ok metrics ∧ metrics.ascent.toInt = 15 ∧
      metrics.descent.toInt = -6) ∧
    hookSheet.rasterize 0 7 = .ok (.ok (hookSheet.redrawn hook 7)) := by
  have stored : hookSheet.drawings[(0 : UInt16).toNat]? = some hook := rfl
  have sound : hook.Sound := Drawing.Filled.sound rfl (by decide)
  obtain ⟨shows, ⟨advances_iff, advances⟩, ⟨measures_iff, measures⟩, _⟩ :=
    magnification_is_exact hookSheet 0 21 hook 3 stored rfl (by decide) (by decide)
  obtain ⟨returns_iff, magnifies⟩ := shows (by decide) (by decide) (by decide)
  obtain ⟨_, _, _, redraws⟩ :=
    magnification_is_exact hookSheet 0 7 hook 1 stored rfl (by decide) (by decide)
  obtain ⟨outcome, returns⟩ := returns_iff.mpr
    (.inr ⟨by decide, by decide, by decide, by decide, by decide⟩)
  obtain ⟨mask, rfl, magnified⟩ := magnifies outcome returns
  obtain ⟨advance, advanced⟩ := advances_iff.mpr (by decide)
  obtain ⟨metrics, measured⟩ := measures_iff.mpr (by decide)
  exact ⟨⟨mask, returns, magnified, magnified.width, magnified.height,
      magnified.bearingX (by decide), magnified.bearingY (by decide), magnified.ink⟩,
    ⟨advance, advanced, advances advance advanced (by decide)⟩,
    ⟨metrics, measured, measures metrics measured⟩,
    redraws rfl (by decide) (by decide) (by decide) _ (redraw_eq_ok_iff.mpr
      ⟨⟨by decide, by decide, by decide, by decide, by decide⟩,
        sound.provides (by decide) (by decide) _ _, rfl⟩)⟩

end Sheet

end Inkwell
