import Inkwell.Proofs.Glyph.Scaling

/-!
# Redrawn glyphs

A drawing that is asked for at another size is redrawn pixel by pixel: each pixel takes
the byte of the nearest pixel of the drawing.  Along a row and along a column the places
that are taken follow each other in order.  None is left out when there are at least as
many pixels as before, and none is taken twice when there are at most as many.
-/

namespace Inkwell.Sheet

variable {s : Sheet} {d : Drawing} {size : UInt16} {source target : Nat}

/-! ## Lines of pixels -/

/-- A line of `target` pixels takes its pixels in order from the places of a line of
`source` pixels: all of them if there is room for them, and none twice if not. -/
structure Samples (source target : Nat) (place : Nat → Nat) : Prop where
  inside : ∀ i < target, place i < source
  monotone : ∀ i j, i ≤ j → place i ≤ place j
  onto : source ≤ target → ∀ j < source, ∃ i < target, place i = j
  injective : target ≤ source → ∀ i j, place i = place j → i = j

theorem nearest_le_nearest {i j : Nat} (le : i ≤ j) :
    nearest source target i ≤ nearest source target j :=
  Nat.div_le_div_right (Nat.mul_le_mul_right source le)

/-- A shorter line moves on by at least one place from pixel to pixel. -/
theorem nearest_lt_nearest (shorter : target ≤ source) (positive : 0 < target) {i j : Nat}
    (lt : i < j) : nearest source target i < nearest source target j := by
  calc
    nearest source target i < (i * source + target) / target := by
      rw [Nat.add_div_right _ positive]
      exact Nat.lt_succ_self _
    _ ≤ nearest source target j := by
      apply Nat.div_le_div_right
      have moved : (i + 1) * source ≤ j * source := Nat.mul_le_mul_right source lt
      rw [Nat.succ_mul] at moved
      omega

/-- A longer line comes to every place: the first pixel whose product reaches the place
is not beyond the next one. -/
theorem exists_nearest_eq (longer : source ≤ target) {j : Nat} (inside : j < source) :
    ∃ i < target, nearest source target i = j := by
  have positive : 0 < source := Nat.zero_lt_of_lt inside
  -- The pixel is the quotient of `j * target` by `source`, rounded up.
  have reached := Nat.div_add_mod (j * target + (source - 1)) source
  have remainder := Nat.mod_lt (j * target + (source - 1)) positive
  generalize (j * target + (source - 1)) / source = i at reached
  rw [Nat.mul_comm] at reached
  have lower : j * target ≤ i * source := by
    omega
  have upper : i * source < (j + 1) * target := by
    rw [Nat.succ_mul]
    omega
  refine ⟨i, ?_, Nat.div_eq_of_lt_le lower upper⟩
  have product : i * source < target * source := by
    calc
      i * source < (j + 1) * target := upper
      _ ≤ source * target := Nat.mul_le_mul_right target inside
      _ = target * source := Nat.mul_comm source target
  exact Nat.lt_of_mul_lt_mul_right product

theorem samples_nearest (source_pos : 0 < source) (target_pos : 0 < target) :
    Samples source target (nearest source target) where
  inside _ inside := nearest_lt source_pos inside
  monotone _ _ := nearest_le_nearest
  onto longer _ := exists_nearest_eq longer
  injective shorter i j same := by
    rcases Nat.lt_trichotomy i j with lt | equal | gt
    · exact absurd same (Nat.ne_of_lt (nearest_lt_nearest shorter target_pos lt))
    · exact equal
    · exact absurd same (Nat.ne_of_gt (nearest_lt_nearest shorter target_pos gt))

/-! ## Grids of pixels -/

/-- Each byte of a redrawn grid is that of the nearest pixel. -/
theorem getElem?_resample (coverage : Array UInt8) (width height : Nat)
    {targetWidth targetHeight x y : Nat} (inRow : x < targetWidth)
    (inColumn : y < targetHeight) :
    (resample coverage width height targetWidth targetHeight)[y * targetWidth + x]? =
      some (coverage[nearest height targetHeight y * width +
        nearest width targetWidth x]?.getD 0) :=
  getElem?_grid _ inRow inColumn

theorem Scalable.exists_scale {extent : UInt32}
    (scalable : s.Scalable (Int32.ofInt extent.toNat) size) :
    ∃ length, s.scale (Int32.ofInt extent.toNat) size = .ok length ∧
      (s.scaledExtent extent size : Int) = max 1 length.toInt := by
  have isLength := Word.toInt_ofInt_of_fits scalable.fits_scaled
  refine ⟨_, scale_eq_ok_iff.mpr ⟨scalable, isLength⟩, ?_⟩
  rw [isLength, scaledExtent]
  omega

/-- Take any drawing of any sheet and any size other than the design size at which its
mask is returned.  The mask is empty if the drawing has no pixels.  Otherwise its width and
height are those of the drawing, scaled and at least one; it has one byte for each pixel; the
byte in column `x` and row `y` is the one that the drawing has in column
`x * width / mask.width` and row `y * height / mask.height`, and there is one.  These
columns and rows follow each other in order: all of them where the mask has at least as
many, and none twice where it has at most as many. -/
theorem redrawing_takes_nearest_pixels (s : Sheet) (id size : UInt16) (d : Drawing)
    (stored : s.drawings[id.toNat]? = some d) (other : size ≠ s.design)
    (outcome : Except Error Mask) (returns : s.rasterize id size = .ok outcome) :
    ∃ mask, outcome = .ok mask ∧
      (d.width = 0 ∨ d.height = 0 → mask = Mask.empty) ∧
      (¬ (d.width = 0 ∨ d.height = 0) →
        (∃ width height,
          s.scale (Int32.ofInt d.width.toNat) size = .ok width ∧
          s.scale (Int32.ofInt d.height.toNat) size = .ok height ∧
          (mask.width.toNat : Int) = max 1 width.toInt ∧
          (mask.height.toNat : Int) = max 1 height.toInt) ∧
        mask.coverage.size = mask.width.toNat * mask.height.toNat ∧
        (∀ x < mask.width.toNat, ∀ y < mask.height.toNat, ∃ byte,
          d.coverage[y * d.height.toNat / mask.height.toNat * d.width.toNat +
            x * d.width.toNat / mask.width.toNat]? = some byte ∧
          mask.coverage[y * mask.width.toNat + x]? = some byte) ∧
        Samples d.width.toNat mask.width.toNat
          (fun x => x * d.width.toNat / mask.width.toNat) ∧
        Samples d.height.toNat mask.height.toNat
          (fun y => y * d.height.toNat / mask.height.toNat)) := by
  obtain ⟨⟨showable, legible⟩, rfl⟩ := (rasterize_eq_ok_iff stored).mp returns
  refine ⟨s.shown d size, rfl, fun blank => if_pos blank, fun inked => ?_⟩
  have redrawable := showable.redrawable inked other
  have provides := legible.provides inked other
  have isShown : s.shown d size = s.redrawn d size := by
    rw [shown, if_neg inked, if_neg other]
  rw [isShown, redrawable.toNat_width, redrawable.toNat_height]
  obtain ⟨width, isWidth, width_eq⟩ := redrawable.width.exists_scale
  obtain ⟨height, isHeight, height_eq⟩ := redrawable.height.exists_scale
  rw [not_or, ← UInt32.toNat_inj, ← UInt32.toNat_inj] at inked
  have width_pos := Nat.pos_of_ne_zero inked.1
  have height_pos := Nat.pos_of_ne_zero inked.2
  refine ⟨⟨width, height, isWidth, isHeight, width_eq, height_eq⟩, size_grid _, ?_,
    samples_nearest width_pos (scaledExtent_pos _),
    samples_nearest height_pos (scaledExtent_pos _)⟩
  intro x inRow y inColumn
  have reads := Array.getElem?_eq_getElem (provides x inRow y inColumn).2
  refine ⟨_, reads, (getElem?_resample d.coverage _ _ inRow inColumn).trans ?_⟩
  rw [reads]
  rfl

/-- A ring of four by three pixels. -/
def ring : Drawing :=
  ⟨4, 3, 0, 3, 6, #[0, 255, 255, 0, 255, 0, 0, 255, 0, 255, 255, 0]⟩

/-- A sheet with the ring as its only drawing. -/
def ringSheet : Sheet := { Sheet.create "rings" 8 ⟨6, 2⟩ with drawings := #[ring] }

/-- At one and a half times its design size the ring is six pixels wide and, rounded,
five high. -/
theorem redrawing_takes_nearest_pixels_ring : ∃ mask,
    ringSheet.rasterize 0 12 = .ok (.ok mask) ∧
      (mask.width = 6 ∧ mask.height = 5 ∧ mask.coverage.size = 30) ∧
      (∀ x < 6, ∀ y < 5, ∃ byte, ring.coverage[y * 3 / 5 * 4 + x * 4 / 6]? = some byte ∧
        mask.coverage[y * 6 + x]? = some byte) ∧
      Samples 4 6 (fun x => x * 4 / 6) ∧ Samples 3 5 (fun y => y * 3 / 5) := by
  have stored : ringSheet.drawings[(0 : UInt16).toNat]? = some ring := rfl
  have redrawable : ringSheet.Redrawable ring 12 :=
    ⟨by decide, by decide, by decide, by decide, by decide⟩
  have sound : ring.Sound := Drawing.Filled.sound rfl (by decide)
  have returns := (rasterize_eq_ok_iff_of_sound stored sound).mpr
    ⟨.inr (.inr (.inr redrawable)), rfl⟩
  obtain ⟨mask, isMask, _, redrawn⟩ :=
    redrawing_takes_nearest_pixels ringSheet 0 12 ring stored (by decide) _ returns
  obtain ⟨_, size_eq, bytes, columns, rows⟩ := redrawn (by decide)
  cases isMask
  exact ⟨_, returns, ⟨rfl, rfl, size_eq⟩, bytes, columns, rows⟩

end Inkwell.Sheet
