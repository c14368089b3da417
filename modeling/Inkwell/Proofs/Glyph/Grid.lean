import Inkwell.Glyph.Mask

/-!
# Grids in loops

Pixels are computed in two nested loops, row after row and in each row column after
column, and a loop ends early when one of its passes does.  What a loop returns follows
from what it has after each pass.  A grid of which every entry is known needs no loop.
-/

namespace Inkwell

/-- A loop of which the state after each pass is known returns the last state, precisely
when every pass returns. -/
theorem Checked.foldlM_range_eq_ok_iff {σ : Type} {step : σ → Nat → Checked σ}
    (state : Nat → σ) {Returns : Nat → Prop} {n : Nat}
    (passes : ∀ i < n, ∀ next,
      step (state i) i = .ok next ↔ Returns i ∧ next = state (i + 1))
    {result : σ} :
    (List.range n).foldlM step (state 0) = .ok result ↔
      (∀ i < n, Returns i) ∧ result = state n := by
  induction n generalizing result with
  | zero =>
      rw [List.range_zero, List.foldlM_nil]
      simp [pure, Except.pure, eq_comm]
  | succ n inductionHypothesis =>
      have before (last : σ) : (List.range n).foldlM step (state 0) = .ok last ↔
          (∀ i < n, Returns i) ∧ last = state n :=
        inductionHypothesis fun i lt => passes i (Nat.lt_succ_of_lt lt)
      rw [List.range_succ, List.foldlM_append, Checked.bind_eq_ok_iff]
      simp only [List.foldlM_cons, List.foldlM_nil, bind_pure, before,
        Nat.forall_lt_succ_right]
      constructor
      · rintro ⟨_, ⟨others, rfl⟩, last⟩
        obtain ⟨returns, rfl⟩ := (passes n (Nat.lt_succ_self n) result).mp last
        exact ⟨⟨others, returns⟩, rfl⟩
      · rintro ⟨⟨others, returns⟩, rfl⟩
        exact ⟨_, ⟨others, rfl⟩, (passes n (Nat.lt_succ_self n) _).mpr ⟨returns, rfl⟩⟩

theorem Checked.foldlM_range_eq_ok {σ : Type} {step : σ → Nat → Checked σ}
    (state : Nat → σ) {n : Nat}
    (passes : ∀ i < n, step (state i) i = .ok (state (i + 1))) :
    (List.range n).foldlM step (state 0) = .ok (state n) := by
  have returns (i : Nat) (lt : i < n) (next : σ) :
      step (state i) i = .ok next ↔ True ∧ next = state (i + 1) := by
    rw [passes i lt, Except.ok.injEq, true_and, eq_comm]
  exact (Checked.foldlM_range_eq_ok_iff state returns).mpr ⟨fun _ _ => trivial, rfl⟩

/-- A column and a row of a grid have a place among its entries. -/
theorem place_lt_area {width height x y : Nat} (inRow : x < width)
    (inColumn : y < height) : y * width + x < width * height := by
  have row : (y + 1) * width ≤ height * width := Nat.mul_le_mul_right width inColumn
  rw [Nat.succ_mul] at row
  rw [Nat.mul_comm width]
  omega

/-- The column and the row of a place. -/
theorem place_mod_div {width x : Nat} (inRow : x < width) (y : Nat) :
    (y * width + x) % width = x ∧ (y * width + x) / width = y := by
  constructor
  · rw [Nat.mul_comm, Nat.mul_add_mod, Nat.mod_eq_of_lt inRow]
  · rw [Nat.mul_comm, Nat.mul_add_div (Nat.zero_lt_of_lt inRow), Nat.div_eq_of_lt inRow,
      Nat.add_zero]

section Grid

variable {α : Type}

/-- The entries of a grid, row after row. -/
def grid (width height : Nat) (entry : Nat → Nat → α) : Array α :=
  Array.ofFn fun i : Fin (width * height) => entry (i.val % width) (i.val / width)

variable (entry : Nat → Nat → α) {width height : Nat}

theorem size_grid : (grid width height entry).size = width * height :=
  Array.size_ofFn

/-- The entry of column `x` and row `y` stands after those of `y` rows. -/
theorem getElem?_grid {x y : Nat} (inRow : x < width) (inColumn : y < height) :
    (grid width height entry)[y * width + x]? = some (entry x y) := by
  obtain ⟨column_eq, row_eq⟩ := place_mod_div inRow y
  rw [grid, Array.getElem?_ofFn, dif_pos (place_lt_area inRow inColumn)]
  simp only [column_eq, row_eq]

/-- A grid has its last row after all others. -/
theorem grid_succ :
    grid width (height + 1) entry =
      grid width height entry ++ Array.ofFn fun x : Fin width => entry x height := by
  apply Array.ext_getElem?
  intro i
  rw [Array.getElem?_append, size_grid]
  split
  · rename_i earlier
    have inside := Nat.lt_of_lt_of_le earlier (Nat.mul_le_mul_left width height.le_succ)
    rw [grid, grid, Array.getElem?_ofFn, Array.getElem?_ofFn, dif_pos earlier, dif_pos inside]
  · rename_i later
    obtain ⟨x, rfl⟩ := Nat.exists_eq_add_of_le (Nat.le_of_not_lt later)
    rw [Nat.add_sub_cancel_left, Array.getElem?_ofFn]
    by_cases inRow : x < width
    · rw [dif_pos inRow, Nat.mul_comm, getElem?_grid entry inRow (Nat.lt_succ_self height)]
    · rw [dif_neg inRow, Array.getElem?_eq_none]
      rw [size_grid, Nat.mul_succ]
      exact Nat.add_le_add_left (Nat.le_of_not_lt inRow) _

end Grid

end Inkwell
