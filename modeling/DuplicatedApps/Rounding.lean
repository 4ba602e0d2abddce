import Mathlib.Algebra.Order.Round
import Mathlib.Tactic.Linarith
import Mathlib.Tactic.Ring
import Mathlib.Tactic.FieldSimp

set_option autoImplicit false

namespace Rounding

theorem grid_offset {α : Type} [Field α] (index pitch assumed : α) (nonzero : assumed ≠ 0) :
    index * pitch / assumed = index + index * (pitch - assumed) / assumed := by
  field_simp
  ring

variable {α : Type} [Field α] [LinearOrder α] [IsStrictOrderedRing α] [FloorRing α]

def awayFromZero (x : α) : Int := if 0 ≤ x then ⌊x + 1 / 2⌋ else ⌈x - 1 / 2⌉

theorem away_from_zero_iff (x : α) (nearest : Int) (nonneg : 0 ≤ x) :
    awayFromZero x = nearest ↔ nearest - 1 / 2 ≤ x ∧ x < nearest + 1 / 2 := by
  rw [awayFromZero, if_pos nonneg, ← round_eq, round_eq_iff, Set.mem_Ico]

-- The error grows with the index and is absorbed as long as it stays below one half.
theorem grid_index_iff (index : Int) (pitch assumed : α) (nonneg : 0 ≤ index) (positive : 0 < assumed)
    (finer : assumed ≤ pitch) :
    awayFromZero (index * pitch / assumed) = index ↔ 2 * index * (pitch - assumed) < assumed := by
  have place : (0 : α) ≤ index := Int.cast_nonneg nonneg
  have error : 0 ≤ index * (pitch - assumed) / assumed :=
    div_nonneg (mul_nonneg place (sub_nonneg.mpr finer)) positive.le
  have half : index * (pitch - assumed) / assumed < 1 / 2 ↔ 2 * index * (pitch - assumed) < assumed := by
    rw [div_lt_iff₀ positive]
    constructor
    · intro below
      linarith
    · intro below
      linarith
  rw [grid_offset (index : α) pitch assumed positive.ne', away_from_zero_iff _ _ (add_nonneg place error), ← half]
  constructor
  · intro nearest
    exact lt_of_add_lt_add_left nearest.2
  · intro below
    exact ⟨by linarith, add_lt_add_right below _⟩

end Rounding
