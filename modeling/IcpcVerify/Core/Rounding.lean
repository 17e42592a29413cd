import Mathlib

/-!
# Rounding rationals to a decimal grid

A program that prints a number with a fixed count of decimals hands its reader
the nearest point of a grid, not the number.  This file fixes the rule that is
used for that (nearest, ties to the even neighbour), and proves the one fact a
comparison made on the other side needs: exactly when rounding keeps a value at
or above a given bound.
-/

namespace IcpcVerify.Rounding

/-- Nearest integer; a value half way between two integers goes to the even
one. -/
def halfEven (x : ℚ) : ℤ :=
  if x - ⌊x⌋ < 1 / 2 then ⌊x⌋
  else if 1 / 2 < x - ⌊x⌋ then ⌊x⌋ + 1
  else if ⌊x⌋ % 2 = 0 then ⌊x⌋ else ⌊x⌋ + 1

@[simp]
theorem halfEven_intCast (n : ℤ) : halfEven (n : ℚ) = n := by
  simp [halfEven]

/-- An integer bound survives rounding exactly when the value is above the
half-way point below that bound, or sits on it and the bound is even. -/
theorem le_halfEven_iff (n : ℤ) (x : ℚ) :
    n ≤ halfEven x ↔ (n : ℚ) - 1 / 2 < x ∨ ((n : ℚ) - 1 / 2 = x ∧ n % 2 = 0) := by
  have hlow := Int.floor_le x
  have hhigh := Int.lt_floor_add_one x
  have hcases : n ≤ ⌊x⌋ ∨ n = ⌊x⌋ + 1 ∨ ⌊x⌋ + 2 ≤ n := by omega
  rcases hcases with hbelow | hnext | habove
  · -- a bound at or below the floor is kept whatever the excess is
    have hcast : (n : ℚ) ≤ ⌊x⌋ := by exact_mod_cast hbelow
    have hround : n ≤ halfEven x := by
      rw [halfEven]
      split_ifs <;> omega
    exact iff_of_true hround (Or.inl (by linarith))
  · subst hnext
    push_cast
    rw [halfEven]
    split_ifs with hsmall hlarge heven
    · apply iff_of_false (by omega)
      rintro (h | ⟨h, -⟩) <;> linarith
    · exact iff_of_true le_rfl (Or.inl (by linarith))
    · apply iff_of_false (by omega)
      rintro (h | ⟨-, h⟩)
      · linarith
      · omega
    · exact iff_of_true le_rfl (Or.inr ⟨by linarith, by omega⟩)
  · have hcast : ((⌊x⌋ : ℤ) : ℚ) + 2 ≤ n := by exact_mod_cast habove
    apply iff_of_false
    · rw [halfEven]
      split_ifs <;> omega
    · rintro (h | ⟨h, -⟩) <;> linarith

theorem halfEven_mono {x y : ℚ} (hle : x ≤ y) : halfEven x ≤ halfEven y := by
  rw [le_halfEven_iff]
  rcases (le_halfEven_iff (halfEven x) x).1 le_rfl with hlt | ⟨heq, heven⟩
  · exact Or.inl (hlt.trans_le hle)
  · rcases hle.lt_or_eq with hlt | rfl
    · exact Or.inl (heq.trans_lt hlt)
    · exact Or.inr ⟨heq, heven⟩

theorem halfEven_neg (x : ℚ) : halfEven (-x) = -halfEven x := by
  have hle : ∀ n : ℤ, n ≤ halfEven (-x) ↔ n ≤ -halfEven x := by
    intro n
    have hflip := le_halfEven_iff (-n + 1) x
    have hsides : n ≤ -halfEven x ↔ ¬(-n + 1 ≤ halfEven x) := by omega
    rw [hsides, hflip, le_halfEven_iff]
    push_cast
    -- the two half-way points are opposite, and so are the sides of them
    rcases lt_trichotomy ((n : ℚ) - 1 / 2) (-x) with hlt | heq | hgt
    · refine iff_of_true (Or.inl hlt) (not_or.2 ⟨by linarith, fun h => ?_⟩)
      linarith [h.1]
    · have hodd : (-n + 1) % 2 = 0 ↔ ¬n % 2 = 0 := by omega
      have hx : -(n : ℚ) + 1 - 1 / 2 = x := by linarith
      rw [heq, hx, hodd]
      simp
    · refine iff_of_false (not_or.2 ⟨hgt.le.not_gt, fun h => hgt.ne h.1.symm⟩) ?_
      exact not_not.2 (Or.inl (by linarith))
  exact le_antisymm ((hle _).1 le_rfl) ((hle _).2 le_rfl)

theorem halfEven_nonneg {x : ℚ} (hx : 0 ≤ x) : 0 ≤ halfEven x := by
  have hmono := halfEven_mono (show ((0 : ℤ) : ℚ) ≤ x by exact_mod_cast hx)
  rwa [halfEven_intCast] at hmono

/-- The point of the grid with spacing `1 / scale` that is printed for `x`. -/
def toGrid (scale : ℕ) (x : ℚ) : ℚ :=
  halfEven (x * scale) / scale

/-- A bound is kept by rounding exactly when its next grid point is kept. -/
theorem le_toGrid_iff {scale : ℕ} (hscale : 0 < scale) (bound x : ℚ) :
    bound ≤ toGrid scale x ↔ ⌈bound * scale⌉ ≤ halfEven (x * scale) := by
  have hpos : (0 : ℚ) < scale := by exact_mod_cast hscale
  rw [toGrid, le_div_iff₀ hpos, Int.ceil_le]

end IcpcVerify.Rounding
