import Reshape.Proofs.Decimal.Reading

namespace Reshape.Decimal.Binary

variable {b : Binary} {tie : Tie} {g : Int} {d : Nat}

/-- The multiple `d` of a grid step is not below the interval, or not above it: its ends count if the
mantissa is even. -/
def NotBelow (b : Binary) (g : Int) (d : Nat) : Prop :=
  (4 * b.mantissa - b.quartersBelow) * b.quarterUnit g < d * b.gridStep g ∨
    b.mantissa % 2 = 0 ∧ (4 * b.mantissa - b.quartersBelow) * b.quarterUnit g = d * b.gridStep g

def NotAbove (b : Binary) (g : Int) (d : Nat) : Prop :=
  d * b.gridStep g < (4 * b.mantissa + 2) * b.quarterUnit g ∨
    b.mantissa % 2 = 0 ∧ d * b.gridStep g = (4 * b.mantissa + 2) * b.quarterUnit g

structure Inside (b : Binary) (g : Int) (d : Nat) : Prop where
  low : b.NotBelow g d
  high : b.NotAbove g d

theorem quarterUnit_pos (b : Binary) (g : Int) : 0 < b.quarterUnit g :=
  Nat.mul_pos (Nat.two_pow_pos _) (Nat.pow_pos (by decide))

theorem gridStep_pos (b : Binary) (g : Int) : 0 < b.gridStep g :=
  Nat.mul_pos (Nat.pow_pos (by decide)) (Nat.two_pow_pos _)

def gridDenominator (b : Binary) (g : Int) : ℚ :=
  2 ^ (2 - b.exponent).toNat * 10 ^ (-g).toNat

theorem gridDenominator_pos (b : Binary) (g : Int) : 0 < b.gridDenominator g := by
  unfold gridDenominator
  positivity

theorem zpow_mul_toNat {x : ℚ} (pos : x ≠ 0) (i : Int) : x ^ i * x ^ (-i).toNat = x ^ i.toNat := by
  rw [← zpow_natCast, ← zpow_natCast, ← zpow_add₀ pos]
  congr 1
  omega

theorem two_zpow_sub_two (e : Int) : (2 : ℚ) ^ (e - 2) = 2 ^ e / 4 := by
  rw [zpow_sub₀ two_ne_zero]
  norm_num

theorem cast_quarterUnit (b : Binary) (g : Int) :
    (b.quarterUnit g : ℚ) = 2 ^ b.exponent / 4 * b.gridDenominator g := by
  have split := zpow_mul_toNat (two_ne_zero (α := ℚ)) (b.exponent - 2)
  rw [neg_sub] at split
  rw [quarterUnit, gridDenominator, Nat.pow_eq, Nat.pow_eq, ← two_zpow_sub_two, ← mul_assoc, split]
  push_cast
  rfl

theorem cast_gridStep (b : Binary) (g : Int) :
    (b.gridStep g : ℚ) = 10 ^ g * b.gridDenominator g := by
  have split := zpow_mul_toNat (show (10 : ℚ) ≠ 0 by norm_num) g
  rw [gridStep, gridDenominator, Nat.pow_eq, Nat.pow_eq, mul_left_comm, split, mul_comm]
  push_cast
  rfl

theorem quartersBelow_le (pos : 0 < b.mantissa) : b.quartersBelow ≤ 4 * b.mantissa := by
  rcases b.quartersBelow_eq with ⟨one, -⟩ | two <;> omega

theorem end_scaled {x y : Nat} {p r scale : ℚ} {closed : Prop} (pos : 0 < scale)
    (left : (x : ℚ) = p * scale) (right : (y : ℚ) = r * scale)
    (h : x < y ∨ closed ∧ x = y) : p < r ∨ closed ∧ p = r := by
  refine h.imp (fun less => ?_) fun ⟨even, same⟩ => ⟨even, ?_⟩
  · rw [← Nat.cast_lt (α := ℚ), left, right] at less
    exact lt_of_mul_lt_mul_right less pos.le
  · rw [same, right] at left
    exact (mul_right_cancel₀ pos.ne' left).symm

theorem interval_of_inside (pos : 0 < b.mantissa) (h : b.Inside g d) : b.Interval (d * 10 ^ g) := by
  have quarter : 0 < b.gridDenominator g / 4 := div_pos (b.gridDenominator_pos g) (by norm_num)
  have low : (((4 * b.mantissa - b.quartersBelow) * b.quarterUnit g : Nat) : ℚ) =
      (4 * b.mantissa - b.quartersBelow) * 2 ^ b.exponent * (b.gridDenominator g / 4) := by
    rw [Nat.cast_mul, Nat.cast_sub (quartersBelow_le pos), cast_quarterUnit]
    push_cast
    ring
  have high : (((4 * b.mantissa + 2) * b.quarterUnit g : Nat) : ℚ) =
      (4 * b.mantissa + 2) * 2 ^ b.exponent * (b.gridDenominator g / 4) := by
    rw [Nat.cast_mul, cast_quarterUnit]
    push_cast
    ring
  have point : ((d * b.gridStep g : Nat) : ℚ) =
      4 * (d * 10 ^ g) * (b.gridDenominator g / 4) := by
    rw [Nat.cast_mul, cast_gridStep]
    ring
  exact ⟨end_scaled quarter low point h.low, end_scaled quarter point high h.high⟩

def gridFloor (b : Binary) (g : Int) : Nat :=
  4 * b.mantissa * b.quarterUnit g / b.gridStep g

section Grid

variable (b) (g)

theorem value_bounds :
    b.gridFloor g * b.gridStep g ≤ 4 * b.mantissa * b.quarterUnit g ∧
      4 * b.mantissa * b.quarterUnit g < (b.gridFloor g + 1) * b.gridStep g :=
  ⟨Nat.div_mul_le_self .., by
    rw [mul_comm _ (b.gridStep g)]
    exact Nat.lt_mul_div_succ _ (b.gridStep_pos g)⟩

theorem value_lt_high :
    4 * b.mantissa * b.quarterUnit g < (4 * b.mantissa + 2) * b.quarterUnit g :=
  Nat.mul_lt_mul_of_pos_right (by omega) (b.quarterUnit_pos g)

theorem low_le_value :
    (4 * b.mantissa - b.quartersBelow) * b.quarterUnit g ≤ 4 * b.mantissa * b.quarterUnit g :=
  Nat.mul_le_mul_right _ (Nat.sub_le ..)

theorem gridPoint?_cases (tie : Tie) :
    b.gridPoint? tie g = none ∧ ¬ b.NotAbove g (b.gridFloor g + 1) ∨
      b.gridPoint? tie g = some (b.gridFloor g) ∧ b.NotBelow g (b.gridFloor g) ∨
      b.gridPoint? tie g = some (b.gridFloor g + 1) ∧ b.NotAbove g (b.gridFloor g + 1) := by
  unfold gridPoint?
  simp only
  split
  · rename_i both
    split
    · exact .inr (.inl ⟨rfl, both.1⟩)
    split
    · exact .inr (.inr ⟨rfl, both.2⟩)
    cases tie with
    | up => exact .inr (.inr ⟨rfl, both.2⟩)
    | even =>
        simp only
        split
        · exact .inr (.inl ⟨rfl, both.1⟩)
        · exact .inr (.inr ⟨rfl, both.2⟩)
  split
  · rename_i below
    exact .inr (.inl ⟨rfl, below⟩)
  split
  · rename_i above
    exact .inr (.inr ⟨rfl, above⟩)
  · rename_i outside
    exact .inl ⟨rfl, outside⟩

end Grid

theorem gridPoint?_inside (h : b.gridPoint? tie g = some d) : b.Inside g d := by
  have bounds := b.value_bounds g
  obtain ⟨none, -⟩ | ⟨found, below⟩ | ⟨found, above⟩ := b.gridPoint?_cases g tie
  · rw [none] at h
    cases h
  · obtain rfl := Option.some.inj (found.symm.trans h)
    exact ⟨below, .inl (bounds.1.trans_lt (b.value_lt_high g))⟩
  · obtain rfl := Option.some.inj (found.symm.trans h)
    exact ⟨.inl ((b.low_le_value g).trans_lt bounds.2), above⟩

theorem gridPoint?_ne_none (small : (10 : ℚ) ^ g ≤ 2 ^ (b.exponent - 2)) :
    b.gridPoint? tie g ≠ none := by
  -- A step less than half a unit does not jump over the upper half of the interval.
  have step : b.gridStep g ≤ b.quarterUnit g := by
    rw [← Nat.cast_le (α := ℚ), cast_gridStep, cast_quarterUnit, ← two_zpow_sub_two]
    exact mul_le_mul_of_nonneg_right small (b.gridDenominator_pos g).le
  have bounds := b.value_bounds g
  have pos := b.quarterUnit_pos g
  -- The upper neighbour is less than one step above the value, and the end two quarters.
  have above : b.NotAbove g (b.gridFloor g + 1) := by
    left
    rw [Nat.add_mul, Nat.add_mul]
    omega
  obtain ⟨-, outside⟩ | ⟨found, -⟩ | ⟨found, -⟩ := b.gridPoint?_cases g tie
  · exact absurd above outside
  · rw [found]
    exact Option.some_ne_none _
  · rw [found]
    exact Option.some_ne_none _

theorem searchGrids_inside {fuel : Nat} {i : Nat} (bound : i < fuel)
    (found : b.gridPoint? tie (g - i) ≠ none) :
    b.Inside (b.searchGrids tie fuel g).exponent (b.searchGrids tie fuel g).coefficient := by
  -- The induction is on the fuel; `i` counts the grids down to one that has a point.
  induction fuel generalizing g i with
  | zero => exact absurd bound (Nat.not_lt_zero i)
  | succ fuel ih =>
      rw [searchGrids]
      cases point : b.gridPoint? tie g with
      | some d => exact gridPoint?_inside point
      | none =>
          cases i with
          | zero =>
              rw [Nat.cast_zero, sub_zero] at found
              exact absurd point found
          | succ i =>
              refine ih (Nat.lt_of_succ_lt_succ bound) (i := i) ?_
              rwa [sub_sub, add_comm 1, ← Nat.cast_succ]

theorem lastGrid_le (canonical : b.Canonical) :
    (10 : ℚ) ^ (b.gridStart - 23) ≤ 2 ^ (b.exponent - 2) := by
  have digits := canonical.log2_le
  have least := canonical.least
  have largest := canonical.largest
  apply ten_zpow_le_two_zpow
  unfold gridStart
  omega

theorem shortest_interval (canonical : b.Canonical) (tie : Tie) :
    b.Interval ((b.shortest tie).coefficient * 10 ^ (b.shortest tie).exponent) := by
  rw [shortest, if_neg canonical.pos.ne']
  exact interval_of_inside canonical.pos
    (searchGrids_inside (i := 23) (by decide) (gridPoint?_ne_none (lastGrid_le canonical)))

end Reshape.Decimal.Binary
