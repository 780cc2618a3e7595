import Reshape.Decimal.Shortest
import Reshape.Proofs.Decimal.Exact

/-!
# Rounding to the nearest float

Each positive finite float stands for an interval of rational numbers: those that are nearer to it
than to any other float, and the ends of the interval if its mantissa is even. Products and quotients
are rounded to the float whose interval they lie in.
-/

namespace Reshape.Decimal

open Float.Model
open Float.Model.UnpackedFloat (Sign Accuracy ExtendedMantissa)

variable {em : ExtendedMantissa} {t q : ℚ} {n m k : Nat} {e total : Int} {s : Sign} {a : Accuracy}
  {b : Binary}

/-! ## Extended mantissas -/

def floorHalf (em : ExtendedMantissa) : ℚ :=
  em.mantissa + if em.roundBit then 1 / 2 else 0

/-- The extended mantissa of a value is the value cut off to halves, and the sticky bit says whether
anything was cut off. -/
structure Tracks (em : ExtendedMantissa) (t : ℚ) : Prop where
  low : floorHalf em ≤ t
  high : t < floorHalf em + 1 / 2
  sticky : em.stickyBit = false ↔ t = floorHalf em

structure NearestInt (t : ℚ) (n : Nat) : Prop where
  low : 2 * (n : ℚ) - 1 < 2 * t ∨ n % 2 = 0 ∧ 2 * (n : ℚ) - 1 = 2 * t
  high : 2 * t < 2 * n + 1 ∨ n % 2 = 0 ∧ 2 * t = 2 * n + 1

theorem mantissa_ofMantissaAndAccuracy (n : Nat) (a : Accuracy) :
    (ExtendedMantissa.ofMantissaAndAccuracy n a).mantissa = n := by
  rcases a with - | (- | - | -) <;> rfl

theorem mantissa_le_floorHalf (em : ExtendedMantissa) : (em.mantissa : ℚ) ≤ floorHalf em := by
  unfold floorHalf
  split <;> linarith

theorem floorHalf_le (em : ExtendedMantissa) : floorHalf em ≤ em.mantissa + 1 / 2 := by
  unfold floorHalf
  split <;> linarith

theorem floorHalf_shiftRightOne : floorHalf em.shiftRightOne = (em.mantissa : ℚ) / 2 := by
  have parts : (em.mantissa : ℚ) = 2 * (em.mantissa / 2 : Nat) + (em.mantissa % 2 : Nat) := by
    exact_mod_cast (Nat.div_add_mod em.mantissa 2).symm
  rcases Nat.mod_two_eq_zero_or_one em.mantissa with even | odd
  · rw [even] at parts
    simp only [floorHalf, ExtendedMantissa.shiftRightOne, even, bne_self_eq_false,
      Bool.false_eq_true, if_false]
    linarith
  · rw [odd] at parts
    have bit : (1 != 0) = true := rfl
    simp only [floorHalf, ExtendedMantissa.shiftRightOne, odd, bit, if_true]
    push_cast at parts
    linarith

namespace Tracks

theorem shiftRightOne (h : Tracks em t) : Tracks em.shiftRightOne (t / 2) := by
  obtain ⟨low, high, sticky⟩ := h
  have least := mantissa_le_floorHalf em
  have most := floorHalf_le em
  constructor
  · rw [floorHalf_shiftRightOne]
    linarith
  · rw [floorHalf_shiftRightOne]
    linarith
  · rw [floorHalf_shiftRightOne, ExtendedMantissa.shiftRightOne, Bool.or_eq_false_iff, sticky]
    -- Nothing is cut off just if there was no round bit and nothing behind it.
    cases round : em.roundBit with
    | false =>
        have none : floorHalf em = em.mantissa := by simp [floorHalf, round]
        rw [none]
        constructor
        · rintro ⟨-, same⟩
          rw [same]
        · intro same
          exact ⟨rfl, by linarith⟩
    | true =>
        have half : floorHalf em = em.mantissa + 1 / 2 := by simp [floorHalf, round]
        refine ⟨fun h => absurd h.1 (by simp), fun same => ?_⟩
        linarith

theorem shiftRight (h : Tracks em t) (k : Nat) : Tracks (em >>> k) (t / 2 ^ k) := by
  show Tracks (k.repeat ExtendedMantissa.shiftRightOne em) _
  induction k with
  | zero => simpa [Nat.repeat] using h
  | succ k ih =>
      have halved : t / 2 ^ (k + 1) = t / 2 ^ k / 2 := by rw [pow_succ, div_div]
      rw [halved]
      exact ih.shiftRightOne

theorem roundedMantissa_eq (h : Tracks em t) (nearest : NearestInt t n) :
    em.roundedMantissa = n := by
  obtain ⟨m, round, sticky⟩ := em
  obtain ⟨below, above, exact⟩ := h
  have low : 2 * (n : ℚ) - 1 ≤ 2 * t := nearest.low.elim le_of_lt fun h => h.2.le
  have high : 2 * t ≤ 2 * n + 1 := nearest.high.elim le_of_lt fun h => h.2.le
  cases round with
  | false =>
      simp only [floorHalf, Bool.false_eq_true, if_false, add_zero] at below above
      have least : m < n + 1 := by
        have : (m : ℚ) < n + 1 := by linarith
        exact_mod_cast this
      have most : n < m + 1 := by
        have : (n : ℚ) < m + 1 := by linarith
        exact_mod_cast this
      have same : m = n := by omega
      cases sticky <;> exact same
  | true =>
      simp only [floorHalf, if_true] at below above exact
      have least : m < n + 1 := by
        have : (m : ℚ) < n + 1 := by linarith
        exact_mod_cast this
      have most : n < m + 2 := by
        have : (n : ℚ) < m + 2 := by linarith
        exact_mod_cast this
      cases sticky with
      | false =>
          -- The value lies in the middle between two integers.
          have middle : t = m + 1 / 2 := exact.mp rfl
          have even : n % 2 = 0 := by
            obtain same | next : n = m ∨ n = m + 1 := by omega
            · refine (nearest.high.resolve_left ?_).1
              rw [same, middle]
              linarith
            · refine (nearest.low.resolve_left ?_).1
              rw [next, middle]
              push_cast
              linarith
          show m + m % 2 = n
          omega
      | true =>
          have inside : t ≠ m + 1 / 2 := fun same => absurd (exact.mpr same) (by simp)
          have strict := lt_of_le_of_ne below inside.symm
          have next : m < n := by
            have : (m : ℚ) < n := by linarith
            exact_mod_cast this
          show m + 1 = n
          omega

theorem ofMantissa (m : Nat) : Tracks (.ofMantissaAndAccuracy m .exact) m := by
  constructor <;> simp [ExtendedMantissa.ofMantissaAndAccuracy, floorHalf]

theorem of_sticky (low : floorHalf em < t) (high : t < floorHalf em + 1 / 2)
    (sticky : em.stickyBit = true) : Tracks em t where
  low := low.le
  high := high
  sticky := by simp [sticky, low.ne']

theorem ofFraction {d : Nat} (pos : 0 < d) (n : Nat) :
    Tracks (.ofMantissaAndAccuracy (n / d) (UnpackedFloat.accuracyOfFraction (n % d) d))
      ((n : ℚ) / d) := by
  have pos' : (0 : ℚ) < d := by exact_mod_cast pos
  have whole : ((n / d : Nat) : ℚ) * d + (n % d : Nat) = n := by exact_mod_cast Nat.div_add_mod' n d
  have parts : (n : ℚ) / d = (n / d : Nat) + (n % d : Nat) / d := by
    calc (n : ℚ) / d = ((n / d : Nat) * d + (n % d : Nat)) / d := by rw [whole]
      _ = (n / d : Nat) + (n % d : Nat) / d := by rw [add_div, mul_div_cancel_right₀ _ pos'.ne']
  have bound : ((n % d : Nat) : ℚ) < d := by exact_mod_cast Nat.mod_lt n pos
  rw [parts]
  generalize n / d = quotient
  generalize n % d = r at bound
  by_cases zero : r = 0
  · rw [zero, UnpackedFloat.accuracyOfFraction, if_pos rfl, Nat.cast_zero, zero_div, add_zero]
    exact ofMantissa quotient
  · have some : (0 : ℚ) < r := by exact_mod_cast Nat.pos_of_ne_zero zero
    have fraction : 0 < (r : ℚ) / d := by positivity
    have one : (r : ℚ) / d < 1 := (div_lt_one pos').mpr bound
    rw [UnpackedFloat.accuracyOfFraction, if_neg zero]
    cases order : compare (2 * r) d with
    | lt =>
        have small : (2 * r : ℚ) < d := by exact_mod_cast Nat.compare_eq_lt.mp order
        have half : (r : ℚ) / d < 1 / 2 := by
          rw [div_lt_div_iff₀ pos' two_pos]
          linarith
        apply of_sticky _ _ rfl <;> simp [ExtendedMantissa.ofMantissaAndAccuracy, floorHalf] <;>
          linarith
    | eq =>
        have middle : (2 * r : ℚ) = d := by exact_mod_cast Nat.compare_eq_eq.mp order
        have half : (r : ℚ) / d = 1 / 2 := by
          rw [div_eq_div_iff pos'.ne' two_ne_zero]
          linarith
        rw [half]
        constructor <;> simp [ExtendedMantissa.ofMantissaAndAccuracy, floorHalf]
    | gt =>
        have large : (d : ℚ) < 2 * r := by exact_mod_cast Nat.compare_eq_gt.mp order
        have half : 1 / 2 < (r : ℚ) / d := by
          rw [div_lt_div_iff₀ two_pos pos']
          linarith
        apply of_sticky _ _ rfl <;> simp [ExtendedMantissa.ofMantissaAndAccuracy, floorHalf] <;>
          linarith

end Tracks

/-! ## The interval of a float -/

namespace Binary

structure Canonical (b : Binary) : Prop where
  pos : 0 < b.mantissa
  high : b.mantissa < 2 ^ 53
  least : -1074 ≤ b.exponent
  largest : b.exponent ≤ 971
  full : b.exponent = -1074 ∨ 2 ^ 52 ≤ b.mantissa

/-- A value is nearer to the magnitude of the float than to any other one, or as near and the float
is even. -/
structure Interval (b : Binary) (q : ℚ) : Prop where
  low : (4 * b.mantissa - b.quartersBelow : ℚ) * 2 ^ b.exponent < 4 * q ∨
    b.mantissa % 2 = 0 ∧ (4 * b.mantissa - b.quartersBelow : ℚ) * 2 ^ b.exponent = 4 * q
  high : 4 * q < (4 * b.mantissa + 2) * 2 ^ b.exponent ∨
    b.mantissa % 2 = 0 ∧ 4 * q = (4 * b.mantissa + 2) * 2 ^ b.exponent

theorem quartersBelow_eq (b : Binary) :
    b.quartersBelow = 1 ∧ b.mantissa = 2 ^ 52 ∧ -1074 < b.exponent ∨ b.quartersBelow = 2 := by
  unfold quartersBelow
  split
  · rename_i power
    exact .inl ⟨rfl, power⟩
  · exact .inr rfl

namespace Interval

variable (h : b.Interval q)
include h

theorem low_le : (4 * b.mantissa - b.quartersBelow : ℚ) * 2 ^ b.exponent ≤ 4 * q :=
  h.low.elim le_of_lt fun h => h.2.le

theorem le_high : 4 * q ≤ (4 * b.mantissa + 2) * 2 ^ b.exponent :=
  h.high.elim le_of_lt fun h => h.2.le

theorem halfUnit_le : (2 * b.mantissa - 1 : ℚ) * 2 ^ b.exponent ≤ 2 * q := by
  have unit : (0 : ℚ) < 2 ^ b.exponent := by positivity
  have low := h.low_le
  rcases b.quartersBelow_eq with ⟨one, -⟩ | two
  · rw [one] at low
    push_cast at low
    nlinarith
  · rw [two] at low
    push_cast at low
    linarith

theorem lt_two_zpow (canonical : b.Canonical) : q < 2 ^ (b.exponent + 53) := by
  have unit : (0 : ℚ) < 2 ^ b.exponent := by positivity
  have bound : (b.mantissa : ℚ) + 1 ≤ 2 ^ 53 := by exact_mod_cast canonical.high
  have high := h.le_high
  rw [zpow_add₀ two_ne_zero, mul_comm]
  have large : ((2 : ℚ) ^ (53 : Int)) = 2 ^ 53 := by norm_cast
  rw [large]
  nlinarith

theorem two_zpow_le (above : 2 ^ (k + 1) + 1 ≤ 2 * b.mantissa) : 2 ^ (b.exponent + k) ≤ q := by
  have unit : (0 : ℚ) < 2 ^ b.exponent := by positivity
  have above : (2 : ℚ) ^ (k + 1) + 1 ≤ 2 * b.mantissa := by exact_mod_cast above
  have low := h.halfUnit_le
  rw [zpow_add₀ two_ne_zero, zpow_natCast]
  rw [pow_succ] at above
  nlinarith

theorem pos (canonical : b.Canonical) : 0 < q := by
  have unit : (0 : ℚ) < 2 ^ b.exponent := by positivity
  have bound : (1 : ℚ) ≤ b.mantissa := by exact_mod_cast canonical.pos
  have low := h.halfUnit_le
  nlinarith

end Interval

theorem Canonical.log2_le (h : b.Canonical) : b.mantissa.log2 ≤ 52 :=
  Nat.le_of_lt_succ ((Nat.log2_lt h.pos.ne').mpr h.high)

theorem Canonical.targetExponent_eq (h : b.Canonical) :
    Format.binary64.targetExponent (totalExponent b.mantissa b.exponent) = b.exponent := by
  have most := h.log2_le
  have least := h.least
  rw [Decimal.targetExponent_eq, totalExponent]
  rcases h.full with subnormal | full
  · omega
  · have log : b.mantissa.log2 = 52 := (Nat.log2_eq_iff h.pos.ne').mpr ⟨full, h.high⟩
    omega

theorem Interval.nearest (h : b.Interval q) : NearestInt (q / 2 ^ b.exponent) b.mantissa := by
  have unit : (0 : ℚ) < 2 ^ b.exponent := by positivity
  have scaled : q = q / 2 ^ b.exponent * 2 ^ b.exponent := (div_mul_cancel₀ q unit.ne').symm
  generalize q / 2 ^ b.exponent = t at scaled
  obtain ⟨low, high⟩ := h
  rw [scaled, ← mul_assoc] at low high
  simp only [mul_lt_mul_iff_left₀ unit, mul_left_inj' unit.ne'] at low high
  constructor
  · rcases b.quartersBelow_eq with ⟨one, -⟩ | two
    · rw [one] at low
      left
      rcases low with low | ⟨-, low⟩ <;> push_cast at low <;> linarith
    · rw [two] at low
      refine low.imp (fun low => ?_) fun ⟨even, low⟩ => ⟨even, ?_⟩ <;> push_cast at low <;>
        linarith
  · refine high.imp (fun high => ?_) fun ⟨even, high⟩ => ⟨even, ?_⟩ <;> linarith

theorem Interval.nearest_below (h : b.Interval q) (power : b.mantissa = 2 ^ 52)
    (least : -1074 < b.exponent) (below : q < 2 ^ (b.exponent + 52)) :
    NearestInt (q / 2 ^ (b.exponent - 1)) (2 ^ 53) := by
  -- Below a power of two, the values that are rounded up to it have twice as many units.
  have unit : (0 : ℚ) < 2 ^ (b.exponent - 1) := by positivity
  have scaled : q = q / 2 ^ (b.exponent - 1) * 2 ^ (b.exponent - 1) :=
    (div_mul_cancel₀ q unit.ne').symm
  have double : (2 : ℚ) ^ b.exponent = 2 * 2 ^ (b.exponent - 1) := by
    rw [← zpow_one_add₀ two_ne_zero]
    congr 1
    omega
  have most : (2 : ℚ) ^ (b.exponent + 52) = 2 ^ 53 * 2 ^ (b.exponent - 1) := by
    rw [← zpow_natCast, ← zpow_add₀ two_ne_zero]
    congr 1
    omega
  have quarter : b.quartersBelow = 1 := if_pos ⟨power, least⟩
  have low := h.low_le
  generalize q / 2 ^ (b.exponent - 1) = t at scaled
  rw [scaled, quarter, power, double, ← mul_assoc, ← mul_assoc, mul_le_mul_iff_left₀ unit] at low
  rw [scaled, most, mul_lt_mul_iff_left₀ unit] at below
  push_cast at low
  constructor
  · rcases lt_or_eq_of_le low with low | low
    · left
      push_cast
      linarith
    · refine .inr ⟨by decide, ?_⟩
      push_cast
      linarith
  · left
    push_cast
    linarith

end Binary

/-! ## Rounding -/

theorem shiftToTargetExponent_canonical (h : b.Canonical) :
    UnpackedFloat.shiftToTargetExponent Format.binary64 b.mantissa b.exponent .exact =
      (⟨b.mantissa, false, false⟩, b.exponent) := by
  simp only [UnpackedFloat.shiftToTargetExponent, UnpackedFloat.shiftToExponent, h.targetExponent_eq,
    sub_self, Int.toNat_zero, Nat.cast_zero, add_zero]
  rfl

namespace Tracks

variable (h : Tracks (.ofMantissaAndAccuracy n a) (q / 2 ^ e))
include h

theorem mantissa_le : (n : ℚ) * 2 ^ e ≤ q := by
  have unit : (0 : ℚ) < 2 ^ e := by positivity
  have low := (mantissa_le_floorHalf _).trans h.low
  rwa [mantissa_ofMantissaAndAccuracy, le_div_iff₀ unit] at low

theorem lt_mantissa : q < (n + 1) * 2 ^ e := by
  have unit : (0 : ℚ) < 2 ^ e := by positivity
  have high := h.high
  have most := floorHalf_le (.ofMantissaAndAccuracy n a)
  rw [mantissa_ofMantissaAndAccuracy] at most
  rw [← div_lt_iff₀ unit]
  linarith

theorem lt_totalExponent : q < 2 ^ totalExponent n e := by
  have bound : ((n + 1 : Nat) : ℚ) ≤ 2 ^ (n.log2 + 1) := by exact_mod_cast Nat.lt_log2_self
  calc q < (n + 1) * 2 ^ e := h.lt_mantissa
    _ ≤ 2 ^ (n.log2 + 1) * 2 ^ e := by
      gcongr
      exact_mod_cast bound
    _ = 2 ^ totalExponent n e := by
      rw [← zpow_natCast, ← zpow_add₀ two_ne_zero]
      rfl

theorem totalExponent_le (pos : 0 < n) : 2 ^ (totalExponent n e - 1) ≤ q := by
  have bound : ((2 ^ n.log2 : Nat) : ℚ) ≤ n := by exact_mod_cast Nat.log2_self_le pos.ne'
  calc (2 : ℚ) ^ (totalExponent n e - 1) = 2 ^ n.log2 * 2 ^ e := by
        rw [← zpow_natCast, ← zpow_add₀ two_ne_zero, totalExponent]
        congr 1
        omega
    _ ≤ n * 2 ^ e := by
      gcongr
      exact_mod_cast bound
    _ ≤ q := h.mantissa_le

theorem target_cases (canonical : b.Canonical) (interval : b.Interval q)
    (fits : e ≤ Format.binary64.targetExponent (totalExponent n e)) :
    Format.binary64.targetExponent (totalExponent n e) = b.exponent ∨
      b.mantissa = 2 ^ 52 ∧ -1074 < b.exponent ∧
        Format.binary64.targetExponent (totalExponent n e) = b.exponent - 1 ∧
        q < 2 ^ (b.exponent + 52) := by
  have least := canonical.least
  have below := h.lt_totalExponent
  have most : totalExponent n e ≤ b.exponent + 53 ∨ totalExponent n e ≤ -1021 := by
    rcases Nat.eq_zero_or_pos n with rfl | pos
    · right
      rw [targetExponent_eq, totalExponent, Nat.log2_zero] at fits
      rw [totalExponent, Nat.log2_zero]
      omega
    · left
      have between := (h.totalExponent_le pos).trans_lt (interval.lt_two_zpow canonical)
      have := (zpow_lt_zpow_iff_right₀ (one_lt_two : (1 : ℚ) < 2)).mp between
      omega
  rw [targetExponent_eq]
  rcases canonical.full with subnormal | full
  · left
    omega
  have above : b.exponent + 51 < totalExponent n e :=
    (zpow_lt_zpow_iff_right₀ (one_lt_two : (1 : ℚ) < 2)).mp
      ((interval.two_zpow_le (k := 51) (by omega)).trans_lt below)
  have cases : max (totalExponent n e - 53) (-1074) = b.exponent ∨
      -1074 < b.exponent ∧ totalExponent n e = b.exponent + 52 := by omega
  rcases cases with same | ⟨inner, total⟩
  · exact .inl same
  rw [total] at below
  refine .inr ⟨?_, inner, by omega, below⟩
  -- The half unit below any larger mantissa is still above the power of two.
  by_contra other
  exact absurd (interval.two_zpow_le (k := 52) (by omega)) (not_le.mpr below)

/-- A value is rounded to the float in whose interval it lies. -/
theorem roundWithAccuracy_eq (canonical : b.Canonical) (interval : b.Interval q)
    (fits : e ≤ Format.binary64.targetExponent (totalExponent n e)) (s : Sign) :
    UnpackedFloat.roundWithAccuracy Format.binary64 s n e a =
      .finite s b.mantissa b.exponent canonical.pos := by
  have cases := h.target_cases canonical interval fits
  generalize target : Format.binary64.targetExponent (totalExponent n e) = T at cases fits
  have amount : e + (T - e).toNat = T := by omega
  have scaled : q / 2 ^ e / 2 ^ (T - e).toNat = q / 2 ^ T := by
    rw [div_div, ← zpow_natCast, ← zpow_add₀ two_ne_zero, amount]
  have shifted := h.shiftRight (T - e).toNat
  rw [scaled] at shifted
  have first : UnpackedFloat.shiftToTargetExponent Format.binary64 n e a =
      (ExtendedMantissa.ofMantissaAndAccuracy n a >>> (T - e).toNat, T) := by
    simp only [UnpackedFloat.shiftToTargetExponent, UnpackedFloat.shiftToExponent, target, amount]
  rw [UnpackedFloat.roundWithAccuracy, first]
  rcases cases with rfl | ⟨power, inner, rfl, below⟩
  · simp only [shifted.roundedMantissa_eq interval.nearest,
      shiftToTargetExponent_canonical canonical, dif_neg canonical.pos.ne']
  · have normal : Normal (2 ^ 52) b.exponent :=
      ⟨le_rfl, by decide, inner.le, canonical.largest⟩
    have again := shiftToTargetExponent_normal normal 1
    rw [Nat.cast_one, ← Nat.pow_add] at again
    simp only [shifted.roundedMantissa_eq (interval.nearest_below power inner below), again, power]
    rfl

end Tracks

/-! ## Products and quotients -/

section Operations

variable {s₁ s₂ : Sign} {m₁ m₂ : Nat} {e₁ e₂ : Int} {pos₁ : 0 < m₁} {pos₂ : 0 < m₂}

theorem mul_eq (canonical : b.Canonical)
    (interval : b.Interval ((m₁ : ℚ) * 2 ^ e₁ * (m₂ * 2 ^ e₂))) (full : 52 ≤ (m₁ * m₂).log2) :
    UnpackedFloat.mul Format.binary64 (.finite s₁ m₁ e₁ pos₁) (.finite s₂ m₂ e₂ pos₂) =
      .finite (s₁ * s₂) b.mantissa b.exponent canonical.pos := by
  have product : (m₁ : ℚ) * 2 ^ e₁ * (m₂ * 2 ^ e₂) = (m₁ * m₂ : Nat) * 2 ^ (e₁ + e₂) := by
    rw [zpow_add₀ two_ne_zero]
    push_cast
    ring
  rw [product] at interval
  have tracks := Tracks.ofMantissa (m₁ * m₂)
  rw [← mul_div_cancel_right₀ ((m₁ * m₂ : Nat) : ℚ) (zpow_ne_zero (e₁ + e₂) two_ne_zero)] at tracks
  refine tracks.roundWithAccuracy_eq canonical interval ?_ (s₁ * s₂)
  rw [targetExponent_eq, totalExponent]
  omega

theorem le_log2_div {m : Nat} (pos₂ : 0 < m₂) (pos : 0 < m) (order : m₂.log2 + 53 ≤ m.log2) :
    52 ≤ (m / m₂).log2 := by
  have quotient : 2 ^ 52 ≤ m / m₂ := by
    rw [Nat.le_div_iff_mul_le pos₂]
    calc 2 ^ 52 * m₂ ≤ 2 ^ 52 * 2 ^ (m₂.log2 + 1) := Nat.mul_le_mul_left _ Nat.lt_log2_self.le
      _ = 2 ^ (m₂.log2 + 53) := by rw [← Nat.pow_add, Nat.add_comm 52]
      _ ≤ 2 ^ m.log2 := Nat.pow_le_pow_right (by decide) order
      _ ≤ m := Nat.log2_self_le pos.ne'
  exact (Nat.le_log2 (by omega)).mpr quotient

theorem div_eq (canonical : b.Canonical)
    (interval : b.Interval ((m₁ : ℚ) * 2 ^ e₁ / (m₂ * 2 ^ e₂))) :
    UnpackedFloat.div Format.binary64 (.finite s₁ m₁ e₁ pos₁) (.finite s₂ m₂ e₂ pos₂) =
      .finite (s₁ / s₂) b.mantissa b.exponent canonical.pos := by
  show (match UnpackedFloat.divCore Format.binary64 m₁ e₁ m₂ e₂ with
    | (m, e, a) => UnpackedFloat.roundWithAccuracy Format.binary64 (s₁ / s₂) m e a) = _
  have wide : min (e₁ - e₂)
      (Format.binary64.targetExponent (totalExponent m₁ e₁ - totalExponent m₂ e₂)) ≤ e₁ - e₂ :=
    min_le_left ..
  have most : min (e₁ - e₂)
      (Format.binary64.targetExponent (totalExponent m₁ e₁ - totalExponent m₂ e₂)) ≤
      max (totalExponent m₁ e₁ - totalExponent m₂ e₂ - 53) (-1074) :=
    min_le_right ..
  simp only [UnpackedFloat.divCore, Nat.shiftLeft_eq]
  generalize min (e₁ - e₂) _ = t at wide most ⊢
  obtain ⟨k, shift⟩ := Int.le.dest wide
  obtain rfl : e₁ = e₂ + t + k := by omega
  have amount : (e₂ + t + k - e₂ - t).toNat = k := by omega
  rw [amount]
  have scaled : (m₁ : ℚ) * 2 ^ (e₂ + t + k) / (m₂ * 2 ^ e₂) / 2 ^ t =
      (m₁ * 2 ^ k : Nat) / m₂ := by
    have pos : (0 : ℚ) < m₂ := by exact_mod_cast pos₂
    rw [zpow_add₀ two_ne_zero, zpow_add₀ two_ne_zero, zpow_natCast]
    push_cast
    field_simp
  have tracks := Tracks.ofFraction pos₂ (m₁ * 2 ^ k)
  rw [← scaled] at tracks
  refine tracks.roundWithAccuracy_eq canonical interval ?_ (s₁ / s₂)
  rw [targetExponent_eq, totalExponent]
  rw [totalExponent, totalExponent] at most
  rcases le_max_iff.mp most with bits | least
  · have enough := le_log2_div (m := m₁ * 2 ^ k) pos₂ (Nat.mul_pos pos₁ (Nat.two_pow_pos k)) (by
      rw [log2_mul_two_pow pos₁]
      omega)
    omega
  · omega

end Operations

end Reshape.Decimal
