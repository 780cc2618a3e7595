import Reshape.Decimal.Reading
import Reshape.Proofs.Decimal.Rounding

namespace Reshape.Decimal

open Float.Model
open Float.Model.UnpackedFloat (Sign)

variable {b : Binary} {q : ℚ} {c : Nat} {k : Int}

theorem unpack_pack_subnormal {m : Nat} (pos : 0 < m) (small : m < 2 ^ 52) (s : Sign) :
    (pack (.finite s m (-1074) pos)).unpack = .finite s m (-1074) pos := by
  have field : ((-1074 : Int) + Format.binary64.exponentBias +
      Format.binary64.mantissaBitsWithoutImplicit).toNat = 1 := rfl
  have fits : ¬ 2 ^ Format.binary64.exponentBits ≤ 1 + 1 := by decide
  have mantissa : (BitVec.ofNat 52 m).toNat = m := by
    rw [BitVec.toNat_ofNat]
    omega
  have some : BitVec.ofNat 52 m ≠ 0#52 := by
    intro zero
    have value := congrArg BitVec.toNat zero
    rw [mantissa] at value
    exact pos.ne' value
  have short : ¬ m.log2 + 1 = Format.binary64.mantissaBits := by
    have := (Nat.log2_lt pos.ne').mpr small
    show ¬ m.log2 + 1 = 53
    omega
  have finite : (0#11 : BitVec 11) ≠ -1#11 := by decide
  show UnpackedFloat.unpack _ (UnpackedFloat.pack _ _) = _
  simp only [UnpackedFloat.pack, field, if_neg fits, if_neg short, UnpackedFloat.unpack,
    UnpackedFloat.unpackMantissa_packComponents, UnpackedFloat.unpackExponent_packComponents,
    UnpackedFloat.unpackSign_packComponents, UnpackedFloat.Sign.ofBitVec_toBitVec]
  rw [if_neg finite, if_pos trivial, dif_neg some]
  congr 1

theorem unpack_pack_canonical (h : b.Canonical) (s : Sign) :
    (pack (.finite s b.mantissa b.exponent h.pos)).unpack =
      .finite s b.mantissa b.exponent h.pos := by
  obtain ⟨negative, m, e⟩ := b
  by_cases full : 2 ^ 52 ≤ m
  · exact unpack_pack_normal ⟨full, h.high, h.least, h.largest⟩ s
  · obtain rfl : e = -1074 := h.full.resolve_right full
    exact unpack_pack_subnormal h.pos (Nat.lt_of_not_le full) s

namespace Binary.Interval

theorem lt_infinity (h : b.Interval q) (canonical : b.Canonical) : q < 2 ^ (1024 : Int) := by
  have largest := canonical.largest
  exact (h.lt_two_zpow canonical).trans_le (zpow_le_zpow_right₀ one_le_two (by omega))

theorem least_le (h : b.Interval q) (canonical : b.Canonical) : 2 ^ (-1075 : Int) ≤ q := by
  have bound : (1 : ℚ) ≤ b.mantissa := by exact_mod_cast canonical.pos
  have unit : (0 : ℚ) < 2 ^ b.exponent := by positivity
  have low := h.halfUnit_le
  have least := canonical.least
  have smallest : (2 : ℚ) ^ (-1074 : Int) ≤ 2 ^ b.exponent := zpow_le_zpow_right₀ one_le_two least
  have half : (2 : ℚ) ^ (-1074 : Int) = 2 * 2 ^ (-1075 : Int) := by
    rw [← zpow_one_add₀ two_ne_zero]
    norm_num
  nlinarith

end Binary.Interval

theorem denotes_power (i : Fin 23) :
    Denotes Float.exactlyRepresentablePowersOfTen[i] ((10 ^ (i : Nat) : Nat) : Int) := by
  have table : ∀ i : Fin 23, integer? Float.exactlyRepresentablePowersOfTen[i] =
      some ((10 ^ (i : Nat) : Nat) : Int) := by
    decide +kernel
  exact integer?_eq_some_iff.mp (table i)

theorem Denotes.unpack_eq {x : Float} (h : Denotes x q) (pos : 0 < q) :
    ∃ (m : Nat) (e : Int) (some : 0 < m),
      q = m * 2 ^ e ∧ x.toModel.unpack = .finite .positive m e some := by
  rw [Denotes] at h
  cases unpacked : x.toModel.unpack with
  | notANumber => rw [unpacked] at h; cases h
  | infinity s => rw [unpacked] at h; cases h
  | zero s =>
      rw [unpacked, value?] at h
      exact absurd (Option.some.inj h) pos.ne
  | finite s m e some =>
      rw [unpacked, value?] at h
      have value := Option.some.inj h
      cases s with
      | positive => exact ⟨m, e, some, value.symm, rfl⟩
      | negative =>
          have : (0 : ℚ) ≤ m * 2 ^ e := by positivity
          simp only [Sign.apply] at value
          push_cast at value
          linarith

theorem log2_le_mul {m n : Nat} (full : 2 ^ 52 ≤ m) (pos : 0 < n) : 52 ≤ (m * n).log2 :=
  (Nat.le_log2 (by positivity)).mpr (full.trans (Nat.le_mul_of_pos_right m pos))

section Exact

variable (canonical : b.Canonical) (bound : c < 2 ^ 53) (i : Fin 23)
include bound

theorem exists_parts (pos : 0 < c) :
    ∃ m e, ∃ h : Normal m e, ∃ (m' : Nat) (e' : Int) (pos' : 0 < m'),
      (c : ℚ) = m * 2 ^ e ∧ (10 : ℚ) ^ (i : Nat) = m' * 2 ^ e' ∧
      c.toUInt64.toFloat.toModel.unpack = .finite .positive m e h.pos ∧
      Float.exactlyRepresentablePowersOfTen[i].toModel.unpack = .finite .positive m' e' pos' := by
  have size : c.toUInt64.toNat = c := by
    rw [Nat.toUInt64_eq, UInt64.toNat_ofNat']
    omega
  obtain ⟨m, e, normal, value⟩ := exists_normal pos bound.le
  obtain ⟨m', e', pos', value', unpacked⟩ := (denotes_power i).unpack_eq (by positivity)
  refine ⟨m, e, normal, m', e', pos', value, ?_, unpack_toFloat normal (by rw [size, value]),
    unpacked⟩
  rw [← value']
  push_cast
  rfl

theorem toFloat_mul_power (interval : b.Interval (c * 10 ^ (i : Nat))) :
    (c.toUInt64.toFloat * Float.exactlyRepresentablePowersOfTen[i]) =
      .ofModel (pack (.finite .positive b.mantissa b.exponent canonical.pos)) := by
  have pos : 0 < c := by
    have := interval.pos canonical
    exact_mod_cast pos_of_mul_pos_left this (by positivity)
  obtain ⟨m, e, normal, m', e', pos', value, value', unpacked, unpacked'⟩ :=
    exists_parts bound i pos
  show Float.ofModel (pack (UnpackedFloat.mul Format.binary64 _ _)) = _
  rw [value, value'] at interval
  rw [unpacked, unpacked', mul_eq canonical interval (log2_le_mul normal.low pos')]
  rfl

theorem toFloat_div_power (interval : b.Interval (c / 10 ^ (i : Nat))) :
    (c.toUInt64.toFloat / Float.exactlyRepresentablePowersOfTen[i]) =
      .ofModel (pack (.finite .positive b.mantissa b.exponent canonical.pos)) := by
  have pos : 0 < c := by
    have := interval.pos canonical
    rw [div_eq_mul_inv] at this
    exact_mod_cast pos_of_mul_pos_left this (by positivity)
  obtain ⟨m, e, normal, m', e', pos', value, value', unpacked, unpacked'⟩ :=
    exists_parts bound i pos
  show Float.ofModel (pack (UnpackedFloat.div Format.binary64 _ _)) = _
  rw [value, value'] at interval
  rw [unpacked, unpacked', div_eq canonical interval]
  rfl

end Exact

theorem ten_zpow_le_two_zpow {i : Int} (h : 0 ≤ k ∧ 10 * k ≤ 3 * i ∨ k ≤ 0 ∧ 93 * k ≤ 28 * i) :
    (10 : ℚ) ^ k ≤ 2 ^ i := by
  have power (x : ℚ) (pos : 0 ≤ x) (d : Nat) (j : Int) : (x ^ j) ^ d = (x ^ d) ^ j := by
    rw [← zpow_natCast, ← zpow_mul, mul_comm, zpow_mul, zpow_natCast]
  rcases h with ⟨nonneg, bits⟩ | ⟨nonpos, bits⟩
  · rw [← pow_le_pow_iff_left₀ (by positivity) (by positivity) three_ne_zero]
    obtain ⟨n, rfl⟩ := Int.eq_ofNat_of_zero_le nonneg
    calc ((10 : ℚ) ^ (n : Int)) ^ 3 = (10 ^ 3) ^ n := by rw [zpow_natCast, pow_right_comm]
      _ ≤ (2 ^ 10) ^ n := by gcongr; norm_num
      _ = 2 ^ (10 * n : Int) := by rw [zpow_mul, zpow_natCast, zpow_ofNat]
      _ ≤ 2 ^ (i * 3) := zpow_le_zpow_right₀ one_le_two (by omega)
      _ = (2 ^ i) ^ 3 := by rw [zpow_mul, zpow_ofNat]
  · rw [← pow_le_pow_iff_left₀ (by positivity) (by positivity) (show 28 ≠ 0 by decide)]
    obtain ⟨n, negated⟩ := Int.eq_ofNat_of_zero_le (Int.neg_nonneg_of_nonpos nonpos)
    obtain rfl : k = -n := by omega
    calc ((10 : ℚ) ^ (-n : Int)) ^ 28 = ((10 ^ 28) ^ n)⁻¹ := by
          rw [zpow_neg, zpow_natCast, inv_pow, pow_right_comm]
      _ ≤ ((2 ^ 93) ^ n)⁻¹ := by gcongr; norm_num
      _ = 2 ^ (-(93 * n) : Int) := by rw [zpow_neg, zpow_mul, zpow_natCast, zpow_ofNat]
      _ ≤ 2 ^ (i * 28) := zpow_le_zpow_right₀ one_le_two (by omega)
      _ = (2 ^ i) ^ 28 := by rw [zpow_mul, zpow_ofNat]

theorem two_zpow_le_ten_zpow {i : Int} (nonneg : 0 ≤ k) (h : 28 * i ≤ 93 * k) :
    (2 : ℚ) ^ i ≤ 10 ^ k := by
  have inverse : (10 : ℚ) ^ (-k) ≤ 2 ^ (-i) := ten_zpow_le_two_zpow (.inr (by omega))
  rw [zpow_neg, zpow_neg] at inverse
  exact (inv_le_inv₀ (by positivity) (by positivity)).mp inverse

theorem Binary.Interval.not_large (interval : b.Interval (c * 10 ^ k)) (canonical : b.Canonical) :
    k < 310 := by
  have power : (0 : ℚ) < 10 ^ k := by positivity
  have one : (1 : ℚ) ≤ c := by
    exact_mod_cast pos_of_mul_pos_left (interval.pos canonical) power.le
  by_contra large
  have : (2 : ℚ) ^ (1024 : Int) ≤ c * 10 ^ k :=
    (two_zpow_le_ten_zpow (by omega) (by omega)).trans (le_mul_of_one_le_left power.le one)
  exact absurd (interval.lt_infinity canonical) (not_lt.mpr this)

theorem Binary.Interval.not_small (interval : b.Interval (c * 10 ^ k)) (canonical : b.Canonical)
    {d : Int} (bound : (c : ℚ) ≤ 10 ^ d) : -330 ≤ d + k := by
  by_contra small
  have : (c : ℚ) * 10 ^ k < 2 ^ (-1075 : Int) := by
    calc (c : ℚ) * 10 ^ k ≤ 10 ^ d * 10 ^ k := by gcongr
      _ = 10 ^ (d + k) := (zpow_add₀ (by norm_num) d k).symm
      _ ≤ 2 ^ (-1076 : Int) := ten_zpow_le_two_zpow (.inr (by omega))
      _ < 2 ^ (-1075 : Int) := zpow_lt_zpow_right₀ one_lt_two (by decide)
  exact absurd (interval.least_le canonical) (not_le.mpr this)

theorem unpackedOfScientific_eq (canonical : b.Canonical) (interval : b.Interval (c * 10 ^ k)) :
    UnpackedFloat.ofScientific Format.binary64 c k =
      .finite .positive b.mantissa b.exponent canonical.pos := by
  have power : (0 : ℚ) < 10 ^ k := by positivity
  have pos : 0 < c := by
    exact_mod_cast pos_of_mul_pos_left (interval.pos canonical) power.le
  have small : ¬ k > 2 ^ Format.binary64.exponentBits := by
    have := interval.not_large canonical
    show ¬ k > 2048
    omega
  have large : ¬ k < -(2 ^ Format.binary64.exponentBits + c.log2) := by
    have bits : (c : ℚ) ≤ 10 ^ ((c.log2 + 1 : Nat) : Int) := by
      rw [zpow_natCast]
      calc (c : ℚ) ≤ 2 ^ (c.log2 + 1) := by exact_mod_cast (Nat.lt_log2_self (n := c)).le
        _ ≤ 10 ^ (c.log2 + 1) := by gcongr; norm_num
    have := interval.not_small canonical bits
    show ¬ k < -(2048 + c.log2)
    omega
  rw [UnpackedFloat.ofScientific, dif_neg pos.ne', if_neg small, if_neg large]
  split
  · rename_i nonneg
    have same : (c : ℚ) * (10 : ℚ) ^ k =
        ((c <<< 53 : Nat) : ℚ) * 2 ^ (-53 : Int) * ((10 ^ k.toNat : Nat) * 2 ^ (0 : Int)) := by
      have whole : (10 : ℚ) ^ k = 10 ^ k.toNat := by
        rw [← zpow_natCast, Int.toNat_of_nonneg nonneg]
      rw [whole, Nat.shiftLeft_eq]
      push_cast
      norm_num
      ring
    rw [same] at interval
    refine mul_eq canonical interval (log2_le_mul ?_ (by positivity))
    show 2 ^ 52 ≤ c <<< 53
    rw [Nat.shiftLeft_eq]
    omega
  · rename_i negative
    have same : (c : ℚ) * 10 ^ k =
        (c : ℚ) * 2 ^ (0 : Int) / ((10 ^ (-k).toNat : Nat) * 2 ^ (0 : Int)) := by
      have whole : (10 : ℚ) ^ (-k).toNat * 10 ^ k = 1 := by
        rw [← zpow_natCast, Int.toNat_of_nonneg (by omega), ← zpow_add₀ (by norm_num)]
        norm_num
      push_cast
      field_simp
      linarith
    rw [same] at interval
    exact div_eq canonical interval

theorem ofScientific_eq (canonical : b.Canonical) (interval : b.Interval (c * 10 ^ k)) :
    Float.ofScientific c (k < 0) k.natAbs =
      .ofModel (pack (.finite .positive b.mantissa b.exponent canonical.pos)) := by
  by_cases fast : c < 2 ^ 53 ∧ k.natAbs ≤ 22
  · rw [Float.ofScientific, dif_pos fast]
    let i : Fin 23 := ⟨k.natAbs, by omega⟩
    by_cases negative : k < 0
    · simp only [negative, decide_true, if_true]
      have fraction : (c : ℚ) * 10 ^ k = c / 10 ^ k.natAbs := by
        rw [div_eq_mul_inv, ← zpow_natCast, ← zpow_neg]
        congr 2
        omega
      rw [fraction] at interval
      exact toFloat_div_power canonical fast.1 i interval
    · simp only [negative, decide_false, Bool.false_eq_true, if_false]
      have whole : (10 : ℚ) ^ k = 10 ^ k.natAbs := by
        rw [← zpow_natCast]
        congr 1
        omega
      rw [whole] at interval
      exact toFloat_mul_power canonical fast.1 i interval
  · rw [Float.ofScientific, dif_neg fast]
    have exponent : (if decide (k < 0) = true then Int.negOfNat k.natAbs
        else Int.ofNat k.natAbs) = k := by
      split <;> rename_i negative <;> simp only [decide_eq_true_eq] at negative
      · rw [Int.negOfNat_eq, Int.ofNat_eq_natCast]
        omega
      · rw [Int.ofNat_eq_natCast]
        omega
    simp only [exponent]
    show Float.ofModel (pack (UnpackedFloat.ofScientific Format.binary64 c k)) = _
    rw [unpackedOfScientific_eq canonical interval]

theorem nearest_eq (canonical : b.Canonical) (interval : b.Interval (c * 10 ^ k)) :
    nearest c k = .ofModel (pack (.finite .positive b.mantissa b.exponent canonical.pos)) := by
  have power : (0 : ℚ) < 10 ^ k := by positivity
  have pos : 0 < c := by
    exact_mod_cast pos_of_mul_pos_left (interval.pos canonical) power.le
  have small : ¬ 310 ≤ k := by
    have := interval.not_large canonical
    omega
  have large : ¬ ((Nat.toDigits 10 c).length : Int) + k < -330 := by
    have digits : c < 10 ^ (Nat.toDigits 10 c).length :=
      (Nat.length_toDigits_le_iff (by decide) (List.length_pos_of_ne_nil Nat.toDigits_ne_nil)).mp
        le_rfl
    have bound : (c : ℚ) ≤ 10 ^ ((Nat.toDigits 10 c).length : Int) := by
      rw [zpow_natCast]
      exact_mod_cast digits.le
    have := interval.not_small canonical bound
    omega
  rw [nearest, if_neg pos.ne', if_neg small, if_neg large, ofScientific_eq canonical interval]

end Reshape.Decimal
