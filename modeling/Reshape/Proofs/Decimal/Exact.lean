import Reshape.Proofs.Decimal.Order

namespace Reshape.Decimal

open Float.Model
open Float.Model.UnpackedFloat (Sign ExtendedMantissa)

structure Normal (m : Nat) (e : Int) : Prop where
  low : 2 ^ 52 ≤ m
  high : m < 2 ^ 53
  least : -1074 ≤ e
  largest : e ≤ 971

variable {m n k : Nat} {e t : Int} {s : Sign}

namespace Normal

theorem pos (h : Normal m e) : 0 < m :=
  Nat.lt_of_lt_of_le (by decide) h.low

theorem log2 (h : Normal m e) : m.log2 = 52 :=
  (Nat.log2_eq_iff h.pos.ne').mpr ⟨h.low, h.high⟩

end Normal

theorem log2_mul_two_pow (h : 0 < m) (k : Nat) : (m * 2 ^ k).log2 = m.log2 + k := by
  obtain ⟨low, high⟩ := (Nat.log2_eq_iff h.ne').mp rfl
  rw [Nat.log2_eq_iff (by positivity)]
  have low := Nat.mul_le_mul_right (2 ^ k) low
  have high := Nat.mul_lt_mul_of_pos_right high (Nat.two_pow_pos k)
  rw [← Nat.pow_add] at low high
  refine ⟨low, ?_⟩
  rwa [Nat.add_right_comm]

theorem targetExponent_eq (total : Int) :
    Format.binary64.targetExponent total = max (total - 53) (-1074) := rfl

theorem targetExponent_normal (h : Normal m e) :
    Format.binary64.targetExponent (totalExponent m e) = e := by
  have := h.least
  rw [targetExponent_eq, totalExponent, h.log2]
  omega

theorem shiftRight_exact (m k : Nat) :
    ExtendedMantissa.ofMantissaAndAccuracy (m * 2 ^ k) .exact >>> k = ⟨m, false, false⟩ := by
  show k.repeat ExtendedMantissa.shiftRightOne ⟨m * 2 ^ k, false, false⟩ = _
  induction k generalizing m with
  | zero => simp [Nat.repeat]
  | succ k ih =>
      have double : m * 2 ^ (k + 1) = 2 * m * 2 ^ k := by ring
      rw [Nat.repeat, double, ih]
      simp [ExtendedMantissa.shiftRightOne]

theorem shiftToTargetExponent_normal (h : Normal m e) (k : Nat) :
    UnpackedFloat.shiftToTargetExponent Format.binary64 (m * 2 ^ k) (e - k) .exact =
      (⟨m, false, false⟩, e) := by
  have total : totalExponent (m * 2 ^ k) (e - k) = totalExponent m e := by
    rw [totalExponent, totalExponent, log2_mul_two_pow h.pos]
    omega
  have amount : (e - (e - k)).toNat = k := by omega
  simp only [UnpackedFloat.shiftToTargetExponent, UnpackedFloat.shiftToExponent, total,
    targetExponent_normal h, amount, shiftRight_exact]
  rw [sub_add_cancel]

theorem roundWithAccuracy_normal (h : Normal m e) (s : Sign) (k : Nat) :
    UnpackedFloat.roundWithAccuracy Format.binary64 s (m * 2 ^ k) (e - k) .exact =
      .finite s m e h.pos := by
  have again := shiftToTargetExponent_normal h 0
  simp only [pow_zero, mul_one, Nat.cast_zero, sub_zero] at again
  have rounded : ExtendedMantissa.roundedMantissa ⟨m, false, false⟩ = m := rfl
  simp only [UnpackedFloat.roundWithAccuracy, shiftToTargetExponent_normal h, rounded, again,
    dif_neg h.pos.ne']

theorem exists_shift {n : Nat} (h : (n : ℚ) * 2 ^ t = m * 2 ^ e) :
    (∃ k : Nat, t = e - k ∧ n = m * 2 ^ k) ∨ ∃ k : Nat, e = t - k ∧ m = n * 2 ^ k := by
  have cancel {a b : Nat} {i j : Int} (order : i ≤ j) (same : (a : ℚ) * 2 ^ i = b * 2 ^ j) :
      a = b * 2 ^ (j - i).toNat := by
    have split : (2 : ℚ) ^ j = 2 ^ (j - i).toNat * 2 ^ i := by
      rw [← zpow_natCast, ← zpow_add₀ (by norm_num)]
      congr 1
      omega
    rw [split, ← mul_assoc] at same
    exact_mod_cast mul_right_cancel₀ (by positivity) same
  rcases le_total t e with order | order
  · exact .inl ⟨(e - t).toNat, by omega, cancel order h⟩
  · exact .inr ⟨(t - e).toNat, by omega, cancel order h.symm⟩

theorem round_normal (h : Normal m e) (s : Sign) (same : (n : ℚ) * 2 ^ t = m * 2 ^ e) :
    UnpackedFloat.round Format.binary64 s n t = .finite s m e h.pos := by
  -- The mantissa has too many bits, all of them zeros that are shifted out, or too few.
  rcases exists_shift same with ⟨k, rfl, rfl⟩ | ⟨k, rfl, rfl⟩
  · have total : totalExponent (m * 2 ^ k) (e - k) = totalExponent m e := by
      rw [totalExponent, totalExponent, log2_mul_two_pow h.pos]
      omega
    have amount : (e - k - e).toNat = 0 := by omega
    simp only [UnpackedFloat.round, UnpackedFloat.decreaseExponent, total, targetExponent_normal h,
      amount]
    simpa using roundWithAccuracy_normal h s k
  · have pos : 0 < n := Nat.pos_of_mul_pos_right h.pos
    have total : totalExponent n t = totalExponent (n * 2 ^ k) (t - k) := by
      rw [totalExponent, totalExponent, log2_mul_two_pow pos]
      omega
    have amount : (t - (t - k)).toNat = k := by omega
    simp only [UnpackedFloat.round, UnpackedFloat.decreaseExponent, total, targetExponent_normal h,
      amount, Nat.shiftLeft_eq]
    simpa using roundWithAccuracy_normal h s 0

theorem toNat_hidden_append (v : BitVec 52) : (1#1 ++ v).toNat = 2 ^ 52 + v.toNat := by
  rw [BitVec.toNat_append, ← Nat.shiftLeft_add_eq_or_of_lt v.isLt]
  rfl

theorem unpack_pack_normal (h : Normal m e) (s : Sign) :
    (pack (.finite s m e h.pos)).unpack = .finite s m e h.pos := by
  obtain ⟨low, high, least, largest⟩ := h
  have field : (e + Format.binary64.exponentBias +
      Format.binary64.mantissaBitsWithoutImplicit).toNat = (e + 1075).toNat := by
    show (e + 1023 + 52).toNat = _
    omega
  have exponent : (BitVec.ofNat 11 (e + 1075).toNat).toNat = (e + 1075).toNat := by
    rw [BitVec.toNat_ofNat]
    omega
  have mantissa : (1#1 ++ BitVec.ofNat 52 m).toNat = m := by
    rw [toNat_hidden_append, BitVec.toNat_ofNat]
    omega
  have finite : BitVec.ofNat 11 (e + 1075).toNat ≠ -1#11 := by
    intro same
    have value := congrArg BitVec.toNat same
    rw [exponent] at value
    change _ = 2047 at value
    omega
  have hidden : BitVec.ofNat 11 (e + 1075).toNat ≠ 0#11 := by
    intro same
    have value := congrArg BitVec.toNat same
    rw [exponent] at value
    change _ = 0 at value
    omega
  have fits : ¬ 2 ^ Format.binary64.exponentBits ≤ (e + 1075).toNat + 1 := by
    show ¬ 2048 ≤ _
    omega
  have full : m.log2 + 1 = Format.binary64.mantissaBits := by
    rw [(Nat.log2_eq_iff (by omega)).mpr ⟨low, high⟩]
    rfl
  show UnpackedFloat.unpack _ (UnpackedFloat.pack _ _) = _
  simp only [UnpackedFloat.pack, field, if_neg fits, if_pos full, UnpackedFloat.unpack,
    UnpackedFloat.unpackMantissa_packComponents, UnpackedFloat.unpackExponent_packComponents,
    UnpackedFloat.unpackSign_packComponents, UnpackedFloat.Sign.ofBitVec_toBitVec, finite, hidden,
    if_false, exponent, mantissa]
  congr 1
  show ((e + 1075).toNat : Int) - (1023 + 52) = e
  omega

theorem pack_unpack (x : Float) : Float.ofModel (pack x.toModel.unpack) = x :=
  Float.ofBits_toBits x

theorem unpack_pack_zero (s : Sign) : (pack (.zero s)).unpack = .zero s := by
  cases s <;> rfl

def value? : UnpackedFloat → Option ℚ
  | .zero _ => some 0
  | .finite s m e _ => some (s.apply m * 2 ^ e)
  | _ => none

theorem exists_normal {n : Nat} (pos : 0 < n) (bound : n ≤ exactBound) :
    ∃ m e, Normal m e ∧ (n : ℚ) = m * 2 ^ e := by
  change n ≤ 2 ^ 53 at bound
  -- Smaller numbers are shifted up to 53 bits; `2 ^ 53` itself has 54 and is shifted down.
  rcases Nat.lt_or_eq_of_le bound with below | rfl
  · obtain ⟨low, high⟩ := (Nat.log2_eq_iff pos.ne').mp rfl
    have bits : n.log2 ≤ 52 := Nat.le_of_lt_succ ((Nat.log2_lt pos.ne').mpr below)
    have log : (n * 2 ^ (52 - n.log2)).log2 = 52 := by
      rw [log2_mul_two_pow pos]
      omega
    have full := (Nat.log2_eq_iff (by positivity)).mp log
    refine ⟨n * 2 ^ (52 - n.log2), -(52 - n.log2 : Nat), ⟨full.1, full.2, by omega, by omega⟩, ?_⟩
    rw [zpow_neg, zpow_natCast]
    push_cast
    field_simp
  · exact ⟨2 ^ 52, 1, ⟨by decide, by decide, by decide, by decide⟩, by norm_num⟩

theorem value?_round {n : Nat} (s : Sign) (same : (m : ℚ) * 2 ^ t = n) (pos : 0 < n)
    (bound : n ≤ exactBound) :
    value? (pack (UnpackedFloat.round Format.binary64 s m t)).unpack = some (s.apply n : ℚ) := by
  obtain ⟨m', e, normal, value⟩ := exists_normal pos bound
  rw [round_normal normal s (same.trans value), unpack_pack_normal normal, value?]
  cases s <;> simp [Sign.apply, value]

theorem value?_normalize {mantissa n : Int} (s : Sign) (same : (mantissa : ℚ) * 2 ^ t = n)
    (bound : n.natAbs ≤ exactBound) :
    value? (pack (UnpackedFloat.normalize Format.binary64 mantissa t s)).unpack = some (n : ℚ) := by
  have scale : (0 : ℚ) < 2 ^ t := by positivity
  unfold UnpackedFloat.normalize
  split
  · rename_i order
    have negative : mantissa < 0 := Int.compare_eq_lt.mp order
    obtain ⟨m, rfl⟩ : ∃ m : Nat, mantissa = -m := ⟨mantissa.natAbs, by omega⟩
    have below : (n : ℚ) < 0 := by
      rw [← same]
      exact mul_neg_of_neg_of_pos (by exact_mod_cast negative) scale
    obtain ⟨k, rfl⟩ : ∃ k : Nat, n = -k := ⟨n.natAbs, by
      have : n < 0 := by exact_mod_cast below
      omega⟩
    have magnitude : (m : ℚ) * 2 ^ t = k := by
      push_cast at same
      linarith
    have rounded := value?_round .negative magnitude (by simpa using below) (by simpa using bound)
    simpa [Sign.apply] using rounded
  · rename_i order
    obtain rfl : mantissa = 0 := Int.compare_eq_eq.mp order
    have zero : (n : ℚ) = 0 := by simpa using same.symm
    rw [unpack_pack_zero, value?, zero]
  · rename_i order
    have positive : 0 < mantissa := Int.compare_eq_gt.mp order
    obtain ⟨m, rfl⟩ : ∃ m : Nat, mantissa = m := ⟨mantissa.natAbs, by omega⟩
    have above : (0 : ℚ) < n := by
      rw [← same]
      exact mul_pos (by exact_mod_cast positive) scale
    obtain ⟨k, rfl⟩ : ∃ k : Nat, n = k := ⟨n.natAbs, by
      have : 0 < n := by exact_mod_cast above
      omega⟩
    have magnitude : (m : ℚ) * 2 ^ t = k := by exact_mod_cast same
    have rounded := value?_round .positive magnitude (by exact_mod_cast above) (by simpa using bound)
    simpa [Sign.apply] using rounded

def Denotes (x : Float) (q : ℚ) : Prop :=
  value? x.toModel.unpack = some q

theorem shiftLeft_eq {l : Int} (h : l ≤ e) (s : Sign) (m : Nat) :
    (s.apply (m <<< (e - l).toNat : Nat) : ℚ) * 2 ^ l = s.apply m * 2 ^ e := by
  have split : (2 : ℚ) ^ e = 2 ^ (e - l).toNat * 2 ^ l := by
    rw [← zpow_natCast, ← zpow_add₀ (by norm_num)]
    congr 1
    omega
  rw [Nat.shiftLeft_eq, split]
  cases s <;> simp [Sign.apply] <;> ring

theorem value?_add {u v : UnpackedFloat} {p q : ℚ} {n : Int} (keptU : (pack u).unpack = u)
    (keptV : (pack v).unpack = v) (hu : value? u = some p) (hv : value? v = some q)
    (sum : p + q = n) (bound : n.natAbs ≤ exactBound) :
    value? (pack (UnpackedFloat.add Format.binary64 u v)).unpack = some (n : ℚ) := by
  rw [← sum]
  cases u with
  | notANumber => cases hu
  | infinity s => cases hu
  | zero s =>
      obtain rfl : 0 = p := Option.some.inj hu
      rw [zero_add, ← hv]
      cases v with
      | notANumber => cases hv
      | infinity s' => cases hv
      | zero s' => cases s <;> cases s' <;> rfl
      | finite s' m' e' pos' => exact congrArg value? keptV
  | finite s m e pos =>
      cases v with
      | notANumber => cases hv
      | infinity s' => cases hv
      | zero s' =>
          obtain rfl : 0 = q := Option.some.inj hv
          rw [add_zero, ← hu]
          exact congrArg value? keptU
      | finite s' m' e' pos' =>
          rw [sum]
          apply value?_normalize _ _ bound
          rw [← sum, ← Option.some.inj hu, ← Option.some.inj hv, Int.cast_add, add_mul]
          exact congrArg₂ (· + ·) (shiftLeft_eq (min_le_left e e') s m)
            (shiftLeft_eq (min_le_right e e') s' m')

theorem Denotes.add {x y : Float} {p q : ℚ} {n : Int} (hx : Denotes x p) (hy : Denotes y q)
    (sum : p + q = n) (bound : n.natAbs ≤ exactBound) : Denotes (x + y) n := by
  have kept (z : Float) : (pack z.toModel.unpack).unpack = z.toModel.unpack :=
    congrArg (fun z => z.toModel.unpack) (pack_unpack z)
  exact value?_add (kept x) (kept y) hx hy sum bound

theorem unpack_toFloat (h : Normal m e) {n : UInt64} (same : (n.toNat : ℚ) = m * 2 ^ e) :
    n.toFloat.toModel.unpack = .finite .positive m e h.pos := by
  have pos : 0 < n.toNat := by
    have : (0 : ℚ) < n.toNat := by
      have := h.pos
      rw [same]
      positivity
    exact_mod_cast this
  have order : compare (n.toNat : Int) 0 = .gt := Int.compare_eq_gt.mpr (by omega)
  have rounded := round_normal h .positive (n := n.toNat) (t := 0) (by simpa using same)
  show (pack (UnpackedFloat.normalize Format.binary64 n.toNat 0 .positive)).unpack = _
  simp only [UnpackedFloat.normalize, order, Int.toNat_natCast, rounded, unpack_pack_normal h]

theorem unpack_ofNat (h : Normal m e) (same : (n : ℚ) = m * 2 ^ e) (bound : n < 2 ^ 53) :
    (Float.ofNat n).toModel.unpack = .finite .positive m e h.pos := by
  have size : n.toUInt64.toNat = n := by
    rw [Nat.toUInt64_eq, UInt64.toNat_ofNat']
    omega
  have converted := unpack_toFloat h (n := n.toUInt64) (by rw [size, same])
  have unit : Float.exactlyRepresentablePowersOfTen[0].toModel.unpack =
      .finite .positive (2 ^ 52) (-52) (by decide) := rfl
  have product : Float.ofNat n =
      n.toUInt64.toFloat * Float.exactlyRepresentablePowersOfTen[0] := by
    show Float.ofScientific n false 0 = _
    rw [Float.ofScientific, dif_pos ⟨bound, by decide⟩]
    rfl
  rw [product]
  show (pack (UnpackedFloat.mul Format.binary64 _ _)).unpack = _
  rw [converted, unit]
  show (pack (UnpackedFloat.roundWithAccuracy _ _ _ _ _)).unpack = _
  have shifted : e + -52 = e - (52 : Nat) := by omega
  rw [shifted, roundWithAccuracy_normal h, unpack_pack_normal h]
  rfl

theorem exists_unpack_ofNat (pos : 0 < n) (bound : n ≤ exactBound) :
    ∃ m e, ∃ h : Normal m e, (n : ℚ) = m * 2 ^ e ∧
      (Float.ofNat n).toModel.unpack = .finite .positive m e h.pos := by
  rcases Nat.lt_or_eq_of_le bound with below | rfl
  · obtain ⟨m, e, normal, value⟩ := exists_normal pos bound
    exact ⟨m, e, normal, value, unpack_ofNat normal value below⟩
  · have largest : Float.ofNat exactBound = Float.ofBits 0x4340000000000000 := by decide +kernel
    rw [largest]
    refine ⟨2 ^ 52, 1, ⟨by decide, by decide, by decide, by decide⟩, ?_, rfl⟩
    norm_num [exactBound]

theorem denotes_ofInt {n : Int} (bound : n.natAbs ≤ exactBound) : Denotes (Float.ofInt n) n := by
  cases n with
  | ofNat n =>
      rcases Nat.eq_zero_or_pos n with rfl | pos
      · have zero : (Float.ofInt 0).toModel.unpack = .zero .positive := rfl
        simp [Denotes, zero, value?]
      · obtain ⟨m, e, normal, value, unpacked⟩ := exists_unpack_ofNat pos bound
        show value? (Float.ofNat n).toModel.unpack = _
        rw [unpacked, value?]
        simp [Sign.apply, value]
  | negSucc n =>
      obtain ⟨m, e, normal, value, unpacked⟩ := exists_unpack_ofNat n.succ_pos bound
      show value? (pack (Float.ofNat (n + 1)).toModel.unpack.neg).unpack = _
      rw [unpacked]
      show value? (pack (.finite .negative m e normal.pos)).unpack = _
      rw [unpack_pack_normal normal, value?, Int.cast_negSucc, value]
      simp [Sign.apply]

def Binary.value (b : Binary) : ℚ :=
  (if b.negative then -1 else 1) * (b.mantissa * 2 ^ b.exponent)

theorem Binary.magnitude_eq (b : Binary) :
    (b.mantissa : ℚ) * 2 ^ b.exponent = b.numerator / b.denominator := by
  have split : (2 : ℚ) ^ b.exponent * 2 ^ (-b.exponent).toNat = 2 ^ b.exponent.toNat := by
    rw [← zpow_natCast, ← zpow_natCast, ← zpow_add₀ (by norm_num)]
    congr 1
    omega
  rw [eq_div_iff (by exact_mod_cast b.denominator_pos.ne'), numerator, denominator, Nat.pow_eq,
    Nat.pow_eq]
  push_cast
  rw [mul_assoc, split]

theorem Binary.integer?_eq_some_iff {b : Binary} {n : Int} : b.integer? = some n ↔ b.value = n := by
  have pos : (b.denominator : ℚ) ≠ 0 := by exact_mod_cast b.denominator_pos.ne'
  rw [value, magnitude_eq]
  by_cases whole : b.numerator % b.denominator = 0
  · obtain ⟨q, factors⟩ := Nat.dvd_of_mod_eq_zero whole
    rw [integer?, if_pos whole, factors, Nat.mul_div_cancel_left q b.denominator_pos, Nat.cast_mul,
      mul_div_cancel_left₀ _ pos, Option.some_inj]
    cases b.negative with
    | false => simp only [Bool.false_eq_true, if_false, one_mul]; norm_cast
    | true => simp only [if_true, neg_one_mul]; norm_cast
  · rw [integer?, if_neg whole]
    refine iff_of_false nofun fun same => whole (Nat.mod_eq_zero_of_dvd ⟨n.natAbs, ?_⟩)
    have size : (b.numerator : ℚ) / b.denominator = n.natAbs := by
      rw [Nat.cast_natAbs, Int.cast_abs, ← same, abs_mul, abs_div, Nat.abs_cast, Nat.abs_cast]
      cases b.negative <;> simp
    rw [div_eq_iff pos, mul_comm] at size
    exact_mod_cast size

def isNegative : Sign → Bool
  | .negative => true
  | .positive => false

def parts? : UnpackedFloat → Option Binary
  | .zero s => some ⟨isNegative s, 0, -1074⟩
  | .finite s m e _ => some ⟨isNegative s, m, e⟩
  | _ => none

theorem value?_eq_parts? (u : UnpackedFloat) : value? u = (parts? u).map Binary.value := by
  cases u with
  | notANumber => rfl
  | infinity s => rfl
  | zero s => simp [value?, parts?, Binary.value]
  | finite s m e pos => cases s <;> simp [value?, parts?, Binary.value, isNegative, Sign.apply]

section Fields

variable (b : BitVec 64)

theorem toNat_unpackExponent :
    (@UnpackedFloat.unpackExponent Format.binary64 b).toNat = b.toNat / hiddenBit % 2048 := by
  rw [UnpackedFloat.unpackExponent_def, BitVec.extractLsb'_toNat, Nat.shiftRight_eq_div_pow]
  rfl

theorem toNat_unpackMantissa :
    (@UnpackedFloat.unpackMantissa Format.binary64 b).toNat = b.toNat % hiddenBit := by
  rw [UnpackedFloat.unpackMantissa_def, BitVec.extractLsb'_toNat]
  rfl

theorem isNegative_unpackSign :
    isNegative (Sign.ofBitVec (@UnpackedFloat.unpackSign Format.binary64 b)) = topBit b.toNat := by
  have top : (@UnpackedFloat.unpackSign Format.binary64 b).toNat =
      b.toNat / 0x8000000000000000 := by
    rw [UnpackedFloat.unpackSign_def, BitVec.extractLsb'_toNat, Nat.shiftRight_eq_div_pow]
    have width := b.isLt
    show b.toNat / 2 ^ 63 % 2 = b.toNat / 2 ^ 63
    change b.toNat < 2 ^ 64 at width
    omega
  rw [topBit, ← top]
  generalize @UnpackedFloat.unpackSign Format.binary64 b = v
  revert v
  decide

theorem ofBits?_eq_parts? :
    Binary.ofBits? b.toNat = parts? (UnpackedFloat.unpack Format.binary64 b) := by
  have special : b.toNat / hiddenBit % 2048 = 2047 ↔
      @UnpackedFloat.unpackExponent Format.binary64 b = -1#11 := by
    rw [← toNat_unpackExponent]
    exact (BitVec.toNat_eq (y := -1#11)).symm
  have subnormal : b.toNat / hiddenBit % 2048 = 0 ↔
      @UnpackedFloat.unpackExponent Format.binary64 b = 0#11 := by
    rw [← toNat_unpackExponent]
    exact (BitVec.toNat_eq (y := 0#11)).symm
  unfold Binary.ofBits? UnpackedFloat.unpack
  by_cases marked : @UnpackedFloat.unpackExponent Format.binary64 b = -1#11
  · simp only [if_pos marked, if_pos (special.mpr marked)]
    split <;> rfl
  simp only [if_neg marked, if_neg (mt special.mp marked), ← isNegative_unpackSign,
    ← toNat_unpackMantissa]
  by_cases least : @UnpackedFloat.unpackExponent Format.binary64 b = 0#11
  · simp only [if_pos least, if_pos (subnormal.mpr least)]
    split
    · rename_i zero
      rw [zero]
      rfl
    · rw [least]
      rfl
  · simp only [if_neg least, if_neg (mt subnormal.mp least), parts?, toNat_hidden_append,
      toNat_unpackExponent]
    congr 2

end Fields

theorem integer?_eq_some_iff {x : Float} {n : Int} : integer? x = some n ↔ Denotes x n := by
  have parts : Binary.ofFloat? x = parts? x.toModel.unpack := ofBits?_eq_parts? x.toBits.toBitVec
  rw [integer?, parts, Denotes, value?_eq_parts?]
  simp only [Option.bind_eq_some_iff, Option.map_eq_some_iff, Binary.integer?_eq_some_iff]

example : integer? (-0.0) = some 0 ∧ integer? 0.5 = none := by decide +kernel

theorem Denotes.isFinite {x : Float} {q : ℚ} (h : Denotes x q) : x.isFinite = true := by
  show x.toModel.unpack.isFinite = true
  rw [Denotes] at h
  cases unpacked : x.toModel.unpack with
  | notANumber => rw [unpacked] at h; cases h
  | infinity s => rw [unpacked] at h; cases h
  | zero s => rfl
  | finite s m e pos => rfl

theorem Denotes.ofFloat?_eq {x : Float} {n : Int} (h : Denotes x n)
    (bound : n.natAbs ≤ exactBound) : Value.ofFloat? x = some (.int n) := by
  have exact : exactInteger? x = some n := by
    rw [exactInteger?, integer?_eq_some_iff.mpr h, Option.filter_some, if_pos (by simpa using bound)]
  rw [Value.ofFloat?, if_pos h.isFinite, exact]

end Reshape.Decimal
