import Mathlib
import Reshape.Decimal.Binary

namespace Reshape.Decimal

def IsZero (x : Float) : Prop :=
  x.toBits = 0 ∨ x.toBits = 0x8000000000000000

theorem eq_of_toBits_eq {x y : Float} (h : x.toBits = y.toBits) : x = y :=
  Float.toBits_inj.mp h

theorem isZero_zero : IsZero 0 :=
  .inl (by decide +kernel)

theorem isZero_neg_zero : IsZero (-0) :=
  .inr (by decide +kernel)

theorem eq_or_isZero_of_beq {x y : Float} (h : (x == y) = true) :
    x = y ∨ IsZero x ∧ IsZero y := by
  obtain ⟨-, -, same | ⟨rfl, rfl⟩ | ⟨rfl, rfl⟩⟩ := Float.beq_iff_ne_nan_and_eq.mp h
  · exact .inl same
  · exact .inr ⟨isZero_zero, isZero_neg_zero⟩
  · exact .inr ⟨isZero_neg_zero, isZero_zero⟩

theorem beq_zero_iff {x : Float} : (x == 0) = true ↔ IsZero x := by
  constructor
  · intro h
    rcases eq_or_isZero_of_beq h with rfl | ⟨zero, -⟩
    · exact isZero_zero
    · exact zero
  · rintro (bits | bits)
    · obtain rfl : x = 0 := eq_of_toBits_eq (bits.trans (by decide +kernel))
      decide +kernel
    · obtain rfl : x = -0 := eq_of_toBits_eq (bits.trans (by decide +kernel))
      decide +kernel

theorem ne_nan_of_isFinite {x : Float} (h : x.isFinite = true) : x ≠ Float.nan := by
  rintro rfl
  exact absurd h (by decide +kernel)

open Float.Model
open Float.Model.UnpackedFloat (Sign Accuracy)

theorem ofNat_ne_allOnes {n : Nat} (h : ¬ 2 ^ 11 ≤ n + 1) : BitVec.ofNat 11 n ≠ 2047#11 := by
  intro same
  have value : n % 2048 = 2047 := congrArg BitVec.toNat same
  omega

theorem isNaNBits_pack {u : UnpackedFloat} (h : u ≠ .notANumber) :
    UnpackedFloat.isNaNBits (u.pack Format.binary64) = false := by
  cases u with
  | notANumber => exact absurd rfl h
  | infinity s =>
      simp [UnpackedFloat.isNaNBits, UnpackedFloat.pack, UnpackedFloat.packedInfinity]
  | zero s => simp [UnpackedFloat.isNaNBits, UnpackedFloat.pack, UnpackedFloat.packedZero]
  | finite s m e pos =>
      simp only [UnpackedFloat.pack]
      split
      · simp [UnpackedFloat.isNaNBits, UnpackedFloat.packedInfinity]
      · rename_i small
        split
        · have exponent := ofNat_ne_allOnes small
          simp_all [UnpackedFloat.isNaNBits]
        · simp [UnpackedFloat.isNaNBits]

theorem unpack_pack_ne {u : UnpackedFloat} (h : u ≠ .notANumber) :
    (Float.Model.pack u).unpack ≠ .notANumber := by
  intro nan
  have bits := (UnpackedFloat.unpack_eq_notANumber_iff_of_valid UnpackedFloat.valid_pack).mp nan
  have number := isNaNBits_pack h
  rw [bits, UnpackedFloat.isNaNBits_packedNaN] at number
  cases number

theorem roundWithAccuracy_ne {s : Sign} {m : Nat} {e : Int} {a : Accuracy} :
    UnpackedFloat.roundWithAccuracy Format.binary64 s m e a ≠ .notANumber := by
  simp only [UnpackedFloat.roundWithAccuracy]
  split <;> nofun

theorem normalize_ne {n e : Int} {s : Sign} :
    UnpackedFloat.normalize Format.binary64 n e s ≠ .notANumber := by
  unfold UnpackedFloat.normalize
  split
  · exact roundWithAccuracy_ne
  · nofun
  · exact roundWithAccuracy_ne

theorem mul_finite_ne {u v : UnpackedFloat} (h : u ≠ .notANumber) {s : Sign} {m : Nat} {e : Int}
    {pos : 0 < m} (finite : v = .finite s m e pos) :
    UnpackedFloat.mul Format.binary64 u v ≠ .notANumber := by
  subst finite
  cases u with
  | notANumber => exact absurd rfl h
  | infinity s => nofun
  | zero s => nofun
  | finite s' m' e' pos' => exact roundWithAccuracy_ne

theorem neg_ne {u : UnpackedFloat} (h : u ≠ .notANumber) : u.neg ≠ .notANumber := by
  cases u with
  | notANumber => exact absurd rfl h
  | _ => nofun

theorem ofScientific_ne {m : Nat} :
    UnpackedFloat.ofScientific Format.binary64 m 0 ≠ .notANumber := by
  by_cases zero : m = 0
  · rw [UnpackedFloat.ofScientific, dif_pos zero]
    nofun
  · have range : 0 < (2 : Int) ^ Format.binary64.exponentBits := by decide
    have large : ¬ (0 : Int) > 2 ^ Format.binary64.exponentBits := by omega
    have small : ¬ (0 : Int) < -(2 ^ Format.binary64.exponentBits + m.log2) := by omega
    rw [UnpackedFloat.ofScientific, dif_neg zero, if_neg large, if_neg small, if_pos le_rfl]
    exact mul_finite_ne (fun h => UnpackedFloat.noConfusion h) rfl

theorem unpack_ofNat_ne {n : Nat} : (Float.ofNat n).toModel.unpack ≠ .notANumber := by
  show (Float.ofScientific n false 0).toModel.unpack ≠ _
  unfold Float.ofScientific
  split
  · have one : Float.exactlyRepresentablePowersOfTen[0].toModel.unpack =
        .finite .positive 4503599627370496 (-52) (by decide) := rfl
    exact unpack_pack_ne (mul_finite_ne (unpack_pack_ne normalize_ne) one)
  · exact unpack_pack_ne ofScientific_ne

theorem ofInt_ne_nan (n : Int) : Float.ofInt n ≠ Float.nan := by
  have number : (Float.ofInt n).toModel.unpack ≠ .notANumber := by
    cases n with
    | ofNat n => exact unpack_ofNat_ne
    | negSucc n => exact unpack_pack_ne (neg_ne unpack_ofNat_ne)
  intro nan
  rw [nan] at number
  exact number rfl

end Reshape.Decimal
