import Reshape.Proofs.Decimal.Equality
import Reshape.Value.Order

namespace Reshape

namespace Decimal

open Float.Model
open Float.Model.UnpackedFloat (Sign)

def rank : UnpackedFloat → Int × Int × Int
  | .infinity .negative => (-2, 0, 0)
  | .finite .negative m e _ => (-1, -e, -m)
  | .zero _ => (0, 0, 0)
  | .finite .positive m e _ => (1, e, m)
  | .infinity .positive => (2, 0, 0)
  | .notANumber => (0, 0, 0)

def compareRanks : UnpackedFloat → UnpackedFloat → Ordering :=
  compareLex (compareOn fun u => (rank u).1)
    (compareLex (compareOn fun u => (rank u).2.1) (compareOn fun u => (rank u).2.2))

instance : Std.TransCmp compareRanks :=
  inferInstanceAs (Std.TransCmp (compareLex _ (compareLex _ _)))

theorem compareRanks_swap (u v : UnpackedFloat) : compareRanks v u = (compareRanks u v).swap :=
  Std.OrientedCmp.eq_swap

theorem compareRanks_trans {u v w : UnpackedFloat} (left : (compareRanks u v).isLE)
    (right : (compareRanks v w).isLE) : (compareRanks u w).isLE :=
  Std.TransCmp.isLE_trans left right

theorem compare_neg (a b : Int) : compare (-a) (-b) = (compare a b).swap := by
  rw [Int.compare_swap, Int.compare_eq_ite_lt, Int.compare_eq_ite_lt]
  simp only [neg_lt_neg_iff]

theorem compare_cast (a b : Nat) : compare (a : Int) (b : Int) = compare a b := by
  rw [Int.compare_eq_ite_lt, Nat.compare_eq_ite_lt]
  simp only [Nat.cast_lt]

theorem compare_eq_ranks {u v : UnpackedFloat} (hu : u ≠ .notANumber) (hv : v ≠ .notANumber) :
    u.compare v = some (compareRanks u v) := by
  cases u with
  | notANumber => exact absurd rfl hu
  | infinity s =>
      cases v with
      | notANumber => exact absurd rfl hv
      | infinity t => cases s <;> cases t <;> rfl
      | zero t => cases s <;> rfl
      | finite t m e pos => cases s <;> cases t <;> rfl
  | zero s =>
      cases v with
      | notANumber => exact absurd rfl hv
      | infinity t => cases t <;> rfl
      | zero t => rfl
      | finite t m e pos => cases t <;> rfl
  | finite s m e pos =>
      cases v with
      | notANumber => exact absurd rfl hv
      | infinity t => cases s <;> cases t <;> rfl
      | zero t => cases s <;> rfl
      | finite t m' e' pos' =>
          cases s <;> cases t
          -- Of two negative floats the one with the larger exponent and mantissa is the smaller.
          · simp [UnpackedFloat.compare, compareRanks, compareLex, compareOn, rank, compare_neg,
              compare_cast, Ordering.swap_then]
          · rfl
          · rfl
          · simp [UnpackedFloat.compare, compareRanks, compareLex, compareOn, rank, compare_cast]

theorem compare_eq_none {u v : UnpackedFloat} (h : u = .notANumber ∨ v = .notANumber) :
    u.compare v = none := by
  rcases h with rfl | rfl
  · rfl
  · cases u with
    | infinity s => cases s <;> rfl
    | _ => rfl

theorem unpack_ne_of_ne_nan {x : Float} (h : x ≠ Float.nan) : x.toModel.unpack ≠ .notANumber := by
  intro nan
  have bits := (UnpackedFloat.unpack_eq_notANumber_iff_of_valid x.toModel.valid).mp nan
  exact h (Float.toBits_inj.mp (UInt64.toBitVec_inj.mp bits))

end Decimal

open Float.Model

theorem compareFloats_eq (x y : Float) :
    compareFloats x y = x.toModel.unpack.compare y.toModel.unpack := by
  have lt (x y : Float) :
      x < y ↔ (x.toModel.unpack.compare y.toModel.unpack == some .lt) = true := by
    show decide (x.toModel < y.toModel) = true ↔ _
    exact decide_eq_true_iff
  have beq : (x == y) = (x.toModel.unpack.compare y.toModel.unpack == some .eq) := rfl
  simp only [compareFloats, lt, beq]
  generalize x.toModel.unpack = u
  generalize y.toModel.unpack = v
  by_cases nan : u = .notANumber ∨ v = .notANumber
  · rw [Decimal.compare_eq_none nan, Decimal.compare_eq_none nan.symm]
    rfl
  · rw [not_or] at nan
    rw [Decimal.compare_eq_ranks nan.1 nan.2, Decimal.compare_eq_ranks nan.2 nan.1,
      Decimal.compareRanks_swap u v]
    cases Decimal.compareRanks u v <;> rfl

theorem compareFloats_swap (x y : Float) :
    compareFloats y x = (compareFloats x y).map Ordering.swap := by
  rw [compareFloats_eq, compareFloats_eq]
  by_cases nan : x.toModel.unpack = .notANumber ∨ y.toModel.unpack = .notANumber
  · rw [Decimal.compare_eq_none nan, Decimal.compare_eq_none nan.symm]
    rfl
  · rw [not_or] at nan
    rw [Decimal.compare_eq_ranks nan.1 nan.2, Decimal.compare_eq_ranks nan.2 nan.1,
      Decimal.compareRanks_swap]
    rfl

theorem compareFloats_trans {x y z : Float} (hx : x ≠ Float.nan) (hy : y ≠ Float.nan)
    (hz : z ≠ Float.nan) (left : ((compareFloats x y).getD .eq).isLE)
    (right : ((compareFloats y z).getD .eq).isLE) : ((compareFloats x z).getD .eq).isLE := by
  have hx := Decimal.unpack_ne_of_ne_nan hx
  have hy := Decimal.unpack_ne_of_ne_nan hy
  have hz := Decimal.unpack_ne_of_ne_nan hz
  rw [compareFloats_eq, Decimal.compare_eq_ranks hx hy] at left
  rw [compareFloats_eq, Decimal.compare_eq_ranks hy hz] at right
  rw [compareFloats_eq, Decimal.compare_eq_ranks hx hz]
  exact Decimal.compareRanks_trans left right

end Reshape
