import Reshape.Decimal.Binary

namespace Reshape.Decimal

open Float.Model
open Float.Model.UnpackedFloat (Sign)

variable {u v : UnpackedFloat} {x y : Float}

theorem unpacked_of_not_finite (h : u.isFinite = false) :
    u = .notANumber ∨ ∃ s, u = .infinity s := by
  cases u with
  | notANumber => exact .inl rfl
  | infinity s => exact .inr ⟨s, rfl⟩
  | zero s => cases h
  | finite s m e pos => cases h

theorem isFinite_pack (h : u.isFinite = false) : (pack u).unpack.isFinite = false := by
  rcases unpacked_of_not_finite h with rfl | ⟨s, rfl⟩
  · decide +kernel
  · cases s <;> decide +kernel

structure Absorbed (f : UnpackedFloat → UnpackedFloat → UnpackedFloat) : Prop where
  nan_left : ∀ v, (f .notANumber v).isFinite = false
  nan_right : ∀ u, (f u .notANumber).isFinite = false
  infinity_left : ∀ s v, (f (.infinity s) v).isFinite = false
  infinity_right : ∀ u s, (f u (.infinity s)).isFinite = false

theorem Absorbed.isFinite {f : UnpackedFloat → UnpackedFloat → UnpackedFloat}
    (absorbed : Absorbed f) (h : u.isFinite = false ∨ v.isFinite = false) :
    (pack (f u v)).unpack.isFinite = false := by
  apply isFinite_pack
  rcases h with h | h
  · rcases unpacked_of_not_finite h with rfl | ⟨s, rfl⟩
    · exact absorbed.nan_left v
    · exact absorbed.infinity_left s v
  · rcases unpacked_of_not_finite h with rfl | ⟨s, rfl⟩
    · exact absorbed.nan_right u
    · exact absorbed.infinity_right u s

theorem absorbed_add : Absorbed (UnpackedFloat.add Format.binary64) where
  nan_left v := rfl
  nan_right u := by cases u <;> rfl
  infinity_left s v := by
    cases v with
    | infinity t => cases s <;> cases t <;> rfl
    | _ => rfl
  infinity_right u s := by
    cases u with
    | infinity t => cases s <;> cases t <;> rfl
    | _ => rfl

theorem absorbed_sub : Absorbed (UnpackedFloat.sub Format.binary64) where
  nan_left v := rfl
  nan_right u := by cases u <;> rfl
  infinity_left s v := by
    cases v with
    | infinity t => cases s <;> cases t <;> rfl
    | _ => rfl
  infinity_right u s := by
    cases u with
    | infinity t => cases s <;> cases t <;> rfl
    | _ => rfl

theorem absorbed_mul : Absorbed (UnpackedFloat.mul Format.binary64) where
  nan_left v := rfl
  nan_right u := by cases u <;> rfl
  infinity_left s v := by cases v <;> rfl
  infinity_right u s := by cases u <;> rfl

theorem isFinite_add (h : x.isFinite = false ∨ y.isFinite = false) : (x + y).isFinite = false :=
  absorbed_add.isFinite h

theorem isFinite_sub (h : x.isFinite = false ∨ y.isFinite = false) : (x - y).isFinite = false :=
  absorbed_sub.isFinite h

theorem isFinite_mul (h : x.isFinite = false ∨ y.isFinite = false) : (x * y).isFinite = false :=
  absorbed_mul.isFinite h

theorem isFinite_neg (h : x.isFinite = false) : (-x).isFinite = false := by
  refine isFinite_pack (u := x.toModel.unpack.neg) ?_
  rcases unpacked_of_not_finite h with nan | ⟨s, infinite⟩
  · rw [nan]
    rfl
  · rw [infinite]
    rfl

theorem isFinite_div_left (h : x.isFinite = false) : (x / y).isFinite = false := by
  refine isFinite_pack (u := UnpackedFloat.div Format.binary64 x.toModel.unpack y.toModel.unpack) ?_
  rcases unpacked_of_not_finite h with nan | ⟨s, infinite⟩
  · rw [nan]
    rfl
  · rw [infinite]
    cases y.toModel.unpack <;> rfl

theorem isFinite_div_right (h : y.isFinite = false) :
    (x.isFinite = true ∧ y.isInf = true) ∨ (x / y).isFinite = false := by
  cases finite : x.isFinite with
  | false => exact .inr (isFinite_div_left finite)
  | true =>
      rcases unpacked_of_not_finite h with nan | ⟨s, infinite⟩
      · refine .inr (isFinite_pack
          (u := UnpackedFloat.div Format.binary64 x.toModel.unpack y.toModel.unpack) ?_)
        rw [nan]
        cases x.toModel.unpack <;> rfl
      · refine .inl ⟨rfl, ?_⟩
        show y.toModel.unpack.isInf = true
        rw [infinite]
        rfl

theorem infinity_of_isInf (h : y.isInf = true) : ∃ s, y.toModel.unpack = .infinity s := by
  replace h : y.toModel.unpack.isInf = true := h
  cases value : y.toModel.unpack with
  | infinity s => exact ⟨s, rfl⟩
  | _ =>
      rw [value] at h
      cases h

theorem not_infinite_beq_zero (h : y.isInf = true) : (y == 0) = false := by
  obtain ⟨s, infinite⟩ := infinity_of_isInf h
  show UnpackedFloat.beq y.toModel.unpack (Float.toModel 0).unpack = false
  rw [infinite]
  cases s <;> decide +kernel

theorem div_infinite (finite : x.isFinite = true) (infinite : y.isInf = true) :
    (x / y == 0) = true := by
  obtain ⟨s, infinite⟩ := infinity_of_isInf infinite
  replace finite : x.toModel.unpack.isFinite = true := finite
  have zero (t : Sign) : (Float.ofModel (pack (.zero t)) == 0) = true := by
    cases t <;> decide +kernel
  show (Float.ofModel (pack (UnpackedFloat.div Format.binary64 x.toModel.unpack
    y.toModel.unpack)) == 0) = true
  rw [infinite]
  cases value : x.toModel.unpack with
  | zero t => exact zero _
  | finite t m e pos => exact zero _
  | _ =>
      rw [value] at finite
      cases finite

end Reshape.Decimal
