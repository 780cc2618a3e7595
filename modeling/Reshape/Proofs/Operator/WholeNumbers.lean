import Reshape.Proofs.Decimal.Exact
import Reshape.Proofs.Operator.Argument

namespace Reshape

namespace Number

def Denotes : Number → Int → Prop
  | int m, n => m = n
  | float x, n => Decimal.Denotes x n

theorem integer?_eq_some_iff {v : Number} {n : Int} : v.integer? = some n ↔ v.Denotes n := by
  cases v with
  | int m => exact Option.some_inj
  | float x => exact Decimal.integer?_eq_some_iff

theorem Denotes.unique {v : Number} {m n : Int} (h : v.Denotes m) (h' : v.Denotes n) : m = n := by
  rw [← integer?_eq_some_iff] at h h'
  exact Option.some.inj (h.symm.trans h')

theorem Denotes.wellFormed {x : Float} {n : Int} (h : (float x).Denotes n) : (float x).WellFormed :=
  Decimal.Denotes.isFinite h

end Number

namespace Argument

variable {v : Number} {what : String}

theorem count_eq_ok_iff (formed : v.WellFormed) {n : Nat} :
    count what (.number v) = .ok n ↔
      v.Denotes n ∧ n < countBound ∨ v.Denotes countBound ∧ n = countBound - 1 := by
  have read : count what (.number v) = .ok n ↔ count? (.number v) = some n := by
    unfold count
    cases count? (.number v) <;> simp
  rw [read, count?_number formed, Option.bind_eq_some_iff]
  simp only [Number.integer?_eq_some_iff]
  constructor
  · rintro ⟨k, denoted, found⟩
    split at found
    · rename_i range
      obtain rfl := Option.some.inj found
      rcases range.2.lt_or_eq with below | rfl
      · obtain ⟨m, rfl⟩ := Int.eq_ofNat_of_zero_le range.1
        have fits : m < countBound := by exact_mod_cast below
        rw [Int.toNat_natCast, Nat.min_eq_left (by omega)]
        exact .inl ⟨denoted, fits⟩
      · exact .inr ⟨denoted, rfl⟩
    · cases found
  · rintro (⟨denoted, below⟩ | ⟨denoted, rfl⟩)
    · refine ⟨n, denoted, ?_⟩
      rw [if_pos ⟨Int.natCast_nonneg n, by exact_mod_cast below.le⟩, Int.toNat_natCast,
        Nat.min_eq_left (by omega)]
    · exact ⟨countBound, denoted, rfl⟩

theorem integer_eq_ok_iff {n : Int} :
    integer what (.number v) = .ok n ↔
      v.Denotes n ∧ minInteger ≤ n ∧ n ≤ maxInteger ∧ (n = minInteger → v = .int n) := by
  have read : integer what (.number v) = .ok n ↔ integer? (.number v) = some n := by
    unfold integer
    cases integer? (.number v) <;> simp
  rw [read]
  cases v with
  | int m =>
      simp only [integer?, Number.Denotes]
      constructor
      · intro found
        split at found
        · rename_i range
          cases found
          exact ⟨rfl, range.1, range.2, fun _ => rfl⟩
        · cases found
      · rintro ⟨rfl, low, high, -⟩
        rw [if_pos ⟨low, high⟩]
  | float x =>
      simp only [integer?, Number.Denotes, Option.bind_eq_bind, Option.bind_eq_some_iff,
        Decimal.integer?_eq_some_iff]
      constructor
      · rintro ⟨k, denoted, found⟩
        split at found
        · rename_i range
          cases found
          exact ⟨denoted, range.1.le, range.2, fun least => absurd least range.1.ne'⟩
        · cases found
      · rintro ⟨denoted, low, high, written⟩
        have least : minInteger ≠ n := by
          intro same
          cases written same.symm
        exact ⟨n, denoted, if_pos ⟨lt_of_le_of_ne low least, high⟩⟩

theorem integer_bounds {v : Value} {n : Int} (h : integer what v = .ok n) :
    minInteger ≤ n ∧ n ≤ maxInteger := by
  obtain ⟨v, rfl, -⟩ := integer_eq_ok h
  obtain ⟨-, low, high, -⟩ := integer_eq_ok_iff.mp h
  exact ⟨low, high⟩

theorem integer_eq_error (h : ∀ n, integer what (.number v) ≠ .ok n) :
    integer what (.number v) = .error (.notInteger what (.number v)) := by
  unfold integer at h ⊢
  cases found : integer? (.number v) with
  | none => rfl
  | some n => exact absurd (by rw [found]) (h n)

/-- A number is read as a count or as an integer if it denotes one, and as the one that it denotes,
but for two floats. -/
theorem whole_numbers_read (formed : v.WellFormed) (what : String) :
    (¬ v.Denotes countBound →
      ∀ n : Nat, count what (.number v) = .ok n ↔ v.Denotes n ∧ n < countBound) ∧
    (v.Denotes countBound → count what (.number v) = .ok (countBound - 1)) ∧
    ((v.Denotes minInteger → v = .int minInteger) →
      ∀ n, integer what (.number v) = .ok n ↔ v.Denotes n ∧ minInteger ≤ n ∧ n ≤ maxInteger) ∧
    (v.Denotes minInteger → v ≠ .int minInteger →
      integer what (.number v) = .error (.notInteger what (.number v))) := by
  refine ⟨fun within n => ?_, fun above => ?_, fun written n => ?_, fun least float => ?_⟩
  · rw [count_eq_ok_iff formed, or_iff_left fun both => within both.1]
  · exact (count_eq_ok_iff formed).mpr (.inr ⟨above, rfl⟩)
  · rw [integer_eq_ok_iff]
    constructor
    · rintro ⟨denoted, low, high, -⟩
      exact ⟨denoted, low, high⟩
    · rintro ⟨denoted, low, high⟩
      refine ⟨denoted, low, high, ?_⟩
      rintro rfl
      exact written denoted
  · refine integer_eq_error fun n found => ?_
    obtain ⟨denoted, -, -, written⟩ := integer_eq_ok_iff.mp found
    obtain rfl := denoted.unique least
    exact float (written rfl)

theorem whole_numbers_read_ends :
    let v : Number := .float (.ofBits 0x43EFFFFFFFFFFFFF)
    let w : Number := .int minInteger
    v.WellFormed ∧ w.WellFormed ∧ v.Denotes 18446744073709549568 ∧
      count "limit" (.number v) = .ok 18446744073709549568 ∧
      integer "start" (.number w) = .ok minInteger := by
  intro v w
  have denoted : v.Denotes 18446744073709549568 :=
    Number.integer?_eq_some_iff.mp (by decide +kernel)
  have formed : v.WellFormed := denoted.wellFormed
  have formed' : w.WellFormed := ⟨by decide, by decide⟩
  have within : ¬ v.Denotes countBound := fun above => absurd (above.unique denoted) (by decide)
  refine ⟨formed, formed', denoted, ?_, ?_⟩
  · exact ((whole_numbers_read formed "limit").1 within _).mpr ⟨denoted, by decide⟩
  · exact ((whole_numbers_read formed' "start").2.2.1 (fun _ => rfl) _).mpr
      ⟨rfl, le_rfl, by decide⟩

/-- A float that denotes no count is read as another number, and one that denotes an integer is
refused, while the same integer is read where it is written as one. -/
theorem whole_numbers_misread :
    let above : Float := .ofBits 0x43F0000000000000
    let least : Float := .ofBits 0xC3E0000000000000
    (Number.float above).Denotes countBound ∧
      count "limit" (.number (.float above)) = .ok (countBound - 1) ∧
      (Number.float least).Denotes minInteger ∧
      integer "start" (.number (.float least)) =
        .error (.notInteger "start" (.number (.float least))) ∧
      integer "start" (.int minInteger) = .ok minInteger := by
  intro above least
  have bound : (Number.float above).Denotes countBound :=
    Number.integer?_eq_some_iff.mp (by decide +kernel)
  have denoted : (Number.float least).Denotes minInteger :=
    Number.integer?_eq_some_iff.mp (by decide +kernel)
  refine ⟨bound, ?_, denoted, ?_, rfl⟩
  · exact (count_eq_ok_iff bound.wellFormed).mpr (.inr ⟨bound, rfl⟩)
  · refine integer_eq_error fun n found => ?_
    obtain ⟨other, -, -, written⟩ := integer_eq_ok_iff.mp found
    cases written (other.unique denoted)

end Argument

end Reshape
