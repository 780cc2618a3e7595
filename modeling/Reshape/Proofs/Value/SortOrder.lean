import Reshape.Proofs.Decimal.Order
import Reshape.Proofs.Digest.Encoding
import Reshape.Preorders

/-!
# The order of values under sorting

Two numbers are ordered as numbers and any other two values by their texts. Each of the two orders is
a total preorder. Their mixture is none where they disagree: as numbers 9 comes before 10, but the
text `5` comes after `10` and before `9`.
-/

namespace Reshape

def Value.isNumber : Value → Bool
  | .number _ => true
  | _ => false

variable {u v w : Value} {vs : List Value}

theorem Value.exists_of_isNumber (h : v.isNumber) : ∃ n, v = .number n := by
  cases v with
  | number n => exact ⟨n, rfl⟩
  | _ => cases h

theorem isLE_iff_ne_gt {o : Ordering} : o.isLE ↔ o ≠ .gt := by
  cases o <;> decide

theorem display_total (h : ¬ (compare v.display w.display).isLE) :
    (compare w.display v.display).isLE := by
  rw [Std.OrientedOrd.eq_swap]
  cases order : compare v.display w.display <;> simp_all

theorem sortOrder_text (h : ¬ (v.isNumber ∧ w.isNumber)) :
    sortOrder v w = compare v.display w.display := by
  cases v with
  | number m =>
      cases w with
      | number n => exact absurd ⟨rfl, rfl⟩ h
      | _ => rfl
  | _ => rfl

theorem sortOrder_text_left (h : ¬ v.isNumber) : sortOrder v w = compare v.display w.display :=
  sortOrder_text fun numbers => h numbers.1

theorem sortOrder_text_right (h : ¬ w.isNumber) : sortOrder v w = compare v.display w.display :=
  sortOrder_text fun numbers => h numbers.2

theorem sortOrder_swap (v w : Value) : sortOrder w v = (sortOrder v w).swap := by
  by_cases numbers : v.isNumber ∧ w.isNumber
  · obtain ⟨m, rfl⟩ := Value.exists_of_isNumber numbers.1
    obtain ⟨n, rfl⟩ := Value.exists_of_isNumber numbers.2
    simp only [sortOrder]
    rw [compareFloats_swap]
    cases compareFloats m.toFloat n.toFloat <;> rfl
  · rw [sortOrder_text numbers, sortOrder_text fun swapped => numbers swapped.symm]
    exact Std.OrientedOrd.eq_swap

theorem sortOrder_trans_numbers (hu : u.isNumber) (hv : v.isNumber) (hw : w.isNumber)
    (formed : u.WellFormed) (formed' : v.WellFormed) (formed'' : w.WellFormed)
    (left : (sortOrder u v).isLE) (right : (sortOrder v w).isLE) : (sortOrder u w).isLE := by
  obtain ⟨l, rfl⟩ := Value.exists_of_isNumber hu
  obtain ⟨m, rfl⟩ := Value.exists_of_isNumber hv
  obtain ⟨n, rfl⟩ := Value.exists_of_isNumber hw
  apply compareFloats_trans (y := m.toFloat)
  · exact (Value.wellFormed_number_iff.mp formed).toFloat_ne_nan
  · exact (Value.wellFormed_number_iff.mp formed').toFloat_ne_nan
  · exact (Value.wellFormed_number_iff.mp formed'').toFloat_ne_nan
  · exact left
  · exact right

def Between (v w t : Value) : Prop :=
  (compare v.display t.display).isLE ∧ (compare t.display w.display).isLE ∨
    (compare w.display t.display).isLE ∧ (compare t.display v.display).isLE

/-- Two numbers are ordered otherwise than their texts, and a value that is no number lies between
these texts. -/
structure Conflict (v w t : Value) : Prop where
  left : v.isNumber
  right : w.isNumber
  text : ¬ t.isNumber
  disagree : sortOrder v w ≠ compare v.display w.display
  between : Between v w t

theorem Conflict.symm {t : Value} (h : Conflict v w t) : Conflict w v t where
  left := h.right
  right := h.left
  text := h.text
  disagree := by
    rw [sortOrder_swap, Std.OrientedOrd.eq_swap (a := w.display)]
    intro same
    exact h.disagree (Ordering.swap_inj.mp same)
  between := h.between.symm

theorem sortOrder_trans (hu : u.WellFormed) (hv : v.WellFormed) (hw : w.WellFormed)
    (first : ¬ Conflict u v w) (second : ¬ Conflict v w u) (outer : ¬ Conflict u w v)
    (left : (sortOrder u v).isLE) (right : (sortOrder v w).isLE) : (sortOrder u w).isLE := by
  by_cases nu : u.isNumber
  · by_cases nv : v.isNumber
    · by_cases nw : w.isNumber
      · exact sortOrder_trans_numbers nu nv nw hu hv hw left right
      · rw [sortOrder_text_right nw] at right ⊢
        by_contra before
        refine first ⟨nu, nv, nw, ?_, .inr ⟨right, display_total before⟩⟩
        intro agree
        rw [agree] at left
        exact before (Std.TransOrd.isLE_trans left right)
    · rw [sortOrder_text_right nv] at left
      rw [sortOrder_text_left nv] at right
      have texts := Std.TransOrd.isLE_trans left right
      by_cases nw : w.isNumber
      · by_contra before
        refine outer ⟨nu, nw, nv, ?_, .inl ⟨left, right⟩⟩
        intro agree
        rw [agree] at before
        exact before texts
      · rw [sortOrder_text_right nw]
        exact texts
  · rw [sortOrder_text_left nu] at left ⊢
    by_cases numbers : v.isNumber ∧ w.isNumber
    · by_contra before
      refine second ⟨numbers.1, numbers.2, nu, ?_, .inr ⟨display_total before, left⟩⟩
      intro agree
      rw [agree] at right
      exact before (Std.TransOrd.isLE_trans left right)
    · rw [sortOrder_text numbers] at right
      exact Std.TransOrd.isLE_trans left right

theorem Preorders.not_conflict (h : Preorders sortOrder vs) {t : Value} (hv : v ∈ vs) (hw : w ∈ vs)
    (ht : t ∈ vs) : ¬ Conflict v w t := by
  intro conflict
  wlog direction : (compare v.display t.display).isLE ∧ (compare t.display w.display).isLE
    generalizing v w
  · exact this hw hv conflict.symm (conflict.between.resolve_left direction)
  have upward := h.trans v hv t ht w hw
  have around := h.trans w hw v hv t ht
  have around' := h.trans t ht w hw v hv
  have back := h.trans w hw t ht v hv
  rw [sortOrder_text_right conflict.text, sortOrder_text_left conflict.text] at upward back
  rw [sortOrder_text_right conflict.text, sortOrder_text_right conflict.text] at around
  rw [sortOrder_text_left conflict.text, sortOrder_text_left conflict.text] at around'
  -- The value between the two leads from one to the other in both orders alike.
  have forth : (sortOrder v w).isLE := upward direction.1 direction.2
  have forth' : (compare v.display w.display).isLE :=
    Std.TransOrd.isLE_trans direction.1 direction.2
  have same : (sortOrder w v).isLE ↔ (compare w.display v.display).isLE := by
    constructor
    · intro order
      exact Std.TransOrd.isLE_trans (around order direction.1) (around' direction.2 order)
    · intro order
      apply back
      · exact Std.TransOrd.isLE_trans order direction.1
      · exact Std.TransOrd.isLE_trans direction.2 order
  apply conflict.disagree
  rw [sortOrder_swap v w, Std.OrientedOrd.eq_swap (a := w.display)] at same
  cases order : sortOrder v w <;> cases order' : compare v.display w.display <;> simp_all

/-- The values of a list are in a total preorder exactly if there is no conflict among them. -/
theorem preorders_sortOrder_iff (formed : ∀ v ∈ vs, v.WellFormed) :
    Preorders sortOrder vs ↔ ∀ v ∈ vs, ∀ w ∈ vs, ∀ t ∈ vs, ¬ Conflict v w t := by
  constructor
  · intro h v hv w hw t ht
    exact h.not_conflict hv hw ht
  · intro free
    constructor
    · intro v _ w _
      exact sortOrder_swap v w
    · intro u hu v hv w hw
      apply sortOrder_trans (formed u hu) (formed v hv) (formed w hw)
      · exact free u hu v hv w hw
      · exact free v hv w hw u hu
      · exact free u hu w hw v hv

theorem preorders_sortOrder_numbers (formed : ∀ v ∈ vs, v.WellFormed)
    (numbers : ∀ v ∈ vs, v.isNumber) : Preorders sortOrder vs := by
  rw [preorders_sortOrder_iff formed]
  intro v _ w _ t ht conflict
  exact conflict.text (numbers t ht)

theorem preorders_sortOrder_texts (formed : ∀ v ∈ vs, v.WellFormed)
    (texts : ∀ v ∈ vs, ¬ v.isNumber) : Preorders sortOrder vs := by
  rw [preorders_sortOrder_iff formed]
  intro v hv w _ t _ conflict
  exact texts v hv conflict.left

/-- Exchanging two values reverses their order, and the order of three values is transitive unless
two of them are in conflict with the third. Values in conflict are in no total preorder. -/
theorem sortOrder_consistent (x y z : Value) (hx : x.WellFormed) (hy : y.WellFormed)
    (hz : z.WellFormed) :
    sortOrder y x = (sortOrder x y).swap ∧
    (¬ Conflict x y z → ¬ Conflict y z x → ¬ Conflict x z y →
      sortOrder x y ≠ .gt → sortOrder y z ≠ .gt → sortOrder x z ≠ .gt) ∧
    (Conflict x y z → ¬ Preorders sortOrder [x, y, z]) := by
  refine ⟨sortOrder_swap x y, ?_, ?_⟩
  · intro first second outer left right
    rw [← isLE_iff_ne_gt] at left right ⊢
    exact sortOrder_trans hx hy hz first second outer left right
  · intro conflict preorders
    exact preorders.not_conflict (by simp) (by simp) (by simp) conflict

theorem sortOrder_consistent_outside :
    (Value.int 9).WellFormed ∧ (Value.int 10).WellFormed ∧ (Value.string "a").WellFormed ∧
      sortOrder (.int 9) (.int 10) ≠ compare (Value.int 9).display (Value.int 10).display ∧
      sortOrder (.int 9) (.int 10) ≠ .gt ∧ sortOrder (.int 10) (.string "a") ≠ .gt ∧
      sortOrder (.int 9) (.string "a") ≠ .gt := by
  have nine : (Value.int 9).WellFormed := by
    simp [Value.int, Number.WellFormed]
  have ten : (Value.int 10).WellFormed := by
    simp [Value.int, Number.WellFormed]
  have left : sortOrder (.int 9) (.int 10) ≠ .gt := by decide +kernel
  have right : sortOrder (.int 10) (.string "a") ≠ .gt := by decide +kernel
  have outside : ¬ Between (.int 9) (.int 10) (.string "a") := by
    unfold Between
    decide +kernel
  obtain ⟨-, consistent, -⟩ :=
    sortOrder_consistent (.int 9) (.int 10) (.string "a") nine ten (by simp)
  have outer : sortOrder (.int 9) (.string "a") ≠ .gt :=
    consistent (fun h => outside h.between) (fun h => absurd h.right (by decide))
      (fun h => absurd h.right (by decide)) left right
  exact ⟨nine, ten, by simp, by decide +kernel, left, right, outer⟩

/-- As numbers 9 comes before 10, and as texts `10` comes before `5` and `5` before `9`. -/
theorem sortOrder_cycle :
    sortOrder (.int 9) (.int 10) = .lt ∧ sortOrder (.int 10) (.string "5") = .lt ∧
      sortOrder (.int 9) (.string "5") = .gt := by
  decide +kernel

end Reshape
