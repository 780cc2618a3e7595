import Reshape.Proofs.Decimal.Order
import Reshape.Proofs.Value.Alike

namespace Reshape

variable {v w : Value} {a b : Option Value}

theorem beq_iff_compareFloats {x y : Float} : (x == y) = true ↔ compareFloats x y = some .eq := by
  rw [compareFloats_eq]
  exact beq_iff_eq (α := Option Ordering)

theorem beqFloat_comm (x y : Float) : (x == y) = (y == x) := by
  rw [Bool.eq_iff_iff, beq_iff_compareFloats, beq_iff_compareFloats, compareFloats_swap x y]
  cases compareFloats x y with
  | none => simp
  | some order => cases order <;> simp

theorem structuralEq_symm (left : v.WellFormed) (right : w.WellFormed)
    (h : structuralEq v w = true) : structuralEq w v = true := by
  induction left generalizing w with
  | null =>
      cases w with
      | null => rfl
      | _ => simp [structuralEq] at h
  | bool b =>
      cases w with
      | bool c =>
          obtain rfl : b = c := by simpa [structuralEq] using h
          exact h
      | _ => simp [structuralEq] at h
  | @number m _ =>
      cases w with
      | number n => simpa only [structuralEq, beqFloat_comm n.toFloat] using h
      | _ => simp [structuralEq] at h
  | string s =>
      cases w with
      | string t =>
          obtain rfl : s = t := by simpa [structuralEq] using h
          exact h
      | _ => simp [structuralEq] at h
  | @array xs _ ih =>
      cases right with
      | @array ys inner =>
          have items := structuralEqItems_iff.mp (by simpa only [structuralEq] using h)
          obtain ⟨length, equal⟩ := List.forall₂_iff_zip.mp items
          have swapped : List.Forall₂ (fun x y => structuralEq y x = true) xs ys := by
            refine List.forall₂_iff_zip.mpr ⟨length, fun {x y} pair => ?_⟩
            obtain ⟨mem, mem'⟩ := List.of_mem_zip pair
            exact ih x mem (inner y mem') (equal pair)
          simpa only [structuralEq, structuralEqItems_iff] using swapped.flip
      | _ => simp [structuralEq] at h
  | @object xs names _ ih =>
      cases right with
      | @object ys names' inner =>
          simp only [structuralEq, Bool.and_eq_true, beq_iff_eq] at h ⊢
          obtain ⟨length, fields⟩ := h
          refine ⟨length.symm, structuralEqFields_iff.mpr fun field mem => ?_⟩
          -- As many distinct names as there are: none of the second record is missing in the first.
          have perm := Record.keys_perm_of_subset names length
            (Record.keys_subset_of_structuralEqFields fields)
          have known : field.1 ∈ Record.keys xs := perm.mem_iff.mpr (List.mem_map_of_mem mem)
          obtain ⟨x, found⟩ := Option.isSome_iff_exists.mp ((Record.get?_isSome xs field.1).mpr known)
          have mem' := Record.mem_of_get? found
          obtain ⟨y, found', equal⟩ := structuralEqFields_iff.mp fields _ mem'
          obtain rfl : field.2 = y :=
            Option.some.inj ((Record.get?_of_mem names' mem).symm.trans found')
          exact ⟨x, found, ih _ mem' (inner field mem) equal⟩
      | _ => simp [structuralEq] at h

theorem structuralEq_comm (left : v.WellFormed) (right : w.WellFormed) :
    structuralEq v w = structuralEq w v :=
  Bool.eq_iff_iff.mpr ⟨structuralEq_symm left right, structuralEq_symm right left⟩

theorem looseEqValues_comm (left : v.WellFormed) (right : w.WellFormed) :
    looseEqValues v w = looseEqValues w v := by
  cases v with
  | null => cases w <;> rfl
  | bool b =>
      cases w with
      | bool c => exact Bool.beq_comm
      | _ => rfl
  | number m =>
      cases w with
      | number n => exact beqFloat_comm m.toFloat n.toFloat
      | _ => rfl
  | string s =>
      cases w with
      | string t => exact BEq.comm
      | _ => rfl
  | array xs =>
      cases w with
      | array ys => exact structuralEq_comm left right
      | _ => rfl
  | object xs =>
      cases w with
      | object ys => exact structuralEq_comm left right
      | _ => rfl

theorem compareValues_swap (v w : Value) :
    compareValues w v = (compareValues v w).map Ordering.swap := by
  cases v with
  | number m =>
      cases w with
      | number n => exact compareFloats_swap m.toFloat n.toFloat
      | string s =>
          simp only [compareValues]
          cases numberIn? s with
          | none => rfl
          | some x => exact compareFloats_swap m.toFloat x
      | _ => rfl
  | string s =>
      cases w with
      | number n =>
          simp only [compareValues]
          cases numberIn? s with
          | none => rfl
          | some x => exact compareFloats_swap x n.toFloat
      | string t =>
          have texts : some (compare t s) = (some (compare s t)).map Ordering.swap :=
            congrArg some Std.OrientedOrd.eq_swap
          simp only [compareValues]
          cases numberIn? s with
          | none => cases numberIn? t <;> exact texts
          | some x =>
              cases numberIn? t with
              | none => exact texts
              | some y => exact compareFloats_swap x y
      | _ => rfl
  | _ => cases w <;> rfl

def Formed (a : Option Value) : Prop :=
  ∀ v, a = some v → v.WellFormed

theorem Formed.getD (h : Formed a) : (a.getD .null).WellFormed := by
  cases a with
  | none => exact .null
  | some v => exact h v rfl

theorem looseEq_comm (left : Formed a) (right : Formed b) : looseEq a b = looseEq b a :=
  looseEqValues_comm left.getD right.getD

theorem compareOrdered_swap (a b : Option Value) :
    compareOrdered b a = (compareOrdered a b).map Ordering.swap := by
  cases a with
  | none => cases b <;> rfl
  | some v =>
      cases b with
      | none => rfl
      | some w => exact compareValues_swap v w

def NumericTexts : Option Value → Option Value → Prop
  | some (.string s), some (.string t) => (numberIn? s).isSome ∧ (numberIn? t).isSome
  | _, _ => False

theorem compareFloats_self {x : Float} (h : x ≠ Float.nan) : compareFloats x x = some .eq := by
  have number := Decimal.unpack_ne_of_ne_nan h
  have self : Decimal.compareRanks x.toModel.unpack x.toModel.unpack = .eq :=
    Std.ReflCmp.compare_self
  rw [compareFloats_eq, Decimal.compare_eq_ranks number number, self]

theorem numberIn?_ne_nan {s : String} {x : Float} (h : numberIn? s = some x) : x ≠ Float.nan :=
  Decimal.ne_nan_of_isFinite (Option.filter_eq_some_iff.mp h).2

theorem looseEqValues_iff {o : Ordering} (texts : ¬ NumericTexts (some v) (some w))
    (h : compareValues v w = some o) : looseEqValues v w = true ↔ o = .eq := by
  have floats {x y : Float} (h : compareFloats x y = some o) : (x == y) = true ↔ o = .eq := by
    rw [beq_iff_compareFloats, h, Option.some_inj]
  cases v with
  | number m =>
      cases w with
      | number n => exact floats h
      | string s =>
          obtain ⟨x, spelled, h⟩ := Option.bind_eq_some_iff.mp h
          simp only [looseEqValues, spellsNumber, spelled]
          rw [beqFloat_comm]
          exact floats h
      | _ => cases h
  | string s =>
      cases w with
      | number n =>
          obtain ⟨x, spelled, h⟩ := Option.bind_eq_some_iff.mp h
          simp only [looseEqValues, spellsNumber, spelled]
          exact floats h
      | string t =>
          have order : compare s t = o := by
            simp only [compareValues] at h
            split at h
            · rename_i left right
              exact absurd ⟨by rw [left]; rfl, by rw [right]; rfl⟩ texts
            · exact Option.some.inj h
          rw [← order, Std.LawfulEqOrd.compare_eq_iff_eq]
          exact beq_iff_eq
      | _ => cases h
  | _ => cases w <;> cases h

theorem compareOrdered_of_looseEq (texts : NumericTexts a b) (h : looseEq a b = true) :
    compareOrdered a b = some .eq := by
  unfold NumericTexts at texts
  split at texts
  · rename_i s t
    obtain rfl : s = t := beq_iff_eq.mp h
    obtain ⟨x, spelled⟩ := Option.isSome_iff_exists.mp texts.1
    simp only [compareOrdered, compareValues, spelled]
    exact compareFloats_self (numberIn?_ne_nan spelled)
  · exact texts.elim

/-- Equality and order do not depend on which value comes first, and they agree wherever there is an
order; of two numeric texts equal ones have the same number, but two texts with the same number can
differ. -/
theorem comparisons_consistent (a b : Option Value) (left : Formed a) (right : Formed b) :
    looseEq a b = looseEq b a ∧
    compareOrdered b a = (compareOrdered a b).map Ordering.swap ∧
    (∀ o, compareOrdered a b = some o → ¬ NumericTexts a b → (looseEq a b = true ↔ o = .eq)) ∧
    (NumericTexts a b → looseEq a b = true → compareOrdered a b = some .eq) ∧
    ∃ s t, NumericTexts (some (.string s)) (some (.string t)) ∧
      compareOrdered (some (.string s)) (some (.string t)) = some .eq ∧
      looseEq (some (.string s)) (some (.string t)) = false := by
  refine ⟨looseEq_comm left right, compareOrdered_swap a b, ?_, compareOrdered_of_looseEq, ?_⟩
  · intro o order texts
    cases a with
    | none => cases order
    | some v =>
        cases b with
        | none => cases order
        | some w => exact looseEqValues_iff texts order
  · refine ⟨"1", "1.0", ⟨?_, ?_⟩, ?_, ?_⟩ <;> decide +kernel

theorem comparisons_consistent_spelled :
    Formed (some (.number (.float 2.5))) ∧ Formed (some (.string " 2.50 ")) ∧
      compareOrdered (some (.number (.float 2.5))) (some (.string " 2.50 ")) = some .eq ∧
      looseEq (some (.string " 2.50 ")) (some (.number (.float 2.5))) = true := by
  have finite : (2.5 : Float).isFinite = true := by decide +kernel
  have left : Formed (some (.number (.float 2.5))) := by
    rintro v ⟨⟩
    exact .number finite
  have right : Formed (some (.string " 2.50 ")) := by
    rintro v ⟨⟩
    exact .string _
  have order : compareOrdered (some (.number (.float 2.5))) (some (.string " 2.50 ")) = some .eq := by
    decide +kernel
  obtain ⟨symmetric, -, agree, -⟩ := comparisons_consistent _ _ left right
  refine ⟨left, right, order, ?_⟩
  rw [← symmetric]
  exact (agree .eq order id).mpr rfl

end Reshape
