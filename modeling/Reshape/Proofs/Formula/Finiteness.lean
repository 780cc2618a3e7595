import Reshape.Operator.Assignment
import Reshape.Proofs.Decimal.Infinite
import Reshape.Proofs.Decimal.RoundTrip
import Reshape.Proofs.Formula.Quoting
import Reshape.Proofs.Value.Alike

namespace Reshape

namespace Operand

variable {a b c : Operand} {op : Operation} {x y : Float}

def NotFinite : Operand → Prop
  | number x => x.isFinite = false
  | text _ => False

theorem numberFor_eq_ok : a.numberFor op = .ok x ↔ a.toFloat? = some x := by
  cases a with
  | number y => simp [numberFor, toFloat?]
  | text s =>
      rw [numberFor, toFloat?]
      cases numberIn? s with
      | none => simp
      | some y => simp

theorem negate_of_not_finite (h : a.NotFinite) (negated : a.negate = .ok b) : b.NotFinite := by
  cases a with
  | number x =>
      cases negated
      exact Decimal.isFinite_neg h
  | text s => exact h.elim

theorem divide_eq_ok {z : Float} (h : divide x y = .ok z) : z = x / y := by
  rw [divide] at h
  split at h
  · cases h
  · exact (Except.ok.inj h).symm

theorem combine_left_of_not_finite (h : a.NotFinite) (combined : combine op a b = .ok c) :
    c.NotFinite ∨ op = .add ∧ ∃ s, b = text s := by
  cases a with
  | text s => exact h.elim
  | number x =>
      cases op with
      | add =>
          cases b with
          | text s => exact .inr ⟨rfl, s, rfl⟩
          | number y =>
              cases combined
              exact .inl (Decimal.isFinite_add (.inl h))
      | sub =>
          obtain ⟨x, y, z, ⟨⟩, -, ⟨⟩, rfl⟩ := arithmetic_eq_ok combined
          exact .inl (Decimal.isFinite_sub (.inl h))
      | mul =>
          obtain ⟨x, y, z, ⟨⟩, -, ⟨⟩, rfl⟩ := arithmetic_eq_ok combined
          exact .inl (Decimal.isFinite_mul (.inl h))
      | div =>
          obtain ⟨x, y, z, ⟨⟩, -, quotient, rfl⟩ := arithmetic_eq_ok combined
          rw [divide_eq_ok quotient]
          exact .inl (Decimal.isFinite_div_left h)

theorem combine_right_of_not_finite (h : b.NotFinite) (combined : combine op a b = .ok c) :
    c.NotFinite ∨ (op = .add ∧ ∃ s, a = text s) ∨
      op = .div ∧ ∃ x y, a.toFloat? = some x ∧ x.isFinite = true ∧ b = number y ∧
        y.isInf = true := by
  cases b with
  | text s => exact h.elim
  | number y =>
      cases op with
      | add =>
          cases a with
          | text s => exact .inr (.inl ⟨rfl, s, rfl⟩)
          | number x =>
              cases combined
              exact .inl (Decimal.isFinite_add (.inr h))
      | sub =>
          obtain ⟨x, y, z, -, ⟨⟩, ⟨⟩, rfl⟩ := arithmetic_eq_ok combined
          exact .inl (Decimal.isFinite_sub (.inr h))
      | mul =>
          obtain ⟨x, y, z, -, ⟨⟩, ⟨⟩, rfl⟩ := arithmetic_eq_ok combined
          exact .inl (Decimal.isFinite_mul (.inr h))
      | div =>
          obtain ⟨x, y, z, dividend, ⟨⟩, quotient, rfl⟩ := arithmetic_eq_ok combined
          rw [divide_eq_ok quotient]
          rcases Decimal.isFinite_div_right h with ⟨finite, infinite⟩ | result
          · exact .inr (.inr ⟨rfl, x, _, numberFor_eq_ok.mp dividend, finite, rfl, infinite⟩)
          · exact .inl result

theorem combine_div (dividend : a.toFloat? = some x) (divisor : b.toFloat? = some y)
    (nonzero : (y == 0) = false) : combine .div a b = .ok (number (x / y)) := by
  have quotient : divide x y = .ok (x / y) := by
    rw [divide, nonzero]
    rfl
  rw [combine, arithmetic, numberFor_eq_ok.mpr dividend, numberFor_eq_ok.mpr divisor]
  show (do return number (← divide x y)) = Except.ok (number (x / y))
  rw [quotient]
  rfl

theorem combine_div_infinite (dividend : a.toFloat? = some x) (finite : x.isFinite = true)
    (infinite : y.isInf = true) :
    ∃ z, combine .div a (number y) = .ok (number z) ∧ (z == 0) = true :=
  ⟨x / y, combine_div dividend rfl (Decimal.not_infinite_beq_zero infinite),
    Decimal.div_infinite finite infinite⟩

theorem toValue_of_not_finite (h : a.NotFinite) : a.toValue = .error .notFinite := by
  cases a with
  | number x =>
      rw [toValue, Value.ofFloat?, show x.isFinite = false from h]
      rfl
  | text s => exact h.elim

theorem wellFormed_of_toValue {v : Value} (h : a.toValue = .ok v) : v.WellFormed := by
  cases a with
  | text s =>
      cases h
      exact .string s
  | number x =>
      cases stored : Value.ofFloat? x with
      | none =>
          rw [toValue, stored] at h
          cases h
      | some w =>
          rw [toValue, stored] at h
          cases h
          obtain ⟨finite, ⟨n, rfl, bound⟩ | rfl⟩ := Decimal.ofFloat?_eq_some stored
          · refine .number ?_
            rw [exactBound] at bound
            constructor <;> omega
          · exact .number finite

end Operand

namespace Formula

variable {r : Record} {d e : Formula}

def NotFinite (r : Record) (e : Formula) : Prop :=
  ∃ a, e.operand r = .ok a ∧ a.NotFinite

def GivesText (r : Record) (e : Formula) : Prop :=
  ∃ s, e.operand r = .ok (.text s)

/-- The quotient of a finite number by an infinite one. -/
def Vanishes (r : Record) (lhs rhs : Formula) : Prop :=
  ∃ a x y, lhs.operand r = .ok a ∧ a.toFloat? = some x ∧ x.isFinite = true ∧
    rhs.operand r = .ok (.number y) ∧ y.isInf = true

/-- A part of a formula at a place from which every operation on the way up passes on what is not
finite. -/
inductive Exposed (r : Record) (d : Formula) : Formula → Prop
  | here : Exposed r d d
  | neg {e : Formula} (inside : Exposed r d e) : Exposed r d (neg e)
  | left {op : Operation} {lhs rhs : Formula} (inside : Exposed r d lhs)
      (added : op = .add → ¬ rhs.GivesText r) : Exposed r d (binary op lhs rhs)
  | right {op : Operation} {lhs rhs : Formula} (inside : Exposed r d rhs)
      (added : op = .add → ¬ lhs.GivesText r) (divided : op = .div → ¬ Vanishes r lhs rhs) :
      Exposed r d (binary op lhs rhs)

theorem operand_of_exposed (exposed : Exposed r d e) (h : d.NotFinite r) {a : Operand}
    (result : e.operand r = .ok a) : a.NotFinite := by
  induction exposed generalizing a with
  | here =>
      obtain ⟨b, result', h⟩ := h
      obtain rfl := Except.ok.inj (result'.symm.trans result)
      exact h
  | neg inside ih =>
      obtain ⟨b, inner, negated⟩ := bind_eq_ok.mp result
      exact Operand.negate_of_not_finite (ih inner) negated
  | left inside added ih =>
      obtain ⟨b, first, rest⟩ := bind_eq_ok.mp result
      obtain ⟨c, second, combined⟩ := bind_eq_ok.mp rest
      rcases Operand.combine_left_of_not_finite (ih first) combined with carried | ⟨sum, s, rfl⟩
      · exact carried
      · exact absurd ⟨s, second⟩ (added sum)
  | right inside added divided ih =>
      obtain ⟨b, first, rest⟩ := bind_eq_ok.mp result
      obtain ⟨c, second, combined⟩ := bind_eq_ok.mp rest
      rcases Operand.combine_right_of_not_finite (ih second) combined with
        carried | ⟨sum, s, rfl⟩ | ⟨quotient, x, y, dividend, finite, rfl, infinite⟩
      · exact carried
      · exact absurd ⟨s, first⟩ (added sum)
      · exact absurd ⟨b, x, y, first, dividend, finite, second, infinite⟩ (divided quotient)

theorem evaluate_eq_error (h : ∀ a, e.operand r = .ok a → a.NotFinite) :
    ∃ error, e.evaluate r = .error error := by
  rw [evaluate]
  cases result : e.operand r with
  | error error => exact ⟨error, rfl⟩
  | ok a => exact ⟨.notFinite, Operand.toValue_of_not_finite (h a result)⟩

theorem apply_edit_of_error {error : EvalError} (h : e.evaluate r = .error error) (target : String)
    (initial : Record) (warnings : List String) :
    (edit (target, e)).apply initial (r, warnings) = (r.insert target .null,
      warnings ++ ["'" ++ target ++ "' set to null: " ++ error.message]) := by
  simp only [Edit.apply, edit, h, Option.toList]

/-- A formula has no value and its field becomes null if one of its parts gives an infinite number
or NaN, unless on the way up from it a finite number is divided by an infinite one, which leaves a
zero, or a text is added. What a formula stores is a finite number or a text. -/
theorem evaluate_of_not_finite (r : Record) (e : Formula) :
    (∀ d, Exposed r d e → d.NotFinite r →
      ∃ error, e.evaluate r = .error error ∧ ∀ target initial warnings,
        (edit (target, e)).apply initial (r, warnings) = (r.insert target .null,
          warnings ++ ["'" ++ target ++ "' set to null: " ++ error.message])) ∧
      (∀ lhs rhs, Vanishes r lhs rhs →
        ∃ z, (binary .div lhs rhs).operand r = .ok (.number z) ∧ (z == 0) = true) ∧
      ∀ v, e.evaluate r = .ok v → v.WellFormed := by
  refine ⟨fun d exposed notFinite => ?_, fun lhs rhs vanishes => ?_, fun v stored => ?_⟩
  · obtain ⟨error, failed⟩ := evaluate_eq_error fun a => operand_of_exposed exposed notFinite
    exact ⟨error, failed, apply_edit_of_error failed⟩
  · obtain ⟨a, x, y, left, dividend, finite, right, infinite⟩ := vanishes
    rw [operand_binary left right]
    exact Operand.combine_div_infinite dividend finite infinite
  · obtain ⟨a, -, value⟩ := bind_eq_ok.mp stored
    exact Operand.wellFormed_of_toValue value

theorem square_not_finite : (1e200 * 1e200 : Float).isFinite = false := by
  decide +kernel

theorem evaluate_of_not_finite_squared :
    let r : Record := [("a", .number (.float 1e200))]
    let square : Formula := binary .mul (field "a") (field "a")
    let e : Formula :=
      binary .sub (neg (binary .div square (number 2))) (binary .div (number 1) square)
    square.NotFinite r ∧ Exposed r square e ∧ ∃ error, e.evaluate r = .error error ∧
      ((edit ("x", e)).apply r (r, [])).1 = [("a", .number (.float 1e200)), ("x", .null)] := by
  intro r square e
  have notFinite : square.NotFinite r :=
    ⟨.number (1e200 * 1e200), rfl, square_not_finite⟩
  have exposed : Exposed r square e := .left (.neg (.left .here nofun)) nofun
  refine ⟨notFinite, exposed, ?_⟩
  obtain ⟨error, failed, applied⟩ := (evaluate_of_not_finite r e).1 square exposed notFinite
  refine ⟨error, failed, ?_⟩
  rw [applied]
  rfl

/-- An overflow is divided by, and written into a text. -/
theorem evaluate_overflow_lost :
    let r : Record := [("a", .number (.float 1e200))]
    let square : Formula := binary .mul (field "a") (field "a")
    square.NotFinite r ∧ (binary .div (number 1) square).evaluate r = .ok (.int 0) ∧
      (binary .add (text "x") square).evaluate r = .ok (.string "xinf") := by
  intro r square
  have overflow : square.operand r = .ok (.number (1e200 * 1e200)) := rfl
  refine ⟨⟨_, overflow, square_not_finite⟩, ?_, ?_⟩
  · have infinite : (1e200 * 1e200 : Float).isInf = true := by decide +kernel
    have quotient : (binary .div (number 1) square).operand r =
        .ok (.number (1 / (1e200 * 1e200))) :=
      (operand_binary rfl overflow).trans
        (Operand.combine_div rfl rfl (Decimal.not_infinite_beq_zero infinite))
    have zero : exactInteger? (1 / (1e200 * 1e200)) = some 0 := by decide +kernel
    have finite : (1 / (1e200 * 1e200) : Float).isFinite = true := by decide +kernel
    rw [evaluate_of_operand quotient, Operand.toValue_integer finite zero]
  · have shown : floatText (1e200 * 1e200) = "inf" := by decide +kernel
    have joined : (binary .add (text "x") square).operand r =
        .ok (.text ("x" ++ floatText (1e200 * 1e200))) :=
      (operand_binary rfl overflow).trans rfl
    rw [evaluate_of_operand joined, shown]
    rfl

end Formula

end Reshape
