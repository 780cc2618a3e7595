import Reshape.Formula.Evaluate
import Reshape.Proofs.Results

namespace Reshape

namespace Operand

variable {a b c : Operand} {op : Operation} {x : Float}

theorem toValue_integer {n : Int} (finite : x.isFinite = true) (exact : exactInteger? x = some n) :
    (number x).toValue = .ok (.int n) := by
  rw [toValue, Value.ofFloat?, if_pos finite, exact]

theorem negate_eq_ok (h : a.negate = .ok b) : ∃ x, b = number x := by
  cases a with
  | number x =>
      cases h
      exact ⟨-x, rfl⟩
  | text s =>
      rw [negate] at h
      split at h
      · rename_i x _
        cases h
        exact ⟨-x, rfl⟩
      · cases h

theorem arithmetic_eq_ok {f : Float → Float → Except EvalError Float}
    (h : arithmetic op f a b = .ok c) :
    ∃ x y z, a.numberFor op = .ok x ∧ b.numberFor op = .ok y ∧ f x y = .ok z ∧ c = number z := by
  obtain ⟨x, left, h⟩ := bind_eq_ok.mp h
  obtain ⟨y, right, h⟩ := bind_eq_ok.mp h
  obtain ⟨z, result, h⟩ := bind_eq_ok.mp h
  exact ⟨x, y, z, left, right, result, (pure_eq_ok.mp h).symm⟩

theorem combine_eq_ok (arithmetical : op ≠ .add) (h : combine op a b = .ok c) :
    ∃ x, c = number x := by
  cases op with
  | add => exact absurd rfl arithmetical
  | sub | mul | div =>
      obtain ⟨-, -, z, -, -, -, rfl⟩ := arithmetic_eq_ok h
      exact ⟨z, rfl⟩

def SameNumber (a b : Operand) : Prop :=
  ∀ op, a.numberFor op = b.numberFor op

theorem combine_congr {d : Operand} (arithmetical : op ≠ .add) (left : SameNumber a b)
    (right : SameNumber c d) : combine op a c = combine op b d := by
  cases op with
  | add => exact absurd rfl arithmetical
  | sub | mul | div => simp only [combine, arithmetic, left _, right _]

end Operand

namespace Formula

variable {r : Record} {path s : String} {x : Float} {e f : Formula}

def replace (path : String) (put : Formula) : Formula → Formula
  | number x => number x
  | text s => text s
  | field other => if other = path then put else field other
  | neg e => neg (replace path put e)
  | binary op lhs rhs => binary op (replace path put lhs) (replace path put rhs)

theorem operand_replace (put : Formula) (same : put.operand r = (field path).operand r)
    (e : Formula) : (replace path put e).operand r = e.operand r := by
  induction e with
  | number x => rfl
  | text s => rfl
  | field other =>
      rw [replace]
      split
      · rename_i here
        rw [here, same]
      · rfl
  | neg e ih => simp only [replace, operand, ih]
  | binary op lhs rhs left right => simp only [replace, operand, left, right]

theorem operand_binary {op : Operation} {lhs rhs : Formula} {a b : Operand}
    (left : lhs.operand r = .ok a) (right : rhs.operand r = .ok b) :
    (binary op lhs rhs).operand r = Operand.combine op a b := by
  rw [operand, left, right]
  rfl

theorem evaluate_of_operand {a : Operand} (h : e.operand r = .ok a) : e.evaluate r = a.toValue := by
  rw [evaluate, h]
  rfl

theorem evaluate_congr (same : f.operand r = e.operand r) : f.evaluate r = e.evaluate r := by
  rw [evaluate, evaluate, same]

theorem operand_field_text (resolved : r.resolve path = some (.string s))
    (word : numberIn? s = none) : (field path).operand r = .ok (.text s) := by
  simp only [operand, resolved, Operand.ofField, word]

theorem operand_field_number (resolved : r.resolve path = some (.string s))
    (number : numberIn? s = some x) : (field path).operand r = .ok (.number x) := by
  simp only [operand, resolved, Operand.ofField, number]

/-- Texts between quotes, fields that hold a text which is no number, and sums with one of those. -/
def Textual (r : Record) : Formula → Prop
  | number _ => False
  | text _ => True
  | field path => ∃ s, r.resolve path = some (.string s) ∧ numberIn? s = none
  | neg _ => False
  | binary op lhs rhs => op = .add ∧ (lhs.Textual r ∨ rhs.Textual r)

theorem operand_field_cases {a : Operand} (h : (field path).operand r = .ok a) :
    ((field path).Textual r ∧ ∃ s, a = .text s) ∨
      (¬ (field path).Textual r ∧ ∃ x, a = .number x) := by
  rw [operand] at h
  cases found : r.resolve path with
  | none =>
      rw [found] at h
      cases h
  | some v =>
      rw [found] at h
      cases v with
      | number n =>
          cases h
          refine .inr ⟨?_, _, rfl⟩
          rintro ⟨s, resolved, -⟩
          rw [found] at resolved
          cases resolved
      | string s =>
          rw [Operand.ofField] at h
          cases spelled : numberIn? s with
          | none =>
              rw [spelled] at h
              cases h
              exact .inl ⟨⟨s, found, spelled⟩, s, rfl⟩
          | some x =>
              rw [spelled] at h
              cases h
              refine .inr ⟨?_, x, rfl⟩
              rintro ⟨t, resolved, word⟩
              rw [found] at resolved
              cases resolved
              rw [spelled] at word
              cases word
      | _ => cases h

theorem operand_cases {a : Operand} (h : e.operand r = .ok a) :
    (e.Textual r ∧ ∃ s, a = .text s) ∨ (¬ e.Textual r ∧ ∃ x, a = .number x) := by
  induction e generalizing a with
  | number x =>
      cases h
      exact .inr ⟨id, x, rfl⟩
  | text s =>
      cases h
      exact .inl ⟨trivial, s, rfl⟩
  | field path => exact operand_field_cases h
  | neg e ih =>
      obtain ⟨b, -, negated⟩ := bind_eq_ok.mp h
      exact .inr ⟨id, Operand.negate_eq_ok negated⟩
  | binary op lhs rhs left right =>
      obtain ⟨b, first, h⟩ := bind_eq_ok.mp h
      obtain ⟨c, second, combined⟩ := bind_eq_ok.mp h
      by_cases sum : op = .add
      · subst sum
        obtain rfl : a = b.add c := (Except.ok.inj combined).symm
        rcases left first with ⟨textual, s, rfl⟩ | ⟨plain, x, rfl⟩
        · exact .inl ⟨⟨rfl, .inl textual⟩, _, rfl⟩
        · rcases right second with ⟨textual, t, rfl⟩ | ⟨plain', y, rfl⟩
          · exact .inl ⟨⟨rfl, .inr textual⟩, _, rfl⟩
          · exact .inr ⟨fun textual => textual.2.elim plain plain', _, rfl⟩
      · exact .inr ⟨fun textual => sum textual.1, Operand.combine_eq_ok sum combined⟩

/-- A text is put before or behind the number, and the text of the number is the one between the
quotes. -/
def Joins (r : Record) (s : String) (other : Formula) : Prop :=
  other.Textual r ∧ ∀ x, numberIn? s = some x → floatText x = s

/-- Each place of the field is an operand of `-`, `*`, `/` or a minus sign, which ask for numbers,
or the text is joined to another text as it is. -/
def Tolerates (r : Record) (path s : String) : Formula → Prop
  | number _ => True
  | text _ => True
  | field other => other ≠ path
  | neg e => e = field path ∨ e.Tolerates r path s
  | binary op lhs rhs =>
    (lhs.Tolerates r path s ∨ lhs = field path ∧ (op = .add → Joins r s rhs)) ∧
      (rhs.Tolerates r path s ∨ rhs = field path ∧ (op = .add → Joins r s lhs))

section Tolerates

variable (resolved : r.resolve path = some (.string s)) (spelled : numberIn? s = some x)
include resolved spelled

theorem not_textual_field : ¬ (field path).Textual r := by
  rintro ⟨t, found, word⟩
  rw [resolved] at found
  cases found
  rw [spelled] at word
  cases word

theorem bind_replace_field {α : Type} {put put' : Operand → Except EvalError α}
    (same : put (.text s) = put' (.number x)) :
    ((replace path (text s) (field path)).operand r >>= put) =
      ((field path).operand r >>= put') := by
  rw [operand_field_number resolved spelled, replace, if_pos rfl]
  exact same

theorem bind_replace_of_sameNumber {α : Type} {put put' : Operand → Except EvalError α}
    (h : (replace path (text s) e).operand r = e.operand r ∨ e = field path)
    (same : ∀ a b, a.SameNumber b → put a = put' b) :
    ((replace path (text s) e).operand r >>= put) = (e.operand r >>= put') := by
  rcases h with kept | rfl
  · rw [kept, funext fun a => same a a fun op => rfl]
  · refine bind_replace_field resolved spelled (same _ _ fun op => ?_)
    simp only [Operand.numberFor, spelled]

omit resolved in
theorem add_of_joins {other : Formula} {b : Operand} (joins : Joins r s other)
    (h : other.operand r = .ok b) :
    (Operand.text s).add b = (Operand.number x).add b ∧
      b.add (.text s) = b.add (.number x) := by
  rcases operand_cases h with ⟨-, t, rfl⟩ | ⟨plain, -⟩
  · simp only [Operand.add, Operand.display, joins.2 x spelled, and_self]
  · exact absurd joins.1 plain

theorem operand_replace_sum {lhs rhs : Formula}
    (left : (replace path (text s) lhs).operand r = lhs.operand r ∨
      lhs = field path ∧ Joins r s rhs)
    (right : (replace path (text s) rhs).operand r = rhs.operand r ∨
      rhs = field path ∧ Joins r s lhs) :
    (replace path (text s) (binary .add lhs rhs)).operand r = (binary .add lhs rhs).operand r := by
  simp only [replace, operand]
  rcases left with left | ⟨rfl, joins⟩
  · rw [left]
    rcases right with right | ⟨rfl, joins⟩
    · rw [right]
    · cases found : lhs.operand r with
      | error error => rfl
      | ok a =>
          exact bind_replace_field resolved spelled
            (congrArg Except.ok (add_of_joins spelled joins found).2)
  · rcases right with right | ⟨rfl, -⟩
    · rw [right]
      refine bind_replace_field resolved spelled ?_
      cases found : rhs.operand r with
      | error error => rfl
      | ok b => exact congrArg Except.ok (add_of_joins spelled joins found).1
    · exact absurd joins.1 (not_textual_field resolved spelled)

theorem operand_replace_of_tolerates (h : e.Tolerates r path s) :
    (replace path (text s) e).operand r = e.operand r := by
  induction e with
  | number x => rfl
  | text t => rfl
  | field other => rw [replace, if_neg h]
  | neg e ih =>
      rcases h with rfl | h
      · refine bind_replace_field resolved spelled ?_
        simp only [Operand.negate, spelled]
      · simp only [replace, operand, ih h]
  | binary op lhs rhs left right =>
      have first := h.1.imp_left left
      have second := h.2.imp_left right
      by_cases sum : op = .add
      · subst sum
        exact operand_replace_sum resolved spelled
          (first.imp_right fun ⟨here, joins⟩ => ⟨here, joins rfl⟩)
          (second.imp_right fun ⟨here, joins⟩ => ⟨here, joins rfl⟩)
      · refine bind_replace_of_sameNumber resolved spelled (first.imp_right And.left)
          fun a b left => ?_
        refine bind_replace_of_sameNumber resolved spelled (second.imp_right And.left)
          fun c d right => ?_
        exact Operand.combine_congr sum left right

end Tolerates

theorem toValue_number_ne (x : Float) (s : String) :
    (Operand.number x).toValue ≠ .ok (.string s) := by
  simp only [Operand.toValue, Value.ofFloat?]
  split
  · rename_i v stored
    split at stored
    · split at stored <;> cases stored <;> nofun
    · cases stored
  · nofun

theorem operand_sum_cases {lhs rhs : Formula} {a b : Operand} (left : lhs.operand r = .ok a)
    (right : rhs.operand r = .ok b) :
    (lhs.Textual r ∨ rhs.Textual r →
        (binary .add lhs rhs).operand r = .ok (.text (a.display ++ b.display))) ∧
      (¬ (lhs.Textual r ∨ rhs.Textual r) → ∃ x y, a = .number x ∧ b = .number y ∧
        (binary .add lhs rhs).operand r = .ok (.number (x + y))) := by
  rw [operand_binary left right]
  rcases operand_cases left with ⟨textual, s, rfl⟩ | ⟨plain, x, rfl⟩
  · exact ⟨fun _ => rfl, fun plain => absurd (.inl textual) plain⟩
  · rcases operand_cases right with ⟨textual, t, rfl⟩ | ⟨plain', y, rfl⟩
    · exact ⟨fun _ => rfl, fun plain => absurd (.inr textual) plain⟩
    · exact ⟨fun textual => absurd textual (not_or.mpr ⟨plain, plain'⟩),
        fun _ => ⟨x, y, rfl, rfl, rfl⟩⟩

/-- A quoted text does in every formula what a field does that holds it just if the text spells no
number. The field is the number that the text spells, and where a formula asks for numbers the
quoted text is that number as well. Sums do not ask, and join a quoted number as a text. -/
theorem evaluate_replace (r : Record) (path s : String)
    (resolved : r.resolve path = some (.string s)) :
    ((∀ e, (replace path (text s) e).evaluate r = e.evaluate r) ↔ numberIn? s = none) ∧
      (∀ x, numberIn? s = some x →
        ∀ e, (replace path (number x) e).evaluate r = e.evaluate r) ∧
      (∀ e, e.Tolerates r path s → (replace path (text s) e).evaluate r = e.evaluate r) ∧
      ∀ lhs rhs a b, lhs.operand r = .ok a → rhs.operand r = .ok b →
        (lhs.Textual r ∨ rhs.Textual r →
          (binary .add lhs rhs).operand r = .ok (.text (a.display ++ b.display))) ∧
        (¬ (lhs.Textual r ∨ rhs.Textual r) → ∃ x y, a = .number x ∧ b = .number y ∧
          (binary .add lhs rhs).operand r = .ok (.number (x + y))) := by
  have word (none : numberIn? s = none) (e : Formula) :
      (replace path (text s) e).evaluate r = e.evaluate r :=
    evaluate_congr (operand_replace (text s) (operand_field_text resolved none).symm e)
  refine ⟨⟨fun same => ?_, word⟩, fun x spelled e => ?_, fun e tolerates => ?_,
    fun lhs rhs a b => operand_sum_cases⟩
  · cases spelled : numberIn? s with
    | none => rfl
    | some x =>
        -- The field alone stores a number, and the quoted text a text.
        have stored := same (field path)
        rw [replace, if_pos rfl, evaluate, evaluate,
          operand_field_number resolved spelled] at stored
        exact absurd stored.symm (toValue_number_ne x s)
  · exact evaluate_congr (operand_replace (number x) (operand_field_number resolved spelled).symm e)
  · cases spelled : numberIn? s with
    | none => exact word spelled e
    | some x => exact evaluate_congr (operand_replace_of_tolerates resolved spelled tolerates)

theorem evaluate_replace_joined :
    Record.resolve [("qty", .string "5")] "qty" = some (.string "5") ∧
      (replace "qty" (text "5") (binary .add (binary .add (text "#") (field "qty"))
        (binary .mul (field "qty") (number 2)))).evaluate [("qty", .string "5")] =
      (binary .add (binary .add (text "#") (field "qty"))
        (binary .mul (field "qty") (number 2))).evaluate [("qty", .string "5")] := by
  have resolved : Record.resolve [("qty", .string "5")] "qty" = some (.string "5") := rfl
  have joins : Joins [("qty", .string "5")] "5" (text "#") := by
    refine ⟨trivial, fun x spelled => ?_⟩
    have five : numberIn? "5" = some 5 := by decide +kernel
    obtain rfl := Option.some.inj (five.symm.trans spelled)
    decide +kernel
  have tolerates : Tolerates [("qty", .string "5")] "qty" "5" (binary .add
      (binary .add (text "#") (field "qty")) (binary .mul (field "qty") (number 2))) :=
    ⟨.inl ⟨.inl trivial, .inr ⟨rfl, fun _ => joins⟩⟩, .inl ⟨.inr ⟨rfl, nofun⟩, .inl trivial⟩⟩
  exact ⟨resolved, (evaluate_replace _ "qty" "5" resolved).2.2.1 _ tolerates⟩

/-- A quoted number is joined to a number, to which a field is added. -/
theorem evaluate_replace_ne :
    Record.resolve [("qty", .string "5")] "qty" = some (.string "5") ∧
      (binary .add (field "qty") (number 1)).evaluate [("qty", .string "5")] = .ok (.int 6) ∧
      (replace "qty" (text "5") (binary .add (field "qty") (number 1))).evaluate
        [("qty", .string "5")] = .ok (.string "51") := by
  have resolved : Record.resolve [("qty", .string "5")] "qty" = some (.string "5") := rfl
  have five : numberIn? "5" = some 5 := by decide +kernel
  refine ⟨resolved, ?_, ?_⟩
  · have six : exactInteger? (5 + 1) = some 6 := by decide +kernel
    have finite : (5 + 1 : Float).isFinite = true := by decide +kernel
    have sum : (binary .add (field "qty") (number 1)).operand [("qty", .string "5")] =
        .ok (.number (5 + 1)) :=
      (operand_binary (operand_field_number resolved five) rfl).trans rfl
    rw [evaluate_of_operand sum, Operand.toValue_integer finite six]
  · have one : floatText 1 = "1" := by decide +kernel
    show Except.ok (Value.string ("5" ++ floatText 1)) = _
    rw [one]
    rfl

end Formula

end Reshape
