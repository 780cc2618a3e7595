import Reshape.Operator.Formatting
import Reshape.Proofs.Decimal.RoundTrip
import Reshape.Proofs.Operator.Editing
import Reshape.Proofs.Text.Thousands

namespace Reshape

open Text (NumberParts Grouped exists_grouped)

namespace Decimal

def Plain (text : List Char) : Prop :=
  ∃ whole fraction, text = whole ++ fraction ∧ NumberParts [] whole fraction

section Digits

variable {whole places : List Char} (some : whole ≠ []) (digits : ∀ c ∈ whole, c.isDigit = true)

include some digits

theorem plain_whole : Plain whole :=
  ⟨whole, [], (List.append_nil _).symm, .inl rfl, some, digits, .inl rfl⟩

theorem plain_point (behind : ∀ c ∈ places, c.isDigit = true) : Plain (whole ++ '.' :: places) :=
  ⟨whole, '.' :: places, rfl, .inl rfl, some, digits, .inr ⟨places, rfl, behind⟩⟩

end Digits

theorem plain_placesText (places n : Nat) : Plain (placesText places n) := by
  simp only [placesText]
  generalize zeros : List.replicate (places + 1 - (digits n).length) '0' ++ digits n = ds
  have all : ∀ c ∈ ds, c.isDigit = true := by
    rw [← zeros]
    exact List.forall_mem_append.mpr
      ⟨fun _ => isDigit_of_mem_zeros, fun _ => isDigit_of_mem_digits⟩
  have size : places < ds.length := by
    rw [← zeros, List.length_append, List.length_replicate]
    omega
  have some : ds.take (ds.length - places) ≠ [] := by
    rw [← List.length_pos_iff, List.length_take]
    omega
  have front : ∀ c ∈ ds.take (ds.length - places), c.isDigit = true :=
    fun c mem => all c (List.mem_of_mem_take mem)
  split
  · exact plain_whole some front
  · exact plain_point some front fun c mem => all c (List.mem_of_mem_drop mem)

theorem plain_positionalText (s : Scaled) : Plain (Layout.positionalText false s) := by
  have some := digits_ne_nil s.coefficient
  have all : ∀ c ∈ digits s.coefficient, c.isDigit = true := fun _ => isDigit_of_mem_digits
  simp only [Layout.positionalText, Bool.false_eq_true, if_false, List.append_nil]
  split
  · refine plain_whole (by simp [some]) (List.forall_mem_append.mpr ⟨all, fun _ => ?_⟩)
    exact isDigit_of_mem_zeros
  · split
    · rename_i inside
      refine plain_point ?_ (fun c mem => all c (List.mem_of_mem_take mem))
        fun c mem => all c (List.mem_of_mem_drop mem)
      rw [← List.length_pos_iff, List.length_take]
      omega
    · exact plain_point (List.cons_ne_nil _ _) (List.forall_mem_singleton.mpr rfl)
        (List.forall_mem_append.mpr ⟨fun _ => isDigit_of_mem_zeros, all⟩)

theorem parts_of_plain {text : List Char} (h : Plain text) (negative : Bool) :
    ∃ sign whole fraction, NumberParts sign whole fraction ∧
      (if negative then '-' :: text else text) = sign ++ whole ++ fraction := by
  obtain ⟨whole, fraction, rfl, parts⟩ := h
  cases negative with
  | false => exact ⟨[], whole, fraction, parts, rfl⟩
  | true => exact ⟨['-'], whole, fraction, { parts with sign := .inr rfl }, rfl⟩

end Decimal

namespace NumberForm

theorem body_parts (f : NumberForm) {x : Float} (finite : x.isFinite = true) :
    ∃ sign whole fraction, NumberParts sign whole fraction ∧
      (f.body x).toList = sign ++ whole ++ fraction := by
  obtain ⟨b, found⟩ := Decimal.exists_parts_of_isFinite finite
  unfold body
  cases f.decimals with
  | some places =>
      simp only [Decimal.fixed, found, String.toList_ofList]
      exact Decimal.parts_of_plain (Decimal.plain_placesText places _) b.negative
  | none =>
      simp only [floatText]
      split
      · have zero : ∀ c ∈ ['0'], c.isDigit = true := List.forall_mem_singleton.mpr rfl
        exact ⟨[], ['0'], [], ⟨.inl rfl, List.cons_ne_nil _ _, zero, .inl rfl⟩, rfl⟩
      · simp only [Decimal.Layout.write, found, String.toList_ofList]
        exact Decimal.parts_of_plain (Decimal.plain_positionalText _) b.negative

theorem render_grouped (f : NumberForm) {separator : String} (h : f.thousands = some separator)
    {x : Float} (finite : x.isFinite = true) :
    ∃ sign whole fraction first others, NumberParts sign whole fraction ∧
      Grouped whole first others ∧ (f.body x).toList = sign ++ whole ++ fraction ∧
      (f.render x).toList = f.prefixText.toList ++
        (sign ++ separator.toList.intercalate (first :: others) ++ fraction) ++
          f.suffixText.toList := by
  obtain ⟨sign, whole, fraction, parts, written⟩ := f.body_parts finite
  obtain ⟨first, others, grouped, joined⟩ := exists_grouped separator.toList parts.some
  refine ⟨sign, whole, fraction, first, others, parts, grouped, written, ?_⟩
  simp only [render, h, String.toList_append, String.toList_ofList]
  rw [written, parts.groupThousands_append, joined]

theorem outcome_number (f : NumberForm) (settings : Settings) {field : String} {r : Record} {v : Value}
    {x : Float} (found : r.resolve field = some v) (number : v.toFloat? = some x) :
    (FieldForm.edit settings (field, .number f)).outcome r r = .write (.string (f.render x)) := by
  cases v with
  | null => cases number
  | _ => simp [FieldForm.edit, FieldForm.outcome, found, FieldForm.apply, number, Outcome.write]

theorem format_grouped (f : NumberForm) {separator : String} (h : f.thousands = some separator)
    {field : String} {r : Record} {v : Value} {x : Float} (found : r.resolve field = some v)
    (number : v.toFloat? = some x) (finite : x.isFinite = true) (context : Context) :
    ∃ out text, (Operator.format [(field, .number f)]).apply context (.single r) =
        .ok (.single out, []) ∧
      out.resolve field = some (.string text) ∧
      ∃ sign whole fraction first others, NumberParts sign whole fraction ∧
        Grouped whole first others ∧ (f.body x).toList = sign ++ whole ++ fraction ∧
        text.toList = f.prefixText.toList ++
          (sign ++ separator.toList.intercalate (first :: others) ++ fraction) ++
            f.suffixText.toList := by
  have nonempty : field ≠ "" := by
    rintro rfl
    cases found
  have written := f.outcome_number context.settings found number
  refine ⟨r.insert field (.string (f.render x)), f.render x, ?_,
    Record.resolve_insert_self r nonempty _, f.render_grouped h finite⟩
  rw [Operator.apply, Operator.action, Action.apply, Action.onEach_single, List.map_singleton,
    Edit.applyAll_of_write written]
  rfl

end NumberForm

end Reshape
