import Reshape.Proofs.Text.Joining
import Reshape.Text.Segments

namespace Reshape.Text

variable {sep part rest : List Char} {parts : List (List Char)}

theorem EndsApart.tail {c : Char} (h : EndsApart sep (c :: part)) : EndsApart sep part :=
  fun found => h (found.trans (List.suffix_cons c _).isInfix)

theorem EndsApart.not_prefix {c : Char} (h : EndsApart sep (c :: part)) (rest : List Char) :
    ¬ sep <+: c :: part ++ sep ++ rest := by
  intro starts
  have shortened : c :: part ++ sep.dropLast <+: c :: part ++ sep ++ rest := by
    rw [List.append_assoc]
    exact (List.prefix_append_right_inj _).mpr
      ((List.dropLast_prefix sep).trans (List.prefix_append sep rest))
  have short : sep.length ≤ (c :: part ++ sep.dropLast).length := by
    rw [List.length_append, List.length_cons, List.length_dropLast]
    omega
  exact h (List.prefix_of_prefix_length_le starts shortened short).isInfix

theorem splitAroundFrom_append (sep skipped rest : List Char) :
    splitAroundFrom sep skipped.length (skipped ++ rest) = splitAround sep rest := by
  induction skipped with
  | nil => rfl
  | cons c skipped ih => exact ih

theorem splitAround_cons {c : Char} (h : ¬ sep <+: c :: rest) :
    splitAround sep (c :: rest) = consFirst c (splitAround sep rest) := by
  rw [splitAround, splitAroundFrom, if_neg (by simpa using h)]
  rfl

theorem splitAround_append (nonempty : sep ≠ []) (apart : EndsApart sep part) (rest : List Char) :
    splitAround sep (part ++ sep ++ rest) = part :: splitAround sep rest := by
  induction part with
  | nil =>
      obtain ⟨c, others, rfl⟩ := List.exists_cons_of_ne_nil nonempty
      rw [List.nil_append, List.cons_append, splitAround, splitAroundFrom, if_pos (by simp)]
      exact congrArg _ (splitAroundFrom_append _ others rest)
  | cons c part ih =>
      have starts := apart.not_prefix rest
      rw [List.cons_append, List.cons_append] at starts ⊢
      rw [splitAround_cons starts, ih apart.tail, consFirst]

theorem splitAround_of_outside (h : ¬ sep <:+: part) : splitAround sep part = [part] := by
  induction part with
  | nil => rfl
  | cons c part ih =>
      rw [splitAround_cons fun starts => h starts.isInfix,
        ih fun found => h (found.trans (List.suffix_cons c part).isInfix), consFirst]

theorem splitAround_intercalate (nonempty : sep ≠ []) (some : parts ≠ [])
    (apart : ∀ part ∈ parts, EndsApart sep part) :
    splitAround sep (sep.intercalate parts) = parts := by
  induction parts with
  | nil => exact absurd rfl some
  | cons part parts ih =>
      obtain ⟨here, later⟩ := List.forall_mem_cons.mp apart
      cases parts with
      | nil => rw [List.intercalate_singleton, splitAround_of_outside here.outside]
      | cons next parts =>
          rw [List.intercalate_cons_cons, splitAround_append nonempty here,
            ih (List.cons_ne_nil next parts) later]

end Reshape.Text
