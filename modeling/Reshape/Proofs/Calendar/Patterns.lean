import Reshape.Calendar.Rendering

namespace Reshape.Calendar

inductive Field where
  | year
  | month
  | day
  | hour
  | minute
  | second

namespace Field

def token : Field → List Char
  | year => ['Y', 'Y', 'Y', 'Y']
  | month => ['M', 'M']
  | day => ['D', 'D']
  | hour => ['H', 'H']
  | minute => ['m', 'm']
  | second => ['s', 's']

def directive : Field → Char
  | year => 'Y'
  | month => 'm'
  | day => 'd'
  | hour => 'H'
  | minute => 'M'
  | second => 'S'

def text (t : DateTime) : Field → List Char
  | year => yearText t.date.year
  | month => padded 2 t.date.month
  | day => padded 2 t.date.day
  | hour => padded 2 t.time.hour
  | minute => padded 2 t.time.minute
  | second => padded 2 t.time.second

theorem token_ne_nil (f : Field) : f.token ≠ [] := by
  cases f <;> exact List.cons_ne_nil _ _

theorem field?_directive (t : DateTime) (f : Field) : field? t f.directive = some (f.text t) := by
  cases f <;> rfl

end Field

/-- A pattern, and the pattern with the fields of a date in place of their letters. -/
inductive Substituted (t : DateTime) : List Char → List Char → Prop
  | nil : Substituted t [] []
  | field (f : Field) {rest out : List Char} (next : Substituted t rest out) :
      Substituted t (f.token ++ rest) (f.text t ++ out)
  | literal {c : Char} {rest out : List Char} (other : ∀ f : Field, ¬ f.token <+: c :: rest)
      (next : Substituted t rest out) : Substituted t (c :: rest) (c :: out)

theorem exists_substituted (t : DateTime) : ∀ pattern, ∃ out, Substituted t pattern out
  | [] => ⟨[], .nil⟩
  | c :: rest => by
      by_cases found : ∃ f : Field, f.token <+: c :: rest
      · obtain ⟨f, after, same⟩ := found
        have size := congrArg List.length same
        rw [List.length_append, List.length_cons] at size
        have some := List.length_pos_iff.mpr f.token_ne_nil
        have shorter : after.length < rest.length + 1 := by omega
        obtain ⟨out, next⟩ := exists_substituted t after
        rw [← same]
        exact ⟨_, .field f next⟩
      · obtain ⟨out, next⟩ := exists_substituted t rest
        exact ⟨_, .literal (fun f begins => found ⟨f, begins⟩) next⟩
termination_by pattern => pattern.length

theorem template_token (f : Field) (rest : List Char) :
    template (f.token ++ rest) = '%' :: f.directive :: template rest := by
  cases f <;> rfl

def escaped (c : Char) : List Char :=
  if c = '%' then ['%', '%'] else [c]

theorem template_literal {c : Char} {rest : List Char}
    (other : ∀ f : Field, ¬ f.token <+: c :: rest) :
    template (c :: rest) = escaped c ++ template rest := by
  rw [template.eq_def]
  split
  case h_9 plain same =>
    cases same
    rw [escaped, if_neg plain]
    rfl
  all_goals rename_i same
  all_goals cases same
  · exact absurd ⟨_, rfl⟩ (other .year)
  · exact absurd ⟨_, rfl⟩ (other .month)
  · exact absurd ⟨_, rfl⟩ (other .day)
  · exact absurd ⟨_, rfl⟩ (other .hour)
  · exact absurd ⟨_, rfl⟩ (other .minute)
  · exact absurd ⟨_, rfl⟩ (other .second)
  · rfl

/-- What a formatter of dates does to a template. -/
structure Formats (t : DateTime) (format : List Char → List Char) : Prop where
  nil : format [] = []
  directive : ∀ (f : Field) (rest : List Char),
    format ('%' :: f.directive :: rest) = f.text t ++ format rest
  percent : ∀ rest, format ('%' :: '%' :: rest) = '%' :: format rest
  other : ∀ (c : Char) (rest : List Char), c ≠ '%' → format (c :: rest) = c :: format rest

theorem expand_formats (t : DateTime) : Formats t (expand t) where
  nil := rfl
  directive f rest := by
    have single : f.directive ≠ '%' := by cases f <;> decide
    rw [expand, if_neg single, f.field?_directive]
  percent rest := rfl
  other c rest plain := by
    rw [expand.eq_def]
    split
    all_goals rename_i same
    all_goals cases same
    · exact absurd rfl plain
    · rfl

namespace Formats

variable {t : DateTime} {format : List Char → List Char} (h : Formats t format)

include h

theorem escaped_append (c : Char) (rest : List Char) :
    format (escaped c ++ rest) = c :: format rest := by
  by_cases percent : c = '%'
  · subst percent
    exact h.percent rest
  · rw [escaped, if_neg percent]
    exact h.other c rest percent

theorem template_of_substituted {pattern out : List Char} (s : Substituted t pattern out) :
    format (template pattern) = out := by
  induction s with
  | nil => exact h.nil
  | field f _ ih => rw [template_token, h.directive, ih]
  | literal other _ ih => rw [template_literal other, h.escaped_append, ih]

theorem template_eq_iff {pattern out : List Char} :
    format (template pattern) = out ↔ Substituted t pattern out := by
  refine ⟨fun same => ?_, h.template_of_substituted⟩
  obtain ⟨out', s⟩ := exists_substituted t pattern
  rwa [← same, h.template_of_substituted s]

end Formats

/-- The text of a date is its pattern with the fields put in, and any other formatter gives the same
text for the template of the pattern. -/
theorem render_eq_iff (t : DateTime) (pattern out : String) :
    (render pattern t = out ↔ Substituted t pattern.toList out.toList) ∧
    ∀ format, Formats t format →
      (format (template pattern.toList) = out.toList ↔ Substituted t pattern.toList out.toList) := by
  refine ⟨?_, fun format h => h.template_eq_iff⟩
  rw [← (expand_formats t).template_eq_iff, render, ← String.toList_inj, String.toList_ofList]

theorem render_eq_iff_percent :
    let t : DateTime := ⟨⟨2024, 1, 2, by decide⟩, ⟨3, 4, 5, 0, by decide⟩⟩
    Formats t (expand t) ∧ render "%YYYYY MMM%%d" t = "%2024Y 01M%%d" ∧
      Substituted t "%YYYYY MMM%%d".toList "%2024Y 01M%%d".toList ∧
      expand t (template "%YYYYY MMM%%d".toList) = "%2024Y 01M%%d".toList := by
  intro t
  have formats : Formats t (expand t) := expand_formats t
  have written : render "%YYYYY MMM%%d" t = "%2024Y 01M%%d" := by decide
  obtain ⟨means, others⟩ := render_eq_iff t "%YYYYY MMM%%d" "%2024Y 01M%%d"
  have substituted := means.mp written
  exact ⟨formats, written, substituted, (others _ formats).mpr substituted⟩

end Reshape.Calendar
