import Mathlib.Data.List.Forall2
import Reshape.Proofs.Operator.Argument
import Reshape.Proofs.Pipeline.Configuration

namespace Reshape

/-- What a step can see besides its records. -/
inductive Aspect where
  | clock
  | listSeparator
  | flattenSeparator
  | dateFormat

def Aspect.Same (c c' : Context) : Aspect → Prop
  | clock => c.now = c'.now
  | listSeparator => c.settings.listSeparator = c'.settings.listSeparator
  | flattenSeparator => c.settings.flattenSeparator = c'.settings.flattenSeparator
  | dateFormat => c.settings.dateFormat = c'.settings.dateFormat

def Assigned.isToken : Assigned → Bool
  | source _ => false
  | _ => true

namespace Operator

def aggregates : Operator → List Aggregate
  | group g => g.aggregates
  | summarize s => s.aggregates
  | _ => []

def Uses (op : Operator) : Aspect → Prop
  | .clock => ∃ fields, op = .set fields ∧ ∃ field ∈ fields, field.2.isToken
  | .listSeparator => ∃ a ∈ op.aggregates, a.function = .list
  | .flattenSeparator => op = .flatten none
  | .dateFormat => ∃ fields, op = .format fields ∧ ∃ name, (name, .date none) ∈ fields

end Operator

theorem Assigned.edit_congr {c c' : Context} {field : String × Assigned}
    (h : field.2.isToken → c.now = c'.now) : edit c field = edit c' field := by
  obtain ⟨name, assigned⟩ := field
  cases assigned with
  | source s => rfl
  | _ => simp only [edit, value, h rfl]

theorem FieldForm.edit_congr {s s' : Settings} {field : String × FieldForm}
    (h : field.2 = .date none → s.dateFormat = s'.dateFormat) : edit s field = edit s' field := by
  obtain ⟨name, form⟩ := field
  have applied (v : Value) : form.apply s v = form.apply s' v := by
    cases form with
    | date pattern =>
        cases pattern with
        | none => simp only [apply, Option.getD_none, h rfl]
        | some pattern => rfl
    | _ => rfl
  have outcomes (v : Option Value) : form.outcome s name v = form.outcome s' name v := by
    unfold outcome
    split
    · rfl
    · rfl
    · rfl
    · rw [applied]
  simp only [edit, outcomes]

namespace Aggregate

variable {sep sep' : String}

theorem reduce_congr {a : Aggregate} (h : a.function = .list → sep = sep') (rs : List Record) :
    a.reduce sep rs = a.reduce sep' rs := by
  unfold reduce
  cases a.field with
  | none => rfl
  | some path =>
      cases function : a.function with
      | list => rw [h function]
      | _ => rfl

theorem addAll_congr {aggregates : List Aggregate}
    (h : ∀ a ∈ aggregates, a.function = .list → sep = sep') (rs : List Record) (out : Record) :
    addAll aggregates sep rs out = addAll aggregates sep' rs out := by
  unfold addAll
  refine List.foldl_ext _ _ out fun out a mem => ?_
  rw [reduce_congr (h a mem)]

end Aggregate

theorem Grouping.apply_congr {g : Grouping} {sep sep' : String}
    (h : ∀ a ∈ g.aggregates, a.function = .list → sep = sep') (rs : List Record) :
    g.apply sep rs = g.apply sep' rs := by
  unfold apply
  congr 1
  funext members
  exact Aggregate.addAll_congr h members _

theorem Summary.apply_congr {s : Summary} {sep sep' : String}
    (h : ∀ a ∈ s.aggregates, a.function = .list → sep = sep') (rs : List Record) :
    s.apply sep rs = s.apply sep' rs := by
  rw [apply, apply, totals, totals, Aggregate.addAll_congr h]

theorem Operator.action_congr {c c' : Context} {op : Operator} (sorter : c.sorter = c'.sorter)
    (h : ∀ a, op.Uses a → a.Same c c') : op.action c = op.action c' := by
  -- All operators but six are given no context.
  cases op with
  | sort keys => rw [action, action, sorter]
  | set fields =>
      have edits : fields.map (Assigned.edit c) = fields.map (Assigned.edit c') :=
        List.map_congr_left fun field mem =>
          Assigned.edit_congr fun token => h .clock ⟨fields, rfl, field, mem, token⟩
      rw [action, action, edits]
  | format fields =>
      have edits : fields.map (FieldForm.edit c.settings) =
          fields.map (FieldForm.edit c'.settings) :=
        List.map_congr_left fun field mem =>
          FieldForm.edit_congr fun form => h .dateFormat ⟨fields, rfl, field.1, form ▸ mem⟩
      rw [action, action, edits]
  | flatten separator =>
      cases separator with
      | none =>
          have same : c.settings.flattenSeparator = c'.settings.flattenSeparator :=
            h .flattenSeparator rfl
          rw [action, action, same]
      | some separator => rfl
  | group g =>
      have results := Grouping.apply_congr fun a mem function =>
        h .listSeparator ⟨a, mem, function⟩
      simp only [action, results]
  | summarize s =>
      have results := Summary.apply_congr fun a mem function =>
        h .listSeparator ⟨a, mem, function⟩
      simp only [action, results]
  | _ => rfl

structure Step.ActAlike (c c' : Context) (s t : Step) : Prop where
  index : s.index = t.index
  kind : s.kind = t.kind
  action : s.operator.action c = t.operator.action c'

theorem Run.step_eq {c c' : Context} {s t : Step} (h : s.ActAlike c c' t) (r : Run) :
    r.step c s = r.step c' t := by
  have applied (records : Collection) :
      s.operator.apply c records = t.operator.apply c' records := by
    have kind : s.operator.kind = t.operator.kind := h.kind
    rw [Operator.apply, Operator.apply, h.action, kind]
  cases current : r.output with
  | error e => simp only [step, current]
  | ok records => simp only [step, current, applyStep, h.index, h.kind, applied]

theorem Run.runSteps_eq {c c' : Context} {steps steps' : List Step}
    (h : List.Forall₂ (Step.ActAlike c c') steps steps') (r : Run) :
    runSteps c steps r = runSteps c' steps' r := by
  induction h generalizing r with
  | nil => rfl
  | cons first _ ih => rw [runSteps, runSteps, step_eq first, ih]

theorem Assigned.exists_token {v : Value} (h : (read v).isToken) :
    ∃ token ∈ ["$now", "$today", "$timestamp"], v = .string token := by
  unfold read at h
  split at h
  · exact ⟨"$now", by simp, rfl⟩
  · exact ⟨"$today", by simp, rfl⟩
  · exact ⟨"$timestamp", by simp, rfl⟩
  · cases h

namespace Step

def HoldsToken (s : Step) : Prop :=
  s.kind = .set ∧ ∃ fields : Record, s.config = .object fields ∧
    ∃ token ∈ ["$now", "$today", "$timestamp"], ∃ name, (name, .string token) ∈ fields

def Uses (s : Step) : Aspect → Prop
  | .clock => s.HoldsToken
  | a => s.operator.Uses a

theorem holdsToken_of_uses {s : Step} (reads : s.Reads) (h : s.operator.Uses .clock) :
    s.HoldsToken := by
  obtain ⟨fields, op, field, mem, token⟩ := h
  have kind : s.kind = .set := by rw [Step.kind, op, Operator.kind]
  rw [Reads, kind, op] at reads
  obtain ⟨read, config, same⟩ := bind_eq_ok.mp reads
  cases same
  obtain ⟨args, config, entries⟩ := Argument.entries_eq_ok config
  obtain ⟨⟨name, v⟩, found, -, value⟩ := Argument.exists_arg_of_mem entries mem
  rw [← Except.ok.inj value] at token
  obtain ⟨word, clock, rfl⟩ := Assigned.exists_token token
  exact ⟨kind, args, config, word, clock, name, found⟩

theorem uses_of_operator {s : Step} (reads : s.Reads) {a : Aspect} (h : s.operator.Uses a) :
    s.Uses a := by
  cases a with
  | clock => exact holdsToken_of_uses reads h
  | _ => exact h

end Step

namespace Pipeline

/-- Runs of the same steps at two times and under two settings are the same, unless the two differ
in something that one of the steps uses. -/
theorem run_eq_of_unused {base : Settings} {p q : Pipeline} (compiled : p.CompiledUnder base)
    (steps : q.steps = p.steps) {s s' : Settings} {now now' : DateTime} (sorter : Sorter)
    (unused : ∀ a : Aspect, ¬ a.Same ⟨p.settings s, now, sorter⟩ ⟨q.settings s', now', sorter⟩ →
      ∀ step ∈ p.steps, ¬ step.Uses a) (input : Value) :
    p.run s now sorter input = q.run s' now' sorter input := by
  have alike : List.Forall₂ (Step.ActAlike ⟨p.settings s, now, sorter⟩ ⟨q.settings s', now', sorter⟩)
      p.steps p.steps := by
    refine List.forall₂_same.mpr fun step mem => ⟨rfl, rfl,
      Operator.action_congr rfl fun a uses => ?_⟩
    by_contra differ
    exact unused a differ step mem (Step.uses_of_operator (compiled.reads step mem) uses)
  rw [run, run, steps, Run.runSteps_eq alike]

theorem run_eq_of_unused_count :
    let p : Pipeline :=
      ⟨{}, [⟨0, .set [("seen", .source (.field "when"))], .object [("seen", .string "$when")]⟩,
        ⟨1, .flatten (some "_"), .string "_"⟩,
        ⟨2, .format [("seen", .date (some "YYYY"))],
          .object [("seen", .object [("type", .string "date"), ("pattern", .string "YYYY")])]⟩,
        ⟨3, .summarize ⟨[⟨"n", .count, some "n"⟩], []⟩,
          .object [("fields", .object [("n", .string "count")])]⟩]⟩
    let q : Pipeline := { p with overrides := { dateFormat := some "DD" } }
    p.CompiledUnder {} ∧ q.steps = p.steps ∧ (∀ a : Aspect, ∀ step ∈ p.steps, ¬ step.Uses a) ∧
      ∀ s s' now now' sorter input, p.run s now sorter input = q.run s' now' sorter input := by
  intro p q
  have compiled : p.CompiledUnder {} := .ofValue (.object [("transforms", p.toValue)]) rfl
  have unused : ∀ a : Aspect, ∀ step ∈ p.steps, ¬ step.Uses a := by
    intro a
    cases a with
    | clock => simp [p, Step.Uses, Step.HoldsToken, Step.kind, Operator.kind]
    | listSeparator => simp [p, Step.Uses, Operator.Uses, Operator.aggregates]
    | flattenSeparator => simp [p, Step.Uses, Operator.Uses]
    | dateFormat => simp [p, Step.Uses, Operator.Uses]
  exact ⟨compiled, rfl, unused, fun s s' now now' sorter input =>
    run_eq_of_unused (q := q) compiled rfl sorter (fun a _ => unused a) input⟩

end Pipeline

end Reshape
