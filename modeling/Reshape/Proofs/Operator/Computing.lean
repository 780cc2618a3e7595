import Reshape.Proofs.Formula.Finiteness
import Reshape.Proofs.Operator.Additive
import Reshape.Proofs.Operator.Argument

namespace Reshape

namespace Record

def holdsNull (r : Record) (name : String) : Bool :=
  (r.get? name).any Value.isNull

theorem holdsNull_of_get? {r : Record} {name : String} {v : Value} (h : r.get? name = some v) :
    r.holdsNull name = v.isNull := by
  rw [holdsNull, h]
  rfl

def nulls (names : List String) (rs : List Record) : List (Nat × String) :=
  rs.zipIdx.flatMap fun (r, i) => (names.filter r.holdsNull).map fun name => (i, name)

end Record

namespace Operand

theorem toValue_eq_ok {a : Operand} {v : Value} (h : a.toValue = .ok v) :
    (∃ n, v = .number n) ∨ ∃ s, v = .string s := by
  cases a with
  | text s =>
      cases h
      exact .inr ⟨s, rfl⟩
  | number x =>
      rw [toValue] at h
      split at h
      · rename_i w stored
        cases h
        obtain ⟨-, ⟨n, rfl, -⟩ | rfl⟩ := Decimal.ofFloat?_eq_some stored
        · exact .inl ⟨_, rfl⟩
        · exact .inl ⟨_, rfl⟩
      · cases h

end Operand

namespace Formula

variable {e : Formula} {r out : Record} {v : Value} {fields : List (String × Formula)}
  {failed : List (String × EvalError)}

def nullWarning (failure : String × EvalError) : String :=
  "'" ++ failure.1 ++ "' set to null: " ++ failure.2.message

/-- Formulas are computed on a record one after another. Each sees what the earlier ones have left,
and those that fail are kept with the causes. -/
inductive Computes :
    List (String × Formula) → Record → Record → List (String × EvalError) → Prop
  | nil (r : Record) : Computes [] r r []
  | value {target : String} {e : Formula} {fields : List (String × Formula)} {r out : Record}
      {v : Value} {failed : List (String × EvalError)} (result : e.evaluate r = .ok v)
      (rest : Computes fields (r.insert target v) out failed) :
      Computes ((target, e) :: fields) r out failed
  | failure {target : String} {e : Formula} {fields : List (String × Formula)} {r out : Record}
      {cause : EvalError} {failed : List (String × EvalError)}
      (result : e.evaluate r = .error cause)
      (rest : Computes fields (r.insert target .null) out failed) :
      Computes ((target, e) :: fields) r out ((target, cause) :: failed)

theorem apply_edit_of_ok (h : e.evaluate r = .ok v) (target : String) (initial : Record)
    (warnings : List String) :
    (edit (target, e)).apply initial (r, warnings) = (r.insert target v, warnings) := by
  simp only [Edit.apply, edit, h, Outcome.write, Option.toList, List.append_nil]

theorem exists_computes (fields : List (String × Formula)) (r : Record) :
    ∃ out failed, Computes fields r out failed ∧
      Edit.applyAll (fields.map edit) r = (out, failed.map nullWarning) := by
  -- A formula reads the current record and never the one before the first edit, so the induction is
  -- over any current record and any warnings so far.
  suffices run : ∀ (current : Record) (warnings : List String), ∃ out failed,
      Computes fields current out failed ∧
        (fields.map edit).foldl (Edit.apply r) (current, warnings) =
          (out, warnings ++ failed.map nullWarning) from run r []
  induction fields with
  | nil => exact fun current warnings => ⟨current, [], .nil current, by simp⟩
  | cons field fields ih =>
      obtain ⟨target, e⟩ := field
      intro current warnings
      rw [List.map_cons, List.foldl_cons]
      cases result : e.evaluate current with
      | ok v =>
          obtain ⟨out, failed, computes, same⟩ := ih (current.insert target v) warnings
          rw [apply_edit_of_ok result]
          exact ⟨out, failed, .value result computes, same⟩
      | error cause =>
          obtain ⟨out, failed, computes, same⟩ := ih (current.insert target .null)
            (warnings ++ [nullWarning (target, cause)])
          rw [List.append_assoc] at same
          rw [apply_edit_of_error result]
          exact ⟨out, (target, cause) :: failed, .failure result computes, same⟩

theorem evaluate_eq_ok (h : e.evaluate r = .ok v) : (∃ n, v = .number n) ∨ ∃ s, v = .string s := by
  obtain ⟨a, -, stored⟩ := bind_eq_ok.mp h
  exact a.toValue_eq_ok stored

theorem isNull_of_evaluate (h : e.evaluate r = .ok v) : v.isNull = false := by
  obtain ⟨n, rfl⟩ | ⟨s, rfl⟩ := evaluate_eq_ok h
  · rfl
  · rfl

namespace Computes

theorem kept (h : Computes fields r out failed) {name : String}
    (absent : name ∉ fields.map Prod.fst) : out.get? name = r.get? name := by
  induction h with
  | nil => rfl
  | value _ _ ih | failure _ _ ih =>
      rw [List.map_cons, List.mem_cons, not_or] at absent
      rw [ih absent.2, Record.get?_insert_of_ne _ _ (Ne.symm absent.1)]

theorem get?_target {target : String} (h : Computes fields (r.insert target v) out failed)
    (absent : target ∉ fields.map Prod.fst) : out.get? target = some v := by
  rw [h.kept absent, Record.get?_insert_self]

theorem exists_result (h : Computes fields r out failed) (distinct : (fields.map Prod.fst).Nodup) :
    ∀ target ∈ fields.map Prod.fst, ∃ v, out.get? target = some v ∧
      ((∃ n, v = .number n) ∨ (∃ s, v = .string s) ∨ v = .null) := by
  induction h with
  | nil => exact fun _ mem => nomatch mem
  | value result rest ih =>
      obtain ⟨absent, distinct⟩ := List.nodup_cons.mp distinct
      refine List.forall_mem_cons.mpr ⟨⟨_, rest.get?_target absent, ?_⟩, ih distinct⟩
      exact (evaluate_eq_ok result).imp_right .inl
  | failure result rest ih =>
      obtain ⟨absent, distinct⟩ := List.nodup_cons.mp distinct
      exact List.forall_mem_cons.mpr
        ⟨⟨_, rest.get?_target absent, .inr (.inr rfl)⟩, ih distinct⟩

theorem failed_eq (h : Computes fields r out failed) (distinct : (fields.map Prod.fst).Nodup) :
    failed.map Prod.fst = (fields.map Prod.fst).filter out.holdsNull := by
  induction h with
  | nil => rfl
  | value result rest ih =>
      obtain ⟨absent, distinct⟩ := List.nodup_cons.mp distinct
      have plain := Record.holdsNull_of_get? (rest.get?_target absent)
      rw [isNull_of_evaluate result] at plain
      rw [ih distinct, List.map_cons, List.filter_cons_of_neg (by simp [plain])]
  | failure result rest ih =>
      obtain ⟨absent, distinct⟩ := List.nodup_cons.mp distinct
      have null := Record.holdsNull_of_get? (rest.get?_target absent)
      rw [List.map_cons, ih distinct, List.map_cons, List.filter_cons_of_pos null]

end Computes

/-- A warning says which computed field of which record has become null, and why. -/
def Reports (place : Nat × String) (warning : String) : Prop :=
  ∃ cause, warning = Action.recordWarning place.1 (nullWarning (place.2, cause))

section Distinct

variable (distinct : (fields.map Prod.fst).Nodup)
include distinct

theorem computes_applyAll (r : Record) :
    ∃ failed, Computes fields r (Edit.applyAll (fields.map edit) r).1 failed ∧
      failed.map Prod.fst =
        (fields.map Prod.fst).filter (Edit.applyAll (fields.map edit) r).1.holdsNull := by
  obtain ⟨out, failed, computes, same⟩ := exists_computes fields r
  rw [same]
  exact ⟨failed, computes, computes.failed_eq distinct⟩

theorem reports_applyAll (r : Record) (position : Nat) :
    List.Forall₂ Reports
      (((fields.map Prod.fst).filter (Edit.applyAll (fields.map edit) r).1.holdsNull).map
        fun target => (position, target))
      ((Edit.applyAll (fields.map edit) r).2.map (Action.recordWarning position)) := by
  obtain ⟨out, failed, computes, same⟩ := exists_computes fields r
  rw [same, ← computes.failed_eq distinct, List.map_map, List.map_map, List.forall₂_map_left_iff,
    List.forall₂_map_right_iff, List.forall₂_same]
  exact fun failure _ => ⟨failure.2, rfl⟩

theorem reports_many (rs : List Record) :
    List.Forall₂ Reports
      (Record.nulls (fields.map Prod.fst) (rs.map fun r => (Edit.applyAll (fields.map edit) r).1))
      (rs.zipIdx.flatMap fun (r, i) =>
        (Edit.applyAll (fields.map edit) r).2.map (Action.recordWarning i)) := by
  rw [Record.nulls, List.zipIdx_map, List.flatMap_map]
  refine List.rel_flatMap (R := Eq) (List.forall₂_refl _) ?_
  rintro ⟨r, i⟩ _ rfl
  exact reports_applyAll distinct r i

end Distinct

end Formula

namespace Operator

theorem compute_of_read {config : Value} (wellFormed : config.WellFormed) {op : Operator}
    (h : read .compute config = .ok op) :
    ∃ fields, op = .compute fields ∧ fields.map Prod.fst = config.names ∧
      (fields.map Prod.fst).Nodup := by
  obtain ⟨fields, entries, same⟩ := bind_eq_ok.mp h
  obtain ⟨args, rfl, rules⟩ := Argument.entries_eq_ok entries
  have names := Argument.names_entries rules
  exact ⟨fields, (pure_eq_ok.mp same).symm, names, names ▸ wellFormed.names⟩

theorem countP_report (s : Step) (warnings : List String) :
    (Run.report s warnings).countP (·.level = .warn) = warnings.length := by
  rw [Run.report, List.countP_map]
  exact List.countP_eq_length.mpr fun _ _ => rfl

/-- Formulas are computed on every record of a collection. Each target is there afterwards, with a
number, a text or null, and it holds null just if its formula failed. Every null has one warning,
which names the record and the target, and there are no other warnings. -/
theorem apply_compute {config : Value} (wellFormed : config.WellFormed) {op : Operator}
    (h : read .compute config = .ok op) (context : Context) (c : Collection) :
    ∃ fields next warnings, op = .compute fields ∧
      op.apply context c = .ok (next, warnings) ∧
      List.Forall₂ (fun r out => ∃ failed, Formula.Computes fields r out failed ∧
        failed.map Prod.fst = config.names.filter out.holdsNull) c.records next.records ∧
      (∀ out ∈ next.records, ∀ target ∈ config.names, ∃ v, out.get? target = some v ∧
        ((∃ n, v = .number n) ∨ (∃ s, v = .string s) ∨ v = .null)) ∧
      List.Forall₂ Formula.Reports (Record.nulls config.names next.records) warnings ∧
      ∀ (index : Nat) (run : Run), run.state.next? = some index → run.output = .ok c →
        (run.step context ⟨index, op, config⟩).diagnostics.countP (·.level = .warn) =
          run.diagnostics.countP (·.level = .warn) +
            (Record.nulls config.names next.records).length := by
  obtain ⟨fields, rfl, names, distinct⟩ := compute_of_read wellFormed h
  rw [← names]
  let f := Edit.applyAll (fields.map Formula.edit)
  have applied : (Operator.compute fields).apply context c = .ok (Action.onEach f c) := rfl
  have reports : List.Forall₂ Formula.Reports
      (Record.nulls (fields.map Prod.fst) (Action.onEach f c).1.records)
      (Action.onEach f c).2 := by
    rw [Action.records_onEach, Action.warnings_onEach]
    exact Formula.reports_many distinct c.records
  refine ⟨fields, (Action.onEach f c).1, (Action.onEach f c).2, rfl, applied, ?_, ?_, reports, ?_⟩
  · rw [Action.records_onEach, List.forall₂_map_right_iff, List.forall₂_same]
    exact fun r _ => Formula.computes_applyAll distinct r
  · rw [Action.records_onEach]
    intro out mem
    obtain ⟨r, -, rfl⟩ := List.mem_map.mp mem
    obtain ⟨failed, computes, -⟩ := Formula.computes_applyAll distinct r
    exact computes.exists_result distinct
  · intro index run turn current
    rw [Run.step_ok (s := ⟨index, .compute fields, config⟩) turn current applied,
      List.countP_append, countP_report, reports.length_eq]
    rfl

theorem apply_compute_cascade :
    let config : Value := .object [("a", .string "b"), ("c", .string "a")]
    let op : Operator := .compute [("a", .field "b"), ("c", .field "a")]
    let c : Collection := .many [[], [("b", .string "z")]]
    let next : Collection := .many [[("a", .null), ("c", .null)],
      [("b", .string "z"), ("a", .string "z"), ("c", .string "z")]]
    config.WellFormed ∧ read .compute config = .ok op ∧ ∀ context, ∃ first second,
      op.apply context c = .ok (next, [first, second]) ∧
        Formula.Reports (0, "a") first ∧ Formula.Reports (0, "c") second ∧
        ((Run.start c.toValue).step context ⟨0, op, config⟩).diagnostics.countP
          (·.level = .warn) = 2 := by
  intro config op c next
  have wellFormed : config.WellFormed := by
    simp [config, Record.Distinct, Record.keys]
  have reading : read .compute config = .ok op := by with_unfolding_all rfl
  refine ⟨wellFormed, reading, fun context => ?_⟩
  have result : ∃ warnings, op.apply context c = .ok (next, warnings) := ⟨_, rfl⟩
  obtain ⟨fields, out, warnings, -, applied, -, -, reports, warned⟩ :=
    apply_compute wellFormed reading context c
  obtain ⟨warnings', result⟩ := result
  obtain ⟨rfl, rfl⟩ := Prod.mk.inj (Except.ok.inj (applied.symm.trans result))
  have nulls : Record.nulls config.names next.records = [(0, "a"), (0, "c")] := rfl
  have warned := warned 0 (.start c.toValue) rfl rfl
  rw [nulls] at reports warned
  obtain _ | ⟨first, _ | ⟨second, _ | _⟩⟩ := reports
  exact ⟨_, _, result, first, second, warned⟩

end Operator

end Reshape
