import Reshape.Proofs.Pipeline.Configuration

namespace Reshape

namespace Action

def isWhole : Action → Bool
  | edits _ => false
  | each _ => false
  | whole _ => true

theorem apply_single_of_isWhole {a : Action} (h : a.isWhole) (name : String) (r : Record) :
    a.apply name (.single r) = .ok (.single r, [sequenceWarning name]) := by
  cases a with
  | edits es => cases h
  | each f => cases h
  | whole f => rfl

theorem exists_onEach {a : Action} (h : a.isWhole = false) :
    ∃ f, ∀ name c, a.apply name c = .ok (onEach f c) := by
  cases a with
  | edits es => exact ⟨Edit.applyAll es, fun _ _ => rfl⟩
  | each f => exact ⟨fun r => (f r, []), fun _ _ => rfl⟩
  | whole f => cases h

section Each

variable (f : Record → Record × List String)

theorem onEach_single (r : Record) :
    onEach f (.single r) = (.single (f r).1, (f r).2.map (recordWarning 0)) := rfl

theorem onEach_many (rs : List Record) :
    onEach f (.many rs) = (.many (rs.map fun r => (f r).1),
      rs.zipIdx.flatMap fun (r, i) => (f r).2.map (recordWarning i)) := by
  have outs : (rs.mapIdx (onRecord f)).map Prod.fst = rs.map fun r => (f r).1 := by
    conv_rhs => rw [← List.zipIdx_map_fst 0 rs, List.map_map]
    rw [List.mapIdx_eq_zipIdx_map, List.map_map]
    rfl
  have warnings : (rs.mapIdx (onRecord f)).flatMap Prod.snd =
      rs.zipIdx.flatMap fun (r, i) => (f r).2.map (recordWarning i) := by
    rw [List.mapIdx_eq_zipIdx_map, List.flatMap_map]
    rfl
  rw [← outs, ← warnings]
  rfl

theorem records_onEach (c : Collection) :
    (onEach f c).1.records = c.records.map fun r => (f r).1 := by
  cases c with
  | single r => rfl
  | many rs => rw [onEach_many]; rfl

theorem warnings_onEach (c : Collection) :
    (onEach f c).2 = c.records.zipIdx.flatMap fun (r, i) => (f r).2.map (recordWarning i) := by
  cases c with
  | single r => exact (List.append_nil _).symm
  | many rs => rw [onEach_many]; rfl

end Each

end Action

namespace Operator

theorem isWhole_action (op : Operator) (context : Context) :
    (op.action context).isWhole = op.kind.requiresSequence := by
  cases op <;> rfl

/-- An operator whose kind needs a sequence leaves a single record alone, with one warning from its
place in the pipeline. Any other one does to each record of a sequence what it does to the record
alone. If nothing stops it, a sequence stays a sequence and a single record a single one. -/
theorem apply_agrees_with_table {kind : Kind} {config : Value} {op : Operator}
    (h : read kind config = .ok op) (context : Context) :
    (kind.requiresSequence = true → ∀ r,
      op.apply context (.single r) = .ok (.single r, [Action.sequenceWarning kind.name]) ∧
      ∀ (index : Nat) (run : Run), run.state.next? = some index → run.output = .ok (.single r) →
        (run.step context ⟨index, op, config⟩).output = .ok (.single r) ∧
        (run.step context ⟨index, op, config⟩).diagnostics = run.diagnostics ++
          [⟨.warn, some (index, kind.name), Action.sequenceWarning kind.name⟩]) ∧
    (kind.requiresSequence = false → ∃ f : Record → Record × List String,
      (∀ r, op.apply context (.single r) =
        .ok (.single (f r).1, (f r).2.map (Action.recordWarning 0))) ∧
      ∀ rs, op.apply context (.many rs) = .ok (.many (rs.map fun r => (f r).1),
        rs.zipIdx.flatMap fun (r, i) => (f r).2.map (Action.recordWarning i))) ∧
    ∀ c, (op.Fits c → ∃ result, op.apply context c = .ok result) ∧
      (∀ fault, op.apply context c = .error fault → op.MayStop c fault) ∧
      (op.MayStop c .counterOverflow → op.apply context c = .error .counterOverflow) ∧
      ∀ next warnings, op.apply context c = .ok (next, warnings) →
        next.isSequence = c.isSequence := by
  have same := kind_of_read h
  have table := op.isWhole_action context
  rw [same] at table
  refine ⟨fun needs r => ?_, fun free => ?_, fun c => ⟨fun fits => ?_,
    fun fault => mayStop_of_apply, apply_of_counter, fun _ _ => Action.apply_isSequence⟩⟩
  · have applied : op.apply context (.single r) =
        .ok (.single r, [Action.sequenceWarning kind.name]) := by
      rw [apply, same]
      exact Action.apply_single_of_isWhole (table.trans needs) kind.name r
    refine ⟨applied, fun index run turn current => ?_⟩
    rw [Run.step_ok (s := ⟨index, op, config⟩) turn current applied]
    refine ⟨rfl, ?_⟩
    rw [← same]
    rfl
  · obtain ⟨f, acts⟩ := Action.exists_onEach (table.trans free)
    refine ⟨f, fun r => ?_, fun rs => ?_⟩
    · rw [apply, acts, Action.onEach_single]
    · rw [apply, acts, Action.onEach_many]
  · obtain ⟨next, warnings, applied, -⟩ := apply_total context fits
    exact ⟨_, applied⟩

theorem apply_agrees_with_table_sort_exclude :
    let r : Record := [("a", .int 2), ("b", .null)]
    read .sort (.string "a") = .ok (.sort [⟨"a", false⟩]) ∧ Kind.sort.requiresSequence = true ∧
      read .exclude (.string "b") = .ok (.exclude ["b"]) ∧
      Kind.exclude.requiresSequence = false ∧
      ∀ context, (Run.start (.object r)).state.next? = some 0 ∧
        (Run.start (.object r)).output = .ok (.single r) ∧
        ((Run.start (.object r)).step context
            ⟨0, .sort [⟨"a", false⟩], .string "a"⟩).diagnostics =
          [⟨.warn, some (0, "sort"), Action.sequenceWarning "sort"⟩] ∧
        (Operator.exclude ["b"]).apply context (.many [r, []]) =
          .ok (.many [[("a", .int 2)], []], []) := by
  intro r
  have sort : read .sort (.string "a") = .ok (.sort [⟨"a", false⟩]) := rfl
  have exclude : read .exclude (.string "b") = .ok (.exclude ["b"]) := rfl
  refine ⟨sort, rfl, exclude, rfl, fun context => ⟨rfl, rfl, ?_, ?_⟩⟩
  · exact (((apply_agrees_with_table sort context).1 rfl r).2 0 _ rfl rfl).2
  · obtain ⟨f, alone, together⟩ := (apply_agrees_with_table exclude context).2.1 rfl
    have acts (r : Record) : f r = (Projection.exclude ["b"] r, []) := by
      have applied : (Operator.exclude ["b"]).apply context (.single r) =
          .ok (.single (Projection.exclude ["b"] r), []) := rfl
      rw [alone r] at applied
      simp only [Except.ok.injEq, Prod.mk.injEq, Collection.single.injEq,
        List.map_eq_nil_iff] at applied
      exact Prod.ext applied.1 applied.2
    rw [together]
    simp only [acts]
    rfl

/-- Sequences of which nothing is left: one that is numbered from the largest integer, and one whose
values go round in a circle. -/
theorem apply_leaves_no_sequence :
    let counter : Counter := ⟨"n", Argument.maxInteger⟩
    read .addIndex (.object [("field", .string "n"), ("start", .int Argument.maxInteger)]) =
        .ok (.addIndex counter) ∧
      read .sort (.string "v") = .ok (.sort [{ path := "v" }]) ∧
      ∀ settings now,
        (Operator.addIndex counter).apply ⟨settings, now, .checked⟩ (.many [[("a", .int 1)]]) =
          .error .counterOverflow ∧
        (Operator.sort [{ path := "v" }]).apply ⟨settings, now, .checked⟩
          (.many Sorting.circle) = .error .inconsistentOrder := by
  intro counter
  refine ⟨rfl, rfl, fun settings now => ⟨rfl, ?_⟩⟩
  rw [Sorting.apply_sort, Sorting.sort_circle]
  rfl

end Operator

end Reshape
