import Mathlib.Data.List.Chain
import Mathlib.Data.List.Range
import Reshape.Pipeline.Run
import Reshape.Proofs.Operator.Sorting
import Reshape.Proofs.Results

/-!
# Runs complete

A compiled pipeline runs to its end on every object and on every array of objects, unless a counter
passes the largest integer or a sort meets records in no order. All other values are refused before
the first step.
-/

namespace Reshape

/-! ## Values that hold records -/

def Value.HoldsRecords : Value → Prop
  | .object _ => True
  | .array items => ∀ item ∈ items, ∃ r, item = .object r
  | _ => False

namespace Collection

theorem toValue_holdsRecords (c : Collection) : c.toValue.HoldsRecords := by
  cases c with
  | single r => trivial
  | many rs =>
      intro item member
      obtain ⟨r, -, rfl⟩ := List.mem_map.mp member
      exact ⟨r, rfl⟩

theorem exists_map_object {items : List Value} (h : ∀ item ∈ items, ∃ r, item = .object r) :
    ∃ rs : List Record, items = rs.map .object := by
  induction items with
  | nil => exact ⟨[], rfl⟩
  | cons item items ih =>
      obtain ⟨r, rfl⟩ := h item (List.mem_cons_self ..)
      obtain ⟨rs, rfl⟩ := ih fun other member => h other (List.mem_cons_of_mem _ member)
      exact ⟨r :: rs, rfl⟩

theorem exists_toValue {v : Value} (h : v.HoldsRecords) : ∃ c : Collection, v = c.toValue := by
  cases v with
  | object r => exact ⟨single r, rfl⟩
  | array items =>
      obtain ⟨rs, rfl⟩ := exists_map_object h
      exact ⟨many rs, rfl⟩
  | null => exact h.elim
  | bool b => exact h.elim
  | number n => exact h.elim
  | string s => exact h.elim

theorem map_object_of_recordsFrom {index : Nat} {items : List Value} {rs : List Record}
    (h : recordsFrom index items = .ok rs) : items = rs.map .object := by
  induction items generalizing index rs with
  | nil => cases h; rfl
  | cons item items ih =>
      cases item with
      | object r =>
          simp only [recordsFrom, bind_eq_ok, pure_eq_ok] at h
          obtain ⟨others, rest, rfl⟩ := h
          rw [List.map_cons, ← ih rest]
      | null => cases h
      | bool b => cases h
      | number n => cases h
      | string s => cases h
      | array xs => cases h

theorem toValue_of_ofValue {v : Value} {c : Collection} (h : ofValue v = .ok c) :
    v = c.toValue := by
  cases v with
  | object r => cases h; rfl
  | array items =>
      simp only [ofValue, bind_eq_ok, pure_eq_ok] at h
      obtain ⟨rs, records, rfl⟩ := h
      rw [toValue, map_object_of_recordsFrom records]
  | null => cases h
  | bool b => cases h
  | number n => cases h
  | string s => cases h

theorem ofValue_error {v : Value} (h : ¬ v.HoldsRecords) : ∃ e, ofValue v = .error e := by
  cases result : ofValue v with
  | error e => exact ⟨e, rfl⟩
  | ok c =>
      rw [toValue_of_ofValue result] at h
      exact absurd c.toValue_holdsRecords h

theorem isSequence_eq_false_iff (c : Collection) :
    c.isSequence = false ↔ ∃ r, c.toValue = .object r := by
  cases c with
  | single r => simp [isSequence, toValue]
  | many rs => simp [isSequence, toValue]

end Collection

/-! ## Operators -/

/-- What can stop an operator on a collection. A counter always does, while a sort may find some
order all the same. -/
inductive Operator.MayStop : Operator → Collection → Fault → Prop
  | counter {counter : Counter} {rs : List Record}
      (passed : Argument.maxInteger < counter.start + rs.length) :
      MayStop (.addIndex counter) (.many rs) .counterOverflow
  | order {keys : List SortKey} {rs : List Record}
      (inconsistent : ¬ Preorders (Sorting.compare keys) rs) :
      MayStop (.sort keys) (.many rs) .inconsistentOrder

def Operator.Fits (op : Operator) (c : Collection) : Prop :=
  ∀ fault, ¬ op.MayStop c fault

namespace Action

theorem onEach_isSequence (f : Record → Record × List String) (c : Collection) :
    (onEach f c).1.isSequence = c.isSequence := by
  cases c with
  | single r => rfl
  | many rs => rfl

theorem apply_isSequence {name : String} {a : Action} {c next : Collection}
    {warnings : List String} (h : a.apply name c = .ok (next, warnings)) :
    next.isSequence = c.isSequence := by
  cases a with
  | edits es =>
      have same := onEach_isSequence (Edit.applyAll es) c
      rwa [Except.ok.inj h] at same
  | each f =>
      have same := onEach_isSequence (fun r => (f r, [])) c
      rwa [Except.ok.inj h] at same
  | whole f =>
      cases c with
      | single r => cases h; rfl
      | many rs =>
          simp only [apply, bind_eq_ok, pure_eq_ok] at h
          obtain ⟨out, -, same⟩ := h
          cases same
          rfl

end Action

namespace Operator

variable {op : Operator} {context : Context} {c : Collection} {fault : Fault}

theorem mayStop_of_apply (h : op.apply context c = .error fault) : op.MayStop c fault := by
  cases c with
  | single r => cases op <;> cases h
  | many rs =>
      cases op with
      | addIndex counter =>
          by_cases bound : counter.start + rs.length ≤ Argument.maxInteger
          · simp only [apply, action, Action.apply, Counter.apply, if_pos bound] at h
            cases h
          · simp only [apply, action, Action.apply, Counter.apply, if_neg bound] at h
            cases h
            exact .counter (by omega)
      | sort keys =>
          obtain ⟨rfl, inconsistent⟩ :=
            Sorting.inconsistent_of_sort (Sorting.sort_of_apply_error h)
          exact .order inconsistent
      | _ => cases h

theorem apply_of_counter (h : op.MayStop c .counterOverflow) :
    op.apply context c = .error .counterOverflow := by
  cases h with
  | @counter counter rs passed =>
      have bound : ¬ counter.start + rs.length ≤ Argument.maxInteger := by omega
      simp only [apply, action, Action.apply, Counter.apply, if_neg bound]
      rfl

theorem fits_addIndex {counter : Counter} {rs : List Record}
    (bound : counter.start + rs.length ≤ Argument.maxInteger) :
    (Operator.addIndex counter).Fits (.many rs) := by
  intro fault stops
  cases stops
  omega

theorem fits_sort {keys : List SortKey} {rs : List Record}
    (h : ∀ key ∈ keys, Preorders sortOrder (rs.filterMap key.value?)) :
    (Operator.sort keys).Fits (.many rs) := by
  intro fault stops
  cases stops with
  | order inconsistent => exact inconsistent (Sorting.preorders h)

theorem apply_total (context : Context) (fits : op.Fits c) :
    ∃ next warnings, op.apply context c = .ok (next, warnings) ∧
      next.isSequence = c.isSequence := by
  cases result : op.apply context c with
  | ok pair => exact ⟨pair.1, pair.2, rfl, Action.apply_isSequence result⟩
  | error fault => exact absurd (mayStop_of_apply result) (fits fault)

end Operator

/-! ## Compiled steps -/

def Step.CountFrom (index : Nat) : List Step → Prop
  | [] => True
  | s :: rest => s.index = index ∧ CountFrom (index + 1) rest

def StepEntry.CountFrom (index : Nat) : List StepEntry → Prop
  | [] => True
  | entry :: rest => entry.index = index ∧ CountFrom (index + 1) rest

namespace Document

theorem readStep_index {index : Nat} {v : Value} {entry : StepEntry}
    (h : readStep index v = .ok entry) : entry.index = index := by
  unfold readStep at h
  split at h
  · cases h; rfl
  · cases h
  · cases h

theorem readSteps_countFrom {index : Nat} {items : List Value} {entries : List StepEntry}
    (h : readSteps index items = .ok entries) : StepEntry.CountFrom index entries := by
  induction items generalizing index entries with
  | nil => cases h; trivial
  | cons v items ih =>
      simp only [readSteps, bind_eq_ok, pure_eq_ok] at h
      obtain ⟨entry, first, rest, others, rfl⟩ := h
      exact ⟨readStep_index first, ih others⟩

theorem readTransforms_countFrom {v : Option Value} {entries : List StepEntry}
    (h : readTransforms v = .ok entries) : StepEntry.CountFrom 0 entries := by
  unfold readTransforms at h
  split at h
  · cases h; trivial
  · cases h; trivial
  · exact readSteps_countFrom h
  · cases h

theorem ofValue_countFrom {v : Value} {d : Document} (h : ofValue v = .ok d) :
    StepEntry.CountFrom 0 d.steps := by
  unfold ofValue at h
  split at h
  · cases h; trivial
  · simp only [bind_eq_ok, pure_eq_ok] at h
    obtain ⟨overrides, -, entries, steps, rfl⟩ := h
    exact readTransforms_countFrom steps
  · cases h

theorem read_countFrom {text : String} {d : Document} (h : read text = .ok d) :
    StepEntry.CountFrom 0 d.steps := by
  unfold read at h
  split at h
  · cases h; trivial
  · split at h
    · exact ofValue_countFrom h
    · cases h

end Document

theorem Step.compile_ok {entry : StepEntry} {s : Step} (h : Step.compile entry = .ok s) :
    s.index = entry.index ∧ s.config = entry.config ∧
      ∃ kind, Operator.read kind entry.config = .ok s.operator := by
  unfold Step.compile at h
  split at h
  · cases h
  · rename_i kind _
    split at h
    · rename_i operator reading
      cases h
      exact ⟨rfl, rfl, kind, reading⟩
    · cases h

namespace Pipeline

theorem compileSteps_countFrom {index : Nat} {entries : List StepEntry} {steps : List Step}
    (counted : StepEntry.CountFrom index entries) (h : compileSteps entries = .ok steps) :
    Step.CountFrom index steps := by
  induction entries generalizing index steps with
  | nil => cases h; trivial
  | cons entry entries ih =>
      simp only [compileSteps, bind_eq_ok, pure_eq_ok] at h
      obtain ⟨s, first, rest, others, rfl⟩ := h
      obtain ⟨here, after⟩ := counted
      exact ⟨(Step.compile_ok first).1.trans here, ih after others⟩

theorem compile_ok {base : Settings} {d : Document} {p : Pipeline} (h : compile base d = .ok p) :
    d.steps.length ≤ d.overrides.maxSteps.getD base.maxSteps ∧ p.overrides = d.overrides ∧
      compileSteps d.steps = .ok p.steps := by
  unfold compile at h
  dsimp only at h
  split at h
  · cases h
  · rename_i short
    simp only [bind_eq_ok, pure_eq_ok] at h
    obtain ⟨steps, compiled, rfl⟩ := h
    exact ⟨Nat.le_of_not_lt short, rfl, compiled⟩

/-- The pipelines that a document gives, be it a value or a text. -/
inductive CompiledUnder (base : Settings) (p : Pipeline) : Prop
  | ofValue (v : Value) (h : ofValue base v = .ok p)
  | read (text : String) (h : read base text = .ok p)

theorem CompiledUnder.countFrom {base : Settings} {p : Pipeline} (compiled : p.CompiledUnder base) :
    Step.CountFrom 0 p.steps := by
  cases compiled with
  | ofValue v h =>
      simp only [Pipeline.ofValue, bind_eq_ok, mapError_eq_ok] at h
      obtain ⟨d, document, h⟩ := h
      exact compileSteps_countFrom (Document.ofValue_countFrom document) (compile_ok h).2.2
  | read text h =>
      simp only [Pipeline.read, bind_eq_ok, mapError_eq_ok] at h
      obtain ⟨d, document, h⟩ := h
      exact compileSteps_countFrom (Document.read_countFrom document) (compile_ok h).2.2

end Pipeline

/-! ## States -/

namespace RunState

inductive Legal (s t : RunState) : Prop
  | advance (step : Nat) (h : s.advance step = .ok t)
  | complete (h : s.complete = .ok t)
  | fail (step : Nat) (operator : String) (h : s.fail step operator = .ok t)

theorem advance_next {s : RunState} {step : Nat} (h : s.next? = some step) :
    s.advance step = .ok (.running step) := by
  rw [advance, if_pos h]

theorem complete_of_next {s : RunState} {step : Nat} (h : s.next? = some step) :
    s.complete = .ok .completed := by
  cases s with
  | idle => rfl
  | running current => rfl
  | completed => cases h
  | failed current operator => cases h

theorem legal_steps {s : RunState} {index : Nat} (h : s.next? = some index) (count : Nat) :
    List.IsChain Legal (s :: (List.range' index count).map running ++ [completed]) := by
  induction count generalizing s index with
  | zero => exact .cons_cons (.complete (complete_of_next h)) (.singleton _)
  | succ count ih =>
      rw [List.range'_succ, List.map_cons, List.cons_append]
      exact .cons_cons (.advance index (advance_next h)) (ih rfl)

end RunState

namespace Run

def states (r : Run) : List RunState :=
  r.past.reverse ++ [r.state]

theorem states_enter (r : Run) (s : RunState) : (r.enter s).states = r.states ++ [s] := by
  simp [states, enter]

def report (s : Step) (warnings : List String) : List Diagnostic :=
  warnings.map fun message => ⟨.warn, some (s.index, s.kind.name), message⟩

theorem step_ok {context : Context} {s : Step} {r : Run} {c next : Collection}
    {warnings : List String} (turn : r.state.next? = some s.index) (current : r.output = .ok c)
    (applied : s.operator.apply context c = .ok (next, warnings)) :
    r.step context s =
      { r.enter (.running s.index) with
        diagnostics := r.diagnostics ++ report s warnings
        steps := r.steps ++ [⟨s.index, s.kind, c.length, next.length⟩]
        output := .ok next } := by
  simp only [step, current, applyStep, RunState.advance_next turn, applied]
  rfl

theorem step_fault {context : Context} {s : Step} {r : Run} {c : Collection} {fault : Fault}
    (turn : r.state.next? = some s.index) (current : r.output = .ok c)
    (applied : s.operator.apply context c = .error fault) :
    r.step context s = (r.enter (.running s.index)).stop (.fault s.index s.kind fault) := by
  simp only [step, current, applyStep, RunState.advance_next turn, applied]

theorem runSteps_error {context : Context} {steps : List Step} {r : Run} {e : RunError}
    (h : r.output = .error e) : runSteps context steps r = r := by
  induction steps with
  | nil => rfl
  | cons s rest ih =>
      have kept : r.step context s = r := by simp only [step, h]
      rw [runSteps, kept, ih]

theorem applied_of_runSteps {context : Context} {s : Step} {rest : List Step} {r : Run}
    {c out : Collection} (turn : r.state.next? = some s.index) (current : r.output = .ok c)
    (result : (runSteps context (s :: rest) r).output = .ok out) :
    ∃ next warnings, s.operator.apply context c = .ok (next, warnings) := by
  cases applied : s.operator.apply context c with
  | error fault =>
      rw [runSteps, step_fault turn current applied, runSteps_error rfl] at result
      cases result
  | ok pair => exact ⟨pair.1, pair.2, rfl⟩

theorem finish_ok {r : Run} {c : Collection} {index : Nat} (turn : r.state.next? = some index)
    (h : r.output = .ok c) : r.finish = r.enter .completed := by
  simp only [finish, h, RunState.complete_of_next turn]

theorem finish_error {r : Run} {e : RunError} (h : r.output = .error e) : r.finish = r := by
  simp only [finish, h]

end Run

def Step.Fit (context : Context) : List Step → Collection → Prop
  | [], _ => True
  | s :: rest, c => s.operator.Fits c ∧
      ∀ next warnings, s.operator.apply context c = .ok (next, warnings) → Fit context rest next

namespace Run

theorem runSteps_completes {context : Context} {steps : List Step} {index : Nat} {r : Run}
    {c : Collection} (counted : Step.CountFrom index steps)
    (fits : Step.Fit context steps c) (turn : r.state.next? = some index)
    (current : r.output = .ok c) :
    ∃ out, (runSteps context steps r).output = .ok out ∧ out.isSequence = c.isSequence ∧
      (runSteps context steps r).states =
        r.states ++ (List.range' index steps.length).map .running ∧
      (runSteps context steps r).state.next? = some (index + steps.length) := by
  induction steps generalizing index r c with
  | nil => exact ⟨c, current, rfl, (List.append_nil _).symm, turn⟩
  | cons s rest ih =>
      obtain ⟨here, after⟩ := counted
      obtain ⟨fits, later⟩ := fits
      subst here
      obtain ⟨next, warnings, applied, shape⟩ := Operator.apply_total context fits
      have moved := step_ok turn current applied
      have turn' : (r.step context s).state.next? = some (s.index + 1) := by rw [moved]; rfl
      have current' : (r.step context s).output = .ok next := by rw [moved]
      have states' : (r.step context s).states = r.states ++ [.running s.index] := by
        rw [moved]
        exact states_enter r (.running s.index)
      obtain ⟨out, result, shape', visited, last⟩ :=
        ih after (later next warnings applied) turn' current'
      refine ⟨out, result, shape'.trans shape, ?_, ?_⟩
      · rw [runSteps, visited, states', List.append_assoc]
        rfl
      · rw [runSteps, last, List.length_cons]
        congr 1
        omega

theorem runSteps_turn {context : Context} {steps : List Step} {index : Nat} {r : Run}
    {c out : Collection} (counted : Step.CountFrom index steps) (turn : r.state.next? = some index)
    (current : r.output = .ok c) (result : (runSteps context steps r).output = .ok out) :
    (runSteps context steps r).state.next? = some (index + steps.length) := by
  induction steps generalizing index r c with
  | nil => exact turn
  | cons s rest ih =>
      obtain ⟨here, after⟩ := counted
      subst here
      obtain ⟨next, warnings, applied⟩ := applied_of_runSteps turn current result
      rw [runSteps, step_ok turn current applied] at result ⊢
      rw [ih after rfl rfl result, List.length_cons]
      congr 1
      omega

theorem finish_kept (context : Context) {steps : List Step} {index : Nat} {r : Run}
    {c : Collection} (counted : Step.CountFrom index steps) (turn : r.state.next? = some index)
    (current : r.output = .ok c) :
    (runSteps context steps r).finish.output = (runSteps context steps r).output ∧
      (runSteps context steps r).finish.diagnostics = (runSteps context steps r).diagnostics ∧
      (runSteps context steps r).finish.steps = (runSteps context steps r).steps := by
  cases result : (runSteps context steps r).output with
  | error e =>
      rw [finish_error result]
      exact ⟨result, rfl, rfl⟩
  | ok out =>
      rw [finish_ok (runSteps_turn counted turn current result) result]
      exact ⟨result, rfl, rfl⟩

theorem fault_of_runSteps {context : Context} {steps : List Step} {index : Nat} {r : Run}
    {c : Collection} {e : RunError} (counted : Step.CountFrom index steps)
    (turn : r.state.next? = some index) (current : r.output = .ok c)
    (stopped : (runSteps context steps r).output = .error e) :
    ∃ s ∈ steps, ∃ c fault, e = .fault s.index s.kind fault ∧ s.operator.MayStop c fault := by
  induction steps generalizing index r c with
  | nil => cases current.symm.trans stopped
  | cons s rest ih =>
      obtain ⟨here, after⟩ := counted
      subst here
      rw [runSteps] at stopped
      cases applied : s.operator.apply context c with
      | error fault =>
          rw [step_fault turn current applied, runSteps_error rfl] at stopped
          cases stopped
          exact ⟨s, List.mem_cons_self, c, fault, rfl, Operator.mayStop_of_apply applied⟩
      | ok pair =>
          rw [step_ok turn current applied] at stopped
          obtain ⟨t, mem, cause⟩ := ih after rfl rfl stopped
          exact ⟨t, List.mem_cons_of_mem s mem, cause⟩

end Run

namespace Pipeline

theorem start_toValue (c : Collection) : (Run.start c.toValue).output = .ok c := by
  rw [Run.start, Collection.ofValue_toValue]
  rfl

/-- Whether nothing can stop the steps of a pipeline on an input. -/
def Fits (context : Context) (p : Pipeline) (input : Value) : Prop :=
  ∀ c : Collection, input = c.toValue → Step.Fit context p.steps c

/-- A compiled pipeline runs to its end on an object and on an array of objects, through its steps in
order, and gives an object for an object, unless a counter passes the largest integer or the values
at the keys of a sort are in no order. On any other value it never starts. -/
theorem run_completes {base : Settings} {p : Pipeline} (compiled : p.CompiledUnder base)
    (settings : Settings) (now : DateTime) (sorter : Sorter) (input : Value) :
    (∀ (op : Operator) (context : Context) (c : Collection) (fault : Fault),
      op.apply context c = .error fault → op.MayStop c fault) ∧
    (input.HoldsRecords →
      (p.Fits ⟨p.settings settings, now, sorter⟩ input →
        (∃ out, (p.run settings now sorter input).output = .ok out ∧
          ((∃ r, out.toValue = .object r) ↔ ∃ r, input = .object r)) ∧
        (p.run settings now sorter input).states =
          .idle :: (List.range p.steps.length).map .running ++ [.completed] ∧
        (p.run settings now sorter input).states.IsChain RunState.Legal) ∧
      ∀ e, (p.run settings now sorter input).output = .error e →
        ∃ s ∈ p.steps, ∃ c fault, e = .fault s.index s.kind fault ∧
          s.operator.MayStop c fault) ∧
    (¬ input.HoldsRecords →
      (∃ e, (p.run settings now sorter input).output = .error (.input e)) ∧
      (p.run settings now sorter input).states = [.idle] ∧
      (p.run settings now sorter input).diagnostics = []) := by
  refine ⟨fun op context c fault => Operator.mayStop_of_apply, fun holds => ?_, fun holds => ?_⟩
  · obtain ⟨c, rfl⟩ := Collection.exists_toValue holds
    have current := start_toValue c
    refine ⟨fun fits => ?_, fun e stopped => ?_⟩
    · obtain ⟨out, result, shape, visited, last⟩ :=
        Run.runSteps_completes compiled.countFrom (fits c rfl)
          (r := .start c.toValue) rfl current
      have finished := Run.finish_ok last result
      have states : (p.run settings now sorter c.toValue).states =
          .idle :: (List.range p.steps.length).map .running ++ [.completed] := by
        rw [run, finished, Run.states_enter, visited, ← List.range_eq_range']
        rfl
      refine ⟨⟨out, ?_, ?_⟩, states, ?_⟩
      · rw [run, finished]
        exact result
      · rw [← Collection.isSequence_eq_false_iff, shape, Collection.isSequence_eq_false_iff]
      · rw [states, List.range_eq_range']
        exact RunState.legal_steps rfl _
    · rw [run, (Run.finish_kept _ compiled.countFrom (r := .start c.toValue) rfl current).1]
        at stopped
      exact Run.fault_of_runSteps compiled.countFrom (r := .start c.toValue) rfl current stopped
  · obtain ⟨e, refused⟩ := Collection.ofValue_error holds
    have stopped : (Run.start input).output = .error (.input e) := by
      rw [Run.start, refused]
      rfl
    have same : p.run settings now sorter input = .start input := by
      rw [run, Run.runSteps_error stopped, Run.finish_error stopped]
    rw [same]
    exact ⟨⟨e, stopped⟩, rfl, rfl⟩

theorem run_completes_numbering :
    let document : Value := .object [("transforms",
      .array [.object [("sort", .string "s")], .object [("addIndex", .string "n")]])]
    let p : Pipeline :=
      ⟨{}, [⟨0, .sort [{ path := "s" }], .string "s"⟩, ⟨1, .addIndex { field := "n" }, .string "n"⟩]⟩
    let input : Value := .array [.object [("s", .string "b")], .object [("s", .string "a")]]
    ofValue {} document = .ok p ∧ input.HoldsRecords ∧
      ∀ now sorter, p.Fits ⟨p.settings {}, now, sorter⟩ input ∧
        (∃ out, (p.run {} now sorter input).output = .ok out) ∧
        (p.run {} now sorter input).states = [.idle, .running 0, .running 1, .completed] := by
  intro document p input
  have compiled : ofValue {} document = .ok p := rfl
  have holds : input.HoldsRecords := by simp [input, Value.HoldsRecords]
  refine ⟨compiled, holds, fun now sorter => ?_⟩
  have fits : p.Fits ⟨p.settings {}, now, sorter⟩ input := by
    intro c same
    have reading := Collection.ofValue_toValue c
    rw [← same] at reading
    cases reading
    have preorders : ∀ key ∈ [({ path := "s" } : SortKey)],
        Preorders sortOrder ([[("s", .string "b")], [("s", .string "a")]].filterMap key.value?) := by
      rintro key (_ | ⟨_, ⟨⟩⟩)
      have values : List.filterMap (SortKey.value? { path := "s" })
          [[("s", .string "b")], [("s", .string "a")]] = [.string "b", .string "a"] := rfl
      rw [values]
      apply preorders_sortOrder_texts
      · simp
      · simp [Value.isNumber]
    refine ⟨Operator.fits_sort preorders, fun next warnings applied => ?_⟩
    rw [Sorting.apply_sort_eq _ (Sorting.preorders preorders)] at applied
    cases applied
    refine ⟨Operator.fits_addIndex ?_, fun _ _ _ => trivial⟩
    rw [(Sorting.ordered_perm _ _).length_eq]
    decide
  obtain ⟨⟨out, result, -⟩, states, -⟩ :=
    ((run_completes (.ofValue document compiled) {} now sorter input).2.1 holds).1 fits
  exact ⟨fits, ⟨out, result⟩, states⟩

/-- A sort of values that go round in a circle. -/
theorem run_stops_at_circle :
    let document : Value := .object [("transforms", .array [.object [("sort", .string "v")]])]
    let p : Pipeline := ⟨{}, [⟨0, .sort [{ path := "v" }], .string "v"⟩]⟩
    let input := (Collection.many Sorting.circle).toValue
    ofValue {} document = .ok p ∧ input.HoldsRecords ∧
      ∀ now, (p.run {} now .checked input).output =
        .error (.fault 0 .sort .inconsistentOrder) := by
  intro document p input
  refine ⟨rfl, Collection.toValue_holdsRecords _, fun now => ?_⟩
  have applied : (Operator.sort [{ path := "v" }]).apply ⟨p.settings {}, now, .checked⟩
      (.many Sorting.circle) = .error .inconsistentOrder := by
    rw [Sorting.apply_sort, Sorting.sort_circle]
    rfl
  rw [run, Run.runSteps, Run.step_fault rfl (start_toValue _) applied, Run.runSteps_error rfl,
    Run.finish_error rfl]
  rfl

end Pipeline

end Reshape
