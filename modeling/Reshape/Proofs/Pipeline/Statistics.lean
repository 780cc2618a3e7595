import Reshape.Pipeline.Manifest
import Reshape.Proofs.Operator.Locality
import Reshape.Proofs.Operator.Numbering
import Reshape.Proofs.Pipeline.Output

namespace Reshape

def Value.recordCount : Value → Nat
  | array items => items.length
  | _ => 1

theorem Collection.recordCount_toValue (c : Collection) : c.toValue.recordCount = c.length := by
  cases c with
  | single r => rfl
  | many rs => exact List.length_map ..

def Kind.changesCount : Kind → Bool
  | filter => true
  | limit => true
  | skip => true
  | distinct => true
  | group => true
  | summarize => true
  | unwind => true
  | _ => false

theorem Counter.length_apply {counter : Counter} {rs out : List Record}
    (applied : counter.apply rs = .ok out) : out.length = rs.length := by
  unfold apply at applied
  split at applied
  · cases applied
    exact length_numberAll counter _ rs
  · cases applied

namespace Operator

variable {op : Operator} {context : Context} {c next : Collection} {warnings : List String}

theorem length_apply_whole (keeps : op.kind.changesCount = false)
    (whole : op.kind.requiresSequence = true)
    (applied : op.apply context c = .ok (next, warnings)) : next.length = c.length := by
  have acts := (op.isWhole_action context).trans whole
  cases c with
  | single r =>
      rw [apply, Action.apply_single_of_isWhole acts] at applied
      cases applied
      rfl
  | many rs =>
      cases op with
      | sort keys =>
          obtain ⟨out, sorted, rfl⟩ := Sorting.sort_of_apply applied
          exact (Sorting.perm_of_sort sorted).length_eq
      | reverse =>
          cases applied
          exact List.length_reverse
      | addIndex counter =>
          simp only [apply, action, Action.apply, bind_eq_ok, pure_eq_ok, Prod.mk.injEq] at applied
          obtain ⟨out, numbered, rfl, -⟩ := applied
          exact Counter.length_apply numbered
      | filter _ | limit _ | skip _ | distinct _ | group _ | summarize _ | unwind _ => cases keeps
      | _ => cases whole

theorem length_apply (keeps : op.kind.changesCount = false)
    (applied : op.apply context c = .ok (next, warnings)) : next.length = c.length := by
  cases whole : op.kind.requiresSequence with
  | true => exact length_apply_whole keeps whole applied
  | false =>
      obtain ⟨f, acts⟩ := Action.exists_onEach ((op.isWhole_action context).trans whole)
      rw [apply, acts] at applied
      have same : (Action.onEach f c).1 = next := congrArg Prod.fst (Except.ok.inj applied)
      rw [← same, Collection.length, Action.records_onEach, List.length_map, Collection.length]

end Operator

namespace StepStats

inductive Follows : List Step → Nat → List StepStats → Nat → Prop
  | nil (count : Nat) : Follows [] count [] count
  | cons {s : Step} {steps : List Step} {count next after : Nat} {stats : List StepStats}
      (keeps : s.kind.changesCount = false → next = count)
      (rest : Follows steps next stats after) :
      Follows (s :: steps) count (⟨s.index, s.kind, count, next⟩ :: stats) after

structure Linked (before : Nat) (stats : List StepStats) (after : Nat) : Prop where
  first : ∀ s ∈ stats.head?, s.recordsIn = before
  next : stats.IsChain fun s t => t.recordsIn = s.recordsOut
  last : ∀ s ∈ stats.getLast?, s.recordsOut = after
  none : stats = [] → before = after

namespace Follows

variable {steps : List Step} {before after : Nat} {stats : List StepStats}

theorem operators (h : Follows steps before stats after) :
    stats.map StepStats.operator = steps.map Step.kind := by
  induction h with
  | nil count => rfl
  | cons _ _ ih => rw [List.map_cons, ih, List.map_cons]

theorem indices {index : Nat} (h : Follows steps before stats after)
    (counted : Step.CountFrom index steps) :
    stats.map StepStats.index = List.range' index steps.length := by
  induction h generalizing index with
  | nil count => rfl
  | cons _ _ ih => rw [List.map_cons, ih counted.2, counted.1, List.length_cons, List.range'_succ]

theorem linked (h : Follows steps before stats after) : Linked before stats after := by
  induction h with
  | nil count => exact ⟨by simp, .nil, by simp, fun _ => rfl⟩
  | @cons s steps count next after stats keeps rest ih =>
      refine ⟨by simp, ih.next.cons ih.first, ?_, by simp⟩
      cases stats with
      | nil => simpa using ih.none rfl
      | cons t stats => simpa using ih.last

theorem keeps (h : Follows steps before stats after) :
    ∀ s ∈ stats, s.operator.changesCount = false → s.recordsOut = s.recordsIn := by
  induction h with
  | nil count => simp
  | cons keeps rest ih => simpa using ⟨keeps, ih⟩

end Follows

end StepStats

theorem Run.exists_follows {context : Context} {steps : List Step} {index : Nat} {r : Run}
    {c out : Collection} (counted : Step.CountFrom index steps) (turn : r.state.next? = some index)
    (current : r.output = .ok c) (result : (runSteps context steps r).output = .ok out) :
    ∃ stats, (runSteps context steps r).steps = r.steps ++ stats ∧
      StepStats.Follows steps c.length stats out.length := by
  induction steps generalizing index r c with
  | nil =>
      cases current.symm.trans result
      exact ⟨[], (List.append_nil _).symm, .nil _⟩
  | cons s rest ih =>
      obtain ⟨here, after⟩ := counted
      subst here
      obtain ⟨next, warnings, applied⟩ := applied_of_runSteps turn current result
      rw [runSteps, step_ok turn current applied] at result ⊢
      obtain ⟨stats, added, follows⟩ := ih after rfl rfl result
      refine ⟨⟨s.index, s.kind, c.length, next.length⟩ :: stats, ?_,
        .cons (fun keeps => Operator.length_apply keeps applied) follows⟩
      rw [added, List.append_assoc, List.singleton_append]

namespace Pipeline

theorem exists_collection {p : Pipeline} {settings : Settings} {now : DateTime} {input : Value}
    {out : Collection} (succeeds : (p.run settings now sorter input).output = .ok out) :
    ∃ c : Collection, input = c.toValue := by
  cases read : Collection.ofValue input with
  | ok c => exact ⟨c, Collection.toValue_of_ofValue read⟩
  | error e =>
      have stopped : (Run.start input).output = .error (.input e) := by
        rw [Run.start, read]
        rfl
      rw [run, Run.runSteps_error stopped, Run.finish_error stopped, stopped] at succeeds
      cases succeeds

/-- The manifest of a run that succeeds has an entry for each step, in order and with the position and
the kind of the step. The numbers of records go from that of the input to that of the output. -/
theorem manifest_accounts {base : Settings} {p : Pipeline} (compiled : p.CompiledUnder base)
    (settings : Settings) (now : DateTime) (sorter : Sorter) (input : Value) {out : Collection}
    (succeeds : (p.run settings now sorter input).output = .ok out) :
    let m := Manifest.ofRun p input (p.run settings now sorter input) out
    m.steps.map StepStats.index = List.range p.steps.length ∧
      m.steps.map StepStats.operator = p.steps.map Step.kind ∧
      StepStats.Linked input.recordCount m.steps out.toValue.recordCount ∧
      ∀ s ∈ m.steps, s.operator.changesCount = false → s.recordsOut = s.recordsIn := by
  obtain ⟨c, rfl⟩ := exists_collection succeeds
  have current := start_toValue c
  obtain ⟨same, -, kept⟩ :=
    Run.finish_kept ⟨p.settings settings, now, sorter⟩ compiled.countFrom (r := .start c.toValue)
      rfl current
  obtain ⟨stats, added, follows⟩ :=
    Run.exists_follows compiled.countFrom rfl current (same.symm.trans succeeds)
  have steps : (p.run settings now sorter c.toValue).steps = stats := kept.trans added
  simp only [Manifest.ofRun, steps, Collection.recordCount_toValue]
  refine ⟨?_, follows.operators, follows.linked, follows.keeps⟩
  rw [follows.indices compiled.countFrom, List.range_eq_range']

theorem manifest_accounts_skip :
    let document : Value := .object [("transforms",
      .array [.object [("skip", .int 1)], .object [("addIndex", .string "n")]])]
    let p : Pipeline :=
      ⟨{}, [⟨0, .skip 1, .int 1⟩, ⟨1, .addIndex { field := "n" }, .string "n"⟩]⟩
    let input : Value := .array [.object [], .object [], .object []]
    let out : Collection := .many [[("n", .int 1)], [("n", .int 2)]]
    ofValue {} document = .ok p ∧ ∀ now sorter, (p.run {} now sorter input).output = .ok out ∧
      (Manifest.ofRun p input (p.run {} now sorter input) out).steps =
        [⟨0, .skip, 3, 2⟩, ⟨1, .addIndex, 2, 2⟩] ∧
      StepStats.Linked 3 [⟨0, .skip, 3, 2⟩, ⟨1, .addIndex, 2, 2⟩] 2 := by
  intro document p input out
  have compiled : ofValue {} document = .ok p := rfl
  refine ⟨compiled, fun now sorter => ?_⟩
  have succeeds : (p.run {} now sorter input).output = .ok out := rfl
  exact ⟨succeeds, rfl,
    (manifest_accounts (.ofValue document compiled) {} now sorter input succeeds).2.2.1⟩

end Pipeline

end Reshape
