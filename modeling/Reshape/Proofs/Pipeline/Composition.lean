import Reshape.Proofs.Pipeline.Completion

namespace Reshape

def StepEntry.moved (n : Nat) (entry : StepEntry) : StepEntry :=
  { entry with index := entry.index + n }

def Step.moved (n : Nat) (s : Step) : Step :=
  { s with index := s.index + n }

def Diagnostic.moved (n : Nat) (d : Diagnostic) : Diagnostic :=
  { d with place := d.place.map fun (step, operator) => (step + n, operator) }

def StepStats.moved (n : Nat) (s : StepStats) : StepStats :=
  { s with index := s.index + n }

def RunError.moved (n : Nat) : RunError → RunError
  | fault step operator cause => fault (step + n) operator cause
  | e => e

def Document.valueOf (config : Value) (steps : List Value) : Value :=
  .object [("config", config), ("transforms", .array steps)]

namespace Document

theorem readStep_moved {index n : Nat} {v : Value} {entry : StepEntry}
    (h : readStep index v = .ok entry) : readStep (index + n) v = .ok (entry.moved n) := by
  unfold readStep at h ⊢
  split at h
  · cases h; rfl
  · cases h
  · cases h

theorem readSteps_moved {index n : Nat} {items : List Value} {entries : List StepEntry}
    (h : readSteps index items = .ok entries) :
    readSteps (index + n) items = .ok (entries.map (.moved n)) := by
  induction items generalizing index entries with
  | nil => cases h; rfl
  | cons v items ih =>
      simp only [readSteps, bind_eq_ok, pure_eq_ok] at h ⊢
      obtain ⟨entry, first, rest, others, rfl⟩ := h
      refine ⟨entry.moved n, readStep_moved first, rest.map (.moved n), ?_, rfl⟩
      rw [Nat.add_right_comm]
      exact ih others

theorem readSteps_append {index : Nat} {items₁ items₂ : List Value}
    {entries₁ entries₂ : List StepEntry} (h₁ : readSteps index items₁ = .ok entries₁)
    (h₂ : readSteps (index + items₁.length) items₂ = .ok entries₂) :
    readSteps index (items₁ ++ items₂) = .ok (entries₁ ++ entries₂) := by
  induction items₁ generalizing index entries₁ with
  | nil => cases h₁; exact h₂
  | cons v items ih =>
      simp only [List.cons_append, readSteps, bind_eq_ok, pure_eq_ok] at h₁ ⊢
      obtain ⟨entry, first, rest, others, rfl⟩ := h₁
      refine ⟨entry, first, rest ++ entries₂, ih others ?_, rfl⟩
      rw [List.length_cons, ← Nat.add_assoc, Nat.add_right_comm] at h₂
      exact h₂

theorem readSteps_length {index : Nat} {items : List Value} {entries : List StepEntry}
    (h : readSteps index items = .ok entries) : entries.length = items.length := by
  induction items generalizing index entries with
  | nil => cases h; rfl
  | cons v items ih =>
      simp only [readSteps, bind_eq_ok, pure_eq_ok] at h
      obtain ⟨entry, -, rest, others, rfl⟩ := h
      rw [List.length_cons, List.length_cons, ih others]

theorem ofValue_valueOf {config : Value} {items : List Value} {d : Document} :
    ofValue (valueOf config items) = .ok d ↔
      readOverrides (some config) = .ok d.overrides ∧ readSteps 0 items = .ok d.steps := by
  have parts : ofValue (valueOf config items) = (do
      let overrides ← readOverrides (some config)
      let steps ← readSteps 0 items
      return ⟨overrides, steps⟩) := rfl
  simp only [parts, bind_eq_ok, pure_eq_ok]
  constructor
  · rintro ⟨overrides, settings, steps, entries, rfl⟩
    exact ⟨settings, entries⟩
  · rintro ⟨settings, entries⟩
    exact ⟨d.overrides, settings, d.steps, entries, rfl⟩

end Document

theorem Step.compile_moved {n : Nat} {entry : StepEntry} {s : Step}
    (h : Step.compile entry = .ok s) : Step.compile (entry.moved n) = .ok (s.moved n) := by
  unfold Step.compile at h ⊢
  simp only [StepEntry.moved]
  split at h
  · cases h
  · split at h
    · cases h; rfl
    · cases h

namespace Pipeline

theorem compileSteps_moved {n : Nat} {entries : List StepEntry} {steps : List Step}
    (h : compileSteps entries = .ok steps) :
    compileSteps (entries.map (.moved n)) = .ok (steps.map (.moved n)) := by
  induction entries generalizing steps with
  | nil => cases h; rfl
  | cons entry entries ih =>
      simp only [List.map_cons, compileSteps, bind_eq_ok, pure_eq_ok] at h ⊢
      obtain ⟨s, first, rest, others, rfl⟩ := h
      exact ⟨s.moved n, Step.compile_moved first, _, ih others, rfl⟩

theorem compileSteps_append {entries₁ entries₂ : List StepEntry} {steps₁ steps₂ : List Step}
    (h₁ : compileSteps entries₁ = .ok steps₁) (h₂ : compileSteps entries₂ = .ok steps₂) :
    compileSteps (entries₁ ++ entries₂) = .ok (steps₁ ++ steps₂) := by
  induction entries₁ generalizing steps₁ with
  | nil => cases h₁; exact h₂
  | cons entry entries ih =>
      simp only [List.cons_append, compileSteps, bind_eq_ok, pure_eq_ok] at h₁ ⊢
      obtain ⟨s, first, rest, others, rfl⟩ := h₁
      exact ⟨s, first, rest ++ steps₂, ih others, rfl⟩

theorem compileSteps_length {entries : List StepEntry} {steps : List Step}
    (h : compileSteps entries = .ok steps) : steps.length = entries.length := by
  induction entries generalizing steps with
  | nil => cases h; rfl
  | cons entry entries ih =>
      simp only [compileSteps, bind_eq_ok, pure_eq_ok] at h
      obtain ⟨s, -, rest, others, rfl⟩ := h
      rw [List.length_cons, List.length_cons, ih others]

theorem compile_of {base : Settings} {d : Document} {steps : List Step}
    (short : d.steps.length ≤ d.overrides.maxSteps.getD base.maxSteps)
    (h : compileSteps d.steps = .ok steps) : compile base d = .ok ⟨d.overrides, steps⟩ := by
  unfold compile
  dsimp only
  rw [if_neg (Nat.not_lt.mpr short), h]
  rfl

theorem ofValue_valueOf {base : Settings} {config : Value} {items : List Value} {p : Pipeline}
    (h : ofValue base (Document.valueOf config items) = .ok p) :
    Document.readOverrides (some config) = .ok p.overrides ∧
      ∃ entries, Document.readSteps 0 items = .ok entries ∧ compileSteps entries = .ok p.steps := by
  simp only [ofValue, bind_eq_ok, mapError_eq_ok] at h
  obtain ⟨d, document, compiled⟩ := h
  obtain ⟨settings, entries⟩ := Document.ofValue_valueOf.mp document
  obtain ⟨-, overrides, steps⟩ := compile_ok compiled
  rw [overrides]
  exact ⟨settings, d.steps, entries, steps⟩

theorem length_steps {base : Settings} {config : Value} {items : List Value} {p : Pipeline}
    (h : ofValue base (Document.valueOf config items) = .ok p) : p.steps.length = items.length := by
  obtain ⟨-, entries, reading, compiled⟩ := ofValue_valueOf h
  rw [compileSteps_length compiled, Document.readSteps_length reading]

def append (p₁ p₂ : Pipeline) : Pipeline :=
  ⟨p₁.overrides, p₁.steps ++ p₂.steps.map (.moved p₁.steps.length)⟩

theorem ofValue_append {base : Settings} {config : Value} {items₁ items₂ : List Value}
    {p₁ p₂ : Pipeline} (h₁ : ofValue base (Document.valueOf config items₁) = .ok p₁)
    (h₂ : ofValue base (Document.valueOf config items₂) = .ok p₂)
    (short : items₁.length + items₂.length ≤ (p₁.settings base).maxSteps) :
    p₂.overrides = p₁.overrides ∧
      ofValue base (Document.valueOf config (items₁ ++ items₂)) = .ok (p₁.append p₂) := by
  obtain ⟨settings₁, entries₁, read₁, compiled₁⟩ := ofValue_valueOf h₁
  obtain ⟨settings₂, entries₂, read₂, compiled₂⟩ := ofValue_valueOf h₂
  have same : p₂.overrides = p₁.overrides := Except.ok.inj (settings₂.symm.trans settings₁)
  refine ⟨same, ?_⟩
  have entries : Document.readSteps 0 (items₁ ++ items₂) =
      .ok (entries₁ ++ entries₂.map (.moved items₁.length)) :=
    Document.readSteps_append read₁ (Document.readSteps_moved read₂)
  have document : Document.ofValue (Document.valueOf config (items₁ ++ items₂)) =
      .ok ⟨p₁.overrides, entries₁ ++ entries₂.map (.moved items₁.length)⟩ :=
    Document.ofValue_valueOf.mpr ⟨settings₁, entries⟩
  have steps := compileSteps_append compiled₁ (compileSteps_moved (n := items₁.length) compiled₂)
  simp only [ofValue, bind_eq_ok, mapError_eq_ok]
  rw [append, length_steps h₁]
  refine ⟨_, document, compile_of ?_ steps⟩
  rw [Document.readSteps_length entries, List.length_append]
  exact short

end Pipeline

namespace Run

/-- A run that has done what a first run did, and then what a second one did at positions moved up. -/
structure Continues (n : Nat) (first second whole : Run) : Prop where
  output : whole.output = second.output.mapError (.moved n)
  diagnostics : whole.diagnostics = first.diagnostics ++ second.diagnostics.map (.moved n)
  steps : whole.steps = first.steps ++ second.steps.map (.moved n)

theorem report_moved (n : Nat) (s : Step) (warnings : List String) :
    report (s.moved n) warnings = (report s warnings).map (.moved n) := by
  simp only [report, List.map_map]
  rfl

theorem runSteps_append (context : Context) (steps₁ steps₂ : List Step) (r : Run) :
    runSteps context (steps₁ ++ steps₂) r = runSteps context steps₂ (runSteps context steps₁ r) := by
  induction steps₁ generalizing r with
  | nil => rfl
  | cons s rest ih => exact ih (r.step context s)

theorem step_moved (context : Context) {n : Nat} {s : Step} {first second whole : Run}
    {c : Collection} (h : Continues n first second whole)
    (turn : second.state.next? = some s.index) (turn' : whole.state.next? = some (s.index + n))
    (current : second.output = .ok c) :
    Continues n first (second.step context s) (whole.step context (s.moved n)) := by
  have current' : whole.output = .ok c := by rw [h.output, current]; rfl
  cases applied : s.operator.apply context c with
  | error fault =>
      rw [step_fault turn current applied, step_fault (s := s.moved n) turn' current' applied]
      exact ⟨rfl, h.diagnostics, h.steps⟩
  | ok pair =>
      obtain ⟨next, warnings⟩ := pair
      rw [step_ok turn current applied, step_ok (s := s.moved n) turn' current' applied]
      refine ⟨rfl, ?_, ?_⟩
      · simp only [h.diagnostics, report_moved, List.map_append, List.append_assoc]
      · simp only [h.steps, List.map_append, List.append_assoc]
        rfl

theorem runSteps_moved (context : Context) {n index : Nat} {steps : List Step}
    {first second whole : Run} {c : Collection} (h : Continues n first second whole)
    (counted : Step.CountFrom index steps) (turn : second.state.next? = some index)
    (turn' : whole.state.next? = some (index + n)) (current : second.output = .ok c) :
    Continues n first (runSteps context steps second)
      (runSteps context (steps.map (.moved n)) whole) := by
  induction steps generalizing index second whole c with
  | nil => exact h
  | cons s rest ih =>
      obtain ⟨here, after⟩ := counted
      subst here
      have moved := step_moved context h turn turn' current
      have current' : whole.output = .ok c := by rw [h.output, current]; rfl
      rw [List.map_cons, runSteps, runSteps]
      cases applied : s.operator.apply context c with
      | error fault =>
          rw [step_fault turn current applied] at moved ⊢
          rw [step_fault (s := s.moved n) turn' current' applied] at moved ⊢
          rw [runSteps_error rfl, runSteps_error rfl]
          exact moved
      | ok pair =>
          obtain ⟨next, warnings⟩ := pair
          rw [step_ok turn current applied] at moved ⊢
          rw [step_ok (s := s.moved n) turn' current' applied] at moved ⊢
          refine ih moved after rfl ?_ rfl
          simp only [Step.moved, enter, RunState.next?]
          congr 1
          omega

theorem countFrom_moved {n index : Nat} {steps : List Step} (h : Step.CountFrom index steps) :
    Step.CountFrom (index + n) (steps.map (.moved n)) := by
  induction steps generalizing index with
  | nil => trivial
  | cons s rest ih =>
      obtain ⟨here, after⟩ := h
      refine ⟨?_, ?_⟩
      · rw [← here]
        rfl
      · rw [Nat.add_right_comm]
        exact ih after

end Run

namespace Pipeline

theorem run_append_steps (settings : Settings) (now : DateTime) (sorter : Sorter) (p₁ p₂ : Pipeline)
    (input : Value) :
    (p₁.append p₂).run settings now sorter input =
      (Run.runSteps ⟨p₁.settings settings, now, sorter⟩ (p₂.steps.map (.moved p₁.steps.length))
        (Run.runSteps ⟨p₁.settings settings, now, sorter⟩ p₁.steps (.start input))).finish :=
  congrArg Run.finish (Run.runSteps_append _ _ _ _)

section Append

variable {p₁ p₂ : Pipeline} (counted₁ : Step.CountFrom 0 p₁.steps)
  (settings : Settings) (now : DateTime) (sorter : Sorter) (input : Value)

include counted₁

theorem append_run_error {e : RunError}
    (failed : (p₁.run settings now sorter input).output = .error e) :
    (p₁.append p₂).run settings now sorter input = p₁.run settings now sorter input := by
  have stopped : (Run.runSteps ⟨p₁.settings settings, now, sorter⟩ p₁.steps (.start input)).output =
      .error e := by
    cases start : (Run.start input).output with
    | error e' =>
        rw [run, Run.runSteps_error start, Run.finish_error start] at failed
        rw [Run.runSteps_error start, failed]
    | ok initial =>
        rw [← (Run.finish_kept _ counted₁ rfl start).1]
        exact failed
  rw [run_append_steps, Run.runSteps_error stopped]
  rfl

theorem append_run_ok (counted₂ : Step.CountFrom 0 p₂.steps)
    (overrides : p₂.overrides = p₁.overrides) {c : Collection}
    (done : (p₁.run settings now sorter input).output = .ok c) :
    Run.Continues p₁.steps.length (p₁.run settings now sorter input)
      (p₂.run settings now sorter c.toValue)
      ((p₁.append p₂).run settings now sorter input) := by
  -- All three runs see the settings of the first pipeline.
  have second : p₂.run settings now sorter c.toValue =
      (Run.runSteps ⟨p₁.settings settings, now, sorter⟩ p₂.steps (.start c.toValue)).finish := by
    rw [run, Pipeline.settings, overrides]
    rfl
  rw [run_append_steps, second]
  rw [run] at done ⊢
  cases start : (Run.start input).output with
  | error e =>
      rw [Run.runSteps_error start, Run.finish_error start, start] at done
      cases done
  | ok initial =>
      obtain ⟨kept, diagnostics, steps⟩ :=
        Run.finish_kept ⟨p₁.settings settings, now, sorter⟩ counted₁ rfl start
      rw [kept] at done
      have turn := Run.runSteps_turn counted₁ rfl start done
      have behind : Run.Continues p₁.steps.length
          (Run.runSteps ⟨p₁.settings settings, now, sorter⟩ p₁.steps (.start input)) (.start c.toValue)
          (Run.runSteps ⟨p₁.settings settings, now, sorter⟩ p₁.steps (.start input)) :=
        ⟨by rw [done, start_toValue]; rfl, (List.append_nil _).symm, (List.append_nil _).symm⟩
      have moved := Run.runSteps_moved ⟨p₁.settings settings, now, sorter⟩ behind counted₂ rfl turn
        (start_toValue c)
      obtain ⟨kept₂, diagnostics₂, steps₂⟩ :=
        Run.finish_kept ⟨p₁.settings settings, now, sorter⟩ counted₂ rfl (start_toValue c)
      obtain ⟨kept', diagnostics', steps'⟩ :=
        Run.finish_kept ⟨p₁.settings settings, now, sorter⟩ (Run.countFrom_moved counted₂) turn done
      refine ⟨?_, ?_, ?_⟩
      · rw [kept', kept₂, moved.output]
      · rw [diagnostics', diagnostics₂, diagnostics, moved.diagnostics]
      · rw [steps', steps₂, steps, moved.steps]

end Append

/-- The run of all steps goes on where the run of the first ones ended. If that one failed, the steps
behind it change nothing. -/
theorem run_append {base : Settings} {config : Value} {items₁ items₂ : List Value}
    {p₁ p₂ : Pipeline} (h₁ : ofValue base (Document.valueOf config items₁) = .ok p₁)
    (h₂ : ofValue base (Document.valueOf config items₂) = .ok p₂)
    (short : items₁.length + items₂.length ≤ (p₁.settings base).maxSteps) :
    ∃ p, ofValue base (Document.valueOf config (items₁ ++ items₂)) = .ok p ∧
      ∀ (settings : Settings) (now : DateTime) (sorter : Sorter) (input : Value),
        (∀ c, (p₁.run settings now sorter input).output = .ok c →
          Run.Continues items₁.length (p₁.run settings now sorter input)
            (p₂.run settings now sorter c.toValue) (p.run settings now sorter input)) ∧
        (∀ e, (p₁.run settings now sorter input).output = .error e →
          p.run settings now sorter input = p₁.run settings now sorter input) := by
  obtain ⟨overrides, compiled⟩ := ofValue_append h₁ h₂ short
  have counted₁ := (CompiledUnder.ofValue _ h₁).countFrom
  have counted₂ := (CompiledUnder.ofValue _ h₂).countFrom
  refine ⟨p₁.append p₂, compiled, fun settings now sorter input =>
    ⟨fun c done => ?_, fun e failed => ?_⟩⟩
  · rw [← length_steps h₁]
    exact append_run_ok counted₁ settings now sorter input counted₂ overrides done
  · exact append_run_error counted₁ settings now sorter input failed

theorem run_append_numbering :
    let number : Value := .object [("addIndex", .string "n")]
    let reverse : Value := .object [("reverse", .null)]
    let p₁ : Pipeline := ⟨{}, [⟨0, .addIndex { field := "n" }, .string "n"⟩]⟩
    let p₂ : Pipeline := ⟨{}, [⟨0, .reverse, .null⟩]⟩
    ofValue {} (Document.valueOf .null [number]) = .ok p₁ ∧
      ofValue {} (Document.valueOf .null [reverse]) = .ok p₂ ∧
      1 + 1 ≤ (p₁.settings {}).maxSteps ∧
      ∃ p, ofValue {} (Document.valueOf .null [number, reverse]) = .ok p ∧
        ∀ now sorter, (p.run {} now sorter (.array [.object [], .object []])).output =
          (p₂.run {} now sorter
            (.array [.object [("n", .int 1)], .object [("n", .int 2)]])).output := by
  intro number reverse p₁ p₂
  have compiled₁ : ofValue {} (Document.valueOf .null [number]) = .ok p₁ := rfl
  have compiled₂ : ofValue {} (Document.valueOf .null [reverse]) = .ok p₂ := rfl
  have short : 1 + 1 ≤ (p₁.settings {}).maxSteps := by decide
  refine ⟨compiled₁, compiled₂, short, ?_⟩
  obtain ⟨p, compiled, runs⟩ := run_append compiled₁ compiled₂ short
  refine ⟨p, compiled, fun now sorter => ?_⟩
  exact ((runs {} now sorter _).1 (.many [[("n", .int 1)], [("n", .int 2)]]) rfl).output

end Pipeline

end Reshape
