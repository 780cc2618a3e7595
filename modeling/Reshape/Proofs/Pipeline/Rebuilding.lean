import Reshape.Proofs.Pipeline.Configuration
import Reshape.Proofs.Pipeline.Output

namespace Reshape

def Step.entry (s : Step) : StepEntry :=
  ⟨s.index, s.kind.name, s.config⟩

theorem Step.compile_entry {s : Step} (h : s.Reads) : Step.compile s.entry = .ok s :=
  Step.compile_name h

theorem Pipeline.compileSteps_entry {steps : List Step} (h : ∀ s ∈ steps, s.Reads) :
    compileSteps (steps.map Step.entry) = .ok steps := by
  induction steps with
  | nil => rfl
  | cons s rest ih =>
      obtain ⟨first, others⟩ := List.forall_mem_cons.mp h
      rw [List.map_cons, compileSteps, Step.compile_entry first, ih others]
      rfl

namespace Document

theorem readSteps_toValue {index : Nat} {steps : List Step} (h : Step.CountFrom index steps) :
    readSteps index (steps.map Step.toValue) = .ok (steps.map Step.entry) := by
  induction steps generalizing index with
  | nil => rfl
  | cons s rest ih =>
      obtain ⟨rfl, others⟩ := h
      rw [List.map_cons, readSteps, ih others]
      rfl

def configBlock : Value → Option Value
  | .object fields => Record.get? fields "config"
  | _ => none

theorem readOverrides_configBlock {v : Value} {d : Document} (h : ofValue v = .ok d) :
    readOverrides (configBlock v) = .ok d.overrides := by
  unfold ofValue at h
  split at h
  · cases h
    rfl
  · simp only [bind_eq_ok, pure_eq_ok] at h
    obtain ⟨overrides, settings, steps, -, rfl⟩ := h
    exact settings
  · cases h

def held? (text : String) : Option Value :=
  if (Text.trim text).isEmpty then some .null else Yaml.read? text

theorem read_eq_ok {text : String} {d : Document} :
    read text = .ok d ↔ ∃ v, held? text = some v ∧ ofValue v = .ok d := by
  unfold read held?
  split
  · simp [ofValue]
  · cases Yaml.read? text with
    | none => simp
    | some v => simp

end Document

namespace Pipeline

theorem read_eq_ok {base : Settings} {text : String} {p : Pipeline} :
    read base text = .ok p ↔ ∃ v, Document.held? text = some v ∧ ofValue base v = .ok p := by
  simp only [read, ofValue, bind_eq_ok, mapError_eq_ok, Document.read_eq_ok]
  constructor
  · rintro ⟨d, ⟨v, held, document⟩, compiled⟩
    exact ⟨v, held, d, document, compiled⟩
  · rintro ⟨v, held, d, document, compiled⟩
    exact ⟨d, ⟨v, held, document⟩, compiled⟩

theorem ofValue_of_parts {base : Settings} {v : Value} {p : Pipeline} (h : ofValue base v = .ok p)
    {fields : Record} (config : fields.get? "config" = Document.configBlock v)
    (transforms : fields.get? "transforms" = some p.toValue) :
    ofValue base (.object fields) = .ok p := by
  have compiled : p.CompiledUnder base := .ofValue v h
  simp only [ofValue, bind_eq_ok, mapError_eq_ok] at h ⊢
  obtain ⟨d, document, h⟩ := h
  obtain ⟨short, overrides, steps⟩ := compile_ok h
  have again : Document.ofValue (.object fields) = .ok ⟨d.overrides, p.steps.map Step.entry⟩ := by
    simp only [Document.ofValue, bind_eq_ok, pure_eq_ok]
    refine ⟨d.overrides, ?_, p.steps.map Step.entry, ?_, rfl⟩
    · rw [config]
      exact Document.readOverrides_configBlock document
    · rw [transforms]
      exact Document.readSteps_toValue compiled.countFrom
  refine ⟨_, again, ?_⟩
  have length : (p.steps.map Step.entry).length ≤ d.overrides.maxSteps.getD base.maxSteps := by
    rw [List.length_map, compileSteps_length steps]
    exact short
  rw [compile_of length (compileSteps_entry compiled.reads), ← overrides]

def rebuilt (p : Pipeline) (v : Value) : Value :=
  .object ((Document.configBlock v).toList.map (("config", ·)) ++ [("transforms", p.toValue)])

theorem ofValue_rebuilt_of_ofValue {base : Settings} {v : Value} {p : Pipeline}
    (h : ofValue base v = .ok p) : ofValue base (p.rebuilt v) = .ok p := by
  apply ofValue_of_parts h
  · cases Document.configBlock v <;> simp [Record.get?]
  · cases Document.configBlock v <;> simp [Record.get?]

/-- A pipeline that was compiled from a value or from a text compiles again, to itself, from its own
steps and the block of settings that was there. -/
theorem ofValue_rebuilt (base : Settings) (p : Pipeline) :
    (∀ v, ofValue base v = .ok p → ofValue base (p.rebuilt v) = .ok p) ∧
      ∀ text, read base text = .ok p →
        ∃ v, Document.held? text = some v ∧ ofValue base (p.rebuilt v) = .ok p := by
  refine ⟨fun v h => ofValue_rebuilt_of_ofValue h, fun text h => ?_⟩
  obtain ⟨v, held, h⟩ := read_eq_ok.mp h
  exact ⟨v, held, ofValue_rebuilt_of_ofValue h⟩

theorem ofValue_rebuilt_add_index :
    let v : Value := .object [("transforms", .array [.object [("add_index", .string "n")]]),
      ("config", .object [("maxSteps", .int 1)])]
    let text := "config:\n  maxSteps: 1\ntransforms:\n- add_index: n\n"
    let p : Pipeline := ⟨{ maxSteps := some 1 }, [⟨0, .addIndex { field := "n" }, .string "n"⟩]⟩
    ofValue {} v = .ok p ∧
      p.rebuilt v = .object [("config", .object [("maxSteps", .int 1)]),
        ("transforms", .array [.object [("addIndex", .string "n")]])] ∧
      ofValue {} (p.rebuilt v) = .ok p ∧
      ∃ q w, read {} text = .ok q ∧ q.describe = p.describe ∧ Document.held? text = some w ∧
        ofValue {} (q.rebuilt w) = .ok q := by
  intro v text p
  have compiled : ofValue {} v = .ok p := rfl
  have described : (read {} text).toOption.map describe = some p.describe := by decide +kernel
  refine ⟨compiled, rfl, (ofValue_rebuilt {} p).1 v compiled, ?_⟩
  cases compiled' : read {} text with
  | error e =>
      rw [compiled'] at described
      cases described
  | ok q =>
      rw [compiled'] at described
      obtain ⟨w, held, again⟩ := (ofValue_rebuilt {} q).2 text compiled'
      exact ⟨q, w, rfl, Option.some.inj described, held, again⟩

end Pipeline

end Reshape
