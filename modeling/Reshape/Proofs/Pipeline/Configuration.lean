import Reshape.Proofs.Pipeline.Completion
import Reshape.Proofs.Yaml.Reader

namespace Reshape

theorem Kind.name_injective {k l : Kind} (h : k.name = l.name) : k = l := by
  have named := ofName?_name k
  rw [h, ofName?_name l] at named
  exact (Option.some.inj named).symm

theorem Operator.kind_of_read {k : Kind} {config : Value} {op : Operator}
    (h : read k config = .ok op) : op.kind = k := by
  cases k with
  | reverse => cases h; rfl
  | _ =>
      obtain ⟨arguments, -, same⟩ := bind_eq_ok.mp h
      cases same
      rfl

def Step.Reads (s : Step) : Prop :=
  Operator.read s.kind s.config = .ok s.operator

theorem Step.reads_of_compile {entry : StepEntry} {s : Step} (h : Step.compile entry = .ok s) :
    s.Reads := by
  obtain ⟨-, config, kind, read⟩ := Step.compile_ok h
  rw [← config] at read
  rw [Reads, Step.kind, Operator.kind_of_read read]
  exact read

namespace Pipeline

theorem exists_entry_of_mem {entries : List StepEntry} {steps : List Step}
    (h : compileSteps entries = .ok steps) :
    ∀ s ∈ steps, ∃ entry ∈ entries, Step.compile entry = .ok s := by
  induction entries generalizing steps with
  | nil => cases h; exact List.forall_mem_nil _
  | cons entry entries ih =>
      simp only [compileSteps, bind_eq_ok, pure_eq_ok] at h
      obtain ⟨s, first, rest, others, rfl⟩ := h
      refine List.forall_mem_cons.mpr ⟨⟨entry, List.mem_cons_self .., first⟩, fun t mem => ?_⟩
      obtain ⟨other, member, compiled⟩ := ih others t mem
      exact ⟨other, List.mem_cons_of_mem _ member, compiled⟩

theorem CompiledUnder.reads {base : Settings} {p : Pipeline} (compiled : p.CompiledUnder base) :
    ∀ s ∈ p.steps, s.Reads := by
  obtain ⟨d, h⟩ : ∃ d, compile base d = .ok p := by
    cases compiled with
    | ofValue v h =>
        obtain ⟨d, -, h⟩ := bind_eq_ok.mp h
        exact ⟨d, h⟩
    | read text h =>
        obtain ⟨d, -, h⟩ := bind_eq_ok.mp h
        exact ⟨d, h⟩
  intro s mem
  obtain ⟨entry, -, compiled⟩ := exists_entry_of_mem (compile_ok h).2.2 s mem
  exact Step.reads_of_compile compiled

end Pipeline

namespace Document

theorem readStep_wellFormed {index : Nat} {v : Value} {entry : StepEntry} (formed : v.WellFormed)
    (h : readStep index v = .ok entry) : entry.config.WellFormed := by
  unfold readStep at h
  split at h
  · cases h
    exact (Value.wellFormed_object_iff.mp formed).2 _ (List.mem_singleton_self _)
  · cases h
  · cases h

theorem readSteps_wellFormed {index : Nat} {items : List Value} {entries : List StepEntry}
    (formed : ∀ v ∈ items, v.WellFormed) (h : readSteps index items = .ok entries) :
    ∀ entry ∈ entries, entry.config.WellFormed := by
  induction items generalizing index entries with
  | nil => cases h; exact List.forall_mem_nil _
  | cons v items ih =>
      simp only [readSteps, bind_eq_ok, pure_eq_ok] at h
      obtain ⟨entry, first, rest, others, rfl⟩ := h
      obtain ⟨here, later⟩ := List.forall_mem_cons.mp formed
      exact List.forall_mem_cons.mpr ⟨readStep_wellFormed here first, ih later others⟩

theorem ofValue_wellFormed {v : Value} {d : Document} (formed : v.WellFormed)
    (h : ofValue v = .ok d) : ∀ entry ∈ d.steps, entry.config.WellFormed := by
  unfold ofValue at h
  split at h
  · cases h
    exact List.forall_mem_nil _
  · rename_i fields
    simp only [bind_eq_ok, pure_eq_ok] at h
    obtain ⟨overrides, -, entries, steps, rfl⟩ := h
    unfold readTransforms at steps
    split at steps
    · cases steps
      exact List.forall_mem_nil _
    · cases steps
      exact List.forall_mem_nil _
    · rename_i found
      exact readSteps_wellFormed (Value.wellFormed_array_iff.mp (formed.field found)) steps
    · cases steps
  · cases h

theorem read_wellFormed {text : String} {d : Document} (h : read text = .ok d) :
    ∀ entry ∈ d.steps, entry.config.WellFormed := by
  unfold read at h
  split at h
  · cases h
    exact List.forall_mem_nil _
  · split at h
    · rename_i found
      exact ofValue_wellFormed (Yaml.read?_wellFormed found) h
    · cases h

end Document

namespace Pipeline

theorem toValue_wellFormed {base : Settings} {d : Document} {p : Pipeline}
    (formed : ∀ entry ∈ d.steps, entry.config.WellFormed) (h : compile base d = .ok p) :
    p.toValue.WellFormed := by
  refine .array fun v member => ?_
  obtain ⟨s, mem, rfl⟩ := List.mem_map.mp member
  obtain ⟨entry, source, compiled⟩ := exists_entry_of_mem (compile_ok h).2.2 s mem
  refine .object (List.nodup_singleton _) fun field mem => ?_
  rw [List.mem_singleton] at mem
  rw [mem, (Step.compile_ok compiled).2.1]
  exact formed entry source

theorem toValue_wellFormed_of_read {base : Settings} {text : String} {p : Pipeline}
    (h : read base text = .ok p) : p.toValue.WellFormed := by
  simp only [read, bind_eq_ok, mapError_eq_ok] at h
  obtain ⟨d, document, h⟩ := h
  exact toValue_wellFormed (Document.read_wellFormed document) h

end Pipeline

end Reshape
