import Reshape.Proofs.Operator.Sorting
import Reshape.Proofs.Pipeline.Composition

namespace Reshape

namespace Operator

def applyAll (context : Context) (ops : List Operator) (c : Collection) :
    Except Fault Collection :=
  ops.foldlM (fun c op => (op.apply context c).map Prod.fst) c

theorem applyAll_nil (context : Context) (c : Collection) : applyAll context [] c = .ok c := rfl

theorem applyAll_cons_ok {context : Context} {op : Operator} {c next : Collection}
    {warnings : List String} (h : op.apply context c = .ok (next, warnings)) (ops : List Operator) :
    applyAll context (op :: ops) c = applyAll context ops next := by
  rw [applyAll, List.foldlM_cons, h]
  rfl

theorem applyAll_cons_error {context : Context} {op : Operator} {c : Collection} {fault : Fault}
    (h : op.apply context c = .error fault) (ops : List Operator) :
    applyAll context (op :: ops) c = .error fault := by
  rw [applyAll, List.foldlM_cons, h]
  rfl

end Operator

namespace Run

theorem output_runSteps {context : Context} {steps : List Step} {index : Nat} {r : Run}
    {c out : Collection} (counted : Step.CountFrom index steps) (turn : r.state.next? = some index)
    (current : r.output = .ok c) :
    (runSteps context steps r).output = .ok out ↔
      Operator.applyAll context (steps.map Step.operator) c = .ok out := by
  induction steps generalizing index r c with
  | nil =>
      rw [runSteps, current, List.map_nil, Operator.applyAll_nil]
      simp only [Except.ok.injEq]
  | cons s rest ih =>
      obtain ⟨here, after⟩ := counted
      subst here
      rw [runSteps, List.map_cons]
      cases applied : s.operator.apply context c with
      | error fault =>
          rw [step_fault turn current applied, runSteps_error rfl,
            Operator.applyAll_cons_error applied]
          simp [stop]
      | ok pair =>
          obtain ⟨next, warnings⟩ := pair
          rw [step_ok turn current applied, Operator.applyAll_cons_ok applied]
          exact ih after rfl rfl

end Run

def Document.stepOf (kind : Kind) (config : Value) : Value :=
  .object [(kind.name, config)]

theorem Step.compile_name {index : Nat} {kind : Kind} {config : Value} {op : Operator}
    (h : Operator.read kind config = .ok op) :
    Step.compile ⟨index, kind.name, config⟩ = .ok ⟨index, op, config⟩ := by
  simp only [compile, Kind.ofName?_name, h]

namespace Pipeline

theorem output_run {base : Settings} {p : Pipeline} (compiled : p.CompiledUnder base)
    (settings : Settings) (now : DateTime) (sorter : Sorter) (c out : Collection) :
    (p.run settings now sorter c.toValue).output = .ok out ↔
      Operator.applyAll ⟨p.settings settings, now, sorter⟩ (p.steps.map Step.operator) c =
        .ok out := by
  have current := start_toValue c
  rw [← Run.output_runSteps compiled.countFrom (r := .start c.toValue) rfl current, run,
    (Run.finish_kept _ compiled.countFrom rfl current).1]

theorem exists_compileSteps {items : List (Kind × Value)} {ops : List Operator}
    (reads : List.Forall₂ (fun item op => Operator.read item.1 item.2 = .ok op) items ops)
    (index : Nat) :
    ∃ entries steps,
      Document.readSteps index (items.map fun item => Document.stepOf item.1 item.2) = .ok entries ∧
      compileSteps entries = .ok steps ∧ steps.map Step.operator = ops := by
  induction reads generalizing index with
  | nil => exact ⟨[], [], rfl, rfl, rfl⟩
  | @cons item op items ops first _ ih =>
      obtain ⟨entries, steps, reading, compiled, same⟩ := ih (index + 1)
      refine ⟨⟨index, item.1.name, item.2⟩ :: entries, ⟨index, op, item.2⟩ :: steps, ?_, ?_, ?_⟩
      · rw [List.map_cons, Document.readSteps, reading]
        rfl
      · rw [compileSteps, Step.compile_name first, compiled]
        rfl
      · rw [List.map_cons, same]

theorem exists_ofValue {base : Settings} {config : Value} {overrides : Overrides}
    {items : List (Kind × Value)} {ops : List Operator}
    (settings : Document.readOverrides (some config) = .ok overrides)
    (short : items.length ≤ overrides.maxSteps.getD base.maxSteps)
    (reads : List.Forall₂ (fun item op => Operator.read item.1 item.2 = .ok op) items ops) :
    ∃ p, ofValue base (Document.valueOf config
        (items.map fun item => Document.stepOf item.1 item.2)) = .ok p ∧
      p.steps.map Step.operator = ops := by
  obtain ⟨entries, steps, reading, compiled, same⟩ := exists_compileSteps reads 0
  refine ⟨⟨overrides, steps⟩, ?_, same⟩
  have document : Document.ofValue (Document.valueOf config
      (items.map fun item => Document.stepOf item.1 item.2)) = .ok ⟨overrides, entries⟩ :=
    Document.ofValue_valueOf.mpr ⟨settings, reading⟩
  simp only [ofValue, bind_eq_ok, mapError_eq_ok]
  refine ⟨_, document, compile_of ?_ compiled⟩
  rw [Document.readSteps_length reading, List.length_map]
  exact short

end Pipeline

namespace Sorting

theorem read_array_ok {items : List Value} {keys : List SortKey}
    (h : read (.array items) = .ok keys) :
    keys ≠ [] ∧ List.Forall₂ (fun v key => SortKey.read v = .ok key) items keys := by
  obtain ⟨found, reading, checked⟩ := bind_eq_ok.mp h
  dsimp only at checked
  split at checked
  · cases checked
  · rename_i some
    cases checked
    exact ⟨by simpa using some, mapM_eq_ok.mp reading⟩

theorem read_of_key {v : Value} {key : SortKey} (h : SortKey.read v = .ok key) :
    read v = .ok [key] := by
  cases v with
  | array items => cases h
  | _ => simp only [read, h]; rfl

theorem applyAll_sort (context : Context) {keys : List SortKey} {rs : List Record}
    (h : ∀ key ∈ keys, Preorders sortOrder (rs.filterMap key.value?)) :
    Operator.applyAll context (keys.map fun key => .sort [key]) (.many rs) =
      .ok (.many (keys.foldl (fun rs key => ordered [key] rs) rs)) := by
  induction keys generalizing rs with
  | nil => rfl
  | cons key keys ih =>
      rw [List.forall_mem_cons] at h
      have first := apply_sort_eq context (preorders (List.forall_mem_singleton.mpr h.1))
      have later : ∀ other ∈ keys,
          Preorders sortOrder ((ordered [key] rs).filterMap other.value?) := by
        intro other mem
        apply (h.2 other mem).subset
        exact ((ordered_perm [key] rs).filterMap other.value?).subset
      rw [List.map_cons, Operator.applyAll_cons_ok first, ih later, List.foldl_cons]

end Sorting

namespace Pipeline

/-- A step that sorts by several keys puts out what steps put out that sort by each of them, the last
key first. -/
theorem run_sort {base : Settings} {config : Value} {overrides : Overrides} {items : List Value}
    {keys : List SortKey} (settings : Document.readOverrides (some config) = .ok overrides)
    (short : items.length ≤ overrides.maxSteps.getD base.maxSteps)
    (reading : Sorting.read (.array items) = .ok keys) {rs : List Record}
    (h : ∀ key ∈ keys, Preorders sortOrder (rs.filterMap key.value?)) :
    ∃ p q,
      ofValue base (Document.valueOf config [Document.stepOf .sort (.array items)]) = .ok p ∧
      ofValue base (Document.valueOf config (items.reverse.map (Document.stepOf .sort))) = .ok q ∧
      ∀ (settings : Settings) (now : DateTime) (sorter : Sorter), ∃ out,
        (p.run settings now sorter (Collection.many rs).toValue).output = .ok (.many out) ∧
        (q.run settings now sorter (Collection.many rs).toValue).output = .ok (.many out) := by
  obtain ⟨nonempty, readings⟩ := Sorting.read_array_ok reading
  have several : List.Forall₂ (fun item op => Operator.read item.1 item.2 = .ok op)
      [(Kind.sort, Value.array items)] [Operator.sort keys] := by
    refine .cons ?_ .nil
    rw [Operator.read, reading]
    rfl
  have single : List.Forall₂ (fun item op => Operator.read item.1 item.2 = .ok op)
      (items.reverse.map fun v => (Kind.sort, v))
      (keys.reverse.map fun key => Operator.sort [key]) := by
    rw [List.forall₂_map_left_iff, List.forall₂_map_right_iff, List.forall₂_reverse_iff]
    refine readings.imp fun v key found => ?_
    rw [Operator.read, Sorting.read_of_key found]
    rfl
  have first : 1 ≤ items.length := by
    rw [readings.length_eq]
    exact List.length_pos_iff.mpr nonempty
  obtain ⟨p, compiled, ops⟩ := exists_ofValue settings (Nat.le_trans first short) several
  obtain ⟨q, compiled', ops'⟩ := exists_ofValue settings (by simpa using short) single
  rw [List.map_map] at compiled'
  refine ⟨p, q, compiled, compiled', fun settings now sorter => ⟨Sorting.ordered keys rs, ?_, ?_⟩⟩
  · rw [output_run (.ofValue _ compiled), ops,
      Operator.applyAll_cons_ok (Sorting.apply_sort_eq _ (Sorting.preorders h))]
    rfl
  · rw [output_run (.ofValue _ compiled'), ops',
      Sorting.applyAll_sort _ fun key mem => h key (List.mem_reverse.mp mem), List.foldl_reverse,
      Sorting.foldr_ordered h]

theorem run_sort_missing :
    let items : List Value := [.string "n desc", .object [("field", .string "s")]]
    let keys : List SortKey := [⟨"n", true⟩, ⟨"s", false⟩]
    let rs : List Record :=
      [[("s", .string "b")], [("n", .int 1), ("s", .string "b")], [("n", .null)],
        [("n", .int 2)], [("n", .int 1), ("s", .string "a")]]
    Document.readOverrides (some .null) = .ok {} ∧
      items.length ≤ (none : Option Nat).getD ({} : Settings).maxSteps ∧
      Sorting.read (.array items) = .ok keys ∧
      (∀ key ∈ keys, Preorders sortOrder (rs.filterMap key.value?)) ∧
      ∃ p q,
        ofValue {} (Document.valueOf .null [Document.stepOf .sort (.array items)]) = .ok p ∧
        ofValue {} (Document.valueOf .null (items.reverse.map (Document.stepOf .sort))) = .ok q ∧
        ∀ now sorter, (p.run {} now sorter (Collection.many rs).toValue).output =
          (q.run {} now sorter (Collection.many rs).toValue).output := by
  intro items keys rs
  have settings : Document.readOverrides (some .null) = .ok {} := rfl
  have short : items.length ≤ (none : Option Nat).getD ({} : Settings).maxSteps := by decide
  have reading : Sorting.read (.array items) = .ok keys := rfl
  have preorders : ∀ key ∈ keys, Preorders sortOrder (rs.filterMap key.value?) := by
    intro key mem
    simp only [keys, List.mem_cons, List.not_mem_nil, or_false] at mem
    rcases mem with rfl | rfl
    · have values : rs.filterMap (SortKey.value? ⟨"n", true⟩) = [.int 1, .int 2, .int 1] := rfl
      rw [values]
      apply preorders_sortOrder_numbers
      · simp [Value.int, Number.WellFormed]
      · simp [Value.int, Value.isNumber]
    · have values : rs.filterMap (SortKey.value? ⟨"s", false⟩) =
          [.string "b", .string "b", .string "a"] := rfl
      rw [values]
      apply preorders_sortOrder_texts
      · simp
      · simp [Value.isNumber]
  refine ⟨settings, short, reading, preorders, ?_⟩
  obtain ⟨p, q, compiled, compiled', runs⟩ := run_sort settings short reading preorders
  refine ⟨p, q, compiled, compiled', fun now sorter => ?_⟩
  obtain ⟨out, together, apart⟩ := runs {} now sorter
  exact together.trans apart.symm

end Pipeline

end Reshape
