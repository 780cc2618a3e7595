import Reshape.Proofs.Operator.Locality
import Reshape.Proofs.Record.Path

namespace Reshape

/-- A record with the fields of another one in their order and targets that it lacks behind them. Only
the values at targets may differ. -/
structure Record.Extends (targets : List String) (r out : Record) : Prop where
  keys : ∃ new, out.keys = r.keys ++ new ∧ new.Nodup ∧ ∀ key ∈ new, key ∈ targets ∧ key ∉ r.keys
  kept : ∀ key, key ∉ targets → out.get? key = r.get? key

namespace Record.Extends

variable {targets : List String} {r out : Record}

theorem refl (targets : List String) (r : Record) : r.Extends targets r :=
  ⟨⟨[], by simp⟩, fun _ _ => rfl⟩

theorem insert (h : r.Extends targets out) {key : String} (mem : key ∈ targets) (v : Value) :
    r.Extends targets (out.insert key v) := by
  obtain ⟨new, keys, distinct, added⟩ := h.keys
  constructor
  · rw [keys_insert]
    split
    · exact ⟨new, keys, distinct, added⟩
    · rename_i absent
      rw [keys, List.mem_append, not_or] at absent
      refine ⟨new ++ [key], by simp [keys], ?_, ?_⟩
      · exact List.nodup_append_comm.mp (List.nodup_cons.mpr ⟨absent.2, distinct⟩)
      · intro other other_mem
        rcases List.mem_append.mp other_mem with before | last
        · exact added other before
        · rw [List.mem_singleton.mp last]
          exact ⟨mem, absent.1⟩
  · intro other other_notMem
    rw [get?_insert_of_ne _ _ (ne_of_mem_of_not_mem mem other_notMem), h.kept other other_notMem]

end Record.Extends

namespace Edit

theorem extends_apply {targets : List String} {initial r : Record} {state : Record × List String}
    {e : Edit} (h : r.Extends targets state.1) (mem : e.target ∈ targets) :
    r.Extends targets (e.apply initial state).1 := by
  cases written : (e.outcome initial state.1).value with
  | none =>
      simp only [apply, written]
      exact h
  | some v =>
      simp only [apply, written]
      exact h.insert mem v

theorem extends_applyAll (edits : List Edit) (r : Record) :
    r.Extends (edits.map target) (applyAll edits r).1 := by
  -- Each edit starts from what the earlier ones have left, which extends the record already.
  suffices run : ∀ (rest : List Edit) (state : Record × List String),
      (∀ e ∈ rest, e.target ∈ edits.map target) → r.Extends (edits.map target) state.1 →
        r.Extends (edits.map target) (rest.foldl (apply r) state).1 from
    run edits (r, []) (fun _ => List.mem_map_of_mem) (.refl _ r)
  intro rest
  induction rest with
  | nil => exact fun _ _ h => h
  | cons e rest ih =>
      intro state members h
      rw [List.forall_mem_cons] at members
      exact ih (e.apply r state) members.2 (extends_apply h members.1)

end Edit

theorem Split.targets_edits (s : Split) : s.edits.map Edit.target = s.targets := by
  apply List.ext_getElem
  · simp [edits]
  · intro i h h'
    simp [edits, edit]

def Kind.additive : List Kind :=
  [format, compute, concat, split, lookup, truncate, pad, mask, coalesce, choice, set]

namespace Operator

def targets : Operator → List String
  | format fields => fields.map Prod.fst
  | compute fields => fields.map Prod.fst
  | concat c => [c.target]
  | split s => s.targets
  | lookup l => [l.target]
  | truncate fields => fields.map Prod.fst
  | pad fields => fields.map Prod.fst
  | mask fields => fields.map Prod.fst
  | coalesce c => [c.target]
  | choice c => [c.target]
  | set fields => fields.map Prod.fst
  | _ => []

theorem action_of_additive {op : Operator} (h : op.kind ∈ Kind.additive) (context : Context) :
    ∃ edits, op.action context = .edits edits ∧ edits.map Edit.target = op.targets := by
  cases op with
  | format fields => exact ⟨_, rfl, List.map_map⟩
  | compute fields => exact ⟨_, rfl, List.map_map⟩
  | concat c => exact ⟨_, rfl, rfl⟩
  | split s => exact ⟨_, rfl, s.targets_edits⟩
  | lookup l => exact ⟨_, rfl, rfl⟩
  | truncate fields => exact ⟨_, rfl, List.map_map⟩
  | pad fields => exact ⟨_, rfl, List.map_map⟩
  | mask fields => exact ⟨_, rfl, List.map_map⟩
  | coalesce c => exact ⟨_, rfl, rfl⟩
  | choice c => exact ⟨_, rfl, rfl⟩
  | set fields => exact ⟨_, rfl, List.map_map⟩
  | _ => simp [kind, Kind.additive] at h

/-- An additive operator extends each record of a collection, be it alone or in a sequence, at the
targets of the operator. -/
theorem apply_extends {kind : Kind} (additive : kind ∈ Kind.additive) {config : Value}
    {op : Operator} (h : read kind config = .ok op) (context : Context) (c : Collection) :
    ∃ next warnings, op.apply context c = .ok (next, warnings) ∧
      next.isSequence = c.isSequence ∧
      List.Forall₂ (Record.Extends op.targets) c.records next.records := by
  rw [← kind_of_read h] at additive
  obtain ⟨edits, action, targets⟩ := action_of_additive additive context
  have applied : op.apply context c = .ok (Action.onEach (Edit.applyAll edits) c) := by
    rw [apply, action, Action.apply]
  refine ⟨(Action.onEach (Edit.applyAll edits) c).1, (Action.onEach (Edit.applyAll edits) c).2,
    applied, Action.onEach_isSequence _ c, ?_⟩
  rw [Action.records_onEach, List.forall₂_map_right_iff, List.forall₂_same, ← targets]
  exact fun r _ => Edit.extends_applyAll edits r

theorem apply_extends_split :
    let config : Value := .object [("source", .string "n"),
      ("targets", .array [.string "b.c", .string "a", .string "b.c"])]
    let op : Operator := .split ⟨"n", ",", ["b.c", "a", "b.c"]⟩
    let r : Record := [("a", .int 1), ("n", .string "x, y")]
    let out : Record := [("a", .string "y"), ("n", .string "x, y"), ("b.c", .string "")]
    .split ∈ Kind.additive ∧ read .split config = .ok op ∧
      ∀ context, op.apply context (.single r) = .ok (.single out, []) ∧
        r.Extends ["b.c", "a", "b.c"] out := by
  intro config op r out
  have additive : .split ∈ Kind.additive := by decide
  have reading : read .split config = .ok op := rfl
  refine ⟨additive, reading, fun context => ?_⟩
  have applied : op.apply context (.single r) = .ok (.single out, []) := rfl
  obtain ⟨next, warnings, applied', -, extended⟩ :=
    apply_extends additive reading context (.single r)
  rw [applied] at applied'
  cases applied'
  cases extended with
  | cons first _ => exact ⟨applied, first⟩

end Operator

end Reshape
