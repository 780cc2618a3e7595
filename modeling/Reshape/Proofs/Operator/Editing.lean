import Reshape.Proofs.Operator.Locality
import Reshape.Proofs.Pipeline.Output
import Reshape.Proofs.Record.Path

namespace Reshape

namespace Collection

def map (f : Record → Record) : Collection → Collection
  | single r => single (f r)
  | many rs => many (rs.map f)

theorem records_map (f : Record → Record) (c : Collection) :
    (c.map f).records = c.records.map f := by
  cases c <;> rfl

theorem map_eq_self {f : Record → Record} {c : Collection} (h : ∀ r ∈ c.records, f r = r) :
    c.map f = c := by
  cases c with
  | single r => exact congrArg single (h r (List.mem_singleton.mpr rfl))
  | many rs => exact congrArg many ((List.map_congr_left h).trans (List.map_id rs))

theorem map_id (c : Collection) : c.map (fun r => r) = c :=
  map_eq_self fun _ _ => rfl

theorem map_map (f g : Record → Record) (c : Collection) :
    (c.map f).map g = c.map fun r => g (f r) := by
  cases c with
  | single r => rfl
  | many rs => exact congrArg many List.map_map

end Collection

theorem Action.onEach_fst (f : Record → Record × List String) (c : Collection) :
    (onEach f c).1 = c.map fun r => (f r).1 := by
  cases c with
  | single r => rfl
  | many rs => exact congrArg Prod.fst (onEach_many f rs)

theorem Action.apply_each (f : Record → Record) (name : String) (c : Collection) :
    (each f).apply name c = .ok (c.map f, []) := by
  have silent : (onEach (fun r => (f r, [])) c).2 = [] := by
    rw [warnings_onEach]
    exact List.flatMap_eq_nil_iff.mpr fun _ _ => rfl
  exact congrArg Except.ok (Prod.ext (onEach_fst _ c) silent)

namespace Edit

def Writes (initial : Record) (e : Edit) (field : String × Value) : Prop :=
  e.target = field.1 ∧ ∀ current, e.outcome initial current = .write field.2

theorem applyAll_of_writes {edits : List Edit} {fields : List (String × Value)} {r : Record}
    (h : List.Forall₂ (Writes r) edits fields) :
    applyAll edits r = (fields.foldl (fun r field => r.insert field.1 field.2) r, []) := by
  suffices run : ∀ current, edits.foldl (apply r) (current, []) =
      (fields.foldl (fun r field => r.insert field.1 field.2) current, []) from run r
  induction h with
  | nil => exact fun _ => rfl
  | cons first _ ih =>
      intro current
      have written := first.2 current
      rw [List.foldl_cons, List.foldl_cons, ← ih, apply, written, first.1]
      rfl

theorem applyAll_of_keep {e : Edit} {r : Record} (h : e.outcome r r = .keep) :
    applyAll [e] r = (r, []) := by
  rw [applyAll, List.foldl_cons, List.foldl_nil, apply, h]
  rfl

theorem applyAll_of_write {e : Edit} {r : Record} {v : Value}
    (written : e.outcome r r = .write v) : applyAll [e] r = (r.insert e.target v, []) := by
  rw [applyAll, List.foldl_cons, List.foldl_nil, apply, written]
  rfl

theorem resolve_of_write {e : Edit} {r : Record} {v : Value} (h : e.target ≠ "")
    (written : e.outcome r r = .write v) :
    (applyAll [e] r).1.resolve e.target = some v := by
  rw [applyAll_of_write written]
  exact Record.resolve_insert_self r h v

end Edit

namespace Operator

theorem applyAll_edits {context : Context} {ops : List Operator} {lists : List (List Edit)}
    (h : List.Forall₂ (fun op edits => op.action context = .edits edits) ops lists)
    (c : Collection) :
    applyAll context ops c =
      .ok (c.map fun r => lists.foldl (fun r edits => (Edit.applyAll edits r).1) r) := by
  induction h generalizing c with
  | nil => exact congrArg Except.ok c.map_id.symm
  | @cons op edits ops lists first _ ih =>
      have applied : op.apply context c =
          .ok (c.map fun r => (Edit.applyAll edits r).1,
            (Action.onEach (Edit.applyAll edits) c).2) := by
        rw [apply, first, Action.apply, ← Action.onEach_fst]
      rw [applyAll_cons_ok applied, ih, Collection.map_map]
      rfl

end Operator

end Reshape
