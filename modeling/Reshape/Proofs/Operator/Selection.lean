import Reshape.Proofs.Formula.Fields
import Reshape.Proofs.Operator.Locality
import Reshape.Proofs.Operator.Projection

namespace Reshape

namespace Projection

variable {paths : List String} {r : Record} {p : String}

theorem walk_select_eq_none (h : r.walk (segments p) = none) :
    (select paths r).walk (segments p) = none := by
  obtain ⟨name, names, parts⟩ := List.exists_cons_of_ne_nil (segments_ne_nil p)
  have mem : name ∈ segments p := by simp [parts]
  rw [parts] at h ⊢
  cases found : (select paths r).get? name with
  | none => cases names <;> simp only [Record.walk, found]
  | some v =>
      have same : r.get? name = some v := by
        have selected := get?_select paths r name
        rw [found] at selected
        split at selected
        · by_cases empty : name = ""
          · simp [Record.resolve, empty] at selected
          · rw [selected, Record.resolve_of_not_isDotted r empty
            (not_isDotted_of_mem_segments mem)]
        · cases selected
      rw [Record.walk_congr names (found.trans same.symm), h]

theorem resolve_select_of_mem (mem : p ∈ paths) : (select paths r).resolve p = r.resolve p := by
  by_cases empty : p = ""
  · rw [Record.resolve, Record.resolve, if_pos empty, if_pos empty]
  · cases found : r.resolve p with
    | some v => exact resolve_select empty mem found
    | none =>
        have absent := found
        rw [Record.resolve, if_neg empty, Option.or_eq_none_iff] at absent
        rw [Record.resolve, if_neg empty, get?_select, if_pos mem, found, Option.none_or,
          walk_select_eq_none absent.2]

theorem holds_select {c : Condition} (mem : c.path ∈ paths) :
    c.holds (select paths r) = c.holds r := by
  rw [Condition.holds, Condition.holds, resolve_select_of_mem mem]

theorem evaluate_select {e : Formula} (read : e.fields ⊆ paths) :
    e.evaluate (select paths r) = e.evaluate r :=
  Formula.evaluate_eq_of_agree fun _ mem => resolve_select_of_mem (read mem)

theorem filter_select {c : Condition} (mem : c.path ∈ paths) (rs : List Record) :
    (rs.map (select paths)).filter c.holds = (rs.filter c.holds).map (select paths) := by
  rw [List.filter_map]
  congr 1
  exact List.filter_congr fun r _ => holds_select mem

theorem select_select (paths : List String) (r : Record) :
    select paths (select paths r) = select paths r := by
  have same : ∀ p ∈ paths, ((select paths r).resolve p).map (fun v => (p, v)) =
      (r.resolve p).map fun v => (p, v) := by
    intro p mem
    rw [resolve_select_of_mem mem]
  rw [select, List.filterMap_congr same, ← select]

theorem apply_select (paths : List String) (context : Context) (rs : List Record) :
    (Operator.select paths).apply context (.many rs) =
      .ok (.many (rs.map (select paths)), []) := by
  rw [Operator.apply, Operator.action, Action.apply, Action.onEach_many]
  simp

/-- Selected paths read as before, whether they have a value or not. So conditions on them and
formulas over them give the same, a filter on them may come before the selection or after it, and
selecting them once more changes nothing. -/
theorem select_keeps_readers (paths : List String) :
    (∀ r : Record, ∀ p ∈ paths, (select paths r).resolve p = r.resolve p) ∧
    (∀ (c : Condition) (r : Record), c.path ∈ paths → c.holds (select paths r) = c.holds r) ∧
    (∀ (e : Formula) (r : Record), e.fields ⊆ paths →
      e.evaluate (select paths r) = e.evaluate r) ∧
    (∀ (context : Context) (c : Condition) (rs : List Record), c.path ∈ paths →
      ∃ kept selected out,
        (Operator.filter c).apply context (.many rs) = .ok (.many kept, []) ∧
        (Operator.select paths).apply context (.many kept) = .ok (.many out, []) ∧
        (Operator.select paths).apply context (.many rs) = .ok (.many selected, []) ∧
        (Operator.filter c).apply context (.many selected) = .ok (.many out, [])) ∧
    ∀ r : Record, select paths (select paths r) = select paths r := by
  refine ⟨fun r p mem => resolve_select_of_mem mem, fun c r mem => holds_select mem,
    fun e r read => evaluate_select read, fun context c rs mem => ?_, select_select paths⟩
  refine ⟨rs.filter c.holds, rs.map (select paths), (rs.filter c.holds).map (select paths), rfl,
    apply_select paths context _, apply_select paths context rs, ?_⟩
  rw [← filter_select mem]
  rfl

theorem select_keeps_readers_overlapping :
    let r : Record := [("user.name", .string "B"), ("user", .object [("name", .string "A")]),
      ("n", .string "4"), ("a", .object [("c", .null)]), ("x", .bool true)]
    let paths := ["user", "user.name", "n", "a.b", "a"]
    let c : Condition := ⟨"user.name", .eq, .string "B"⟩
    let e : Formula := .binary .add (.field "n") (.field "a.b")
    c.path ∈ paths ∧ e.fields ⊆ paths ∧
      select paths r = [("user", .object [("name", .string "A")]), ("user.name", .string "B"),
        ("n", .string "4"), ("a", .object [("c", .null)])] ∧
      (select paths r).resolve "user.name" = some (.string "B") ∧
      (select paths r).resolve "a.b" = none ∧ c.holds (select paths r) = c.holds r ∧
      e.evaluate (select paths r) = e.evaluate r ∧
      (∀ context, ∃ kept selected out,
        (Operator.filter c).apply context (.many [r, []]) = .ok (.many kept, []) ∧
        (Operator.select paths).apply context (.many kept) = .ok (.many out, []) ∧
        (Operator.select paths).apply context (.many [r, []]) = .ok (.many selected, []) ∧
        (Operator.filter c).apply context (.many selected) = .ok (.many out, [])) ∧
      select paths (select paths r) = select paths r := by
  intro r paths c e
  have path : c.path ∈ paths := by decide
  have fields : e.fields ⊆ paths := by decide
  obtain ⟨resolves, holds, evaluates, commutes, again⟩ := select_keeps_readers paths
  refine ⟨path, fields, rfl, ?_, ?_, holds c r path, evaluates e r fields,
    fun context => commutes context c [r, []] path, again r⟩
  · rw [resolves r "user.name" (by decide)]
    rfl
  · rw [resolves r "a.b" (by decide)]
    rfl

end Projection

end Reshape
