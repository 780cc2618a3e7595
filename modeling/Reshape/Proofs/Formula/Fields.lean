import Mathlib.Data.List.Nodup
import Reshape.Formula.Evaluate

namespace Reshape

namespace Formula

inductive Part (d : Formula) : Formula → Prop
  | here : Part d d
  | neg {e : Formula} (inside : Part d e) : Part d (neg e)
  | left {op : Operation} {lhs rhs : Formula} (inside : Part d lhs) : Part d (binary op lhs rhs)
  | right {op : Operation} {lhs rhs : Formula} (inside : Part d rhs) : Part d (binary op lhs rhs)

def places : Formula → List String
  | number _ => []
  | text _ => []
  | field path => [path]
  | neg e => e.places
  | binary _ lhs rhs => lhs.places ++ rhs.places

variable {seen : List String} {path : String} {e : Formula} {r r' : Record}

theorem mem_places_iff : path ∈ e.places ↔ Part (field path) e := by
  constructor
  · intro mem
    induction e with
    | number x => cases mem
    | text s => cases mem
    | field other =>
        obtain rfl := List.mem_singleton.mp mem
        exact .here
    | neg e ih => exact .neg (ih mem)
    | binary op lhs rhs left right =>
        rcases List.mem_append.mp mem with first | second
        · exact .left (left first)
        · exact .right (right second)
  · intro part
    induction part with
    | here => exact List.mem_singleton_self path
    | neg inside ih => exact ih
    | left inside ih => exact List.mem_append_left _ ih
    | right inside ih => exact List.mem_append_right _ ih

theorem removeAll_append_eraseDups (paths new : List String) :
    paths.removeAll (seen ++ new.eraseDups) = (paths.removeAll seen).removeAll new := by
  simp only [List.removeAll, List.filter_filter]
  refine List.filter_congr fun path _ => ?_
  simp [Bool.and_comm]

theorem fieldsFrom_eq (e : Formula) (seen : List String) :
    e.fieldsFrom seen = seen ++ (e.places.removeAll seen).eraseDups := by
  induction e generalizing seen with
  | number x => simp [fieldsFrom, places]
  | text s => simp [fieldsFrom, places]
  | field path =>
      by_cases mem : path ∈ seen <;>
        simp [fieldsFrom, places, List.removeAll, mem, List.eraseDups_cons]
  | neg e ih => exact ih seen
  | binary op lhs rhs left right =>
      have cut : (lhs.places ++ rhs.places).removeAll seen =
          lhs.places.removeAll seen ++ rhs.places.removeAll seen := List.filter_append ..
      rw [fieldsFrom, right, left, removeAll_append_eraseDups, List.append_assoc, places, cut,
        List.eraseDups_append]

theorem fields_eq (e : Formula) : e.fields = e.places.eraseDups := by
  rw [fields, fieldsFrom_eq, List.removeAll_nil, List.nil_append]

theorem mem_fields_iff : path ∈ e.fields ↔ Part (field path) e := by
  rw [fields_eq, List.mem_eraseDups, mem_places_iff]

theorem nodup_fieldsFrom (e : Formula) (distinct : seen.Nodup) : (e.fieldsFrom seen).Nodup := by
  induction e generalizing seen with
  | number x => exact distinct
  | text s => exact distinct
  | field path =>
      rw [fieldsFrom]
      split
      · exact distinct
      · rename_i absent
        rw [← List.concat_eq_append]
        exact distinct.concat absent
  | neg e ih => exact ih distinct
  | binary op lhs rhs left right => exact right (left distinct)

theorem operand_eq_of_agree (agree : ∀ path, Part (field path) e → r.resolve path = r'.resolve path) :
    e.operand r = e.operand r' := by
  induction e with
  | number x => rfl
  | text s => rfl
  | field path => rw [operand, operand, agree path .here]
  | neg e ih => rw [operand, operand, ih fun path inside => agree path (.neg inside)]
  | binary op lhs rhs left right =>
      rw [operand, operand, left fun path inside => agree path (.left inside),
        right fun path inside => agree path (.right inside)]

theorem evaluate_eq_of_agree (agree : ∀ path ∈ e.fields, r.resolve path = r'.resolve path) :
    e.evaluate r = e.evaluate r' := by
  rw [evaluate, evaluate, operand_eq_of_agree fun path part => agree path (mem_fields_iff.mpr part)]

/-- The fields of a formula are the paths that stand at some place in it, each once and in the order
of their first places. What the formula gives, be it a value or an error, depends on nothing else
that a record holds. -/
theorem evaluate_eq_of_fields (e : Formula) :
    (∀ path, path ∈ e.fields ↔ Part (field path) e) ∧ e.fields.Nodup ∧
      e.fields = e.places.eraseDups ∧
      ∀ r r' : Record, (∀ path ∈ e.fields, r.resolve path = r'.resolve path) →
        e.evaluate r = e.evaluate r' :=
  ⟨fun _ => mem_fields_iff, nodup_fieldsFrom e List.nodup_nil, fields_eq e,
    fun _ _ => evaluate_eq_of_agree⟩

theorem evaluate_eq_of_fields_nested :
    let r : Record := [("a", .object [("b", .int 3)])]
    let r' : Record := [("c", .null), ("a.b", .int 3)]
    let e : Formula := binary .sub (field "a.b") (neg (field "a.b"))
    let f : Formula := binary .mul e (field "d")
    e.fields = ["a.b"] ∧ f.fields = ["a.b", "d"] ∧
      (∀ path ∈ f.fields, r.resolve path = r'.resolve path) ∧ e.evaluate r = e.evaluate r' ∧
      f.evaluate r = .error (.absent "d") ∧ f.evaluate r' = .error (.absent "d") := by
  intro r r' e f
  have fields : e.fields = ["a.b"] := by decide
  have fields' : f.fields = ["a.b", "d"] := by decide
  have found : r.resolve "a.b" = r'.resolve "a.b" := rfl
  have agree : ∀ path ∈ e.fields, r.resolve path = r'.resolve path := by
    rw [fields, List.forall_mem_singleton]
    exact found
  have agree' : ∀ path ∈ f.fields, r.resolve path = r'.resolve path := by
    rw [fields', List.forall_mem_cons, List.forall_mem_singleton]
    exact ⟨found, rfl⟩
  have failed : f.evaluate r = .error (.absent "d") := rfl
  obtain ⟨-, -, -, same⟩ := evaluate_eq_of_fields f
  refine ⟨fields, fields', agree', (evaluate_eq_of_fields e).2.2.2 r r' agree, failed, ?_⟩
  rw [← same r r' agree', failed]

end Formula

end Reshape
