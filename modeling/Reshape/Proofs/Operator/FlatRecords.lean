import Reshape.Proofs.Operator.Editing
import Reshape.Proofs.Operator.Flattening

namespace Reshape

structure Record.Flat (r : Record) : Prop where
  distinct : r.Distinct
  leaves : ∀ field ∈ r, field.2.isLeaf

mutual

theorem Value.isLeaf_of_mem_leaves : ∀ {v : Value} {leaf : List String × Value},
    leaf ∈ v.leaves → leaf.2.isLeaf
  | .object fields, leaf, mem => by
      by_cases none : fields.isEmpty
      · rw [Value.leaves, if_pos none] at mem
        cases List.mem_singleton.mp mem
        exact none
      · rw [Value.leaves, if_neg none] at mem
        exact Record.isLeaf_of_mem_leaves mem
  | .null, _, mem | .bool _, _, mem | .number _, _, mem | .string _, _, mem | .array _, _, mem => by
      cases List.mem_singleton.mp mem
      rfl

theorem Record.isLeaf_of_mem_leaves : ∀ {r : List (String × Value)} {leaf : List String × Value},
    leaf ∈ Record.leaves r → leaf.2.isLeaf
  | [], _, mem => absurd mem List.not_mem_nil
  | (name, v) :: rest, leaf, mem => by
      rw [Record.leaves, List.mem_append, List.mem_map] at mem
      rcases mem with ⟨below, here, rfl⟩ | later
      · have inner : below.2.isLeaf := Value.isLeaf_of_mem_leaves here
        exact inner
      · exact Record.isLeaf_of_mem_leaves later

end

theorem Record.leaves_of_isLeaf {r : Record} (h : ∀ field ∈ r, field.2.isLeaf) :
    leaves r = r.map fun field => ([field.1], field.2) := by
  induction r with
  | nil => rfl
  | cons field rest ih =>
      obtain ⟨here, later⟩ := List.forall_mem_cons.mp h
      rw [leaves, Value.leaves_of_isLeaf here, ih later]
      rfl

namespace Nesting

theorem leavesBelow_of_isLeaf {r : Record} (h : ∀ field ∈ r, field.2.isLeaf) (separator : String) :
    leavesBelow separator "" r = r := by
  rw [leavesBelow_eq, Record.leaves_of_isLeaf h, List.map_map]
  exact List.map_id r

theorem isLeaf_of_mem_leavesBelow {separator front : String} {fields : List (String × Value)}
    {field : String × Value} (h : field ∈ leavesBelow separator front fields) :
    field.2.isLeaf := by
  rw [leavesBelow_eq, List.mem_map] at h
  obtain ⟨leaf, mem, rfl⟩ := h
  exact Record.isLeaf_of_mem_leaves mem

theorem flatten_flat (separator : String) (r : Record) : (flatten separator r).Flat where
  distinct := Record.ofList_distinct _
  leaves _ mem := isLeaf_of_mem_leavesBelow (Record.mem_of_mem_ofList mem)

theorem flatten_eq_self_iff {separator : String} {r : Record} :
    flatten separator r = r ↔ r.Flat := by
  constructor
  · intro same
    rw [← same]
    exact flatten_flat separator r
  · intro flat
    rw [flatten, leavesBelow_of_isLeaf flat.leaves, Record.ofList_eq_self flat.distinct]

/-- Flattening leaves exactly the flat records as they are, whatever its separator is, and every
record is flat once it has been flattened. So a second step after a first one changes nothing, with
separators of their own or those of any settings. -/
theorem flatten_flatten :
    (∀ (s t : String) (r : Record), flatten t (flatten s r) = flatten s r) ∧
    (∀ (t : String) (r : Record), flatten t r = r ↔ r.Flat) ∧
    ∀ (own own' : Option String) (context context' : Context) (c : Collection),
      ∃ d, (Operator.flatten own).apply context c = .ok (d, []) ∧ (∀ r ∈ d.records, r.Flat) ∧
        (Operator.flatten own').apply context' d = .ok (d, []) := by
  refine ⟨fun s t r => flatten_eq_self_iff.mpr (flatten_flat s r),
    fun t r => flatten_eq_self_iff, fun own own' context context' c => ?_⟩
  have flat : ∀ r ∈ (c.map (flatten (own.getD context.settings.flattenSeparator))).records,
      r.Flat := by
    rw [Collection.records_map]
    exact List.forall_mem_map.mpr fun r _ => flatten_flat _ r
  have kept := Collection.map_eq_self (f := flatten (own'.getD context'.settings.flattenSeparator))
    fun r mem => flatten_eq_self_iff.mpr (flat r mem)
  refine ⟨_, Action.apply_each _ _ c, flat, ?_⟩
  rw [Operator.apply, Operator.action, Action.apply_each, kept]

/-- A way that joins to the name of a later field, and a name in front that is empty. -/
example :
    let r : Record := [("x", .object [("y", .int 1), ("z", .object [])]), ("", .object [("a", .null)]),
      ("x.y", .int 2)]
    let flat : Record := [("x.y", .int 2), ("x.z", .object []), ("a", .null)]
    flatten "." r = flat ∧ flatten "y" flat = flat := ⟨rfl, rfl⟩

end Nesting

end Reshape
