import Reshape.Operator.Projection
import Reshape.Proofs.Record.Fields

namespace Reshape

namespace Projection

variable {renames : List (String × String)} {name : String}

def renamed (renames : List (String × String)) (field : String × Value) : String × Value :=
  (newName renames field.1, field.2)

theorem rename_eq (renames : List (String × String)) (r : Record) :
    rename renames r = .ofList (r.map (renamed renames)) := rfl

theorem newName_of_notMem (h : name ∉ renames.map Prod.fst) : newName renames name = name := by
  have absent : renames.lookup name = none := by
    rw [List.lookup_eq_none_iff]
    intro pair mem
    rw [bne_iff_ne]
    rintro rfl
    exact h (List.mem_map_of_mem mem)
  rw [newName, absent, Option.getD_none]

theorem newName_of_mem (different : (renames.map Prod.fst).Nodup) {new : String}
    (mem : (name, new) ∈ renames) : newName renames name = new := by
  have found : renames.lookup name = some new := by
    obtain ⟨front, back, rfl⟩ := List.append_of_mem mem
    rw [List.map_append, List.map_cons, List.nodup_middle, List.nodup_cons] at different
    rw [List.lookup_eq_some_iff]
    refine ⟨front, back, rfl, fun pair earlier => ?_⟩
    rw [bne_iff_ne]
    rintro rfl
    have named : pair.1 ∈ front.map Prod.fst := List.mem_map_of_mem earlier
    exact different.1 (List.mem_append_left _ named)
  rw [newName, found, Option.getD_some]

theorem pair_mem_of_mem (h : name ∈ renames.map Prod.fst) :
    (name, newName renames name) ∈ renames := by
  cases found : renames.lookup name with
  | none =>
      rw [List.lookup_eq_none_iff] at found
      obtain ⟨pair, mem, rfl⟩ := List.mem_map.mp h
      exact absurd (found pair mem) (by simp)
  | some new =>
      obtain ⟨front, back, parts, -⟩ := List.lookup_eq_some_iff.mp found
      rw [newName, found, Option.getD_some, parts]
      simp

/-- The new names are different, and none of them is the name of a field that keeps its own. -/
structure Invertible (renames : List (String × String)) (r : Record) : Prop where
  different : (renames.map Prod.snd).Nodup
  free : ∀ name ∈ r.keys, name ∉ renames.map Prod.fst → name ∉ renames.map Prod.snd

namespace Invertible

variable {r : Record} (h : Invertible renames r)

include h

theorem newName_swap (mem : name ∈ r.keys) :
    newName (renames.map Prod.swap) (newName renames name) = name := by
  have olds : (renames.map Prod.swap).map Prod.fst = renames.map Prod.snd := by
    rw [List.map_map]
    rfl
  by_cases mapped : name ∈ renames.map Prod.fst
  · refine newName_of_mem (olds ▸ h.different) ?_
    exact List.mem_map_of_mem (f := Prod.swap) (pair_mem_of_mem mapped)
  · rw [newName_of_notMem mapped, newName_of_notMem (olds ▸ h.free name mem mapped)]

theorem map_renamed_swap : (r.map (renamed renames)).map (renamed (renames.map Prod.swap)) = r := by
  rw [List.map_map]
  refine (List.map_congr_left fun field mem => ?_).trans (List.map_id r)
  exact Prod.ext (h.newName_swap (List.mem_map_of_mem mem)) rfl

theorem rename_eq_map (distinct : r.Distinct) : rename renames r = r.map (renamed renames) := by
  rw [rename_eq]
  refine Record.ofList_eq_self (List.Nodup.of_map (newName (renames.map Prod.swap)) ?_)
  -- Two fields with one new name would have had one name before.
  have names : (Record.keys (r.map (renamed renames))).map (newName (renames.map Prod.swap)) =
      Record.keys ((r.map (renamed renames)).map (renamed (renames.map Prod.swap))) := by
    simp only [Record.keys, List.map_map]
    rfl
  rw [names, h.map_renamed_swap]
  exact distinct

end Invertible

/-- If the new names are different and free, then renaming keeps the fields with their values in
their order, and renaming by the inverse map gives the record back. -/
theorem rename_inverse {r : Record} (distinct : r.Distinct) (h : Invertible renames r) :
    (rename renames r).length = r.length ∧
      (rename renames r).keys = r.keys.map (newName renames) ∧
      (rename renames r).map Prod.snd = r.map Prod.snd ∧
      rename (renames.map Prod.swap) (rename renames r) = r := by
  rw [h.rename_eq_map distinct]
  refine ⟨List.length_map _, ?_, ?_, ?_⟩
  · rw [Record.keys, Record.keys, List.map_map, List.map_map]
    rfl
  · rw [List.map_map]
    rfl
  · rw [rename_eq, h.map_renamed_swap, Record.ofList_eq_self distinct]

theorem rename_inverse_swap :
    let renames := [("a", "b"), ("b", "a"), ("c", "d"), ("d", "e")]
    let r : Record := [("a", .int 1), ("c", .int 2), ("x", .null), ("b", .int 3), ("d", .int 4)]
    let out : Record := [("b", .int 1), ("d", .int 2), ("x", .null), ("a", .int 3), ("e", .int 4)]
    r.Distinct ∧ Invertible renames r ∧ rename renames r = out ∧ out.length = r.length ∧
      out.map Prod.snd = r.map Prod.snd ∧ rename (renames.map Prod.swap) out = r := by
  intro renames r out
  have distinct : r.Distinct := by decide
  have invertible : Invertible renames r := ⟨by decide, by decide⟩
  have same : rename renames r = out := rfl
  obtain ⟨length, -, values, back⟩ := rename_inverse distinct invertible
  rw [same] at length values back
  exact ⟨distinct, invertible, same, length, values, back⟩

def takers (renames : List (String × String)) (name : String) (fields : Record) : List Value :=
  fields.filterMap fun field => if renames.lookup field.1 = some name then some field.2 else none

theorem newName_eq_iff {other : String} (h : other ≠ name) :
    newName renames other = name ↔ renames.lookup other = some name := by
  rw [newName]
  cases renames.lookup other with
  | none => simp [h]
  | some new => simp

theorem getLast?_takers {fields : Record} (absent : name ∉ fields.keys) :
    (fields.map (renamed renames)).reverse.lookup name = (takers renames name fields).getLast? := by
  rw [List.lookup_eq_findSome?, ← List.getLast?_filterMap, List.filterMap_map, takers]
  congr 1
  refine List.filterMap_congr fun field mem => ?_
  have other : field.1 ≠ name := by
    rintro rfl
    exact absent (List.mem_map_of_mem mem)
  have taken : newName renames field.1 = name ↔ renames.lookup field.1 = some name :=
    newName_eq_iff other
  simp only [Function.comp_apply, renamed, beq_iff_eq, eq_comm (a := name), taken]

section Unmapped

variable {front back : Record} {v : Value} (unmapped : name ∉ renames.map Prod.fst)

include unmapped

theorem get?_rename (absent : name ∉ back.keys) :
    (rename renames (front ++ (name, v) :: back)).get? name =
      some ((takers renames name back).getLast?.getD v) := by
  have kept : renamed renames (name, v) = (name, v) := by
    rw [renamed, newName_of_notMem unmapped]
  rw [rename_eq, Record.get?_ofList, List.map_append, List.map_cons, kept, List.reverse_append,
    List.reverse_cons, List.append_assoc, List.lookup_append, getLast?_takers absent,
    List.singleton_append, List.lookup_cons_self]
  cases (takers renames name back).getLast? <;> rfl

/-- A field that is not renamed is there afterwards, under its name. It has its own value exactly if
the last of the fields behind it that are renamed to its name, if there is one, holds the same. -/
theorem get?_rename_unmapped (distinct : Record.Distinct (front ++ (name, v) :: back)) :
    name ∈ (rename renames (front ++ (name, v) :: back)).keys ∧
      ((rename renames (front ++ (name, v) :: back)).get? name = some v ↔
        ∀ w, (takers renames name back).getLast? = some w → w = v) := by
  have absent : name ∉ back.keys := by
    rw [Record.Distinct, Record.keys, List.map_append, List.map_cons, List.nodup_middle,
      List.nodup_cons] at distinct
    exact fun mem => distinct.1 (List.mem_append_right _ mem)
  have found : (rename renames (front ++ (name, v) :: back)).get? name =
      some ((takers renames name back).getLast?.getD v) := get?_rename unmapped absent
  refine ⟨(Record.get?_isSome _ _).mp (by rw [found]; rfl), ?_⟩
  rw [found]
  cases (takers renames name back).getLast? with
  | none => simp
  | some w => simp

end Unmapped

theorem get?_rename_unmapped_twice :
    let renames := [("a", "b"), ("c", "b")]
    let r : Record := [("x", .null), ("b", .int 1), ("a", .int 2), ("c", .int 1)]
    "b" ∉ renames.map Prod.fst ∧ r.Distinct ∧
      takers renames "b" [("a", .int 2), ("c", .int 1)] = [.int 2, .int 1] ∧
      "b" ∈ (rename renames r).keys ∧ (rename renames r).get? "b" = some (.int 1) := by
  intro renames r
  have unmapped : "b" ∉ renames.map Prod.fst := by decide
  have distinct : Record.Distinct
      ([("x", .null)] ++ ("b", .int 1) :: [("a", .int 2), ("c", .int 1)]) := by decide
  obtain ⟨named, kept⟩ := get?_rename_unmapped unmapped distinct
  exact ⟨unmapped, distinct, rfl, named, kept.mpr fun w last => (Option.some.inj last).symm⟩

/-- A field that is renamed replaces one before it that is not. -/
theorem rename_replaces_unmapped :
    let r : Record := [("b", .int 2), ("a", .int 1)]
    r.Distinct ∧ "b" ∉ [("a", "b")].map Prod.fst ∧ r.get? "b" = some (.int 2) ∧
      rename [("a", "b")] r = [("b", .int 1)] ∧
      (rename [("a", "b")] r).get? "b" ≠ some (.int 2) := by
  intro r
  have distinct : r.Distinct := by decide
  refine ⟨distinct, by decide, rfl, rfl, ?_⟩
  have read : (rename [("a", "b")] r).get? "b" = some (.int 1) := rfl
  rw [read]
  simp [Value.int]

end Projection

end Reshape
