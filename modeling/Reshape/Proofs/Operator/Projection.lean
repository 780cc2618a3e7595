import Reshape.Operator.Projection
import Reshape.Proofs.Record.Fields

namespace Reshape

namespace Projection

theorem get?_select (paths : List String) (r : Record) (name : String) :
    (select paths r).get? name = if name ∈ paths then r.resolve name else none := by
  have written (field : String × Value) :
      field ∈ (paths.filterMap fun path => (r.resolve path).map fun v => (path, v)) ↔
        field.1 ∈ paths ∧ r.resolve field.1 = some field.2 := by
    simp only [List.mem_filterMap, Option.map_eq_some_iff]
    constructor
    · rintro ⟨path, mem, v, found, rfl⟩
      exact ⟨mem, found⟩
    · rintro ⟨mem, found⟩
      exact ⟨field.1, mem, field.2, found, rfl⟩
  have absent (h : ¬ (name ∈ paths ∧ (r.resolve name).isSome)) :
      (select paths r).get? name = none := by
    refine Record.get?_foldl_of_notMem fun named => h ?_
    obtain ⟨field, mem, rfl⟩ := List.mem_map.mp named
    obtain ⟨mem, found⟩ := (written field).mp mem
    exact ⟨mem, by rw [found]; rfl⟩
  by_cases mem : name ∈ paths
  · rw [if_pos mem]
    cases found : r.resolve name with
    | none => exact absent fun both => by simp [found] at both
    | some v =>
        refine Record.get?_foldl_of_mem ((written (name, v)).mpr ⟨mem, found⟩) fun w other => ?_
        exact Option.some.inj (((written (name, w)).mp other).2.symm.trans found)
  · rw [if_neg mem]
    exact absent fun both => mem both.1

theorem resolve_select {paths : List String} {r : Record} {p : String} {v : Value}
    (nonempty : p ≠ "") (mem : p ∈ paths) (found : r.resolve p = some v) :
    (select paths r).resolve p = some v := by
  rw [Record.resolve, if_neg nonempty, get?_select, if_pos mem, found]
  rfl

/-- No other path is the beginning of the path or goes on from it. -/
def StandsAlone (paths : List String) (p : String) : Prop :=
  ∀ other ∈ paths, other ≠ p → ¬ segments other <+: segments p ∧ ¬ segments p <+: segments other

section Below

variable {paths : List String} {p : String} (alone : StandsAlone paths p) (r : Record) (q : String)

include alone

theorem get?_select_below : (select paths r).get? (p ++ "." ++ q) = none := by
  rw [get?_select, if_neg]
  intro mem
  have longer : p ++ "." ++ q ≠ p := by
    intro same
    have parts := segments_below p q
    rw [same, List.self_eq_append_right] at parts
    exact segments_ne_nil q parts
  refine (alone _ mem longer).2 ?_
  rw [segments_below]
  exact List.prefix_append _ _

theorem resolve_select_below_dotted (dotted : isDotted p) :
    (select paths r).resolve (p ++ "." ++ q) = none := by
  obtain ⟨name, next, names, parts, other⟩ := segments_of_isDotted dotted
  have first : name ∈ segments p := by simp [parts]
  have plain : ¬ isDotted name := not_isDotted_of_mem_segments first
  have absent : (select paths r).get? name = none := by
    rw [get?_select, if_neg]
    intro mem
    refine (alone name mem other).1 ?_
    rw [segments_of_not_isDotted plain, parts]
    exact List.prefix_append [name] (next :: names)
  rw [Record.resolve_below, get?_select_below alone, parts, List.cons_append, List.cons_append,
    Record.walk, absent]
  rfl

theorem resolve_select_below_plain (plain : ¬ isDotted p) (mem : p ∈ paths) {inner : Record}
    (object : r.resolve p = some (.object inner)) :
    (select paths r).resolve (p ++ "." ++ q) = inner.walk (segments q) := by
  have found : (select paths r).get? p = some (.object inner) := by
    rw [get?_select, if_pos mem, object]
  rw [Record.resolve_below, get?_select_below alone, segments_of_not_isDotted plain,
    List.singleton_append, Record.walk_below (segments_ne_nil q) found]
  rfl

end Below

/-- A selected path reads as before. If it has one name, then so does what is below it, unless a field
of the record has the longer path for its name and holds something else. -/
theorem resolve_select_below {paths : List String} {r inner : Record} {p q : String} {v : Value}
    (nonempty : p ≠ "") (mem : p ∈ paths) (alone : StandsAlone paths p)
    (object : r.resolve p = some (.object inner))
    (present : r.resolve (p ++ "." ++ q) = some v) :
    (select paths r).resolve p = r.resolve p ∧
      (¬ isDotted p →
        ((select paths r).resolve (p ++ "." ++ q) = r.resolve (p ++ "." ++ q) ↔
          (r.contains (p ++ "." ++ q) → inner.walk (segments q) = some v))) := by
  refine ⟨?_, fun plain => ?_⟩
  · rw [object, resolve_select nonempty mem object]
  · rw [resolve_select_below_plain alone r q plain mem object, present]
    refine ⟨fun same _ => same, fun literal => ?_⟩
    by_cases named : r.contains (p ++ "." ++ q)
    · exact literal named
    · have found : r.get? p = some (.object inner) := by
        rw [← Record.resolve_of_not_isDotted r nonempty plain, object]
      rw [Record.resolve_below, Record.get?_eq_none named, Option.none_or,
        segments_of_not_isDotted plain, List.singleton_append,
        Record.walk_below (segments_ne_nil q) found] at present
      exact present

theorem resolve_select_below_city :
    let r : Record := [("user", .object [("address", .object [("city", .string "Oslo")])]),
      ("id", .int 7), ("user.name", .string "A")]
    "user" ≠ "" ∧ "user" ∈ ["user", "id"] ∧ StandsAlone ["user", "id"] "user" ∧
      r.resolve "user" = some (.object [("address", .object [("city", .string "Oslo")])]) ∧
      r.resolve ("user" ++ "." ++ "address.city") = some (.string "Oslo") ∧
      ¬ isDotted "user" ∧
      (select ["user", "id"] r).resolve ("user" ++ "." ++ "address.city") =
        some (.string "Oslo") := by
  intro r
  have nonempty : "user" ≠ "" := by decide
  have mem : "user" ∈ ["user", "id"] := by decide
  have alone : StandsAlone ["user", "id"] "user" := by
    unfold StandsAlone
    decide
  have object : r.resolve "user" =
      some (.object [("address", .object [("city", .string "Oslo")])]) := rfl
  have present : r.resolve ("user" ++ "." ++ "address.city") = some (.string "Oslo") := rfl
  have plain : ¬ isDotted "user" := by decide
  have absent : ¬ r.contains ("user" ++ "." ++ "address.city") := by decide
  refine ⟨nonempty, mem, alone, object, present, plain, ?_⟩
  obtain ⟨-, below⟩ := resolve_select_below nonempty mem alone object present
  rw [(below plain).mpr fun named => absurd named absent, present]

/-- Below a path of two names nothing is found after a selection; and a field that has the longer path
for its name hides what is below a path before a selection, but not after it. -/
theorem select_loses_below :
    let r : Record := [("user", .object [("address", .object [("city", .string "Oslo")])])]
    let s : Record := [("a", .object [("b", .int 1)]), ("a.b", .int 2)]
    (StandsAlone ["user.address"] "user.address" ∧
      r.resolve "user.address" = some (.object [("city", .string "Oslo")]) ∧
      r.resolve ("user.address" ++ "." ++ "city") = some (.string "Oslo") ∧
      (select ["user.address"] r).resolve ("user.address" ++ "." ++ "city") = none) ∧
    (StandsAlone ["a"] "a" ∧ s.resolve "a" = some (.object [("b", .int 1)]) ∧
      s.resolve ("a" ++ "." ++ "b") = some (.int 2) ∧
      (select ["a"] s).resolve ("a" ++ "." ++ "b") = some (.int 1)) := by
  intro r s
  have alone : StandsAlone ["user.address"] "user.address" := by simp [StandsAlone]
  have alone' : StandsAlone ["a"] "a" := by simp [StandsAlone]
  have dotted : isDotted "user.address" := by decide
  have plain : ¬ isDotted "a" := by decide
  exact ⟨⟨alone, rfl, rfl, resolve_select_below_dotted alone r "city" dotted⟩,
    alone', rfl, rfl, resolve_select_below_plain alone' s "b" plain (List.mem_singleton_self _) rfl⟩

end Projection

end Reshape
