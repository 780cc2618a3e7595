import Mathlib.Data.List.Forall2
import Reshape.Operator.Action
import Reshape.Proofs.Record.Path

namespace Reshape

namespace Unwinding

variable {u : Unwinding} {r row : Record}

theorem rows_of_items {items : List Value} (found : r.resolve u.path = some (.array items))
    (nonempty : items ≠ []) : u.rows r = items.map (r.setPath u.path) := by
  have all : u.items r = items := by rw [Unwinding.items, found]
  rw [rows, all]
  simp [nonempty]

theorem rows_of_no_items (h : ∀ items, r.resolve u.path = some (.array items) → items = []) :
    u.rows r = if u.preserveEmpty then [r.setPath u.path .null] else [] := by
  have empty : u.items r = [] := by
    rw [Unwinding.items]
    split
    · rename_i items found
      exact h items found
    · rfl
  rw [rows, empty]
  rfl

theorem exists_setPath_of_mem_rows (mem : row ∈ u.rows r) : ∃ v, row = r.setPath u.path v := by
  rw [rows] at mem
  split at mem
  · split at mem
    · exact ⟨.null, List.mem_singleton.mp mem⟩
    · cases mem
  · obtain ⟨item, -, same⟩ := List.mem_map.mp mem
    exact ⟨item, same.symm⟩

theorem preserveEmpty_of_mem_rows (absent : r.resolve u.path = none) (mem : row ∈ u.rows r) :
    u.preserveEmpty = true := by
  rw [rows_of_no_items (by simp [absent])] at mem
  split at mem
  · assumption
  · cases mem

/-- The rows that a record has to have. -/
structure IsBlock (u : Unwinding) (r : Record) (block : List Record) : Prop where
  /-- Each item stands in a row of its own, in their order. -/
  items : ∀ items, r.resolve u.path = some (.array items) → items ≠ [] →
    List.Forall₂ (fun item row => row.resolve u.path = some item) items block
  kept : (∀ items, r.resolve u.path = some (.array items) → items = []) →
    u.preserveEmpty = true → ∃ row, block = [row] ∧ row.resolve u.path = some .null
  dropped : (∀ items, r.resolve u.path = some (.array items) → items = []) →
    u.preserveEmpty = false → block = []
  /-- Nothing changes at a path of which neither is the beginning of the other. -/
  elsewhere : ∀ row ∈ block, ∀ q, ¬ segments u.path <+: segments q →
    ¬ segments q <+: segments u.path → row.resolve q = r.resolve q

theorem rows_isBlock (h : u.path ≠ "") (r : Record) : u.IsBlock r (u.rows r) where
  items items found nonempty := by
    rw [rows_of_items found nonempty, List.forall₂_map_right_iff, List.forall₂_same]
    exact fun item _ => Record.resolve_setPath r h item
  kept none preserve := by
    rw [rows_of_no_items none, if_pos preserve]
    exact ⟨_, rfl, Record.resolve_setPath r h .null⟩
  dropped none preserve := by
    rw [rows_of_no_items none, preserve]
    rfl
  elsewhere row mem q apart apart' := by
    obtain ⟨v, rfl⟩ := exists_setPath_of_mem_rows mem
    exact Record.resolve_setPath_of_apart r v apart apart'

/-- An unwound sequence is the blocks of its records one after another. -/
theorem apply_blocks (u : Unwinding) (h : u.path ≠ "") (context : Context) (rs : List Record) :
    ∃ blocks, (Operator.unwind u).apply context (.many rs) = .ok (.many blocks.flatten, []) ∧
      List.Forall₂ u.IsBlock rs blocks := by
  refine ⟨rs.map u.rows, rfl, ?_⟩
  rw [List.forall₂_map_right_iff, List.forall₂_same]
  exact fun r _ => rows_isBlock h r

theorem apply_blocks_lines :
    let u : Unwinding := ⟨"order.lines", true⟩
    let r : Record := [("order",
      .object [("no", .int 7), ("lines", .array [.string "a", .string "b"])])]
    let r' : Record := [("id", .int 2)]
    let next : List Record := [[("order", .object [("no", .int 7), ("lines", .string "a")])],
      [("order", .object [("no", .int 7), ("lines", .string "b")])]]
    let next' : List Record := [[("id", .int 2), ("order", .object [("lines", .null)])]]
    u.path ≠ "" ∧ ∀ context,
      (Operator.unwind u).apply context (.many [r, r']) = .ok (.many (next ++ next'), []) ∧
        ∃ block block', next ++ next' = block ++ block' ∧ u.IsBlock r block ∧
          u.IsBlock r' block' := by
  intro u r r' next next'
  have path : u.path ≠ "" := by decide
  have rows : u.rows r = next := by
    simp only [u, r, next]
    rfl
  have rows' : u.rows r' = next' := by
    simp only [u, r', next']
    rfl
  refine ⟨path, fun context => ?_⟩
  have result : (Operator.unwind u).apply context (.many [r, r']) =
      .ok (.many (next ++ next'), []) := by
    simp [Operator.apply, Operator.action, Action.apply, rows, rows']
  obtain ⟨blocks, applied, isBlock⟩ := apply_blocks u path context [r, r']
  obtain _ | ⟨first, _ | ⟨second, _ | _⟩⟩ := isBlock
  rw [result] at applied
  exact ⟨result, _, _, by simpa using applied, first, second⟩

/-- A path above the unwound one that leads to no record keeps its value in a row just if one of the
two paths is the dotted name of a field. Else it leads to a record in the row, which happens only
where the unwound path leads nowhere and the record is kept all the same. -/
theorem resolve_above_of_mem_rows (u : Unwinding) (r : Record) {q rest : String}
    (path : u.path = q ++ "." ++ rest) {v : Value} (found : r.resolve q = some v)
    (plain : v.asRecord? = none) {row : Record} (mem : row ∈ u.rows r) :
    (row.resolve q = some v ↔ r.contains u.path ∨ isDotted q ∧ r.contains q) ∧
      (¬ (r.contains u.path ∨ isDotted q ∧ r.contains q) →
        u.preserveEmpty = true ∧ r.resolve u.path = none ∧
          ∃ fields, row.resolve q = some (.object fields)) := by
  have nonempty : q ≠ "" := by
    rintro rfl
    cases found
  have preserved (absent : r.resolve u.path = none) := preserveEmpty_of_mem_rows absent mem
  obtain ⟨w, rfl⟩ := exists_setPath_of_mem_rows mem
  rw [path] at preserved ⊢
  refine ⟨⟨fun kept => ?_, fun named => ?_⟩, fun unnamed => ?_⟩
  · by_contra unnamed
    obtain ⟨fields, replaced⟩ := Record.resolve_setPath_above w nonempty unnamed
    rw [replaced] at kept
    cases kept
    cases plain
  · rw [Record.resolve_setPath_above_of_named w named, found]
  · have absent := Record.resolve_below_of_plain nonempty found plain unnamed
    exact ⟨preserved absent, absent, Record.resolve_setPath_above w nonempty unnamed⟩

theorem resolve_above_of_mem_rows_dotted :
    let u : Unwinding := ⟨"a.b.c", true⟩
    let r : Record := [("a.b", .string "x")]
    let row : Record := [("a.b", .string "x"), ("a", .object [("b", .object [("c", .null)])])]
    u.path = "a.b" ++ "." ++ "c" ∧ r.resolve "a.b" = some (.string "x") ∧
      (Value.string "x").asRecord? = none ∧ row ∈ u.rows r ∧
      row.resolve "a.b" = some (.string "x") := by
  intro u r row
  have path : u.path = "a.b" ++ "." ++ "c" := rfl
  have found : r.resolve "a.b" = some (.string "x") := rfl
  have rows : u.rows r = [row] := by
    simp only [u, r, row]
    rfl
  have mem : row ∈ u.rows r := by
    rw [rows]
    exact List.mem_singleton_self row
  refine ⟨path, found, rfl, mem, ?_⟩
  exact (resolve_above_of_mem_rows u r path found rfl mem).1.mpr (.inr ⟨rfl, rfl⟩)

/-- A number gives way to the record in which null is written. -/
theorem rows_replace_number :
    let u : Unwinding := ⟨"a.b", true⟩
    let r : Record := [("a", .int 5)]
    let row : Record := [("a", .object [("b", .null)])]
    u.path = "a" ++ "." ++ "b" ∧ r.resolve "a" = some (.int 5) ∧ u.rows r = [row] ∧
      row.resolve "a" = some (.object [("b", .null)]) ∧ row.resolve "a" ≠ some (.int 5) :=
  ⟨rfl, rfl, rfl, rfl, nofun⟩

end Unwinding

end Reshape
