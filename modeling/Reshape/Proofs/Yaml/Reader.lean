import Reshape.Proofs.Record.Fields
import Reshape.Proofs.Value.Alike
import Reshape.Yaml.Reader

namespace Reshape

namespace Record

theorem ofList_wellFormed {fields : List (String × Value)}
    (h : ∀ field ∈ fields, field.2.WellFormed) : (Value.object (ofList fields)).WellFormed :=
  .object (ofList_distinct fields) fun field mem => h field (mem_of_mem_ofList mem)

end Record

namespace Yaml

theorem floatValue_wellFormed (x : Float) : (floatValue x).WellFormed := by
  unfold floatValue
  split
  · rename_i finite
    exact .number finite
  · exact .null

theorem integerValue?_wellFormed {n : Int} {v : Value} (h : integerValue? n = some v) :
    v.WellFormed := by
  unfold integerValue? at h
  split at h
  · rename_i fits
    cases h
    simpa [fitsValue, Value.int, Number.WellFormed] using fits
  · cases h

theorem coreValue?_wellFormed {s : String} {v : Value} (h : coreValue? s = some v) :
    v.WellFormed := by
  unfold coreValue? at h
  dsimp only at h
  split at h
  · cases h; exact .null
  · split at h
    · cases h; exact .bool _
    · split at h
      · exact integerValue?_wellFormed h
      · split at h
        · cases h; exact .string s
        · split at h
          · cases h; exact floatValue_wellFormed _
          · cases h; exact .string s

theorem scalarValue?_wellFormed {tag : Option String} {isPlain : Bool} {text : String} {v : Value}
    (h : scalarValue? tag isPlain text = some v) : v.WellFormed := by
  unfold scalarValue? at h
  split at h
  · split at h
    · exact coreValue?_wellFormed h
    · cases h; exact .string text
  · split at h
    · cases h
    · split at h
      · obtain ⟨b, -, rfl⟩ := Option.map_eq_some_iff.mp h
        exact .bool b
      · split at h
        · obtain ⟨n, -, value⟩ := Option.bind_eq_some_iff.mp h
          exact integerValue?_wellFormed value
        · split at h
          · obtain ⟨x, -, rfl⟩ := Option.map_eq_some_iff.mp h
            exact floatValue_wellFormed x
          · split at h
            · split at h
              · cases h; exact .null
              · cases h
            · cases h; exact .string text

section Valuing

variable {α β : Type} {used used' : Nat}

theorem bind_eq_some {x : Valuing α} {f : α → Valuing β} {b : β}
    (h : (x >>= f) used = some (b, used')) :
    ∃ a between, x used = some (a, between) ∧ f a between = some (b, used') := by
  obtain ⟨⟨a, between⟩, first, next⟩ := Option.bind_eq_some_iff.mp h
  exact ⟨a, between, first, next⟩

theorem exists_of_mem_mapM {f : α → Valuing β} {xs : List α} {ys : List β}
    (h : xs.mapM f used = some (ys, used')) :
    ∀ y ∈ ys, ∃ x before after, f x before = some (y, after) := by
  induction xs generalizing used ys with
  | nil =>
      rw [List.mapM_nil] at h
      cases h
      exact List.forall_mem_nil _
  | cons x xs ih =>
      rw [List.mapM_cons] at h
      obtain ⟨y, between, first, h⟩ := bind_eq_some h
      obtain ⟨others, after, rest, h⟩ := bind_eq_some h
      cases h
      exact List.forall_mem_cons.mpr ⟨⟨x, used, between, first⟩, ih rest⟩

end Valuing

theorem scalar_wellFormed {tag : Option String} {isPlain : Bool} {text : String}
    {used used' : Nat} {v : Value}
    (h : (liftM (scalarValue? tag isPlain text) : Valuing Value) used = some (v, used')) :
    v.WellFormed := by
  obtain ⟨w, value, same⟩ := Option.bind_eq_some_iff.mp h
  cases same
  exact scalarValue?_wellFormed value

theorem nodeValue_wellFormed {aliases : Aliases} {depth : Nat} {n : Node} {used used' : Nat}
    {v : Value} (h : nodeValue aliases depth n used = some (v, used')) : v.WellFormed := by
  -- The depth falls at each collection; an alias is replaced before it is looked at.
  induction depth generalizing n used used' v with
  | zero =>
      unfold nodeValue at h
      obtain ⟨m, between, -, h⟩ := bind_eq_some h
      cases m with
      | scalar anchor tag isPlain text => exact scalar_wellFormed h
      | _ => cases h
  | succ inner ih =>
      unfold nodeValue at h
      obtain ⟨m, between, -, h⟩ := bind_eq_some h
      cases m with
      | scalar anchor tag isPlain text => exact scalar_wellFormed h
      | sequence anchor tag items =>
          dsimp only at h
          split at h
          · cases h
          · obtain ⟨values, after, items, h⟩ := bind_eq_some h
            cases h
            refine .array fun v mem => ?_
            obtain ⟨x, before, after, read⟩ := exists_of_mem_mapM items v mem
            exact ih read
      | mapping anchor tag entries =>
          dsimp only at h
          split at h
          · cases h
          · obtain ⟨fields, after, entries, h⟩ := bind_eq_some h
            cases h
            refine Record.ofList_wellFormed fun field mem => ?_
            obtain ⟨⟨key, value⟩, before, after, read⟩ := exists_of_mem_mapM entries field mem
            obtain ⟨name, _, -, read⟩ := bind_eq_some read
            obtain ⟨w, _, value, read⟩ := bind_eq_some read
            cases read
            exact ih value
      | reference anchor => cases h

/-- The numbers of a value that is read fit, and no record has a name twice. -/
theorem read?_wellFormed {text : String} {v : Value} (h : read? text = some v) : v.WellFormed := by
  unfold read? at h
  obtain ⟨prepared, -, h⟩ := Option.bind_eq_some_iff.mp h
  obtain ⟨tokens, -, h⟩ := Option.bind_eq_some_iff.mp h
  obtain ⟨root, -, h⟩ := Option.bind_eq_some_iff.mp h
  cases root with
  | none =>
      cases h
      exact .null
  | some n =>
      obtain ⟨⟨w, used⟩, read, rfl⟩ := Option.map_eq_some_iff.mp h
      exact nodeValue_wellFormed read

end Yaml

end Reshape
