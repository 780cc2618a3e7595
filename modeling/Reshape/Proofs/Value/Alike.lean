import Mathlib.Data.List.Forall2
import Mathlib.Data.List.Perm.Subperm
import Reshape.Proofs.Decimal.Equality
import Reshape.Value.Order

namespace Reshape

namespace Number

def WellFormed : Number → Prop
  | int n => -0x8000000000000000 ≤ n ∧ n < 0x10000000000000000
  | float x => x.isFinite

def integer? : Number → Option Int
  | int n => some n
  | float x => Decimal.integer? x

end Number

namespace Value

inductive WellFormed : Value → Prop
  | null : WellFormed .null
  | bool (b : Bool) : WellFormed (.bool b)
  | number {n : Number} (size : n.WellFormed) : WellFormed (.number n)
  | string (s : String) : WellFormed (.string s)
  | array {items : List Value} (inner : ∀ v ∈ items, WellFormed v) : WellFormed (.array items)
  | object {fields : Record} (names : fields.Distinct)
      (inner : ∀ field ∈ fields, WellFormed field.2) : WellFormed (.object fields)

@[simp] theorem wellFormed_null : null.WellFormed := .null

@[simp] theorem wellFormed_bool (b : Bool) : (bool b).WellFormed := .bool b

@[simp] theorem wellFormed_string (s : String) : (string s).WellFormed := .string s

@[simp] theorem wellFormed_number_iff {n : Number} : (number n).WellFormed ↔ n.WellFormed := by
  constructor
  · intro h
    cases h with
    | number size => exact size
  · exact .number

@[simp] theorem wellFormed_array_iff {items : List Value} :
    (array items).WellFormed ↔ ∀ v ∈ items, v.WellFormed := by
  constructor
  · intro h
    cases h with
    | array inner => exact inner
  · exact .array

@[simp] theorem wellFormed_object_iff {fields : Record} :
    (object fields).WellFormed ↔ fields.Distinct ∧ ∀ field ∈ fields, field.2.WellFormed := by
  constructor
  · intro h
    cases h with
    | object names inner => exact ⟨names, inner⟩
  · exact fun h => .object h.1 h.2

inductive Alike : Value → Value → Prop
  | null : Alike .null .null
  | bool (b : Bool) : Alike (.bool b) (.bool b)
  | number {m n : Number} (equal : (m.toFloat == n.toFloat) = true) :
      Alike (.number m) (.number n)
  | string (s : String) : Alike (.string s) (.string s)
  | array {xs ys : List Value} (items : List.Forall₂ Alike xs ys) : Alike (.array xs) (.array ys)
  | object {xs ys : Record} (fields : ∀ name, Option.Rel Alike (xs.get? name) (ys.get? name)) :
      Alike (.object xs) (.object ys)

end Value

theorem rel_of_rel {α β : Type} {R S : α → β → Prop} {a : Option α} {b : Option β}
    (h : Option.Rel R a b) (imp : ∀ x y, a = some x → b = some y → R x y → S x y) :
    Option.Rel S a b := by
  cases h with
  | none => exact .none
  | some related => exact .some (imp _ _ rfl rfl related)

theorem structuralEqItems_iff {xs ys : List Value} :
    structuralEqItems xs ys = true ↔ List.Forall₂ (fun x y => structuralEq x y = true) xs ys := by
  induction xs generalizing ys with
  | nil => cases ys <;> simp [structuralEqItems]
  | cons x xs ih => cases ys <;> simp [structuralEqItems, ih]

theorem structuralEqFields_iff {xs : List (String × Value)} {ys : Record} :
    structuralEqFields xs ys = true ↔
      ∀ field ∈ xs, ∃ y, ys.get? field.1 = some y ∧ structuralEq field.2 y = true := by
  induction xs with
  | nil => simp [structuralEqFields]
  | cons field xs ih =>
      obtain ⟨name, x⟩ := field
      cases found : ys.get? name <;> simp [structuralEqFields, ih, found]

namespace Record

theorem mem_of_get? {r : Record} {name : String} {v : Value} (h : r.get? name = some v) :
    (name, v) ∈ r := by
  induction r with
  | nil => cases h
  | cons field rest ih =>
      obtain ⟨key, other⟩ := field
      rw [get?_cons] at h
      split at h
      · rename_i same
        cases h
        rw [same]
        exact List.mem_cons_self ..
      · exact List.mem_cons_of_mem _ (ih h)

theorem get?_of_mem {r : Record} (names : r.Distinct) {name : String} {v : Value}
    (h : (name, v) ∈ r) : r.get? name = some v := by
  induction r with
  | nil => cases h
  | cons field rest ih =>
      obtain ⟨key, other⟩ := field
      obtain ⟨absent, names⟩ := List.nodup_cons.mp names
      rw [get?_cons]
      rcases List.mem_cons.mp h with same | mem
      · cases same
        rw [if_pos rfl]
      · have other : key ≠ name := by
          rintro rfl
          exact absent (List.mem_map.mpr ⟨_, mem, rfl⟩)
        rw [if_neg other]
        exact ih names mem

theorem mem_iff_get? {r : Record} (names : r.Distinct) {name : String} {v : Value} :
    (name, v) ∈ r ↔ r.get? name = some v :=
  ⟨get?_of_mem names, mem_of_get?⟩

theorem get?_eq_none_iff {r : Record} {name : String} : r.get? name = none ↔ name ∉ r.keys := by
  rw [← get?_isSome, Option.not_isSome_iff_eq_none]

theorem keys_subset_of_structuralEqFields {xs ys : Record}
    (h : structuralEqFields xs ys = true) : xs.keys ⊆ ys.keys := by
  intro name member
  obtain ⟨field, mem, rfl⟩ := List.mem_map.mp member
  obtain ⟨y, found, -⟩ := structuralEqFields_iff.mp h field mem
  exact (get?_isSome ys field.1).mp (by rw [found]; rfl)

theorem keys_perm_of_subset {xs ys : Record} (names : xs.Distinct) (length : xs.length = ys.length)
    (h : xs.keys ⊆ ys.keys) : xs.keys.Perm ys.keys := by
  have shorter : ys.keys.length ≤ xs.keys.length := by
    simp [keys, length]
  exact (List.subperm_of_subset names h).perm_of_length_le shorter

end Record

namespace Value

theorem Alike.of_structuralEq {v w : Value} (left : v.WellFormed) (right : w.WellFormed)
    (h : structuralEq v w = true) : v.Alike w := by
  induction left generalizing w with
  | null =>
      cases w with
      | null => exact .null
      | _ => simp [structuralEq] at h
  | bool b =>
      cases w with
      | bool c =>
          obtain rfl : b = c := by simpa [structuralEq] using h
          exact .bool b
      | _ => simp [structuralEq] at h
  | @number m _ =>
      cases w with
      | number n => exact .number (by simpa only [structuralEq] using h)
      | _ => simp [structuralEq] at h
  | string s =>
      cases w with
      | string t =>
          obtain rfl : s = t := by simpa [structuralEq] using h
          exact .string s
      | _ => simp [structuralEq] at h
  | @array xs _ ih =>
      cases right with
      | @array ys inner =>
          have items := structuralEqItems_iff.mp (by simpa only [structuralEq] using h)
          obtain ⟨length, equal⟩ := List.forall₂_iff_zip.mp items
          refine .array (List.forall₂_iff_zip.mpr ⟨length, fun {x y} pair => ?_⟩)
          obtain ⟨mem, mem'⟩ := List.of_mem_zip pair
          exact ih x mem (inner y mem') (equal pair)
      | _ => simp [structuralEq] at h
  | @object xs names _ ih =>
      cases right with
      | @object ys _ inner =>
          simp only [structuralEq, Bool.and_eq_true, beq_iff_eq] at h
          obtain ⟨length, fields⟩ := h
          have covered := Record.keys_subset_of_structuralEqFields fields
          refine .object fun name => ?_
          cases found : xs.get? name with
          -- Only the fields of the first record are compared; the lengths rule out any others.
          | none =>
              have absent : ys.get? name = none := Record.get?_eq_none_iff.mpr fun mem =>
                Record.get?_eq_none_iff.mp found
                  ((Record.keys_perm_of_subset names length covered).mem_iff.mpr mem)
              rw [absent]
              exact .none
          | some x =>
              obtain ⟨y, found', equal⟩ :=
                structuralEqFields_iff.mp fields _ (Record.mem_of_get? found)
              rw [found']
              exact .some (ih _ (Record.mem_of_get? found) (inner _ (Record.mem_of_get? found')) equal)
      | _ => simp [structuralEq] at h

theorem Alike.isNull {v w : Value} (h : v.Alike w) : v.isNull = w.isNull := by
  cases h <;> rfl

def part? : Value → List String → Option Value
  | v, [] => some v
  | .object fields, name :: names => (Record.get? fields name).bind fun v => v.part? names
  | _, _ :: _ => none

theorem part?_name (fields : Record) (name : String) :
    (object fields).part? [name] = fields.get? name := by
  rw [part?]
  cases fields.get? name <;> rfl

theorem part?_cons {v w : Value} {name : String} (h : v.part? [name] = some w)
    (names : List String) : v.part? (name :: names) = w.part? names := by
  cases v with
  | object fields =>
      rw [part?_name] at h
      rw [part?, h]
      rfl
  | _ => cases h

def names : Value → List String
  | .object fields => Record.keys fields
  | _ => []

def SameIntegers (v w : Value) : Prop :=
  ∀ place m n, v.part? place = some (.number m) → w.part? place = some (.number n) →
    m.integer? = n.integer?

theorem SameIntegers.string (s : String) (w : Value) : (Value.string s).SameIntegers w := by
  intro place m n here _
  cases place with
  | nil => cases here
  | cons name names => cases here

theorem SameIntegers.object {xs ys : Record}
    (fields : ∀ name v w, xs.get? name = some v → ys.get? name = some w → v.SameIntegers w) :
    (Value.object xs).SameIntegers (Value.object ys) := by
  intro place m n here there
  cases place with
  | nil => cases here
  | cons name names =>
      rw [part?] at here there
      obtain ⟨v, found, here⟩ := Option.bind_eq_some_iff.mp here
      obtain ⟨w, found', there⟩ := Option.bind_eq_some_iff.mp there
      exact fields name v w found found' names m n here there

/-- The second value is the first one with its fields in another order and its numbers spelled
otherwise. -/
structure Respelled (v w : Value) : Prop where
  alike : v.Alike w
  left : v.WellFormed
  right : w.WellFormed
  integers : SameIntegers v w

theorem WellFormed.field {fields : Record} {name : String} {v : Value}
    (h : (Value.object fields).WellFormed) (found : fields.get? name = some v) : v.WellFormed :=
  (wellFormed_object_iff.mp h).2 _ (Record.mem_of_get? found)

theorem WellFormed.names {fields : Record} (h : (Value.object fields).WellFormed) :
    fields.Distinct :=
  (wellFormed_object_iff.mp h).1

theorem Respelled.fields {xs ys : Record} (h : (object xs).Respelled (object ys)) (name : String) :
    Option.Rel Respelled (xs.get? name) (ys.get? name) := by
  cases h.alike with
  | object fields =>
      refine rel_of_rel (fields name) fun v w found found' alike => ?_
      refine ⟨alike, h.left.field found, h.right.field found', ?_⟩
      intro place m n here there
      rw [← part?_name] at found found'
      exact h.integers (name :: place) m n ((part?_cons found place).trans here)
        ((part?_cons found' place).trans there)

theorem Respelled.pairs {xs ys : Record} (h : (object xs).Respelled (object ys))
    (order : xs.keys = ys.keys) :
    List.Forall₂ (fun f g => f.1 = g.1 ∧ xs.get? f.1 = some f.2 ∧ ys.get? g.1 = some g.2 ∧
      f.2.Respelled g.2) xs ys := by
  have names : List.Forall₂ (fun f g => f.1 = g.1) xs ys := by
    have same : List.Forall₂ Eq xs.keys ys.keys := by
      rw [List.forall₂_eq_eq_eq]
      exact order
    exact List.forall₂_map_left_iff.mp (List.forall₂_map_right_iff.mp same)
  obtain ⟨length, names⟩ := List.forall₂_iff_zip.mp names
  refine List.forall₂_iff_zip.mpr ⟨length, fun {f g} pair => ?_⟩
  obtain ⟨mem, mem'⟩ := List.of_mem_zip pair
  have name := names pair
  have found := Record.get?_of_mem h.left.names mem
  have found' := Record.get?_of_mem h.right.names mem'
  have fields := h.fields f.1
  rw [found, name, found'] at fields
  cases fields with
  | some respelled => exact ⟨name, found, found', respelled⟩

theorem Respelled.number_integer? {m n : Number} (h : (number m).Respelled (number n)) :
    m.integer? = n.integer? :=
  h.integers [] m n rfl rfl

end Value

end Reshape
