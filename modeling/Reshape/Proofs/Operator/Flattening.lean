import Reshape.Operator.Nesting
import Reshape.Proofs.Record.Fields
import Reshape.Proofs.Value.Alike

namespace Reshape

def Value.isLeaf : Value → Bool
  | .object fields => fields.isEmpty
  | _ => true

mutual

def Value.leaves : Value → List (List String × Value)
  | .object fields => if fields.isEmpty then [([], .object fields)] else Record.leaves fields
  | v => [([], v)]

def Record.leaves : List (String × Value) → List (List String × Value)
  | [] => []
  | (name, v) :: rest =>
    v.leaves.map (fun leaf => (name :: leaf.1, leaf.2)) ++ Record.leaves rest

end

inductive Value.Named (P : String → Prop) : Value → Prop
  | leaf {v : Value} (h : v.isLeaf) : Named P v
  | object {fields : Record} (names : ∀ name ∈ fields.keys, P name)
      (inner : ∀ field ∈ fields, Named P field.2) : Named P (.object fields)

namespace Value

theorem eq_object_of_not_isLeaf {v : Value} (h : ¬ v.isLeaf) :
    ∃ fields, v = .object fields ∧ v.leaves = Record.leaves fields := by
  cases v with
  | object fields =>
      have some : ¬ fields.isEmpty := h
      exact ⟨fields, rfl, by rw [leaves, if_neg some]⟩
  | _ => exact absurd rfl h

theorem leaves_of_isLeaf {v : Value} (h : v.isLeaf) : v.leaves = [([], v)] := by
  cases v with
  | object fields =>
      have none : fields.isEmpty := h
      rw [leaves, if_pos none]
  | _ => rfl

theorem mem_leaves {v : Value} {leaf : List String × Value} :
    leaf ∈ v.leaves ↔ (v.isLeaf ∧ leaf = ([], v)) ∨
      ∃ fields, v = .object fields ∧ leaf ∈ Record.leaves fields := by
  by_cases h : v.isLeaf
  · have none : ¬ ∃ fields, v = .object fields ∧ leaf ∈ Record.leaves fields := by
      rintro ⟨fields, rfl, mem⟩
      obtain rfl : fields = [] := List.isEmpty_iff.mp h
      exact absurd mem List.not_mem_nil
    simp [leaves_of_isLeaf h, h, none]
  · obtain ⟨fields, rfl, same⟩ := eq_object_of_not_isLeaf h
    simp [same, h]

end Value

namespace Record

theorem mem_leaves {r : Record} {leaf : List String × Value} :
    leaf ∈ leaves r ↔ ∃ field ∈ r, ∃ below ∈ field.2.leaves,
      leaf = (field.1 :: below.1, below.2) := by
  induction r with
  | nil => simp [leaves]
  | cons field rest ih =>
      simp only [leaves, List.mem_append, List.mem_map, ih, List.exists_mem_cons_iff, eq_comm]

theorem ne_nil_of_mem_leaves {r : Record} {names : List String} {v : Value}
    (h : (names, v) ∈ leaves r) : names ≠ [] := by
  obtain ⟨field, -, below, -, same⟩ := mem_leaves.mp h
  cases same
  exact List.cons_ne_nil _ _

theorem cons_mem_leaves {r : Record} (distinct : r.Distinct) {name : String} {names : List String}
    {v : Value} :
    (name :: names, v) ∈ leaves r ↔ ∃ w, r.get? name = some w ∧ (names, v) ∈ w.leaves := by
  simp only [mem_leaves, ← mem_iff_get? distinct]
  constructor
  · rintro ⟨⟨key, w⟩, mem, ⟨below, leaf⟩, found, same⟩
    cases same
    exact ⟨w, mem, found⟩
  · rintro ⟨w, mem, found⟩
    exact ⟨(name, w), mem, (names, v), found, rfl⟩

end Record

namespace Value

theorem nil_mem_leaves {v w : Value} : ([], v) ∈ w.leaves ↔ w.isLeaf ∧ v = w := by
  rw [mem_leaves]
  constructor
  · rintro (⟨leaf, same⟩ | ⟨fields, -, mem⟩)
    · cases same
      exact ⟨leaf, rfl⟩
    · exact absurd rfl (Record.ne_nil_of_mem_leaves mem)
  · rintro ⟨leaf, rfl⟩
    exact .inl ⟨leaf, rfl⟩

theorem cons_mem_leaves {w v : Value} {name : String} {names : List String} :
    (name :: names, v) ∈ w.leaves ↔
      ∃ fields, w = .object fields ∧ (name :: names, v) ∈ Record.leaves fields := by
  simp [mem_leaves]

end Value

namespace Record

theorem mem_leaves_iff {r : Record} (formed : (Value.object r).WellFormed) {names : List String}
    {v : Value} : (names, v) ∈ leaves r ↔ r.walk names = some v ∧ v.isLeaf := by
  -- The first name leads to a field, and the others lead on only if it holds a record.
  induction names generalizing r with
  | nil => simp [mem_leaves, walk]
  | cons name names ih =>
      rw [cons_mem_leaves (Value.wellFormed_object_iff.mp formed).1]
      cases found : r.get? name with
      | none => cases names <;> simp [walk, found]
      | some w =>
          simp only [Option.some.injEq, exists_eq_left']
          cases names with
          | nil =>
              simp only [Value.nil_mem_leaves, walk, found, Option.some.injEq]
              constructor
              · rintro ⟨leaf, rfl⟩
                exact ⟨rfl, leaf⟩
              · rintro ⟨rfl, leaf⟩
                exact ⟨leaf, rfl⟩
          | cons next names =>
              rw [Value.cons_mem_leaves]
              constructor
              · rintro ⟨inner, rfl, mem⟩
                rw [walk_below (List.cons_ne_nil next names) found]
                exact (ih (formed.field found)).mp mem
              · rintro ⟨reached, leaf⟩
                cases w with
                | object inner =>
                    rw [walk_below (List.cons_ne_nil next names) found] at reached
                    exact ⟨inner, rfl, (ih (formed.field found)).mpr ⟨reached, leaf⟩⟩
                | _ => simp [walk, found] at reached

theorem walk_eq_none_of_leaves {r : Record} (h : ∀ name v, r.get? name = some v → v.isLeaf)
    (name next : String) (names : List String) : r.walk (name :: next :: names) = none := by
  rw [walk]
  cases found : r.get? name with
  | none => rfl
  | some v =>
      have leaf := h name v found
      cases v with
      | object fields =>
          obtain rfl : fields = [] := List.isEmpty_iff.mp leaf
          cases names <;> rfl
      | _ => rfl

theorem resolve_of_leaves {r : Record} (h : ∀ name v, r.get? name = some v → v.isLeaf)
    {path : String} (nonempty : path ≠ "") : r.resolve path = r.get? path := by
  by_cases dotted : isDotted path
  · obtain ⟨name, next, names, parts, -⟩ := segments_of_isDotted dotted
    rw [resolve, if_neg nonempty, parts, walk_eq_none_of_leaves h, Option.or_none]
  · exact resolve_of_not_isDotted r nonempty dotted

theorem resolve_eq_walk {r : Record} (h : ∀ name ∈ r.keys, ¬ isDotted name) {path : String}
    (nonempty : path ≠ "") : r.resolve path = r.walk (segments path) := by
  apply resolve_of_unnamed nonempty
  rintro ⟨dotted, found⟩
  exact h path ((get?_isSome r path).mp found) dotted

theorem nodup_leaves {r : Record} (distinct : r.Distinct)
    (inner : ∀ field ∈ r, (field.2.leaves.map Prod.fst).Nodup) :
    ((leaves r).map Prod.fst).Nodup := by
  induction r with
  | nil => exact List.nodup_nil
  | cons field rest ih =>
      obtain ⟨name, v⟩ := field
      obtain ⟨here, later⟩ := List.forall_mem_cons.mp inner
      obtain ⟨absent, distinct⟩ := List.nodup_cons.mp distinct
      have front : (v.leaves.map fun leaf => (name :: leaf.1, leaf.2)).map Prod.fst =
          (v.leaves.map Prod.fst).map (name :: ·) := by
        simp [Function.comp_def]
      rw [leaves, List.map_append, front]
      refine (here.map (List.cons_injective)).append (ih distinct later) ?_
      rintro names first second
      obtain ⟨below, -, rfl⟩ := List.mem_map.mp first
      obtain ⟨⟨-, w⟩, mem, rfl⟩ := List.mem_map.mp second
      obtain ⟨field, found, below, -, same⟩ := mem_leaves.mp mem
      cases same
      exact absent (List.mem_map.mpr ⟨field, found, rfl⟩)

end Record

namespace Value

theorem WellFormed.nodup_leaves {v : Value} (h : v.WellFormed) : (v.leaves.map Prod.fst).Nodup := by
  induction h with
  | object names inner ih =>
      rename_i fields
      by_cases none : fields.isEmpty
      · simp [leaves, none]
      · rw [leaves, if_neg none]
        exact Record.nodup_leaves names ih
  | _ => simp [leaves]

theorem named_object_iff {P : String → Prop} {fields : Record} :
    (object fields).Named P ↔
      (∀ name ∈ fields.keys, P name) ∧ ∀ field ∈ fields, field.2.Named P := by
  constructor
  · intro h
    cases h with
    | leaf none =>
        obtain rfl : fields = [] := List.isEmpty_iff.mp none
        simp [Record.keys]
    | object names inner => exact ⟨names, inner⟩
  · exact fun h => .object h.1 h.2

theorem Named.of_mem_leaves {P : String → Prop} {v : Value} (h : v.Named P) :
    ∀ leaf ∈ v.leaves, ∀ name ∈ leaf.1, P name := by
  induction h with
  | leaf h => simp [leaves_of_isLeaf h]
  | object names inner ih =>
      rintro ⟨way, v⟩ mem
      cases way with
      | nil => simp
      | cons name way =>
          obtain ⟨fields, same, mem⟩ := cons_mem_leaves.mp mem
          cases same
          obtain ⟨field, found, below, leaf, same⟩ := Record.mem_leaves.mp mem
          cases same
          exact List.forall_mem_cons.mpr
            ⟨names field.1 (List.mem_map_of_mem found), ih field found below leaf⟩

theorem Named.mono {P Q : String → Prop} {v : Value} (h : v.Named P)
    (imp : ∀ name, P name → Q name) : v.Named Q := by
  induction h with
  | leaf h => exact .leaf h
  | object names inner ih => exact .object (fun name mem => imp name (names name mem)) ih

theorem Named.of_mem_fields {P : String → Prop} {fields : Record}
    (h : (Value.object fields).Named P) {leaf : List String × Value}
    (mem : leaf ∈ Record.leaves fields) : ∀ name ∈ leaf.1, P name := by
  obtain ⟨way, v⟩ := leaf
  obtain ⟨name, names, rfl⟩ := List.exists_cons_of_ne_nil (Record.ne_nil_of_mem_leaves mem)
  exact h.of_mem_leaves _ (cons_mem_leaves.mpr ⟨fields, rfl, mem⟩)

end Value

namespace Nesting

mutual

theorem leavesAt_eq (separator name : String) : ∀ v : Value, leavesAt separator name v =
    v.leaves.map fun leaf => (leaf.1.foldl (joinedName separator) name, leaf.2)
  | .object fields => by
      by_cases none : fields.isEmpty
      · simp [leavesAt, Value.leaves, none]
      · rw [leavesAt, Value.leaves, if_neg none, if_neg none, leavesBelow_eq]
  | .null | .bool _ | .number _ | .string _ | .array _ => rfl

theorem leavesBelow_eq (separator front : String) : ∀ fields : List (String × Value),
    leavesBelow separator front fields = (Record.leaves fields).map fun leaf =>
      (leaf.1.foldl (joinedName separator) front, leaf.2)
  | [] => rfl
  | (name, v) :: rest => by
      rw [leavesBelow, Record.leaves, List.map_append, leavesAt_eq, leavesBelow_eq, List.map_map]
      rfl

end

theorem foldl_joinedName (separator : String) {front : String} (h : front ≠ "")
    (names : List String) :
    names.foldl (joinedName separator) front = Text.join separator (front :: names) := by
  induction names generalizing front with
  | nil => exact String.intercalate_singleton.symm
  | cons name names ih =>
      have step : joinedName separator front name = front ++ separator ++ name := by
        simp [joinedName, h]
      have nonempty : front ++ separator ++ name ≠ "" := by simp [h]
      rw [List.foldl_cons, step, ih nonempty]
      cases names with
      | nil => simp [Text.join, String.append_assoc]
      | cons next names => simp [Text.join, String.append_assoc]

/-- The ways to two leaves are joined to two names. -/
def JoinsApart (separator : String) (r : Record) : Prop :=
  ∀ leaf ∈ Record.leaves r, ∀ leaf' ∈ Record.leaves r,
    Text.join separator leaf.1 = Text.join separator leaf'.1 → leaf.1 = leaf'.1

section Joined

variable {separator : String} {r : Record} (formed : (Value.object r).WellFormed)

section

variable (front : ∀ v, r.get? "" = some v → v.isLeaf)

include formed front

theorem leavesBelow_joined : leavesBelow separator "" r =
    (Record.leaves r).map fun leaf => (Text.join separator leaf.1, leaf.2) := by
  -- Nothing is joined to an empty name in front, so none may have leaves below it.
  rw [leavesBelow_eq]
  apply List.map_congr_left
  rintro ⟨names, v⟩ mem
  obtain ⟨name, rest, rfl⟩ := List.exists_cons_of_ne_nil (Record.ne_nil_of_mem_leaves mem)
  by_cases empty : name = ""
  · subst empty
    have distinct := (Value.wellFormed_object_iff.mp formed).1
    obtain ⟨w, found, below⟩ := (Record.cons_mem_leaves distinct).mp mem
    rw [Value.leaves_of_isLeaf (front w found), List.mem_singleton] at below
    cases below
    rfl
  · exact Prod.ext (foldl_joinedName separator empty rest) rfl

end

variable (apart : JoinsApart separator r)

include formed apart

theorem distinct_leaves :
    Record.Distinct ((Record.leaves r).map fun leaf => (Text.join separator leaf.1, leaf.2)) := by
  obtain ⟨distinct, inner⟩ := Value.wellFormed_object_iff.mp formed
  have ways := Record.nodup_leaves distinct fun field mem => (inner field mem).nodup_leaves
  have joined : Record.keys ((Record.leaves r).map fun leaf =>
      (Text.join separator leaf.1, leaf.2)) =
      ((Record.leaves r).map Prod.fst).map (Text.join separator) := by
    simp [Record.keys, Function.comp_def]
  rw [Record.Distinct, joined]
  refine ways.map_on fun names mem others mem' same => ?_
  obtain ⟨leaf, found, rfl⟩ := List.mem_map.mp mem
  obtain ⟨leaf', found', rfl⟩ := List.mem_map.mp mem'
  exact apart leaf found leaf' found' same

theorem flatten_joined (front : ∀ v, r.get? "" = some v → v.isLeaf) : flatten separator r =
    (Record.leaves r).map fun leaf => (Text.join separator leaf.1, leaf.2) := by
  rw [flatten, leavesBelow_joined formed front,
    Record.ofList_eq_self (distinct_leaves formed apart)]

end Joined

section Dotted

variable {r : Record} (formed : (Value.object r).WellFormed)
  (plain : (Value.object r).Named fun name => name ≠ "" ∧ ¬ isDotted name)

include plain

theorem segments_of_mem_leaves {leaf : List String × Value} (h : leaf ∈ Record.leaves r) :
    segments (Text.join "." leaf.1) = leaf.1 :=
  segments_join (Record.ne_nil_of_mem_leaves h) fun name mem =>
    (plain.of_mem_fields h name mem).2

theorem joinsApart_of_plain : JoinsApart "." r := by
  intro leaf mem leaf' mem' same
  rw [← segments_of_mem_leaves plain mem, ← segments_of_mem_leaves plain mem', same]

include formed

theorem flatten_eq :
    flatten "." r = (Record.leaves r).map fun leaf => (Text.join "." leaf.1, leaf.2) := by
  refine flatten_joined formed (joinsApart_of_plain plain) fun v found => ?_
  have named := (Record.get?_isSome r "").mp (by rw [found]; rfl)
  exact absurd rfl ((Value.named_object_iff.mp plain).1 "" named).1

theorem get?_flatten (p : String) :
    (flatten "." r).get? p = (r.walk (segments p)).filter Value.isLeaf := by
  ext v
  have distinct := distinct_leaves formed (joinsApart_of_plain plain)
  rw [flatten_eq formed plain, ← Record.mem_iff_get? distinct, Option.filter_eq_some_iff,
    ← Record.mem_leaves_iff formed, List.mem_map]
  constructor
  · rintro ⟨⟨names, w⟩, leaf, same⟩
    cases same
    rwa [segments_of_mem_leaves plain leaf]
  · intro leaf
    exact ⟨_, leaf, by rw [join_segments]⟩

theorem resolve_flatten (p : String) :
    (flatten "." r).resolve p = (r.resolve p).filter Value.isLeaf := by
  by_cases empty : p = ""
  · simp [Record.resolve, empty]
  have leaves : ∀ name v, (flatten "." r).get? name = some v → v.isLeaf := by
    intro name v found
    rw [get?_flatten formed plain] at found
    exact (Option.filter_eq_some_iff.mp found).2
  have names : ∀ name ∈ r.keys, ¬ isDotted name := fun name mem =>
    ((Value.named_object_iff.mp plain).1 name mem).2
  rw [Record.resolve_of_leaves leaves empty, get?_flatten formed plain,
    Record.resolve_eq_walk names empty]

/-- Flattening with dots keeps every leaf under the joined names on the way to it, depth first, and
a path leads to a leaf that it led to before, or nowhere. -/
theorem flatten_leaves :
    flatten "." r = (Record.leaves r).map (fun leaf => (Text.join "." leaf.1, leaf.2)) ∧
      (∀ names v, (names, v) ∈ Record.leaves r ↔ r.walk names = some v ∧ v.isLeaf) ∧
      ∀ p, (flatten "." r).resolve p = (r.resolve p).filter Value.isLeaf :=
  ⟨flatten_eq formed plain, fun _ _ => Record.mem_leaves_iff formed,
    resolve_flatten formed plain⟩

end Dotted

theorem flatten_leaves_user :
    let r : Record := [("id", .int 1),
      ("user", .object [("name", .string "A"), ("geo", .object [("lat", .int 2)])]),
      ("tags", .array [.object [("x.y", .int 3)]]), ("meta", .object [])]
    (Value.object r).WellFormed ∧
      (Value.object r).Named (fun name => name ≠ "" ∧ ¬ isDotted name) ∧
      flatten "." r = [("id", .int 1), ("user.name", .string "A"), ("user.geo.lat", .int 2),
        ("tags", .array [.object [("x.y", .int 3)]]), ("meta", .object [])] ∧
      (flatten "." r).resolve "user.geo.lat" = some (.int 2) ∧
      (flatten "." r).resolve "user.geo" = none := by
  intro r
  have formed : (Value.object r).WellFormed := by
    simp [r, Record.Distinct, Record.keys, Value.int, Number.WellFormed]
  have plain : (Value.object r).Named fun name => name ≠ "" ∧ ¬ isDotted name := by
    simpa [r, Value.named_object_iff, Record.keys, isDotted] using
      ⟨.leaf rfl, ⟨.leaf rfl, .leaf rfl⟩, .leaf rfl⟩
  obtain ⟨flat, -, reads⟩ := flatten_leaves formed plain
  refine ⟨formed, plain, flat, ?_, ?_⟩
  · rw [reads]
    rfl
  · rw [reads]
    rfl

end Nesting

end Reshape
