import Reshape.Operator.Action
import Reshape.Proofs.Value.SortOrder

namespace Reshape

variable {rs : List Record}

namespace SortKey

variable {key : SortKey} {a b : Record} {x y : Value}

theorem isLE_compare_of_none (h : key.value? b = none) : (key.compare a b).isLE := by
  rw [compare, h]
  cases key.value? a <;> rfl

theorem compare_none_left (h : key.value? a = none) (h' : key.value? b = some y) :
    key.compare a b = .gt := by
  rw [compare, h, h']

theorem compare_some (h : key.value? a = some x) (h' : key.value? b = some y) :
    key.compare a b = if key.descending then sortOrder y x else sortOrder x y := by
  simp only [compare, h, h', sortOrder_swap x y]

theorem compare_swap (key : SortKey) (a b : Record) : key.compare b a = (key.compare a b).swap := by
  simp only [compare]
  cases key.value? a with
  | none => cases key.value? b <;> rfl
  | some x =>
      cases key.value? b with
      | none => rfl
      | some y => cases key.descending <;> simp [sortOrder_swap x y]

theorem preorders (h : Preorders sortOrder (rs.filterMap key.value?)) :
    Preorders key.compare rs := by
  constructor
  · intro a _ b _
    exact compare_swap key a b
  · intro a ha b hb c hc left right
    have mem {r : Record} {x : Value} (hr : r ∈ rs) (found : key.value? r = some x) :
        x ∈ rs.filterMap key.value? := List.mem_filterMap.mpr ⟨r, hr, found⟩
    cases atC : key.value? c with
    | none => exact isLE_compare_of_none atC
    | some z =>
        cases atB : key.value? b with
        | none => simp [compare_none_left atB atC] at right
        | some y =>
            cases atA : key.value? a with
            | none => simp [compare_none_left atA atB] at left
            | some x =>
                rw [compare_some atA atB] at left
                rw [compare_some atB atC] at right
                rw [compare_some atA atC]
                split at left
                · rename_i descending
                  rw [if_pos descending] at right ⊢
                  exact h.trans z (mem hc atC) y (mem hb atB) x (mem ha atA) right left
                · rename_i ascending
                  rw [if_neg ascending] at right ⊢
                  exact h.trans x (mem ha atA) y (mem hb atB) z (mem hc atC) left right

def flip (key : SortKey) : SortKey :=
  { key with descending := !key.descending }

theorem compare_flip (h : (key.value? a).isSome) (h' : (key.value? b).isSome) :
    key.flip.compare a b = key.compare b a := by
  obtain ⟨x, atA⟩ := Option.isSome_iff_exists.mp h
  obtain ⟨y, atB⟩ := Option.isSome_iff_exists.mp h'
  have atA' : key.flip.value? a = some x := atA
  have atB' : key.flip.value? b = some y := atB
  rw [compare_some atA' atB', compare_some atB atA]
  cases direction : key.descending <;> simp [flip, direction]

end SortKey

namespace Sorting

variable {keys : List SortKey}

theorem preorders (h : ∀ key ∈ keys, Preorders sortOrder (rs.filterMap key.value?)) :
    Preorders (compare keys) rs := by
  induction keys with
  | nil => exact ⟨fun _ _ _ _ => rfl, fun _ _ _ _ _ _ _ _ => rfl⟩
  | cons key rest ih =>
      have first := SortKey.preorders (h key List.mem_cons_self)
      exact first.lex (ih fun other mem => h other (List.mem_cons_of_mem key mem))

def ordered (keys : List SortKey) (rs : List Record) : List Record :=
  rs.mergeSort fun a b => (compare keys a b).isLE

theorem ordered_perm (keys : List SortKey) (rs : List Record) : (ordered keys rs).Perm rs :=
  List.mergeSort_perm _ _

theorem pairwise_ordered (h : Preorders (compare keys) rs) :
    (ordered keys rs).Pairwise fun a b => (compare keys a b).isLE :=
  h.pairwise_mergeSort

theorem filter_ordered (h : Preorders (compare keys) rs) {r : Record} (mem : r ∈ rs) :
    (ordered keys rs).filter (compare keys r · = .eq) = rs.filter (compare keys r · = .eq) :=
  h.filter_mergeSort mem

theorem eq_ordered (h : Preorders (compare keys) rs) {out : List Record} (perm : out.Perm rs)
    (pairwise : out.Pairwise fun a b => (compare keys a b).isLE)
    (stable : ∀ r ∈ rs, out.filter (compare keys r · = .eq) = rs.filter (compare keys r · = .eq)) :
    out = ordered keys rs := by
  have within := h.subset fun r mem => perm.subset mem
  apply within.eq_of_stable (perm.trans (ordered_perm keys rs).symm) pairwise (pairwise_ordered h)
  intro r mem
  have mem := perm.subset mem
  rw [stable r mem, filter_ordered h mem]

theorem sort_eq (sorter : Sorter) (h : Preorders (compare keys) rs) :
    sort sorter keys rs = .ok (ordered keys rs) := by
  rw [sort, sorter.sort_eq h]
  rfl

theorem perm_of_sort {sorter : Sorter} {out : List Record} (h : sort sorter keys rs = .ok out) :
    out.Perm rs := by
  unfold sort at h
  split at h
  · rename_i found
    cases h
    exact sorter.perm found
  · cases h

theorem inconsistent_of_sort {sorter : Sorter} {fault : Fault}
    (h : sort sorter keys rs = .error fault) :
    fault = .inconsistentOrder ∧ ¬ Preorders (compare keys) rs := by
  refine ⟨?_, fun preorders => ?_⟩
  · unfold sort at h
    split at h
    · cases h
    · cases h
      rfl
  · rw [sort_eq sorter preorders] at h
    cases h

theorem apply_sort (context : Context) (keys : List SortKey) (rs : List Record) :
    (Operator.sort keys).apply context (.many rs) =
      (sort context.sorter keys rs).map fun out => (.many out, []) := by
  rw [Operator.apply, Operator.action, Action.apply]
  cases sort context.sorter keys rs <;> rfl

theorem sort_of_apply {context : Context} {next : Collection} {warnings : List String}
    (h : (Operator.sort keys).apply context (.many rs) = .ok (next, warnings)) :
    ∃ out, sort context.sorter keys rs = .ok out ∧ next = .many out := by
  rw [apply_sort] at h
  cases sorted : sort context.sorter keys rs with
  | error fault =>
      rw [sorted] at h
      cases h
  | ok out =>
      rw [sorted] at h
      cases h
      exact ⟨out, rfl, rfl⟩

theorem sort_of_apply_error {context : Context} {fault : Fault}
    (h : (Operator.sort keys).apply context (.many rs) = .error fault) :
    sort context.sorter keys rs = .error fault := by
  rw [apply_sort] at h
  cases sorted : sort context.sorter keys rs with
  | error stopped =>
      rw [sorted] at h
      cases h
      rfl
  | ok out =>
      rw [sorted] at h
      cases h

theorem apply_sort_eq (context : Context) (h : Preorders (compare keys) rs) :
    (Operator.sort keys).apply context (.many rs) = .ok (.many (ordered keys rs), []) := by
  rw [apply_sort, sort_eq _ h]
  rfl

/-- A text before 9, which is before 10, which is before the text. -/
def circle : List Record :=
  List.replicate 10 [("v", .int 9)] ++ [("v", .string "5")] :: List.replicate 10 [("v", .int 10)]

theorem sort_circle : sort .checked [{ path := "v" }] circle = .error .inconsistentOrder := by
  have long : ¬ circle.length ≤ 20 := by decide
  have merged : ¬ (circle.mergeSort fun a b => (compare [{ path := "v" }] a b).isLE).Pairwise
      fun a b => (compare [{ path := "v" }] a b).isLE := by
    have perm := List.mergeSort_perm circle fun a b => (compare [{ path := "v" }] a b).isLE
    have nine := perm.symm.subset (a := [("v", .int 9)]) (by simp [circle])
    have five := perm.symm.subset (a := [("v", .string "5")]) (by simp [circle])
    have ten := perm.symm.subset (a := [("v", .int 10)]) (by simp [circle])
    apply Preorders.not_pairwise_of_cycle nine five ten
    · simp [Value.int]
    · decide +kernel
    · decide +kernel
    · decide +kernel
  simp only [sort, Sorter.checked, if_neg long, if_neg merged]

theorem value?_eq_none_of_isLE {key : SortKey} {a b : Record}
    (order : (compare (key :: keys) a b).isLE) (missing : key.value? a = none) :
    key.value? b = none := by
  cases atB : key.value? b with
  | none => rfl
  | some y =>
      rw [compare, SortKey.compare_none_left missing atB] at order
      simp at order

/-- Sorting rearranges a sequence so that no record comes after one that it belongs before. Records
that compare as equal keep their order, and those without a value at the first key come last. -/
theorem apply_stable (context : Context) (keys : List SortKey) (rs : List Record)
    (h : ∀ key ∈ keys, Preorders sortOrder (rs.filterMap key.value?)) :
    ∃ out, (Operator.sort keys).apply context (.many rs) = .ok (.many out, []) ∧
      out.Perm rs ∧
      out.Pairwise (fun a b => compare keys b a ≠ .lt) ∧
      (∀ r ∈ rs, out.filter (compare keys r · = .eq) = rs.filter (compare keys r · = .eq)) ∧
      ∀ key ∈ keys.head?, out.Pairwise fun a b => key.value? a = none → key.value? b = none := by
  have preorders := preorders h
  have pairwise := pairwise_ordered preorders
  refine ⟨ordered keys rs, apply_sort_eq context preorders, ordered_perm keys rs, ?_,
    fun r mem => filter_ordered preorders mem, ?_⟩
  · apply pairwise.imp_of_mem
    intro a b ha hb order
    have ha := (ordered_perm keys rs).subset ha
    have hb := (ordered_perm keys rs).subset hb
    rw [preorders.swap a ha b hb]
    cases compared : compare keys a b <;> simp_all
  · intro key first
    cases keys with
    | nil => cases first
    | cons key' rest =>
        obtain rfl : key' = key := Option.some.inj first
        apply pairwise.imp
        intro a b order
        exact value?_eq_none_of_isLE order

theorem apply_stable_tie :
    let keys : List SortKey := [⟨"n", true⟩, ⟨"s", false⟩]
    let first : Record := [("n", .int 1), ("s", .string "b")]
    let again : Record := [("n", .number (.float 1)), ("s", .string "b")]
    let rs : List Record :=
      [first, [("s", .string "z")], [("n", .int 2), ("s", .string "c")], again]
    (∀ key ∈ keys, Preorders sortOrder (rs.filterMap key.value?)) ∧
      ∀ context, ∃ out, (Operator.sort keys).apply context (.many rs) = .ok (.many out, []) ∧
        out.Perm rs ∧ out.filter (compare keys first · = .eq) = [first, again] ∧
        out.Pairwise fun a b =>
          SortKey.value? ⟨"n", true⟩ a = none → SortKey.value? ⟨"n", true⟩ b = none := by
  intro keys first again rs
  have preorders : ∀ key ∈ keys, Preorders sortOrder (rs.filterMap key.value?) := by
    intro key mem
    simp only [keys, List.mem_cons, List.not_mem_nil, or_false] at mem
    rcases mem with rfl | rfl
    · have values : rs.filterMap (SortKey.value? ⟨"n", true⟩) =
          [.int 1, .int 2, .number (.float 1)] := rfl
      rw [values]
      have finite : (1 : Float).isFinite = true := by decide +kernel
      apply preorders_sortOrder_numbers
      · simp [Value.int, Number.WellFormed, finite]
      · simp [Value.int, Value.isNumber]
    · have values : rs.filterMap (SortKey.value? ⟨"s", false⟩) =
          [.string "b", .string "z", .string "c", .string "b"] := rfl
      rw [values]
      apply preorders_sortOrder_texts
      · simp
      · simp [Value.isNumber]
  refine ⟨preorders, fun context => ?_⟩
  obtain ⟨out, sorted, perm, -, stable, missing⟩ := apply_stable context keys rs preorders
  have ties : rs.filter (compare keys first · = .eq) = [first, again] := rfl
  refine ⟨out, sorted, perm, ?_, missing _ rfl⟩
  rw [stable first (by simp [rs]), ties]

theorem compare_flip {a b : Record} (ha : ∀ key ∈ keys, (key.value? a).isSome)
    (hb : ∀ key ∈ keys, (key.value? b).isSome) :
    compare (keys.map SortKey.flip) a b = compare keys b a := by
  induction keys with
  | nil => rfl
  | cons key rest ih =>
      have first := SortKey.compare_flip (ha key List.mem_cons_self) (hb key List.mem_cons_self)
      have later := ih (fun other mem => ha other (List.mem_cons_of_mem key mem))
        (fun other mem => hb other (List.mem_cons_of_mem key mem))
      rw [List.map_cons, compare, compare, first, later]

/-- Where no value is missing, the opposite directions give the records in the opposite order, except
that records that compare as equal keep theirs. -/
theorem sort_flip (sorter : Sorter) (keys : List SortKey) (rs : List Record)
    (present : ∀ key ∈ keys, ∀ r ∈ rs, (key.value? r).isSome)
    (h : ∀ key ∈ keys, Preorders sortOrder (rs.filterMap key.value?)) :
    ∃ out, sort sorter keys rs.reverse = .ok out ∧
      sort sorter (keys.map SortKey.flip) rs = .ok out.reverse := by
  have preorders := preorders h
  have reversed : Preorders (compare keys) rs.reverse := preorders.subset (by simp)
  have flipped : ∀ a ∈ rs, ∀ b ∈ rs, compare (keys.map SortKey.flip) a b = compare keys b a := by
    intro a ha b hb
    exact compare_flip (fun key mem => present key mem a ha) (fun key mem => present key mem b hb)
  have perm : (ordered keys rs.reverse).reverse.Perm rs :=
    (List.reverse_perm _).trans ((ordered_perm keys rs.reverse).trans (List.reverse_perm rs))
  have preorders' := preorders.opposite.congr flipped
  refine ⟨ordered keys rs.reverse, sort_eq sorter reversed, ?_⟩
  rw [sort_eq sorter preorders', eq_ordered preorders' perm]
  · rw [List.pairwise_reverse]
    apply (pairwise_ordered reversed).imp_of_mem
    intro a b ha hb order
    rw [flipped b (perm.subset (by simpa using hb)) a (perm.subset (by simpa using ha))]
    exact order
  · intro r mem
    -- The same records compare as equal either way, and each reversal turns their order around.
    have same : ∀ l : List Record, (∀ a ∈ l, a ∈ rs) →
        l.filter (compare (keys.map SortKey.flip) r · = .eq) =
          l.filter (compare keys r · = .eq) := by
      intro l sub
      apply List.filter_congr
      intro a ha
      rw [flipped r mem a (sub a ha), preorders.swap r mem a (sub a ha)]
      cases compare keys r a <;> rfl
    rw [same _ fun a ha => perm.subset ha, same rs fun a ha => ha, List.filter_reverse,
      filter_ordered reversed (by simpa using mem), List.filter_reverse, List.reverse_reverse]

theorem sort_flip_ties :
    let keys : List SortKey := [⟨"n", true⟩, ⟨"s", false⟩]
    let rs : List Record :=
      [[("n", .int 1), ("s", .string "b")], [("n", .int 2), ("s", .string "c"), ("t", .null)],
        [("s", .string "b"), ("n", .int 1)], [("n", .int 2), ("s", .string "c")]]
    (∀ key ∈ keys, ∀ r ∈ rs, (key.value? r).isSome) ∧
      (∀ key ∈ keys, Preorders sortOrder (rs.filterMap key.value?)) ∧
      ∀ sorter, ∃ out, sort sorter keys rs.reverse = .ok out ∧
        sort sorter [⟨"n", false⟩, ⟨"s", true⟩] rs = .ok out.reverse := by
  intro keys rs
  have present : ∀ key ∈ keys, ∀ r ∈ rs, (key.value? r).isSome := by decide +kernel
  have preorders : ∀ key ∈ keys, Preorders sortOrder (rs.filterMap key.value?) := by
    intro key mem
    simp only [keys, List.mem_cons, List.not_mem_nil, or_false] at mem
    rcases mem with rfl | rfl
    · have values : rs.filterMap (SortKey.value? ⟨"n", true⟩) =
          [.int 1, .int 2, .int 1, .int 2] := rfl
      rw [values]
      apply preorders_sortOrder_numbers
      · simp [Value.int, Number.WellFormed]
      · simp [Value.int, Value.isNumber]
    · have values : rs.filterMap (SortKey.value? ⟨"s", false⟩) =
          [.string "b", .string "c", .string "b", .string "c"] := rfl
      rw [values]
      apply preorders_sortOrder_texts
      · simp
      · simp [Value.isNumber]
  exact ⟨present, preorders, fun sorter => sort_flip sorter keys rs present preorders⟩

theorem ordered_nil (rs : List Record) : ordered [] rs = rs :=
  List.mergeSort_of_pairwise (List.pairwise_of_forall fun _ _ => rfl)

theorem ordered_singleton (key : SortKey) (rs : List Record) :
    ordered [key] rs = rs.mergeSort fun a b => (key.compare a b).isLE := by
  simp only [ordered, compare, Ordering.then_eq]

theorem ordered_cons {key : SortKey} {keys : List SortKey}
    (h : ∀ other ∈ key :: keys, Preorders sortOrder (rs.filterMap other.value?)) :
    ordered [key] (ordered keys rs) = ordered (key :: keys) rs := by
  rw [List.forall_mem_cons] at h
  rw [ordered_singleton]
  exact (SortKey.preorders h.1).mergeSort_then (preorders h.2)

theorem foldr_ordered {keys : List SortKey}
    (h : ∀ key ∈ keys, Preorders sortOrder (rs.filterMap key.value?)) :
    keys.foldr (fun key rs => ordered [key] rs) rs = ordered keys rs := by
  induction keys with
  | nil => exact (ordered_nil rs).symm
  | cons key keys ih =>
      rw [List.foldr_cons, ih fun other mem => h other (List.mem_cons_of_mem key mem), ordered_cons h]

end Sorting

end Reshape
