/-!
# Stable sorting by a comparison

A comparison sorts a list if it is a total preorder of its items; what it does to other items does
not matter. The sorted list is then unique: it is ordered, and items that compare as equal stand in
the order in which they came.
-/

namespace Reshape

variable {α : Type} {cmp cmp' : α → α → Ordering} {items l l' : List α}

structure Preorders (cmp : α → α → Ordering) (items : List α) : Prop where
  swap : ∀ a ∈ items, ∀ b ∈ items, cmp b a = (cmp a b).swap
  trans : ∀ a ∈ items, ∀ b ∈ items, ∀ c ∈ items,
    (cmp a b).isLE → (cmp b c).isLE → (cmp a c).isLE

theorem preorders_iff_transCmp :
    Preorders cmp items ↔ Std.TransCmp fun a b : { a // a ∈ items } => cmp a b := by
  constructor
  · intro h
    have oriented : Std.OrientedCmp fun a b : { a // a ∈ items } => cmp a b :=
      ⟨fun {a b} => h.swap b b.2 a a.2⟩
    exact { isLE_trans := fun {a b c} => h.trans a a.2 b b.2 c c.2 }
  · intro h
    constructor
    · intro a ha b hb
      exact h.eq_swap (a := ⟨b, hb⟩) (b := ⟨a, ha⟩)
    · intro a ha b hb c hc
      exact h.isLE_trans (a := ⟨a, ha⟩) (b := ⟨b, hb⟩) (c := ⟨c, hc⟩)

namespace Preorders

theorem subset (h : Preorders cmp items) (sub : ∀ a ∈ l, a ∈ items) : Preorders cmp l where
  swap a ha b hb := h.swap a (sub a ha) b (sub b hb)
  trans a ha b hb c hc := h.trans a (sub a ha) b (sub b hb) c (sub c hc)

theorem congr (h : Preorders cmp items)
    (same : ∀ a ∈ items, ∀ b ∈ items, cmp' a b = cmp a b) : Preorders cmp' items where
  swap a ha b hb := by
    rw [same a ha b hb, same b hb a ha]
    exact h.swap a ha b hb
  trans a ha b hb c hc := by
    rw [same a ha b hb, same b hb c hc, same a ha c hc]
    exact h.trans a ha b hb c hc

theorem opposite (h : Preorders cmp items) : Preorders (fun a b => cmp b a) items where
  swap a ha b hb := h.swap b hb a ha
  trans a ha b hb c hc left right := h.trans c hc b hb a ha right left

theorem lex (h : Preorders cmp items) (h' : Preorders cmp' items) :
    Preorders (fun a b => (cmp a b).then (cmp' a b)) items := by
  rw [preorders_iff_transCmp] at h h' ⊢
  exact inferInstanceAs (Std.TransCmp (compareLex _ _))

variable (h : Preorders cmp items) {a b c : α}
include h

theorem self (ha : a ∈ items) : cmp a a = .eq := by
  have swapped := h.swap a ha a ha
  cases order : cmp a a <;> simp_all

theorem eq_symm (ha : a ∈ items) (hb : b ∈ items) (order : cmp a b = .eq) : cmp b a = .eq := by
  rw [h.swap a ha b hb, order]
  rfl

theorem eq_of_isLE (ha : a ∈ items) (hb : b ∈ items) (left : (cmp a b).isLE)
    (right : (cmp b a).isLE) : cmp a b = .eq := by
  rw [h.swap a ha b hb] at right
  cases order : cmp a b <;> simp_all

theorem eq_trans (ha : a ∈ items) (hb : b ∈ items) (hc : c ∈ items) (left : cmp a b = .eq)
    (right : cmp b c = .eq) : cmp a c = .eq := by
  have upward : (cmp a c).isLE := h.trans a ha b hb c hc (by rw [left]; rfl) (by rw [right]; rfl)
  have left' := h.eq_symm ha hb left
  have right' := h.eq_symm hb hc right
  have downward : (cmp c a).isLE := h.trans c hc b hb a ha (by rw [right']; rfl) (by rw [left']; rfl)
  exact h.eq_of_isLE ha hc upward downward

theorem total (ha : a ∈ items) (hb : b ∈ items) : (cmp a b).isLE || (cmp b a).isLE := by
  rw [h.swap a ha b hb]
  cases cmp a b <;> rfl

omit h in
theorem mergeSort_eq_attach (cmp : α → α → Ordering) (items : List α) :
    items.mergeSort (fun a b => (cmp a b).isLE) =
      (items.attach.mergeSort fun a b => (cmp a b).isLE).map Subtype.val := by
  -- The laws of the library's sort ask for an order of all items of a type.
  rw [List.map_mergeSort (s := fun a b => (cmp a b).isLE) (fun _ _ _ _ => rfl),
    List.attach_map_subtype_val]

theorem pairwise_mergeSort :
    (items.mergeSort fun a b => (cmp a b).isLE).Pairwise fun a b => (cmp a b).isLE := by
  rw [mergeSort_eq_attach, List.pairwise_map]
  apply List.pairwise_mergeSort
  · intro a b c
    exact h.trans a a.2 b b.2 c c.2
  · intro a b
    exact h.total a.2 b.2

theorem sublist_mergeSort (sub : l.Sublist items) (ordered : l.Pairwise fun a b => (cmp a b).isLE) :
    l.Sublist (items.mergeSort fun a b => (cmp a b).isLE) := by
  rw [← List.attach_map_subtype_val items] at sub
  obtain ⟨chosen, within, rfl⟩ := List.sublist_map_iff.mp sub
  rw [mergeSort_eq_attach]
  apply List.Sublist.map
  apply List.sublist_mergeSort
  · intro a b c
    exact h.trans a a.2 b b.2 c c.2
  · intro a b
    exact h.total a.2 b.2
  · exact List.pairwise_map.mp ordered
  · exact within

theorem filter_mergeSort (ha : a ∈ items) :
    (items.mergeSort fun a b => (cmp a b).isLE).filter (cmp a · = .eq) =
      items.filter (cmp a · = .eq) := by
  have ordered : (items.filter (cmp a · = .eq)).Pairwise fun b c => (cmp b c).isLE := by
    apply List.pairwise_of_forall_mem_list
    intro b hb c hc
    obtain ⟨hb, left⟩ := List.mem_filter.mp hb
    obtain ⟨hc, right⟩ := List.mem_filter.mp hc
    have left : cmp b a = .eq := h.eq_symm ha hb (of_decide_eq_true left)
    rw [h.eq_trans hb ha hc left (of_decide_eq_true right)]
    rfl
  have kept := (h.sublist_mergeSort List.filter_sublist ordered).filter (cmp a · = .eq)
  rw [List.filter_filter] at kept
  simp only [Bool.and_self] at kept
  have length := ((List.mergeSort_perm items fun a b => (cmp a b).isLE).filter
    (cmp a · = .eq)).length_eq
  exact (kept.eq_of_length length.symm).symm

omit h in
/-- An ordered list in which items that compare as equal have a given order is determined. -/
theorem eq_of_stable (h : Preorders cmp l) (perm : l.Perm l')
    (ordered : l.Pairwise fun a b => (cmp a b).isLE)
    (ordered' : l'.Pairwise fun a b => (cmp a b).isLE)
    (stable : ∀ a ∈ l, l.filter (cmp a · = .eq) = l'.filter (cmp a · = .eq)) : l = l' := by
  induction l generalizing l' with
  | nil => exact perm.nil_eq
  | cons a rest ih =>
      cases l' with
      | nil => exact absurd perm.symm.nil_eq (by simp)
      | cons b rest' =>
          have ha : a ∈ a :: rest := List.mem_cons_self
          have hb : b ∈ a :: rest := perm.symm.subset List.mem_cons_self
          rw [List.pairwise_cons] at ordered ordered'
          have first : (cmp a b).isLE := by
            rcases List.mem_cons.mp hb with rfl | later
            · rw [h.self ha]
              rfl
            · exact ordered.1 b later
          have first' : (cmp b a).isLE := by
            rcases List.mem_cons.mp (perm.subset ha) with rfl | later
            · rw [h.self ha]
              rfl
            · exact ordered'.1 a later
          -- Both come first, so they compare as equal, and both are first of their kind.
          have equal := h.eq_of_isLE ha hb first first'
          have heads := stable a ha
          rw [List.filter_cons_of_pos (by simpa using h.self ha),
            List.filter_cons_of_pos (by simpa using equal)] at heads
          obtain ⟨rfl, -⟩ := List.cons.inj heads
          congr 1
          apply ih (h.subset fun c => List.mem_cons_of_mem a) perm.cons_inv ordered.2 ordered'.2
          intro c hc
          have kinds := stable c (List.mem_cons_of_mem a hc)
          simp only [List.filter_cons] at kinds
          split at kinds
          · exact (List.cons.inj kinds).2
          · exact kinds

omit h in
/-- There is no way to put items in order that go round in a circle. -/
theorem not_pairwise_of_cycle {r : α → α → Prop} {a b c : α} (ha : a ∈ l) (hb : b ∈ l) (hc : c ∈ l)
    (different : a ≠ b ∧ b ≠ c ∧ c ≠ a) (ab : ¬ r a b) (bc : ¬ r b c) (ca : ¬ r c a) :
    ¬ l.Pairwise r := by
  obtain ⟨hab, hbc, hca⟩ := different
  induction l with
  | nil => cases ha
  | cons x rest ih =>
      intro ordered
      obtain ⟨first, later⟩ := List.pairwise_cons.mp ordered
      rcases List.mem_cons.mp ha with rfl | laterA
      · exact ab (first b (List.mem_of_ne_of_mem hab.symm hb))
      · rcases List.mem_cons.mp hb with rfl | laterB
        · exact bc (first c (List.mem_of_ne_of_mem hbc.symm hc))
        · rcases List.mem_cons.mp hc with rfl | laterC
          · exact ca (first a laterA)
          · exact ih laterA laterB laterC later

theorem pairwise_mergeSort_then (ordered : items.Pairwise fun a b => (cmp' a b).isLE) :
    (items.mergeSort fun a b => (cmp a b).isLE).Pairwise fun a b =>
      ((cmp a b).then (cmp' a b)).isLE := by
  have sorted := h.pairwise_mergeSort
  rw [List.pairwise_iff_forall_sublist] at ordered sorted ⊢
  intro a b pair
  cases order : cmp a b with
  | lt => rfl
  | gt => simpa [order] using sorted pair
  | eq =>
      -- Items that the second sort leaves equal stand as the first one has left them.
      have ha : a ∈ items := List.mem_mergeSort.mp (pair.subset (by simp))
      have equal : [a, b].filter (cmp a · = .eq) = [a, b] := by simp [h.self ha, order]
      have kept := pair.filter (cmp a · = .eq)
      rw [equal, h.filter_mergeSort ha] at kept
      exact ordered (kept.trans List.filter_sublist)

theorem mergeSort_then (h' : Preorders cmp' items) :
    (items.mergeSort fun a b => (cmp' a b).isLE).mergeSort (fun a b => (cmp a b).isLE) =
      items.mergeSort fun a b => ((cmp a b).then (cmp' a b)).isLE := by
  have perm := List.mergeSort_perm items fun a b => (cmp' a b).isLE
  have within : Preorders cmp _ := h.subset fun a mem => perm.subset mem
  have perm' := (List.mergeSort_perm _ fun a b => (cmp a b).isLE).trans perm
  have both := h.lex h'
  apply (both.subset fun a mem => perm'.subset mem).eq_of_stable
  · exact perm'.trans (List.mergeSort_perm _ _).symm
  · exact within.pairwise_mergeSort_then h'.pairwise_mergeSort
  · exact both.pairwise_mergeSort
  · intro a mem
    have ha := perm'.subset mem
    have inner (l : List α) : l.filter (fun b => (cmp a b).then (cmp' a b) = .eq) =
        (l.filter (cmp a · = .eq)).filter (cmp' a · = .eq) := by
      rw [List.filter_filter]
      simp [Ordering.then_eq_eq, Bool.and_comm]
    have outer (l : List α) : l.filter (fun b => (cmp a b).then (cmp' a b) = .eq) =
        (l.filter (cmp' a · = .eq)).filter (cmp a · = .eq) := by
      rw [List.filter_filter]
      simp [Ordering.then_eq_eq]
    rw [both.filter_mergeSort ha, inner, within.filter_mergeSort (perm.symm.subset ha), ← inner,
      outer, h'.filter_mergeSort ha, ← outer]

end Preorders

end Reshape
