import Reshape.Preorders
import Reshape.Record.Path

/-!
# Sorters

What a sort of records promises. It is stable, and it puts records in order if the comparison is a
total preorder of them. What it does with any other comparison is left open: it may rearrange the
records in some way, or give up.
-/

namespace Reshape

structure Sorter where
  /-- The records in order, or nothing if the sort gives up. -/
  sort : (Record → Record → Ordering) → List Record → Option (List Record)
  perm : ∀ {cmp : Record → Record → Ordering} {rs out : List Record},
    sort cmp rs = some out → out.Perm rs
  stable : ∀ {cmp : Record → Record → Ordering} {rs : List Record}, Preorders cmp rs →
    ∃ out, sort cmp rs = some out ∧ out.Pairwise (fun a b => (cmp a b).isLE) ∧
      ∀ r ∈ rs, out.filter (cmp r · = .eq) = rs.filter (cmp r · = .eq)

theorem Sorter.sort_eq (s : Sorter) {cmp : Record → Record → Ordering} {rs : List Record}
    (h : Preorders cmp rs) : s.sort cmp rs = some (rs.mergeSort fun a b => (cmp a b).isLE) := by
  obtain ⟨out, sorted, ordered, stable⟩ := s.stable h
  have perm := s.perm sorted
  have within := h.subset fun r mem => perm.subset mem
  rw [sorted, within.eq_of_stable (perm.trans (List.mergeSort_perm _ _).symm) ordered
    h.pairwise_mergeSort fun r mem => ?_]
  have mem := perm.subset mem
  rw [stable r mem, h.filter_mergeSort mem]

/-! ## Insertion -/

section Insertion

variable {α : Type} {cmp : α → α → Ordering} {item : α} {items sorted : List α}

/-- An item among sorted ones of which the last stands first. It moves to the front as long as it
is before the item that it meets. -/
def insertBack (cmp : α → α → Ordering) (item : α) : List α → List α
  | [] => [item]
  | last :: before =>
    if cmp item last = .lt then last :: insertBack cmp item before else item :: last :: before

/-- The items one after another, from an empty list. -/
def insertAll (cmp : α → α → Ordering) (items : List α) : List α :=
  (items.reverse.foldr (insertBack cmp) []).reverse

theorem insertBack_perm (cmp : α → α → Ordering) (item : α) (sorted : List α) :
    (insertBack cmp item sorted).Perm (item :: sorted) := by
  induction sorted with
  | nil => exact .refl _
  | cons last before ih =>
      rw [insertBack]
      split
      · exact (ih.cons last).trans (.swap item last before)
      · exact .refl _

theorem pairwise_insertBack (h : Preorders cmp items) (mem : item ∈ items)
    (sub : ∀ other ∈ sorted, other ∈ items)
    (ordered : sorted.Pairwise fun a b => (cmp b a).isLE) :
    (insertBack cmp item sorted).Pairwise fun a b => (cmp b a).isLE := by
  induction sorted with
  | nil => exact List.pairwise_singleton _ _
  | cons last before ih =>
      rw [List.forall_mem_cons] at sub
      rw [insertBack]
      obtain ⟨first, later⟩ := List.pairwise_cons.mp ordered
      split
      · rename_i less
        refine .cons (fun other found => ?_) (ih sub.2 later)
        rcases List.mem_cons.mp ((insertBack_perm cmp item before).subset found) with rfl | found
        · rw [less]
          rfl
        · exact first other found
      · rename_i stays
        have reached : (cmp last item).isLE := by
          rw [h.swap item mem last sub.1]
          cases order : cmp item last <;> simp_all
        refine .cons (List.forall_mem_cons.mpr ⟨reached, fun other found => ?_⟩) ordered
        exact h.trans other (sub.2 other found) last sub.1 item mem (first other found) reached

theorem filter_insertBack {a : α} (h : Preorders cmp items) (ha : a ∈ items) (mem : item ∈ items)
    (sub : ∀ other ∈ sorted, other ∈ items) :
    (insertBack cmp item sorted).filter (cmp a · = .eq) =
      (item :: sorted).filter (cmp a · = .eq) := by
  induction sorted with
  | nil => rfl
  | cons last before ih =>
      rw [List.forall_mem_cons] at sub
      rw [insertBack]
      split
      · rename_i less
        rw [List.filter_cons, ih sub.2]
        by_cases equal : cmp a item = .eq
        · -- The item has passed the last one, so the two are not equal.
          have apart : cmp a last ≠ .eq := by
            intro equal'
            have meet := h.eq_trans mem ha sub.1 (h.eq_symm ha mem equal) equal'
            rw [less] at meet
            cases meet
          simp [equal, apart]
        · simp [equal, List.filter_cons]
      · rfl

theorem foldr_insertBack_perm (cmp : α → α → Ordering) (items : List α) :
    (items.foldr (insertBack cmp) []).Perm items := by
  induction items with
  | nil => exact .refl _
  | cons item rest ih => exact (insertBack_perm cmp item _).trans (ih.cons item)

theorem pairwise_foldr_insertBack (h : Preorders cmp items) (sub : ∀ item ∈ sorted, item ∈ items) :
    (sorted.foldr (insertBack cmp) []).Pairwise fun a b => (cmp b a).isLE := by
  induction sorted with
  | nil => exact .nil
  | cons item rest ih =>
      rw [List.forall_mem_cons] at sub
      exact pairwise_insertBack h sub.1
        (fun other mem => sub.2 other ((foldr_insertBack_perm cmp rest).subset mem)) (ih sub.2)

theorem filter_foldr_insertBack {a : α} (h : Preorders cmp items) (ha : a ∈ items)
    (sub : ∀ item ∈ sorted, item ∈ items) :
    (sorted.foldr (insertBack cmp) []).filter (cmp a · = .eq) = sorted.filter (cmp a · = .eq) := by
  induction sorted with
  | nil => rfl
  | cons item rest ih =>
      rw [List.forall_mem_cons] at sub
      rw [List.foldr_cons, filter_insertBack h ha sub.1
        fun other mem => sub.2 other ((foldr_insertBack_perm cmp rest).subset mem),
        List.filter_cons, ih sub.2, List.filter_cons]

theorem insertAll_perm (cmp : α → α → Ordering) (items : List α) :
    (insertAll cmp items).Perm items :=
  (List.reverse_perm _).trans ((foldr_insertBack_perm cmp _).trans (List.reverse_perm items))

theorem pairwise_insertAll (h : Preorders cmp items) :
    (insertAll cmp items).Pairwise fun a b => (cmp a b).isLE :=
  List.pairwise_reverse.mpr (pairwise_foldr_insertBack h fun _ => List.mem_reverse.mp)

theorem filter_insertAll {a : α} (h : Preorders cmp items) (ha : a ∈ items) :
    (insertAll cmp items).filter (cmp a · = .eq) = items.filter (cmp a · = .eq) := by
  rw [insertAll, List.filter_reverse, filter_foldr_insertBack h ha fun _ => List.mem_reverse.mp,
    List.filter_reverse, List.reverse_reverse]

end Insertion

/-- Few records are sorted by insertion. More are merged, and the sort gives up if two of the merged
records are not in order. -/
def Sorter.checked : Sorter where
  sort cmp rs :=
    if rs.length ≤ 20 then some (insertAll cmp rs)
    else
      let out := rs.mergeSort fun a b => (cmp a b).isLE
      if out.Pairwise fun a b => (cmp a b).isLE then some out else none
  perm {cmp rs out} sorted := by
    dsimp only at sorted
    split at sorted
    · cases sorted
      exact insertAll_perm cmp rs
    · split at sorted
      · cases sorted
        exact List.mergeSort_perm _ _
      · cases sorted
  stable {cmp rs} h := by
    split
    · exact ⟨_, rfl, pairwise_insertAll h, fun r mem => filter_insertAll h mem⟩
    · exact ⟨_, if_pos h.pairwise_mergeSort, h.pairwise_mergeSort,
        fun r mem => h.filter_mergeSort mem⟩

end Reshape
