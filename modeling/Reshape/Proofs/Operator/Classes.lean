import Mathlib.Data.List.Forall2
import Reshape.Operator.Grouping

namespace Reshape

variable {κ α : Type}

def leaders (same : α → α → Bool) : List α → List α
  | [] => []
  | a :: rest => a :: (leaders same rest).filter fun b => !same a b

section

variable {same same' : α → α → Bool}

theorem leaders_sublist (items : List α) : (leaders same items).Sublist items := by
  induction items with
  | nil => exact .refl _
  | cons a rest ih => exact (List.filter_sublist.trans ih).cons_cons a

theorem pairwise_leaders (items : List α) :
    (leaders same items).Pairwise fun a b => same a b = false := by
  induction items with
  | nil => exact .nil
  | cons a rest ih =>
      refine .cons (fun b mem => ?_) (ih.filter _)
      simpa using (List.mem_filter.mp mem).2

theorem leaders_append_singleton (items : List α) (x : α) :
    leaders same (items ++ [x]) =
      leaders same items ++ if items.any (same · x) then [] else [x] := by
  induction items with
  | nil => rfl
  | cons a rest ih =>
      simp only [List.cons_append, leaders, ih, List.filter_append, List.any_cons]
      by_cases earlier : rest.any (same · x) = true
      · simp [earlier]
      · by_cases first : same a x = true <;> simp [earlier, first]

theorem leaders_congr {items : List α} (h : ∀ a ∈ items, ∀ b ∈ items, same a b = same' a b) :
    leaders same items = leaders same' items := by
  induction items with
  | nil => rfl
  | cons a rest ih =>
      have rest_same := ih fun b mem c mem' => h b (by simp [mem]) c (by simp [mem'])
      simp only [leaders, rest_same]
      congr 1
      refine List.filter_congr fun b mem => ?_
      rw [h a (by simp) b (by simp [(leaders_sublist rest).mem mem])]

end

variable [BEq κ] [LawfulBEq κ] (key : α → κ)

def sameKey (a b : α) : Bool :=
  key a == key b

theorem exists_leader {items : List α} {b : α} (h : b ∈ items) :
    ∃ a ∈ leaders (sameKey key) items, key a = key b := by
  induction items with
  | nil => cases h
  | cons first rest ih =>
      by_cases same : key first = key b
      · exact ⟨first, by simp [leaders], same⟩
      · have mem : b ∈ rest := (List.mem_cons.mp h).resolve_left fun here => same (here ▸ rfl)
        obtain ⟨a, leads, equal⟩ := ih mem
        refine ⟨a, ?_, equal⟩
        have other : key first ≠ key a := equal ▸ same
        simp [leaders, leads, sameKey, other]

theorem head?_filter_sameKey {items : List α} {a : α} (h : a ∈ leaders (sameKey key) items) :
    (items.filter (sameKey key a)).head? = some a := by
  induction items with
  | nil => cases h
  | cons first rest ih =>
      rcases List.mem_cons.mp h with rfl | later
      · simp [sameKey]
      · obtain ⟨leads, other⟩ := List.mem_filter.mp later
        have other : key first ≠ key a := by simpa [sameKey] using other
        rw [List.filter_cons_of_neg (by simpa [sameKey] using Ne.symm other)]
        exact ih leads

theorem leaders_getElem_inj {items : List α} {i j : Nat}
    (hi : i < (leaders (sameKey key) items).length) (hj : j < (leaders (sameKey key) items).length)
    (h : key (leaders (sameKey key) items)[i] = key (leaders (sameKey key) items)[j]) : i = j := by
  have distinct : (leaders (sameKey key) items).Pairwise _ := pairwise_leaders items
  have apart := List.pairwise_iff_getElem.mp distinct
  rcases Nat.lt_trichotomy i j with before | equal | after
  · have := apart i j hi hj before
    simp [sameKey, h] at this
  · exact equal
  · have := apart j i hj hi after
    simp [sameKey, h] at this

theorem flatten_modify_append {lists : List (List α)} {place : Nat} (h : place < lists.length)
    (x : α) : (lists.modify place (· ++ [x])).flatten.Perm (lists.flatten ++ [x]) := by
  induction lists generalizing place with
  | nil => cases h
  | cons first rest ih =>
      cases place with
      | zero =>
          simp only [List.modify_zero_cons, List.flatten_cons, List.append_assoc]
          exact List.perm_append_comm.append_left first
      | succ place =>
          simp only [List.modify_succ_cons, List.flatten_cons, List.append_assoc]
          exact (ih (by simpa using h)).append_left first

namespace Classified

/-- The classes are those of the items seen so far, none of which is lost, and the index finds the
class of each key. -/
structure Covers (c : Classified κ α) (seen : List α) : Prop where
  classes : c.classes = (leaders (sameKey key) seen).map fun a => seen.filter (sameKey key a)
  places : ∀ k, c.places.lookup k = (leaders (sameKey key) seen).findIdx? (key · == k)
  members : c.classes.flatten.Perm seen

variable {key} {c : Classified κ α} {seen : List α} {x : α}

theorem covers_join (h : c.Covers key seen) {place : Nat}
    (found : c.places.lookup (key x) = some place) : (c.add (key x) x).Covers key (seen ++ [x]) := by
  have added : c.add (key x) x = { c with classes := c.classes.modify place (· ++ [x]) } := by
    simp only [add, found]
  obtain ⟨bound, leads, -⟩ :=
    List.findIdx?_eq_some_iff_getElem.mp ((h.places (key x)).symm.trans found)
  have leads : key (leaders (sameKey key) seen)[place] = key x := eq_of_beq leads
  have known : seen.any (sameKey key · x) = true :=
    List.any_eq_true.mpr ⟨_, (leaders_sublist seen).mem (List.getElem_mem bound), beq_iff_eq.mpr leads⟩
  have same : leaders (sameKey key) (seen ++ [x]) = leaders (sameKey key) seen := by
    rw [leaders_append_singleton, if_pos known, List.append_nil]
  rw [added]
  refine ⟨?_, fun k => by rw [same]; exact h.places k, ?_⟩
  · -- Only the class at the place of the key grows, and no other class has that key.
    simp only [same, h.classes]
    refine List.ext_getElem (by simp) fun i hi hi' => ?_
    have inside : i < (leaders (sameKey key) seen).length := by simpa using hi'
    rw [List.getElem_modify]
    simp only [List.getElem_map, List.filter_append]
    by_cases here : place = i
    · subst here
      simp [sameKey, leads]
    · have other : key (leaders (sameKey key) seen)[i] ≠ key x := fun equal =>
        here (leaders_getElem_inj key bound inside (leads.trans equal.symm))
      simp [here, sameKey, other]
  · have bound : place < c.classes.length := by simpa [h.classes] using bound
    exact (flatten_modify_append bound x).trans (h.members.append_right [x])

theorem covers_start (h : c.Covers key seen) (missing : c.places.lookup (key x) = none) :
    (c.add (key x) x).Covers key (seen ++ [x]) := by
  have added : c.add (key x) x =
      ⟨(key x, c.classes.length) :: c.places, c.classes ++ [[x]]⟩ := by
    simp only [add, missing]
  have leads : ∀ a ∈ leaders (sameKey key) seen, key a ≠ key x := by
    simpa using List.findIdx?_eq_none_iff.mp ((h.places (key x)).symm.trans missing)
  have fresh : ∀ b ∈ seen, key b ≠ key x := by
    intro b mem equal
    obtain ⟨a, lead, same⟩ := exists_leader key mem
    exact leads a lead (same.trans equal)
  have unknown : ¬ seen.any (sameKey key · x) = true := by
    simpa [sameKey] using fresh
  have longer : leaders (sameKey key) (seen ++ [x]) = leaders (sameKey key) seen ++ [x] := by
    rw [leaders_append_singleton, if_neg unknown]
  rw [added]
  refine ⟨?_, fun k => ?_, ?_⟩
  · have others : seen.filter (sameKey key x) = [] :=
      List.filter_eq_nil_iff.mpr fun b mem => by simpa [sameKey] using Ne.symm (fresh b mem)
    simp only [longer, h.classes, List.map_append, List.map_cons, List.map_nil, List.filter_append,
      others]
    congr 1
    · refine List.map_congr_left fun a lead => ?_
      simp [sameKey, leads a lead]
    · simp [sameKey]
  · -- The new place is the number of leaders so far, which is where the new leader is found.
    have place : c.classes.length = (leaders (sameKey key) seen).length := by simp [h.classes]
    rw [longer, List.findIdx?_append, ← h.places k]
    by_cases here : k = key x
    · subst here
      simp [missing, place]
    · have here' : (k == key x) = false := by simpa using here
      have other : (key x == k) = false := by simpa using Ne.symm here
      simp [List.lookup_cons, here', other]
  · simpa using h.members.append_right [x]

theorem covers_add (h : c.Covers key seen) (x : α) : (c.add (key x) x).Covers key (seen ++ [x]) := by
  cases found : c.places.lookup (key x) with
  | some place => exact covers_join h found
  | none => exact covers_start h found

theorem covers_foldl (h : c.Covers key seen) (items : List α) :
    (items.foldl (fun c item => c.add (key item) item) c).Covers key (seen ++ items) := by
  induction items generalizing c seen with
  | nil => simpa using h
  | cons x rest ih => simpa using ih (covers_add h x)

theorem covers_all (key : α → κ) (items : List α) :
    (items.foldl (fun c item => c.add (key item) item) empty).Covers key items := by
  have start : (empty : Classified κ α).Covers key [] := ⟨rfl, fun _ => rfl, .nil⟩
  simpa using covers_foldl start items

end Classified

theorem classes_eq (items : List α) :
    classes key items = (leaders (sameKey key) items).map fun a => items.filter (sameKey key a) :=
  (Classified.covers_all key items).classes

theorem flatten_classes_perm (items : List α) : (classes key items).flatten.Perm items :=
  (Classified.covers_all key items).members

end Reshape
