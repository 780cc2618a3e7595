import Mathlib.Data.List.Induction
import Mathlib.Data.List.Nodup
import Reshape.Proofs.Record.Path

namespace Reshape

namespace Record

instance (r : Record) : Decidable r.Distinct :=
  inferInstanceAs (Decidable r.keys.Nodup)

theorem mem_insert {r : Record} {key : String} {v : Value} {field : String × Value}
    (h : field ∈ r.insert key v) : field ∈ r ∨ field = (key, v) := by
  induction r with
  | nil =>
      rw [insert, List.mem_singleton] at h
      exact .inr h
  | cons first rest ih =>
      obtain ⟨k, w⟩ := first
      rw [insert] at h
      split at h
      · rename_i same
        rcases List.mem_cons.mp h with rfl | mem
        · exact .inr (by rw [same])
        · exact .inl (List.mem_cons_of_mem _ mem)
      · rcases List.mem_cons.mp h with rfl | mem
        · exact .inl (List.mem_cons_self ..)
        · exact (ih mem).imp_left (List.mem_cons_of_mem _)

theorem ofList_append_singleton (fields : List (String × Value)) (field : String × Value) :
    ofList (fields ++ [field]) = (ofList fields).insert field.1 field.2 := by
  rw [ofList, List.foldl_append, List.foldl_cons, List.foldl_nil, ← ofList]

theorem mem_of_mem_ofList {fields : List (String × Value)} {field : String × Value}
    (h : field ∈ ofList fields) : field ∈ fields := by
  induction fields using List.reverseRecOn with
  | nil => exact h
  | append_singleton fields last ih =>
      rw [ofList_append_singleton] at h
      rcases mem_insert h with old | rfl
      · exact List.mem_append_left _ (ih old)
      · exact List.mem_append_right _ (List.mem_singleton.mpr rfl)

theorem ofList_distinct (fields : List (String × Value)) : (ofList fields).Distinct := by
  induction fields using List.reverseRecOn with
  | nil => exact List.nodup_nil
  | append_singleton fields last ih =>
      rw [ofList_append_singleton]
      exact insert_distinct ih last.1 last.2

theorem get?_foldl_of_notMem {fields : List (String × Value)} {r : Record} {name : String}
    (h : name ∉ fields.map Prod.fst) :
    (fields.foldl (fun r field => r.insert field.1 field.2) r).get? name = r.get? name := by
  induction fields generalizing r with
  | nil => rfl
  | cons field rest ih =>
      simp only [List.map_cons, List.mem_cons, not_or] at h
      rw [List.foldl_cons, ih h.2, get?_insert_of_ne r field.2 (Ne.symm h.1)]

theorem get?_foldl_of_mem {fields : List (String × Value)} {r : Record} {name : String} {v : Value}
    (h : (name, v) ∈ fields) (only : ∀ w, (name, w) ∈ fields → w = v) :
    (fields.foldl (fun r field => r.insert field.1 field.2) r).get? name = some v := by
  induction fields generalizing r with
  | nil => cases h
  | cons field rest ih =>
      -- A path may stand twice among the paths, so the last time the field is written counts.
      by_cases later : (name, v) ∈ rest
      · exact ih later fun w mem => only w (List.mem_cons_of_mem _ mem)
      · obtain rfl : (name, v) = field := (List.mem_cons.mp h).resolve_right later
        have last : name ∉ rest.map Prod.fst := by
          intro named
          obtain ⟨⟨other, w⟩, mem, rfl⟩ := List.mem_map.mp named
          obtain rfl : w = v := only w (List.mem_cons_of_mem _ mem)
          exact later mem
        rw [List.foldl_cons, get?_foldl_of_notMem last, get?_insert_self]

theorem get?_ofList (fields : List (String × Value)) (name : String) :
    (ofList fields).get? name = fields.reverse.lookup name := by
  induction fields using List.reverseRecOn with
  | nil => rfl
  | append_singleton fields field ih =>
      rw [ofList_append_singleton, get?_insert, ih, List.reverse_append, List.reverse_singleton,
        List.singleton_append, List.lookup_cons]
      by_cases here : field.1 = name
      · simp [here]
      · simp [here, beq_false_of_ne (Ne.symm here)]

theorem insert_of_notMem {r : Record} {name : String} (h : name ∉ r.keys) (v : Value) :
    r.insert name v = r ++ [(name, v)] := by
  induction r with
  | nil => rfl
  | cons field rest ih =>
      simp only [keys, List.map_cons, List.mem_cons, not_or] at h
      rw [insert, if_neg (Ne.symm h.1), ih h.2, List.cons_append]

theorem foldl_insert_eq_append {fields : List (String × Value)} {r : Record}
    (h : (r ++ fields).keys.Nodup) :
    fields.foldl (fun r field => r.insert field.1 field.2) r = r ++ fields := by
  induction fields generalizing r with
  | nil => rw [List.foldl_nil, List.append_nil]
  | cons field rest ih =>
      have absent : field.1 ∉ r.keys := by
        rw [keys, List.map_append, List.map_cons, List.nodup_middle, List.nodup_cons] at h
        exact fun mem => h.1 (List.mem_append_left _ mem)
      rw [List.append_cons] at h
      rw [List.foldl_cons, insert_of_notMem absent, ih h, ← List.append_cons]

theorem ofList_eq_self {fields : Record} (h : fields.Distinct) : ofList fields = fields :=
  foldl_insert_eq_append h

theorem length_insert (r : Record) (name : String) (v : Value) :
    (r.insert name v).length = if name ∈ r.keys then r.length else r.length + 1 := by
  rw [← List.length_map (f := Prod.fst), ← keys, keys_insert]
  split <;> simp [keys]

theorem length_foldl_insert_le (fields : List (String × Value)) (r : Record) :
    (fields.foldl (fun r field => r.insert field.1 field.2) r).length ≤
      r.length + fields.length := by
  induction fields generalizing r with
  | nil => exact Nat.le_refl _
  | cons field rest ih =>
      have step := length_insert r field.1 field.2
      have all := ih (r.insert field.1 field.2)
      rw [List.foldl_cons, List.length_cons]
      split at step <;> omega

theorem nodup_of_length_foldl_insert {fields : List (String × Value)} {r : Record}
    (names : r.Distinct) (h : (fields.foldl (fun r field => r.insert field.1 field.2) r).length =
      r.length + fields.length) : Record.Distinct (r ++ fields) := by
  induction fields generalizing r with
  | nil => rwa [List.append_nil]
  | cons field rest ih =>
      have step := length_insert r field.1 field.2
      have bound := length_foldl_insert_le rest (r.insert field.1 field.2)
      rw [List.foldl_cons, List.length_cons] at h
      have fresh : field.1 ∉ r.keys := by
        intro mem
        rw [if_pos mem] at step
        omega
      rw [if_neg fresh] at step
      have rest_names := ih (insert_distinct names field.1 field.2) (by omega)
      rwa [insert_of_notMem fresh, List.append_assoc] at rest_names

theorem length_ofList_eq_iff {fields : Record} :
    (ofList fields).length = fields.length ↔ fields.Distinct := by
  constructor
  · intro h
    exact nodup_of_length_foldl_insert (r := []) List.nodup_nil (by simpa [ofList] using h)
  · intro names
    rw [ofList_eq_self names]

end Record

end Reshape
