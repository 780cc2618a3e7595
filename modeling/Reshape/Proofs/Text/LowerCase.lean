import Mathlib
import Reshape.Text.Search
import Reshape.Unicode.Case

namespace Reshape

namespace Unicode

variable {c d : Char} {n : Nat} {cs ds : List Char}

def Caseless (c : Char) : Prop :=
  0 < c.toNat ∧ c.toNat < 0x41

theorem run_bounds : ∀ r ∈ lowerRuns, 0x41 ≤ r.first ∧ 0x61 ≤ r.image := by
  decide +kernel

theorem mapBy_lowerRuns_of_lt (h : n < 0x41) : mapBy lowerRuns n = n := by
  have none : lowerRuns.find? (·.contains n) = none := by
    rw [List.find?_eq_none]
    intro r mem inside
    have first := (run_bounds r mem).1
    simp only [Run.contains, Bool.and_eq_true, decide_eq_true_eq] at inside
    omega
  rw [mapBy, none]

theorem mapBy_lowerRuns_cases (n : Nat) : mapBy lowerRuns n = n ∨ 0x61 ≤ mapBy lowerRuns n := by
  unfold mapBy
  split
  · rename_i r found
    have image := (run_bounds r (List.mem_of_find?_eq_some found)).2
    right
    rw [Run.apply]
    omega
  · exact .inl rfl

theorem lowerChar_of_caseless (h : Caseless c) : lowerChar c = [c] := by
  have other : c ≠ 'İ' := by
    rintro rfl
    exact absurd h.2 (by decide)
  rw [lowerChar, if_neg other, mapBy_lowerRuns_of_lt h.2, Char.ofNat_toNat]

theorem caseless_of_mem_lowerChar (mem : d ∈ lowerChar c) (h : Caseless d) : Caseless c := by
  unfold lowerChar at mem
  split at mem
  · simp only [List.mem_cons, List.not_mem_nil, or_false] at mem
    rcases mem with rfl | rfl <;> exact absurd h.2 (by decide)
  · rw [List.mem_singleton] at mem
    rcases mapBy_lowerRuns_cases c.toNat with kept | moved
    · rwa [mem, kept, Char.ofNat_toNat] at h
    · obtain ⟨some, small⟩ := h
      rw [mem] at some small
      rw [Char.toNat_ofNat] at some small
      by_cases valid : (mapBy lowerRuns c.toNat).isValidChar
      · rw [if_pos valid] at small
        omega
      · rw [if_neg valid] at some
        omega

theorem lowerChar_ne_nil (c : Char) : lowerChar c ≠ [] := by
  unfold lowerChar
  split <;> exact nofun

theorem lowerFrom_eq_iff (before : List Char) (h : ∀ d ∈ ds, Caseless d) :
    lowerFrom before cs = ds ↔ cs = ds := by
  induction cs generalizing before ds with
  | nil => rfl
  | cons c cs ih =>
      rw [lowerFrom]
      by_cases caseless : Caseless c
      · have other : c ≠ 'Σ' := by
          rintro rfl
          exact absurd caseless.2 (by decide)
        rw [if_neg other, lowerChar_of_caseless caseless, List.singleton_append]
        cases ds with
        | nil => simp
        | cons d ds =>
            rw [List.cons.injEq, List.cons.injEq,
              ih (c :: before) fun d mem => h d (List.mem_cons_of_mem _ mem)]
      · refine iff_of_false (fun same => ?_) fun same => caseless (h c (same ▸ List.mem_cons_self ..))
        split at same
        · -- Both small forms of sigma are letters.
          have sigma := h (if isFinal before cs then 'ς' else 'σ') (by simp [← same])
          split at sigma <;> exact absurd sigma.2 (by decide)
        · obtain ⟨d, rest, image⟩ := List.exists_cons_of_ne_nil (lowerChar_ne_nil c)
          have small := h d (by simp [← same, image])
          exact caseless (caseless_of_mem_lowerChar (by simp [image]) small)

theorem lowerChars_eq_iff (h : ∀ d ∈ ds, Caseless d) : lowerChars cs = ds ↔ cs = ds :=
  lowerFrom_eq_iff [] h

end Unicode

namespace Text

variable {needle text : List Char}

theorem occursIn_iff_infix : occursIn needle text = true ↔ needle <:+: text := by
  induction text with
  | nil => simp [occursIn]
  | cons c rest ih =>
      rw [occursIn, Bool.or_eq_true, ih, List.isPrefixOf_iff_prefix, List.infix_cons_iff]

end Text

end Reshape
