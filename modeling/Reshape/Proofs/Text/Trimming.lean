import Mathlib.Data.List.Basic
import Reshape.Text.Blank

namespace Reshape.Text

variable {cs : List Char} {c : Char}

structure Trimmed (cs : List Char) : Prop where
  first : ∀ c ∈ cs.head?, isBlank c = false
  last : ∀ c ∈ cs.getLast?, isBlank c = false

theorem dropBlank_of_first (h : ∀ c ∈ cs.head?, isBlank c = false) : dropBlank cs = cs := by
  cases cs with
  | nil => rfl
  | cons c rest => simp [dropBlank, h c rfl]

theorem dropBlankEnd_of_last (h : ∀ c ∈ cs.getLast?, isBlank c = false) : dropBlankEnd cs = cs := by
  have reversed : dropBlank cs.reverse = cs.reverse := dropBlank_of_first (by simpa using h)
  rw [dropBlankEnd, ← dropBlank, reversed, List.reverse_reverse]

theorem Trimmed.of_unspaced (h : ∀ c ∈ cs, isBlank c = false) : Trimmed cs where
  first c mem := h c (List.mem_of_mem_head? mem)
  last c mem := h c (List.mem_of_mem_getLast? mem)

theorem isBlank_of_isDigit (h : c.isDigit = true) : isBlank c = false := by
  have digit : 48 ≤ c.toNat ∧ c.toNat ≤ 57 := Char.isDigit_iff_toNat.mp h
  simp only [isBlank, Bool.or_eq_false_iff, Bool.and_eq_false_iff, decide_eq_false_iff_not,
    beq_eq_false_iff_ne]
  omega

theorem Trimmed.of_numeral (h : ∀ c ∈ cs, c.isDigit = true ∨ c ∈ ['.', 'e', '+', '-']) :
    Trimmed cs := by
  refine .of_unspaced fun c mem => ?_
  rcases h c mem with digit | other
  · exact isBlank_of_isDigit digit
  · simp only [List.mem_cons, List.not_mem_nil, or_false] at other
    rcases other with rfl | rfl | rfl | rfl <;> decide

theorem Trimmed.trimChars_eq (h : Trimmed cs) : trimChars cs = cs := by
  rw [trimChars, dropBlank_of_first h.first, dropBlankEnd_of_last h.last]

theorem Trimmed.append {front back : List Char} (before : Trimmed front) (after : Trimmed back)
    (h : front ≠ []) (h' : back ≠ []) (middle : List Char) : Trimmed (front ++ middle ++ back) where
  first c mem := by
    rw [List.append_assoc, List.head?_append_of_ne_nil _ h] at mem
    exact before.first c mem
  last c mem := by
    rw [List.getLast?_append_of_ne_nil _ h'] at mem
    exact after.last c mem

theorem dropBlank_first (cs : List Char) : ∀ c ∈ (dropBlank cs).head?, isBlank c = false := by
  intro c first
  have stopped := List.head?_dropWhile_not isBlank cs
  rw [← dropBlank, first] at stopped
  simpa using stopped

theorem exists_dropBlankEnd (cs : List Char) : ∃ after, cs = dropBlankEnd cs ++ after := by
  refine ⟨(cs.reverse.takeWhile isBlank).reverse, ?_⟩
  rw [dropBlankEnd, ← List.reverse_append, List.takeWhile_append_dropWhile, List.reverse_reverse]

theorem trimmed_trimChars (cs : List Char) : Trimmed (trimChars cs) := by
  constructor
  · intro c first
    obtain ⟨after, split⟩ := exists_dropBlankEnd (dropBlank cs)
    apply dropBlank_first cs
    rw [split]
    exact List.mem_head?_append_of_mem_head? first
  · intro c last
    rw [trimChars, dropBlankEnd, List.getLast?_reverse] at last
    exact dropBlank_first (dropBlank cs).reverse c last

theorem trimmed_iff : Trimmed cs ↔ trimChars cs = cs := by
  refine ⟨Trimmed.trimChars_eq, fun same => ?_⟩
  rw [← same]
  exact trimmed_trimChars cs

theorem exists_trimChars (cs : List Char) :
    ∃ before after, cs = before ++ trimChars cs ++ after := by
  obtain ⟨after, split⟩ := exists_dropBlankEnd (dropBlank cs)
  refine ⟨cs.takeWhile isBlank, after, ?_⟩
  rw [trimChars, List.append_assoc, ← split, dropBlank, List.takeWhile_append_dropWhile]

theorem length_trimChars_le (cs : List Char) : (trimChars cs).length ≤ cs.length := by
  obtain ⟨before, after, split⟩ := exists_trimChars cs
  have length := congrArg List.length split
  rw [List.length_append, List.length_append] at length
  omega

theorem trimChars_ne_nil (h : isBlank c = false) : trimChars (c :: cs) ≠ [] := by
  rw [trimChars, dropBlank, List.dropWhile_cons_of_neg (by simp [h]), dropBlankEnd,
    List.reverse_cons, List.dropWhile_append]
  split <;> simp [h]

theorem trimChars_cons (blank : isBlank c = true) : trimChars (c :: cs) = trimChars cs := by
  simp [trimChars, dropBlank, blank]

theorem dropBlankEnd_append (cs : List Char) (blank : isBlank c = true) :
    dropBlankEnd (cs ++ [c]) = dropBlankEnd cs := by
  simp [dropBlankEnd, blank]

theorem trimChars_append (blank : isBlank c = true) : trimChars (cs ++ [c]) = trimChars cs := by
  induction cs with
  | nil => simp [trimChars, dropBlank, dropBlankEnd, blank]
  | cons d rest ih =>
      by_cases first : isBlank d = true
      · rw [List.cons_append, trimChars_cons first, trimChars_cons first, ih]
      · simp only [trimChars, dropBlank, List.cons_append, List.dropWhile_cons_of_neg first]
        exact dropBlankEnd_append (d :: rest) blank

end Reshape.Text
