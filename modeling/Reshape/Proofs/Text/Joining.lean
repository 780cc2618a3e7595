import Mathlib.Data.List.Infix
import Mathlib.Data.String.Basic
import Reshape.Text.Blank

namespace Reshape.Text

variable {sep x y u v : List Char} {xs ys : List (List Char)}

/-- A part of a text, neither empty nor all of it, is its beginning and its end. -/
def Overlapping (sep : List Char) : Prop :=
  ∃ part, part ≠ [] ∧ part ≠ sep ∧ part <+: sep ∧ part <:+ sep

def EndsApart (sep text : List Char) : Prop :=
  ¬ sep <:+: text ++ sep.dropLast

def StartsApart (sep text : List Char) : Prop :=
  ¬ sep <:+: sep.tail ++ text

instance : DecidablePred (EndsApart sep) := fun _ => inferInstanceAs (Decidable (¬ _))

instance : DecidablePred (StartsApart sep) := fun _ => inferInstanceAs (Decidable (¬ _))

theorem EndsApart.outside (h : EndsApart sep x) : ¬ sep <:+: x :=
  fun inside => h (inside.trans (List.prefix_append x _).isInfix)

theorem endsApart_reverse : EndsApart sep.reverse x.reverse ↔ StartsApart sep x := by
  rw [EndsApart, StartsApart, List.dropLast_reverse, ← List.reverse_append, List.reverse_infix]

theorem endsApart_of_not_overlapping (h : ¬ Overlapping sep) (outside : ¬ sep <:+: x) :
    EndsApart sep x := by
  -- The part of a separator that would be found twice is one in which it overlaps itself.
  rintro ⟨front, back, found⟩
  have nonempty : sep ≠ [] := fun none => outside (none ▸ List.nil_infix)
  have shortened : sep.dropLast <+: sep := List.dropLast_prefix sep
  have short : sep.dropLast.length < sep.length := by
    rw [List.length_dropLast]
    exact Nat.sub_one_lt (List.length_pos_iff.mpr nonempty).ne'
  rcases List.append_eq_append_iff.mp found with ⟨part, whole, cut⟩ | ⟨part, whole, cut⟩
  · exact outside ⟨front, part, whole.symm⟩
  · -- The part of the place that lies behind the text begins the separator and ends it.
    have begins : part <+: sep := (cut ▸ List.prefix_append part back).trans shortened
    have bound : part.length < sep.length := by
      have := congrArg List.length cut
      rw [List.length_append] at this
      omega
    have ends : part <:+ sep :=
      List.suffix_of_suffix_length_le (whole ▸ List.suffix_append x part)
        (List.suffix_append front sep) (Nat.le_of_lt bound)
    have some : part ≠ [] := by
      rintro rfl
      rw [List.append_nil] at whole
      exact outside (whole ▸ (List.suffix_append front sep).isInfix)
    have proper : part ≠ sep := fun same => absurd bound (same ▸ Nat.lt_irrefl _)
    exact h ⟨part, some, proper, begins, ends⟩

theorem not_lt_of_append_sep (hy : EndsApart sep y) (nonempty : sep ≠ [])
    (h : x ++ sep ++ u = y ++ sep ++ v) : ¬ x.length < y.length := by
  intro shorter
  have shortened : sep.dropLast <+: sep := List.dropLast_prefix sep
  have last : sep.dropLast.length + 1 = sep.length := by
    rw [List.length_dropLast, Nat.sub_one_add_one (List.length_pos_iff.mpr nonempty).ne']
  have first : x ++ sep <+: y ++ sep ++ v := ⟨u, h⟩
  have second : y ++ sep.dropLast <+: y ++ sep ++ v := by
    rw [List.append_assoc]
    exact (List.prefix_append_right_inj y).mpr (shortened.trans (List.prefix_append sep v))
  have inside : x ++ sep <+: y ++ sep.dropLast := by
    apply List.prefix_of_prefix_length_le first second
    rw [List.length_append, List.length_append]
    omega
  exact hy ((List.suffix_append x sep).isInfix.trans inside.isInfix)

theorem append_sep_inj (hx : EndsApart sep x) (hy : EndsApart sep y) (nonempty : sep ≠ [])
    (h : x ++ sep ++ u = y ++ sep ++ v) : x = y ∧ u = v := by
  have length : x.length = y.length := by
    have := not_lt_of_append_sep hy nonempty h
    have := not_lt_of_append_sep hx nonempty h.symm
    omega
  rw [List.append_assoc, List.append_assoc] at h
  obtain ⟨same, rest⟩ := List.append_inj h length
  exact ⟨same, List.append_cancel_left rest⟩

theorem intercalate_inj (nonempty : sep ≠ []) (left : ∀ x ∈ xs, EndsApart sep x)
    (right : ∀ y ∈ ys, EndsApart sep y) (some : xs ≠ []) (some' : ys ≠ [])
    (h : sep.intercalate xs = sep.intercalate ys) : xs = ys := by
  -- One text is not several texts joined, since it does not hold the separator.
  have single {x y y' : List Char} {ys : List (List Char)} (hx : EndsApart sep x) :
      x ≠ sep.intercalate (y :: y' :: ys) := by
    rintro rfl
    rw [List.intercalate_cons_cons] at hx
    exact hx.outside ⟨y, _, rfl⟩
  induction xs generalizing ys with
  | nil => exact absurd rfl some
  | cons x xs ih =>
      obtain ⟨hx, later⟩ := List.forall_mem_cons.mp left
      obtain ⟨y, ys, rfl⟩ := List.exists_cons_of_ne_nil some'
      obtain ⟨hy, later'⟩ := List.forall_mem_cons.mp right
      cases xs with
      | nil =>
          rw [List.intercalate_singleton] at h
          cases ys with
          | nil => rw [h, List.intercalate_singleton]
          | cons y' ys => exact absurd h (single hx)
      | cons x' xs =>
          cases ys with
          | nil =>
              rw [List.intercalate_singleton] at h
              exact absurd h.symm (single hy)
          | cons y' ys =>
              rw [List.intercalate_cons_cons, List.intercalate_cons_cons] at h
              obtain ⟨rfl, rest⟩ := append_sep_inj hx hy nonempty h
              rw [ih later later' (List.cons_ne_nil _ _) (List.cons_ne_nil _ _) rest]

theorem intercalate_append (h : xs ≠ []) :
    sep.intercalate (xs ++ [y]) = sep.intercalate xs ++ sep ++ y := by
  induction xs with
  | nil => exact absurd rfl h
  | cons x xs ih =>
      cases xs with
      | nil => simp
      | cons x' xs =>
          have rest := ih (List.cons_ne_nil _ _)
          rw [List.cons_append] at rest
          rw [List.cons_append, List.cons_append, List.intercalate_cons_cons, rest,
            List.intercalate_cons_cons, List.append_assoc, List.append_assoc, List.append_assoc,
            List.append_assoc, List.append_assoc]

theorem reverse_intercalate (sep : List Char) (xs : List (List Char)) :
    (sep.intercalate xs).reverse = sep.reverse.intercalate (xs.map List.reverse).reverse := by
  induction xs with
  | nil => rfl
  | cons x xs ih =>
      cases xs with
      | nil => simp
      | cons x' xs =>
          have some : ((x' :: xs).map List.reverse).reverse ≠ [] := by simp
          calc (sep.intercalate (x :: x' :: xs)).reverse
              = sep.reverse.intercalate ((x' :: xs).map List.reverse).reverse ++
                  sep.reverse ++ x.reverse := by
                rw [List.intercalate_cons_cons, List.reverse_append, List.reverse_append, ih,
                  List.append_assoc]
            _ = sep.reverse.intercalate (((x' :: xs).map List.reverse).reverse ++ [x.reverse]) :=
                (intercalate_append some).symm
            _ = sep.reverse.intercalate ((x :: x' :: xs).map List.reverse).reverse := by simp

theorem join_inj {sep : String} {names others : List String} (nonempty : sep ≠ "")
    (some : names ≠ []) (some' : others ≠ [])
    (apart : (∀ name ∈ names ++ others, EndsApart sep.toList name.toList) ∨
      ∀ name ∈ names ++ others, StartsApart sep.toList name.toList)
    (h : join sep names = join sep others) : names = others := by
  have chars : sep.toList.intercalate (names.map String.toList) =
      sep.toList.intercalate (others.map String.toList) := by
    have := congrArg String.toList h
    rwa [join, join, String.toList_intercalate, String.toList_intercalate] at this
  apply List.map_injective_iff.mpr fun _ _ => String.toList_injective
  rcases apart with ends | starts
  · simp only [List.forall_mem_append] at ends
    refine intercalate_inj (by simpa using nonempty) ?_ ?_ (by simpa using some)
      (by simpa using some') chars
    · simpa using ends.1
    · simpa using ends.2
  · simp only [List.forall_mem_append] at starts
    apply List.map_injective_iff.mpr List.reverse_injective
    apply List.reverse_injective
    have back := congrArg List.reverse chars
    rw [reverse_intercalate, reverse_intercalate] at back
    refine intercalate_inj (by simpa using nonempty) ?_ ?_ (by simpa using some)
      (by simpa using some') back
    · simpa [endsApart_reverse] using starts.1
    · simpa [endsApart_reverse] using starts.2

end Reshape.Text
