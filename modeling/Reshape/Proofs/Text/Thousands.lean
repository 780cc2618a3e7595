import Mathlib.Data.List.Flatten
import Reshape.Text.Thousands

namespace Reshape.Text

/-- A text cut into groups of three characters from the right. -/
structure Grouped (text first : List Char) (others : List (List Char)) : Prop where
  whole : first ++ others.flatten = text
  some : 1 ≤ first.length
  short : first.length ≤ 3
  threes : ∀ group ∈ others, group.length = 3

section Groups

variable {text first : List Char} {others : List (List Char)}

namespace Grouped

theorem lengths (h : Grouped text first others) :
    others.map List.length = List.replicate others.length 3 :=
  List.map_eq_replicate_iff.mpr h.threes

theorem length (h : Grouped text first others) :
    text.length = first.length + others.length * 3 := by
  rw [← h.whole, List.length_append, List.length_flatten, h.lengths, List.sum_replicate_nat]

theorem unique {first' : List Char} {others' : List (List Char)} (h : Grouped text first others)
    (h' : Grouped text first' others') : first = first' ∧ others = others' := by
  have total := h.length.symm.trans h'.length
  have bounds := And.intro h.some h.short
  have bounds' := And.intro h'.some h'.short
  have size : first.length = first'.length := by omega
  have count : others.length = others'.length := by omega
  obtain ⟨same, rest⟩ := List.append_inj (h.whole.trans h'.whole.symm) size
  refine ⟨same, List.eq_iff_flatten_eq.mpr ⟨rest, ?_⟩⟩
  rw [h.lengths, h'.lengths, count]

theorem cons_full (h : Grouped text first others) (full : first.length = 3) (c : Char) :
    Grouped (c :: text) [c] (first :: others) where
  whole := congrArg (c :: ·) h.whole
  some := Nat.le_refl 1
  short := by simp
  threes := List.forall_mem_cons.mpr ⟨full, h.threes⟩

theorem cons_room (h : Grouped text first others) (room : first.length < 3) (c : Char) :
    Grouped (c :: text) (c :: first) others where
  whole := congrArg (c :: ·) h.whole
  some := Nat.le_add_left 1 _
  short := room
  threes := h.threes

end Grouped

theorem exists_grouped (separator : List Char) (nonempty : text ≠ []) :
    ∃ first others, Grouped text first others ∧
      groupDigits separator text = separator.intercalate (first :: others) := by
  induction text with
  | nil => exact absurd rfl nonempty
  | cons c rest ih =>
      by_cases last : rest = []
      · subst last
        exact ⟨[c], [], ⟨rfl, Nat.le_refl 1, by simp, List.forall_mem_nil _⟩,
          List.intercalate_singleton.symm⟩
      · obtain ⟨first, others, grouped, written⟩ := ih last
        have size := grouped.length
        have some := grouped.some
        have short := grouped.short
        rw [groupDigits, written]
        -- The number of characters behind is a multiple of three if their first group is full.
        by_cases full : first.length = 3
        · have thirds : rest.length % 3 = 0 := by omega
          refine ⟨[c], first :: others, grouped.cons_full full c, ?_⟩
          rw [if_pos ⟨thirds, last⟩, List.intercalate_cons_cons]
          rfl
        · have between : ¬ (rest.length % 3 = 0 ∧ rest ≠ []) := by omega
          refine ⟨c :: first, others, grouped.cons_room (by omega) c, ?_⟩
          rw [if_neg between]
          cases others with
          | nil => simp
          | cons next others => simp [List.intercalate_cons_cons]

end Groups

structure NumberParts (sign whole fraction : List Char) : Prop where
  sign : sign = [] ∨ sign = ['-']
  some : whole ≠ []
  digits : ∀ c ∈ whole, c.isDigit = true
  fraction : fraction = [] ∨ ∃ places, fraction = '.' :: places ∧ ∀ c ∈ places, c.isDigit = true

namespace NumberParts

variable {sign whole fraction : List Char}

theorem groupUnsigned_append (h : NumberParts sign whole fraction) (separator : List Char) :
    groupUnsigned separator (whole ++ fraction) = groupDigits separator whole ++ fraction := by
  have before : ∀ c ∈ whole, decide (c ≠ '.') = true := by
    intro c mem
    have digit := h.digits c mem
    refine decide_eq_true fun point => ?_
    rw [point] at digit
    exact absurd digit (by decide)
  have taken : (whole ++ fraction).takeWhile (· ≠ '.') = whole := by
    rw [List.takeWhile_append_of_pos before]
    rcases h.fraction with rfl | ⟨places, rfl, -⟩ <;> simp
  have dropped : (whole ++ fraction).dropWhile (· ≠ '.') = fraction := by
    rw [List.dropWhile_append_of_pos before]
    rcases h.fraction with rfl | ⟨places, rfl, -⟩ <;> simp
  rw [groupUnsigned, taken, dropped]

theorem groupThousands_append (h : NumberParts sign whole fraction) (separator : List Char) :
    groupThousands separator (sign ++ whole ++ fraction) =
      sign ++ groupDigits separator whole ++ fraction := by
  rcases h.sign with rfl | rfl
  · obtain ⟨c, rest, rfl⟩ := List.exists_cons_of_ne_nil h.some
    have unsigned : c ≠ '-' := by
      rintro rfl
      exact absurd (h.digits '-' List.mem_cons_self) (by decide)
    rw [List.nil_append, List.nil_append, ← h.groupUnsigned_append, List.cons_append]
    unfold groupThousands
    split
    · rename_i same
      cases same
      exact absurd rfl unsigned
    · rfl
  · rw [List.append_assoc, List.append_assoc, ← h.groupUnsigned_append]
    rfl

end NumberParts

/-- The digits before the point are in groups of three from the right, which they are in one way only,
with the separator between the groups. -/
theorem groupThousands_parts {sign whole fraction : List Char}
    (h : NumberParts sign whole fraction) (separator : List Char) :
    (∃ first others, Grouped whole first others) ∧
    ∀ first others, Grouped whole first others →
      groupThousands separator (sign ++ whole ++ fraction) =
        sign ++ separator.intercalate (first :: others) ++ fraction := by
  obtain ⟨first, others, grouped, written⟩ := exists_grouped separator h.some
  refine ⟨⟨first, others, grouped⟩, fun first' others' grouped' => ?_⟩
  obtain ⟨rfl, rfl⟩ := grouped.unique grouped'
  rw [h.groupThousands_append, written]

theorem groupThousands_parts_mixed :
    let separator := "0.-".toList
    NumberParts ['-'] "1234567".toList ".8901".toList ∧
      Grouped "1234567".toList ['1'] ["234".toList, "567".toList] ∧
      groupThousands separator "-1234567.8901".toList = "-10.-2340.-567.8901".toList := by
  intro separator
  have parts : NumberParts ['-'] "1234567".toList ".8901".toList :=
    ⟨.inr rfl, by decide, List.all_eq_true.mp rfl,
      .inr ⟨"8901".toList, by decide, List.all_eq_true.mp rfl⟩⟩
  have grouped : Grouped "1234567".toList ['1'] ["234".toList, "567".toList] :=
    ⟨by decide, by decide, by decide, by decide⟩
  exact ⟨parts, grouped, (groupThousands_parts parts separator).2 _ _ grouped⟩

end Reshape.Text
