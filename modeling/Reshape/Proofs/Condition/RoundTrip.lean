import Reshape.Proofs.Condition.Written
import Reshape.Proofs.Decimal.RoundTrip

/-!
# Displayed conditions read back

A condition that was read is displayed as another written condition, which can be read again. It is
read as the same condition except for two things that the written form cannot say: JSON escapes in a
text stay as they are written, and a path that ends in a space and a comparison word is cut off at
that word.
-/

namespace Reshape

open Decimal

variable {v : Value} {x : Float} {text : List Char}

theorem read?_numberText {k : Number} (h : Value.ofFloat? x = some (.number k)) :
    Text.Trimmed (Json.numberText k).toList ∧
      ∃ y, read? (Json.numberText k).toList = some y ∧ y.isFinite = true ∧
        Value.ofFloat? y = some (.number k) := by
  obtain ⟨finite, ⟨n, same, bound⟩ | same⟩ := ofFloat?_eq_some h
  · cases same
    have denotes := denotes_ofInt bound
    rw [Json.numberText, Json.intText, String.toList_ofList]
    refine ⟨.of_numeral fun c mem => ?_,
      Float.ofInt n, read?_ofInt n, denotes.isFinite, denotes.ofFloat?_eq bound⟩
    exact (isDigit_of_mem_ofInt mem).imp_right fun sign => by simp [sign]
  · cases same
    exact ⟨.of_numeral fun c => isDigit_of_mem_write finite,
      x, read?_write Json.layout finite, finite, h⟩

namespace Condition

theorem read?_quote {quote : Char} (mark : quote = '\'' ∨ quote = '"') (rest : List Char) :
    read? (quote :: rest) = none := by
  have sign : takeSign (quote :: rest) = (false, quote :: rest) := by
    rcases mark with rfl | rfl <;> rfl
  have magnitude : magnitude? (quote :: rest) = none := by
    rcases mark with rfl | rfl <;> rfl
  have named : named? (quote :: rest) = none := by
    have other (name : String) (first : name.toList.head? ≠ some quote.toLower) :
        String.ofList ((quote :: rest).map Char.toLower) ≠ name := by
      rintro rfl
      exact first (by rw [String.toList_ofList]; rfl)
    rw [named?, if_neg, if_neg]
    · apply other
      rcases mark with rfl | rfl <;> decide
    · rintro (same | same) <;> refine other _ ?_ same <;> rcases mark with rfl | rfl <;> decide
  simp only [read?, sign, magnitude, named, Option.or_none, Option.map_none]

theorem unquote?_of_read? (h : read? text = some x) {quote : Char}
    (mark : quote = '\'' ∨ quote = '"') : unquote? quote text = none := by
  cases text with
  | nil => rfl
  | cons first rest =>
      rw [unquote?, if_neg]
      rintro ⟨rfl, -⟩
      rw [read?_quote mark] at h
      cases h

theorem literalOf_of_read? (h : read? text = some x) (finite : x.isFinite = true)
    (stored : Value.ofFloat? x = some v) (trimmed : Text.Trimmed text) : literalOf text = v := by
  have number : numberIn? (String.ofList text) = some x := by
    rw [numberIn?, String.toList_ofList, trimmed.trimChars_eq, h, Option.filter_some, if_pos finite]
  have other {keyword : String} (none : read? keyword.toList = none) :
      String.ofList text ≠ keyword := by
    rintro rfl
    rw [String.toList_ofList, h] at none
    cases none
  simp only [literalOf, unquote?_of_read? h (.inl rfl), unquote?_of_read? h (.inr rfl),
    Option.none_or]
  rw [if_neg (other rfl), if_neg (other rfl), if_neg (other rfl), number, Option.bind_some, stored]
  rfl

inductive Literal : Value → Prop
  | null : Literal .null
  | bool (b : Bool) : Literal (.bool b)
  | number {x : Float} {k : Number} (stored : Value.ofFloat? x = some (.number k)) :
      Literal (.number k)
  | string (s : String) : Literal (.string s)

theorem literal_literalOf (text : List Char) : Literal (literalOf text) := by
  unfold literalOf
  split
  · exact .string _
  simp only
  split
  · exact .null
  split
  · exact .bool true
  split
  · exact .bool false
  cases stored : (numberIn? (String.ofList text)).bind Value.ofFloat? with
  | none => exact .string _
  | some v =>
      obtain ⟨x, -, result⟩ := Option.bind_eq_some_iff.mp stored
      obtain ⟨-, ⟨n, rfl, -⟩ | rfl⟩ := ofFloat?_eq_some result
      · exact .number result
      · exact .number result

end Condition

namespace Json

def Plain (s : String) : Prop :=
  ∀ c ∈ s.toList, c ≠ '"' ∧ c ≠ '\\' ∧ 32 ≤ c.toNat

theorem escape_plain {c : Char} (h : c ≠ '"' ∧ c ≠ '\\' ∧ 32 ≤ c.toNat) : escape c = [c] := by
  obtain ⟨quote, backslash, printed⟩ := h
  have other {d : Char} (control : d.toNat < 32) : c ≠ d := by
    rintro rfl
    omega
  rw [escape, if_neg quote, if_neg backslash, if_neg (other (by decide)), if_neg (other (by decide)),
    if_neg (other (by decide)), if_neg (other (by decide)), if_neg (other (by decide)),
    if_neg (by omega)]

theorem length_escape {c : Char} (h : ¬ (c ≠ '"' ∧ c ≠ '\\' ∧ 32 ≤ c.toNat)) :
    2 ≤ (escape c).length := by
  unfold escape
  iterate 8
    split
    · simp
  · rename_i quote backslash _ _ _ _ _ printed
    exact absurd ⟨quote, backslash, Nat.le_of_not_lt printed⟩ h

theorem length_le_length_escaped (cs : List Char) : cs.length ≤ (cs.flatMap escape).length := by
  induction cs with
  | nil => rfl
  | cons c cs ih =>
      have one : 1 ≤ (escape c).length := by
        by_cases plain : c ≠ '"' ∧ c ≠ '\\' ∧ 32 ≤ c.toNat
        · rw [escape_plain plain]
          rfl
        · exact Nat.le_of_succ_le (length_escape plain)
      rw [List.flatMap_cons, List.length_append, List.length_cons]
      omega

theorem escaped_eq_iff {s : String} : s.toList.flatMap escape = s.toList ↔ Plain s := by
  unfold Plain
  generalize s.toList = cs
  induction cs with
  | nil => simp
  | cons c cs ih =>
      rw [List.forall_mem_cons, ← ih, List.flatMap_cons]
      by_cases plain : c ≠ '"' ∧ c ≠ '\\' ∧ 32 ≤ c.toNat
      · rw [escape_plain plain, List.singleton_append, List.cons_inj_right]
        exact (and_iff_right plain).symm
      · refine iff_of_false (fun same => ?_) fun both => plain both.1
        have long := length_escape plain
        have rest := length_le_length_escaped cs
        have length := congrArg List.length same
        rw [List.length_append, List.length_cons] at length
        omega

end Json

namespace Condition

theorem literalOf_quoted (s : String) :
    literalOf (Text.trimChars (Json.quoted s).toList) =
      .string (String.ofList (s.toList.flatMap Json.escape)) := by
  rw [Json.quoted, String.toList_ofList, List.cons_append,
    (trimmed_enclosed (.inr rfl) _).trimChars_eq, literalOf_enclosed (.inr rfl)]

theorem literalOf_compact (h : Literal v) :
    literalOf (Text.trimChars (Json.compact v).toList) = v ↔ ∀ s, v = .string s → Json.Plain s := by
  cases h with
  | null => exact iff_of_true rfl nofun
  | bool b =>
      refine iff_of_true ?_ nofun
      cases b <;> rfl
  | number stored =>
      obtain ⟨trimmed, y, read, finite, stored⟩ := read?_numberText stored
      refine iff_of_true ?_ nofun
      rw [Json.compact, trimmed.trimChars_eq]
      exact literalOf_of_read? read finite stored trimmed
  | string s =>
      rw [Json.compact, literalOf_quoted, Value.string.injEq, ← String.toList_inj,
        String.toList_ofList, Json.escaped_eq_iff]
      exact ⟨fun plain s' same => (Value.string.inj same) ▸ plain, fun all => all s rfl⟩

structure Found (c : Condition) : Prop where
  nonempty : c.path ≠ ""
  trimmed : Text.Trimmed c.path.toList
  within : ∀ d : Comparison, ¬ d.pattern <:+: c.path.toList.map Char.toLower
  literal : Literal c.literal

theorem pattern_ne_nil (d : Comparison) : d.pattern ≠ [] := by
  cases d <;> decide

theorem not_infix_of_free {before rest : List Char}
    (free : ∀ post, post <:+ before → post ≠ [] → comparisonAt? (post ++ rest) = none)
    (d : Comparison) : ¬ d.pattern <:+: before.map Char.toLower := by
  -- A pattern within a text begins at some place of it.
  rintro ⟨front, last, split⟩
  obtain ⟨pre, last', rfl, front', -⟩ := List.map_eq_append_iff.mp split.symm
  obtain ⟨pre, middle, rfl, -, middle'⟩ := List.map_eq_append_iff.mp front'
  have some : middle ++ last' ≠ [] := by
    intro none
    rw [(List.append_eq_nil_iff.mp none).1] at middle'
    exact pattern_ne_nil d middle'.symm
  have none := free (middle ++ last') ⟨pre, by rw [List.append_assoc]⟩ some
  rw [comparisonAt?_eq_none_iff] at none
  apply none d
  rw [List.map_append, List.map_append, middle', List.append_assoc]
  exact List.prefix_append ..

theorem found_of_read {source : String} {c : Condition} (h : read source = .ok c) : Found c := by
  unfold read at h
  split at h
  · cases h
  · rename_i before comparison behind split
    simp only at h
    split at h
    · cases h
    · rename_i some
      cases h
      obtain ⟨rest, -, -, free⟩ := exists_of_splitAtComparison? split
      obtain ⟨front, last, parts⟩ := Text.exists_trimChars before
      constructor
      · simpa using some
      · simp only [String.toList_ofList]
        exact Text.trimmed_trimChars before
      · simp only [String.toList_ofList]
        intro d inside
        have lowered : (Text.trimChars before).map Char.toLower <:+: before.map Char.toLower :=
          List.IsInfix.map Char.toLower ⟨front, last, parts.symm⟩
        exact not_infix_of_free free d (inside.trans lowered)
      · exact literal_literalOf _

/-- No comparison word stands at the end behind a space, in any letter case. -/
def EndsBare (path : List Char) : Prop :=
  ∀ d : Comparison, d.isWord = true → ¬ ' ' :: d.symbol.toList <:+ path.map Char.toLower

namespace Found

variable {c : Condition} (found : Found c)
include found

theorem read_display_of_bare (bare : EndsBare c.path.toList) :
    read c.display =
      .ok ⟨c.path, c.comparison, literalOf (Text.trimChars (Json.compact c.literal).toList)⟩ := by
  have spelled : Text.asciiLower c.comparison.symbol = c.comparison.symbol := by
    cases c.comparison <;> decide
  exact read_written ⟨found.within, bare⟩ found.trimmed found.nonempty spelled

theorem comparisonAt?_path (rest : List Char) :
    comparisonAt? (c.path.toList ++ ' ' :: rest) = none := by
  have some : c.path.toList ≠ [] := by simpa using found.nonempty
  refine comparisonAt?_eq_none_of some (fun d leads => found.within d leads.isInfix) ?_ rest
  intro d _ same
  obtain ⟨first, path, parts⟩ := List.exists_cons_of_ne_nil some
  rw [parts, List.map_cons] at same
  obtain rfl := eq_of_toLower (List.cons.inj same).1 rfl
  exact absurd (found.trimmed.first ' ' (by simp [parts])) (by decide)

theorem read_display_of_not_bare (cut : ¬ EndsBare c.path.toList) :
    ∃ c', read c.display = .ok c' ∧ c'.path ≠ c.path := by
  simp only [EndsBare, not_forall, not_not] at cut
  obtain ⟨d, wordy, front, split⟩ := cut
  obtain ⟨kept, word, path, -, spelled⟩ := List.map_eq_append_iff.mp split.symm
  obtain ⟨rest, source⟩ : ∃ rest,
      c.display.toList ++ [' '] = c.path.toList ++ ' ' :: rest :=
    ⟨c.comparison.symbol.toList ++ ' ' :: (Json.compact c.literal).toList ++ [' '], by
      simp [Condition.display]⟩
  have here : comparisonAt? (word ++ ' ' :: rest) ≠ none := by
    rw [Ne, comparisonAt?_eq_none_iff, not_forall_not]
    refine ⟨d, rest.map Char.toLower, ?_⟩
    simp [Comparison.pattern, wordy, spelled]
  -- The comparison that is found is at that word or before it, and not at the beginning.
  obtain ⟨first, d', behind, taken, leading⟩ := exists_splitAtComparison? kept here
  rw [← List.append_assoc, ← path, ← source] at taken
  have some : first ≠ [] := by
    rintro rfl
    obtain ⟨text, same, begins, -⟩ := exists_of_splitAtComparison? taken
    rw [source, List.nil_append] at same
    rw [← same, found.comparisonAt?_path] at begins
    cases begins
  have rest : Text.trimChars first ≠ [] := by
    obtain ⟨letter, first, rfl⟩ := List.exists_cons_of_ne_nil some
    obtain ⟨more, rfl⟩ := leading
    exact Text.trimChars_ne_nil (found.trimmed.first letter (by simp [path]))
  refine ⟨⟨String.ofList (Text.trimChars first), d', literalOf (Text.trimChars behind)⟩, ?_, ?_⟩
  · have nonempty : (Text.trimChars first).isEmpty = false := by simpa using rest
    simp only [read, taken, nonempty]
    rfl
  · -- What remains is shorter than the path.
    intro same
    have kept' := leading.length_le
    have trimmed := Text.length_trimChars_le first
    have word' := congrArg List.length spelled
    have length := congrArg List.length path
    rw [← same, String.toList_ofList, List.length_append] at length
    rw [List.length_map, List.length_cons] at word'
    omega

end Found

/-- A condition that was read is displayed as a condition. It is the same one just if its path does
not end in a comparison word, and its literal is not a text with characters that JSON escapes. -/
theorem read_display (source : String) (c : Condition) (h : read source = .ok c) :
    (∃ c', read c.display = .ok c') ∧
      (read c.display = .ok c ↔
        EndsBare c.path.toList ∧ ∀ s, c.literal = .string s → Json.Plain s) := by
  have found := found_of_read h
  by_cases bare : EndsBare c.path.toList
  · have read := found.read_display_of_bare bare
    refine ⟨⟨_, read⟩, ?_⟩
    rw [read, and_iff_right bare, ← literalOf_compact found.literal]
    refine ⟨fun same => congrArg Condition.literal (Except.ok.inj same), fun same => ?_⟩
    rw [same]
  · obtain ⟨c', read, other⟩ := found.read_display_of_not_bare bare
    refine ⟨⟨c', read⟩, iff_of_false ?_ fun both => bare both.1⟩
    rw [read]
    rintro ⟨⟩
    exact other rfl

theorem read_display_requoted :
    ∃ c, read "name StartsWith 'x y'" = .ok c ∧ read c.display = .ok c := by
  have plain : PlainPath "name" := by decide +kernel
  have spelled : Text.asciiLower "StartsWith" = Comparison.startsWith.symbol := by decide +kernel
  have source : read (written "name" "StartsWith" (enclosed '\'' "x y")) =
      .ok ⟨"name", .startsWith, .string "x y"⟩ := by
    rw [plain.read_written spelled, literalOf_trim_enclosed (.inl rfl)]
  refine ⟨_, source, (read_display _ _ source).2.mpr ⟨?_, ?_⟩⟩
  · intro d _ last
    exact plain.noSpace (last.mem (List.mem_cons_self ..))
  · rintro s ⟨⟩
    exact Json.escaped_eq_iff.mp rfl

/-- A text with a quote in it, and a path that ends in a comparison word: neither condition is read
again as the same one. -/
theorem exists_read_display_ne :
    (∃ c, read "a == 'x\"y'" = .ok c ∧ read c.display ≠ .ok c) ∧
      ∃ c, read "a contains== 5" = .ok c ∧ read c.display ≠ .ok c := by
  have plain : PlainPath "a" := by decide +kernel
  have spelled : Text.asciiLower "==" = Comparison.eq.symbol := by decide +kernel
  constructor
  · refine ⟨⟨"a", .eq, .string "x\"y"⟩, ?_, ?_⟩
    · show read (written "a" "==" (enclosed '\'' "x\"y")) = _
      rw [plain.read_written spelled, literalOf_trim_enclosed (.inl rfl)]
    · show read (written "a" "==" (Json.quoted "x\"y")) ≠ _
      rw [plain.read_written spelled, literalOf_quoted]
      intro same
      have literal := congrArg Condition.literal (Except.ok.inj same)
      exact absurd (Value.string.inj literal) (by decide +kernel)
  · have split : splitAtComparison? ("a contains== 5".toList ++ [' ']) =
        some ("a contains".toList, .eq, " 5 ".toList) := by decide +kernel
    have source : read "a contains== 5" =
        .ok ⟨"a contains", .eq, literalOf (Text.trimChars " 5 ".toList)⟩ := by
      rw [read, split]
      rfl
    refine ⟨_, source, ?_⟩
    obtain ⟨c', again, other⟩ := (found_of_read source).read_display_of_not_bare fun bare =>
      bare .contains rfl ⟨['a'], by decide +kernel⟩
    rw [again]
    rintro ⟨⟩
    exact other rfl

end Condition

end Reshape
