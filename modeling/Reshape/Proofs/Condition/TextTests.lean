import Reshape.Condition.Evaluate
import Reshape.Proofs.Condition.Written
import Reshape.Proofs.Decimal.RoundTrip
import Reshape.Proofs.Record.Path
import Reshape.Proofs.Text.LowerCase
import Reshape.Value.Display

namespace Reshape

open Decimal

variable {c : Comparison} {v w : Value}

namespace Comparison

theorem test_of_isWord (wordy : c.isWord = true) (field : Option Value) (literal : Value) :
    c.test field literal = c.testField literal field := by
  cases c with
  | contains => rfl
  | startsWith => rfl
  | endsWith => rfl
  | _ => cases wordy

theorem testField_congr (same : lowerDisplay v = lowerDisplay w) (field : Option Value) :
    c.testField v field = c.testField w field := by
  unfold testField
  rw [same]

theorem testText_self (wordy : c.isWord = true) (text : List Char) :
    c.testText text text = true := by
  cases c with
  | contains => exact Text.occursIn_iff_infix.mpr List.infix_rfl
  | startsWith => exact List.isPrefixOf_iff_prefix.mpr List.prefix_rfl
  | endsWith => exact List.isSuffixOf_iff_suffix.mpr List.suffix_rfl
  | _ => cases wordy

theorem infix_of_testText {needle text : List Char} (h : c.testText needle text = true) :
    needle <:+: text := by
  cases c with
  | contains => exact Text.occursIn_iff_infix.mp h
  | startsWith => exact (List.isPrefixOf_iff_prefix.mp h).isInfix
  | endsWith => exact (List.isSuffixOf_iff_suffix.mp h).isInfix
  | _ => cases h

theorem lowerDisplay_eq_of_testField (wordy : c.isWord = true)
    (same : ∀ s : String, c.testField v (some (.string s)) = c.testField w (some (.string s))) :
    lowerDisplay v = lowerDisplay w := by
  -- Each literal is tested on a field that holds the text of the other.
  have left : c.testText (lowerDisplay w) (lowerDisplay v) = true :=
    (same v.display).symm.trans (testText_self wordy _)
  have right : c.testText (lowerDisplay v) (lowerDisplay w) = true :=
    (same w.display).trans (testText_self wordy _)
  exact (infix_of_testText right).eq_of_length_le (infix_of_testText left).length_le

end Comparison

theorem caseless_of_numeral {d : Char} (h : d.isDigit = true ∨ d ∈ ['.', '-']) :
    Unicode.Caseless d := by
  rcases h with digit | mem
  · have digit : 48 ≤ d.toNat ∧ d.toNat ≤ 57 := Char.isDigit_iff_toNat.mp digit
    exact ⟨by omega, by omega⟩
  · simp only [List.mem_cons, List.not_mem_nil, or_false] at mem
    rcases mem with rfl | rfl <;> exact ⟨by decide, by decide⟩

theorem caseless_of_mem_display {x : Float} (h : Value.ofFloat? x = some v) :
    ∀ d ∈ v.display.toList, Unicode.Caseless d := by
  intro d mem
  apply caseless_of_numeral
  obtain ⟨finite, ⟨n, rfl, -⟩ | rfl⟩ := ofFloat?_eq_some h
  · rw [Value.display, Number.display, Json.intText, String.toList_ofList] at mem
    exact (isDigit_of_mem_ofInt mem).imp_right fun sign => by simp [sign]
  · rw [Value.display, Number.display, floatText] at mem
    split at mem
    · exact .inl (List.mem_singleton.mp mem ▸ rfl)
    · exact isDigit_of_mem_positional rfl finite mem

namespace Condition

def Unquoted (s : String) : Prop :=
  ∀ quote inner, (quote = '\'' ∨ quote = '"') → s ≠ enclosed quote inner

theorem Unquoted.of_first {s : String} {first : Char} (h : s.toList.head? = some first)
    (other : first ≠ '\'' ∧ first ≠ '"') : Unquoted s := by
  rintro quote inner mark rfl
  rw [enclosed, String.toList_ofList, List.head?_cons] at h
  obtain rfl := Option.some.inj h
  exact mark.elim other.1 other.2

theorem unquote?_of_unquoted {s : String} (h : Unquoted s) {quote : Char}
    (mark : quote = '\'' ∨ quote = '"') : unquote? quote s.toList = none := by
  unfold unquote?
  split
  · rename_i first rest parts
    rw [if_neg]
    rintro ⟨rfl, last⟩
    apply h first (String.ofList rest.dropLast) mark
    rw [enclosed, String.toList_ofList, List.dropLast_append_getLast? first last, ← parts,
      String.ofList_toList]
  · rfl

theorem literalOf_unquoted {s : String} (h : Unquoted s) :
    literalOf s.toList = if s = "null" then .null else if s = "true" then .bool true
      else if s = "false" then .bool false
      else ((numberIn? s).bind Value.ofFloat?).getD (.string s) := by
  simp only [literalOf, unquote?_of_unquoted h (.inl rfl), unquote?_of_unquoted h (.inr rfl),
    Option.none_or, String.ofList_toList]

/-- A literal without quotes keeps its text if it is not null and no other spelling of a number. -/
structure KeepsText (s : String) : Prop where
  notNull : s ≠ "null"
  spelling : ∀ x v, numberIn? s = some x → Value.ofFloat? x = some v → v.display = s

theorem display_literalOf {s : String} (h : Unquoted s) (keeps : KeepsText s) :
    (literalOf s.toList).display = s := by
  rw [literalOf_unquoted h, if_neg keeps.notNull]
  split
  · rename_i same
    exact same.symm
  split
  · rename_i same
    exact same.symm
  cases stored : (numberIn? s).bind Value.ofFloat? with
  | none => rfl
  | some v =>
      obtain ⟨x, number, value⟩ := Option.bind_eq_some_iff.mp stored
      exact keeps.spelling x v number value

theorem keepsText_of_lowerDisplay {s : String} (h : Unquoted s)
    (same : lowerDisplay (literalOf s.toList) = lowerDisplay (.string s)) : KeepsText s where
  notNull := by
    rintro rfl
    exact absurd same (by decide +kernel)
  spelling := by
    intro x v number value
    have notKeyword {keyword : String} (none : numberIn? keyword = none) : s ≠ keyword := by
      rintro rfl
      rw [number] at none
      cases none
    rw [literalOf_unquoted h, if_neg (notKeyword rfl), if_neg (notKeyword rfl),
      if_neg (notKeyword rfl), number, Option.bind_some, value, Option.getD_some] at same
    have caseless := caseless_of_mem_display value
    rw [lowerDisplay, (Unicode.lowerChars_eq_iff caseless).mpr rfl] at same
    have text := (Unicode.lowerChars_eq_iff caseless).mp same.symm
    exact (String.toList_inj.mp text).symm

/-- Without quotes, the literal of a word comparison asks for the same texts as between quotes just
if it keeps its text. -/
theorem holds_unquoted_iff (path word literal : String) (c : Comparison) (quote : Char)
    (plain : PlainPath path) (wordy : c.isWord = true) (spelled : Text.asciiLower word = c.symbol)
    (mark : quote = '\'' ∨ quote = '"') (trimmed : Text.Trimmed literal.toList)
    (bare : Unquoted literal) :
    ∃ unquoted quoted, read (written path word literal) = .ok unquoted ∧
      read (written path word (enclosed quote literal)) = .ok quoted ∧
      ((∀ r, unquoted.holds r = quoted.holds r) ↔ KeepsText literal) := by
  have first : read (written path word literal) = _ := plain.read_written spelled
  have second : read (written path word (enclosed quote literal)) = _ := plain.read_written spelled
  rw [trimmed.trimChars_eq] at first
  rw [literalOf_trim_enclosed mark] at second
  refine ⟨_, _, first, second, fun agree => ?_, fun keeps r => ?_⟩
  · apply keepsText_of_lowerDisplay bare
    apply c.lowerDisplay_eq_of_testField wordy
    intro s
    have field := Record.resolve_insert_self [] plain.nonempty (.string s)
    have result := agree (Record.insert [] path (.string s))
    simpa only [holds, field, c.test_of_isWord wordy] using result
  · simp only [holds, c.test_of_isWord wordy]
    apply c.testField_congr
    rw [lowerDisplay, display_literalOf bare keeps]
    rfl

theorem holds_unquoted_word :
    ∃ unquoted quoted, read "name contains Al" = .ok unquoted ∧
      read "name contains 'Al'" = .ok quoted ∧ ∀ r, unquoted.holds r = quoted.holds r := by
  have trimmed : Text.Trimmed "Al".toList := by
    constructor <;> rintro c ⟨⟩ <;> decide
  have bare : Unquoted "Al" := .of_first rfl (by decide)
  have keeps : KeepsText "Al" := by
    refine ⟨by decide +kernel, fun x v number => ?_⟩
    have none : numberIn? "Al" = none := rfl
    rw [none] at number
    cases number
  obtain ⟨unquoted, quoted, first, second, same⟩ := holds_unquoted_iff "name" "contains" "Al"
    .contains '\'' (by decide +kernel) rfl (by decide +kernel) (.inl rfl) trimmed bare
  exact ⟨unquoted, quoted, first, second, same.mpr keeps⟩

/-- The number seven begins fewer texts than its spelling with zeros. -/
theorem not_holds_unquoted_zeros :
    PlainPath "code" ∧ Text.Trimmed "007".toList ∧ Unquoted "007" ∧
      ∃ unquoted quoted, read "code startswith 007" = .ok unquoted ∧
        read "code startswith '007'" = .ok quoted ∧
        unquoted.holds [("code", .string "0071")] = false ∧
        quoted.holds [("code", .string "0071")] = true := by
  have trimmed : Text.Trimmed "007".toList := by
    constructor <;> rintro c ⟨⟩ <;> decide
  have result (source : String) (r : Record) (b : Bool)
      (h : (read source).toOption.map (fun c => c.holds r) = some b) :
      ∃ c, read source = .ok c ∧ c.holds r = b := by
    cases found : read source with
    | error e => rw [found] at h; cases h
    | ok c =>
        rw [found] at h
        exact ⟨c, rfl, Option.some.inj h⟩
  obtain ⟨unquoted, first, fails⟩ := result "code startswith 007" [("code", .string "0071")] false
    (by decide +kernel)
  obtain ⟨quoted, second, passes⟩ := result "code startswith '007'" [("code", .string "0071")] true
    (by decide +kernel)
  exact ⟨by decide +kernel, trimmed, .of_first rfl (by decide), unquoted, quoted, first, second,
    fails, passes⟩

end Condition

end Reshape
