import Reshape.Proofs.Condition.TextTests
import Reshape.Proofs.Text.FinalSigma

namespace Reshape.Condition

open Unicode

variable {r : Record} {path s t : String}

theorem holds_word {c : Comparison} (wordy : c.isWord = true)
    (resolved : r.resolve path = some (.string s)) :
    holds ⟨path, c, .string t⟩ r = c.testText (lowerChars t.toList) (lowerChars s.toList) := by
  rw [holds, resolved, c.test_of_isWord wordy]
  rfl

theorem holds_startsWith_iff (resolved : r.resolve path = some (.string s)) :
    holds ⟨path, .startsWith, .string t⟩ r = true ↔
      lowerChars t.toList <+: lowerChars s.toList := by
  rw [holds_word rfl resolved, Comparison.testText, List.isPrefixOf_iff_prefix]

theorem holds_endsWith_iff (resolved : r.resolve path = some (.string s)) :
    holds ⟨path, .endsWith, .string t⟩ r = true ↔
      lowerChars t.toList <:+ lowerChars s.toList := by
  rw [holds_word rfl resolved, Comparison.testText, List.isSuffixOf_iff_suffix]

theorem holds_contains_iff (resolved : r.resolve path = some (.string s)) :
    holds ⟨path, .contains, .string t⟩ r = true ↔
      lowerChars t.toList <:+: lowerChars s.toList := by
  rw [holds_word rfl resolved, Comparison.testText, Text.occursIn_iff_infix]

/-- A text begins and ends with its own parts just if their capital sigmas keep their forms, and
contains a part if they do so at one place. The parts that every text contains that they are parts
of are those in which all capital sigmas are settled, among them all parts without any. -/
theorem holds_part (path t : String) (nonempty : path ≠ "") :
    (∀ word c quote, Bare path.toList → Text.Trimmed path.toList →
      Text.asciiLower word = c.symbol → quote = '\'' ∨ quote = '"' →
        read (written path word (enclosed quote t)) = .ok ⟨path, c, .string t⟩) ∧
      (∀ r after, r.resolve path = some (.string (t ++ after)) →
        (holds ⟨path, .startsWith, .string t⟩ r = true ↔
          KeepsSigmas [] t.toList after.toList)) ∧
      (∀ r before, r.resolve path = some (.string (before ++ t)) →
        (holds ⟨path, .endsWith, .string t⟩ r = true ↔
          KeepsSigmas before.toList.reverse t.toList [])) ∧
      (∀ r before after, r.resolve path = some (.string (before ++ t ++ after)) →
        KeepsSigmas before.toList.reverse t.toList after.toList →
          holds ⟨path, .contains, .string t⟩ r = true) ∧
      ((∀ r before after, r.resolve path = some (.string (before ++ t ++ after)) →
        holds ⟨path, .contains, .string t⟩ r = true) ↔ Settled t.toList) ∧
      ('Σ' ∉ t.toList → Settled t.toList) := by
  refine ⟨fun word c quote bare trimmed spelled mark => ?_, fun r after resolved => ?_,
    fun r before resolved => ?_, fun r before after resolved keeps => ?_, ?_, settled_of_not_mem⟩
  · rw [read_written bare trimmed nonempty spelled, literalOf_trim_enclosed mark]
  · rw [holds_startsWith_iff resolved, String.toList_append, lowerChars_prefix_iff]
  · rw [holds_endsWith_iff resolved, String.toList_append, lowerChars_suffix_iff]
  · rw [holds_contains_iff resolved, String.toList_append, String.toList_append]
    exact lowerChars_infix keeps
  · rw [← forall_infix_iff_settled]
    constructor
    · intro h before after
      have field := Record.resolve_insert_self [] nonempty
        (.string (String.ofList before ++ t ++ String.ofList after))
      have contained := (holds_contains_iff field).mp (h _ _ _ field)
      simpa using contained
    · intro h r before after resolved
      rw [holds_contains_iff resolved, String.toList_append, String.toList_append]
      exact h _ _

theorem holds_part_odysseus :
    let r : Record := [("name", .string "ὉΜΗΡΟΣ: ὈΔΥΣΣΕΥΣ.")]
    r.resolve "name" = some (.string ("ὉΜΗΡΟΣ: " ++ "ὈΔΥΣΣΕΥΣ" ++ ".")) ∧
      holds ⟨"name", .contains, .string "ὈΔΥΣΣΕΥΣ"⟩ r = true := by
  intro r
  have resolved : r.resolve "name" = some (.string ("ὉΜΗΡΟΣ: " ++ "ὈΔΥΣΣΕΥΣ" ++ ".")) := by
    rfl
  have keeps : KeepsSigmas "ὉΜΗΡΟΣ: ".toList.reverse "ὈΔΥΣΣΕΥΣ".toList ".".toList := by
    decide +kernel
  exact ⟨resolved, (holds_part "name" "ὈΔΥΣΣΕΥΣ" (by decide)).2.2.2.1 r _ _ resolved keeps⟩

theorem exists_read_of_holds {source : String} {b : Bool}
    (h : (read source).toOption.map (fun c => c.holds r) = some b) :
    ∃ c, read source = .ok c ∧ c.holds r = b := by
  cases found : read source with
  | error e =>
      rw [found] at h
      cases h
  | ok c =>
      rw [found] at h
      exact ⟨c, rfl, Option.some.inj h⟩

/-- A sigma that ends the part and not the text, and one that ends a word of the text and is alone
in the part. -/
theorem not_holds_part :
    let r : Record := [("p", .string "ΑΣΑ"), ("q", .string "ΑΣ")]
    (∃ c, read "p contains 'ΑΣ'" = .ok c ∧ c.holds r = false) ∧
      (∃ c, read "p startswith 'ΑΣ'" = .ok c ∧ c.holds r = false) ∧
      ∃ c, read "q endswith 'Σ'" = .ok c ∧ c.holds r = false := by
  refine ⟨exists_read_of_holds ?_, exists_read_of_holds ?_, exists_read_of_holds ?_⟩
  all_goals decide +kernel

end Reshape.Condition
