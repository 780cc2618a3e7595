import Mathlib
import Reshape.Condition.Reader
import Reshape.Proofs.Text.Trimming

namespace Reshape

variable {c d : Comparison} {text rest before behind path word : List Char}

namespace Comparison

theorem mem_all (c : Comparison) : c ∈ all := by
  cases c <;> decide

theorem space_mem_pattern : ' ' ∈ c.pattern → c.isWord = true := by
  cases c <;> decide

theorem space_notMem_symbol : ' ' ∉ c.symbol.toList := by
  cases c <;> decide

theorem isLower_of_mem_pattern (symbolic : c.isWord = false) : ∀ x ∈ c.pattern, x.isLower = false := by
  have none : c.pattern.all (fun x => !x.isLower) = true := by
    revert symbolic
    cases c <;> decide
  simpa using none

theorem pairwise_all : all.Pairwise fun d c => ¬ d.pattern <+: c.pattern := by
  decide

theorem prefix_of_symbol_lead (symbolic : c.isWord = false)
    (h : d.pattern <+: c.symbol.toList ++ ' ' :: rest) : d.pattern <+: c.pattern := by
  cases c <;> cases d <;> simp_all [pattern, isWord, symbol]

theorem prefix_of_word_lead (wordy : c.isWord = true) (h : d.pattern <+: c.pattern ++ rest) :
    d.pattern <+: c.pattern := by
  cases c <;> cases d <;> simp_all [pattern, isWord, symbol]

theorem not_lead_of_space (symbolic : c.isWord = false) :
    ¬ d.pattern <+: ' ' :: (c.symbol.toList ++ rest) := by
  cases c <;> cases d <;> simp_all [pattern, isWord, symbol]

end Comparison

namespace Condition

theorem dropPattern?_append {head p : List Char} (h : head.map Char.toLower = p)
    (rest : List Char) : dropPattern? p (head ++ rest) = some rest := by
  subst h
  induction head with
  | nil => rfl
  | cons c head ih => simpa [dropPattern?] using ih

theorem dropPattern?_eq_none_iff {p : List Char} :
    dropPattern? p text = none ↔ ¬ p <+: text.map Char.toLower := by
  induction p generalizing text with
  | nil => simp [dropPattern?]
  | cons q p ih =>
      cases text with
      | nil => simp [dropPattern?]
      | cons c text =>
          simp only [dropPattern?, List.map_cons, List.cons_prefix_cons]
          split
          · rename_i same
            simp [ih, same]
          · rename_i other
            simp [Ne.symm other]

theorem comparisonAt?_eq_none_iff :
    comparisonAt? text = none ↔ ∀ d : Comparison, ¬ d.pattern <+: text.map Char.toLower := by
  simp only [comparisonAt?, List.findSome?_eq_none_iff, Option.map_eq_none_iff,
    dropPattern?_eq_none_iff]
  exact ⟨fun h d => h d d.mem_all, fun h d _ => h d⟩

theorem comparisonAt?_eq_some {head : List Char} (rest : List Char)
    (spelled : head.map Char.toLower = c.pattern)
    (longest : ∀ d : Comparison, d.pattern <+: (head ++ rest).map Char.toLower →
      d.pattern <+: c.pattern) : comparisonAt? (head ++ rest) = some (c, rest) := by
  obtain ⟨earlier, later, split⟩ := List.append_of_mem c.mem_all
  have ordered := Comparison.pairwise_all
  rw [split, List.pairwise_append] at ordered
  rw [comparisonAt?, List.findSome?_eq_some_iff]
  refine ⟨earlier, c, later, split, ?_, ?_⟩
  · rw [dropPattern?_append spelled]
    rfl
  · intro d mem
    rw [Option.map_eq_none_iff, dropPattern?_eq_none_iff]
    intro leads
    exact ordered.2.2 d mem c (List.mem_cons_self ..) (longest d leads)

theorem comparisonAt?_symbol (rest : List Char) (symbolic : c.isWord = false)
    (spelled : word.map Char.toLower = c.symbol.toList) :
    comparisonAt? (word ++ ' ' :: rest) = some (c, ' ' :: rest) := by
  apply comparisonAt?_eq_some (' ' :: rest)
  · simp [Comparison.pattern, symbolic, spelled]
  · intro d leads
    rw [List.map_append, spelled, List.map_cons] at leads
    exact Comparison.prefix_of_symbol_lead symbolic leads

theorem comparisonAt?_word (rest : List Char) (wordy : c.isWord = true)
    (spelled : word.map Char.toLower = c.symbol.toList) :
    comparisonAt? (' ' :: (word ++ ' ' :: rest)) = some (c, rest) := by
  have pattern : (' ' :: word ++ [' ']).map Char.toLower = c.pattern := by
    simp [Comparison.pattern, wordy, spelled]
  have found := comparisonAt?_eq_some rest pattern fun d leads => by
    rw [List.map_append, pattern] at leads
    exact Comparison.prefix_of_word_lead wordy leads
  simpa using found

theorem splitAtComparison?_append (found : comparisonAt? rest = some (c, behind))
    (free : ∀ post, post <:+ before → post ≠ [] → comparisonAt? (post ++ rest) = none) :
    splitAtComparison? (before ++ rest) = some (before, c, behind) := by
  induction before with
  | nil =>
      cases rest with
      | nil => cases found
      | cons first rest => simp only [List.nil_append, splitAtComparison?, found]
  | cons first before ih =>
      have none := free (first :: before) List.suffix_rfl nofun
      have later := ih fun post suffix => free post (suffix.trans (List.suffix_cons ..))
      simp only [List.cons_append] at none
      simp only [List.cons_append, splitAtComparison?, none, later, Option.map_some]

theorem exists_of_splitAtComparison? (h : splitAtComparison? text = some (before, c, behind)) :
    ∃ rest, text = before ++ rest ∧ comparisonAt? rest = some (c, behind) ∧
      ∀ post, post <:+ before → post ≠ [] → comparisonAt? (post ++ rest) = none := by
  induction text generalizing before with
  | nil => cases h
  | cons first text ih =>
      rw [splitAtComparison?] at h
      split at h
      · rename_i found
        cases h
        exact ⟨first :: text, rfl, found, fun post suffix some => absurd (List.suffix_nil.mp suffix) some⟩
      · rename_i none
        obtain ⟨⟨before, found⟩, later, same⟩ := Option.map_eq_some_iff.mp h
        cases same
        obtain ⟨rest, rfl, found, free⟩ := ih later
        refine ⟨rest, rfl, found, fun post suffix some => ?_⟩
        rcases List.suffix_cons_iff.mp suffix with rfl | suffix
        · exact none
        · exact free post suffix some

theorem exists_splitAtComparison? (before : List Char) (h : comparisonAt? rest ≠ none) :
    ∃ first c behind, splitAtComparison? (before ++ rest) = some (first, c, behind) ∧
      first <+: before := by
  induction before with
  | nil =>
      obtain ⟨⟨c, behind⟩, found⟩ := Option.ne_none_iff_exists'.mp h
      refine ⟨[], c, behind, splitAtComparison?_append found fun post suffix some => ?_, List.nil_prefix⟩
      exact absurd (List.suffix_nil.mp suffix) some
  | cons first before ih =>
      obtain ⟨taken, c, behind, later, leading⟩ := ih
      simp only [List.cons_append, splitAtComparison?]
      cases found : comparisonAt? (first :: (before ++ rest)) with
      | some here => exact ⟨[], here.1, here.2, rfl, List.nil_prefix⟩
      | none =>
          rw [later]
          exact ⟨first :: taken, c, behind, rfl, List.cons_prefix_cons.mpr ⟨rfl, leading⟩⟩

/-- No comparison begins within the path, and none does when a space follows it. -/
structure Bare (path : List Char) : Prop where
  within : ∀ d : Comparison, ¬ d.pattern <:+: path.map Char.toLower
  ending : ∀ d : Comparison, d.isWord = true → ¬ ' ' :: d.symbol.toList <:+ path.map Char.toLower

theorem pattern_crossing {post more : List Char} (some : post ≠ [])
    (h : d.pattern = post ++ ' ' :: more) : d.isWord = true ∧ post = ' ' :: d.symbol.toList := by
  have wordy : d.isWord = true := d.space_mem_pattern (by simp [h])
  refine ⟨wordy, ?_⟩
  obtain ⟨first, post, rfl⟩ := List.exists_cons_of_ne_nil some
  simp only [Comparison.pattern, wordy, if_true, List.cons_append, List.cons.injEq] at h
  obtain ⟨rfl, h⟩ := h
  rcases List.append_eq_append_iff.mp h.symm with ⟨gap, symbol, spaces⟩ | ⟨gap, rfl, spaces⟩
  · cases gap with
    | nil => simpa using symbol.symm
    | cons space gap =>
        obtain ⟨rfl, -⟩ := List.cons.inj spaces
        exact absurd (by simp [symbol]) d.space_notMem_symbol
  · have length := congrArg List.length spaces
    simp only [List.length_append, List.length_cons, List.length_nil] at length
    obtain rfl : gap = [] := List.length_eq_zero_iff.mp (by omega)
    simp

theorem comparisonAt?_eq_none_of {post : List Char} (some : post ≠ [])
    (within : ∀ d : Comparison, ¬ d.pattern <+: post.map Char.toLower)
    (ending : ∀ d : Comparison, d.isWord = true → post.map Char.toLower ≠ ' ' :: d.symbol.toList)
    (rest : List Char) : comparisonAt? (post ++ ' ' :: rest) = none := by
  rw [comparisonAt?_eq_none_iff]
  rintro d ⟨tail, leads⟩
  rw [List.map_append, List.map_cons] at leads
  rcases List.append_eq_append_iff.mp leads with ⟨gap, inside, -⟩ | ⟨gap, crossing, spaces⟩
  · exact within d ⟨gap, inside.symm⟩
  · cases gap with
    | nil =>
        rw [List.append_nil] at crossing
        exact within d (crossing ▸ List.prefix_rfl)
    | cons space gap =>
        obtain ⟨rfl, -⟩ := List.cons.inj spaces
        obtain ⟨wordy, same⟩ := pattern_crossing (by simpa using some) crossing
        exact ending d wordy same

theorem Bare.comparisonAt?_eq_none (bare : Bare path) {post : List Char} (suffix : post <:+ path)
    (some : post ≠ []) (rest : List Char) : comparisonAt? (post ++ ' ' :: rest) = none := by
  have lowered : post.map Char.toLower <:+ path.map Char.toLower := suffix.map Char.toLower
  exact comparisonAt?_eq_none_of some
    (fun d leads => bare.within d (leads.isInfix.trans lowered.isInfix))
    (fun d wordy same => bare.ending d wordy (same ▸ lowered)) rest

def written (path word literal : String) : String :=
  path ++ " " ++ word ++ " " ++ literal

theorem splitAtComparison?_written (bare : Bare path)
    (spelled : word.map Char.toLower = c.symbol.toList) (rest : List Char) :
    ∃ before behind, splitAtComparison? (path ++ ' ' :: (word ++ ' ' :: rest)) =
        some (before, c, behind) ∧
      Text.trimChars before = Text.trimChars path ∧ Text.trimChars behind = Text.trimChars rest := by
  have blank : Text.isBlank ' ' = true := by decide
  cases kind : c.isWord with
  | true =>
      have found := comparisonAt?_word rest kind spelled
      exact ⟨path, rest, splitAtComparison?_append found
        fun post suffix some => bare.comparisonAt?_eq_none suffix some _, rfl, rfl⟩
  | false =>
      -- The space in front of a symbol belongs to the text before the comparison.
      have found := comparisonAt?_symbol rest kind spelled
      have alone : comparisonAt? (' ' :: (word ++ ' ' :: rest)) = none := by
        rw [comparisonAt?_eq_none_iff]
        intro d leads
        rw [List.map_cons, List.map_append, spelled] at leads
        exact Comparison.not_lead_of_space kind leads
      have split : splitAtComparison? (path ++ [' '] ++ (word ++ ' ' :: rest)) =
          some (path ++ [' '], c, ' ' :: rest) :=
        splitAtComparison?_append found fun post suffix some => by
          rcases List.suffix_concat_iff.mp suffix with rfl | ⟨post, rfl, inner⟩
          · exact absurd rfl some
          · rw [List.append_assoc, List.singleton_append]
            cases post with
            | nil => exact alone
            | cons first post => exact bare.comparisonAt?_eq_none inner nofun _
      refine ⟨path ++ [' '], ' ' :: rest, ?_, Text.trimChars_append blank, Text.trimChars_cons blank⟩
      simpa using split

theorem toList_written (path word literal : String) :
    (written path word literal).toList =
      path.toList ++ ' ' :: (word.toList ++ ' ' :: literal.toList) := by
  simp [written]

theorem read_written {path word literal : String} (bare : Bare path.toList)
    (trimmed : Text.Trimmed path.toList) (nonempty : path ≠ "")
    (spelled : Text.asciiLower word = c.symbol) :
    read (written path word literal) =
      .ok ⟨path, c, literalOf (Text.trimChars literal.toList)⟩ := by
  have spelled : word.toList.map Char.toLower = c.symbol.toList := by
    rw [← spelled, Text.asciiLower, String.toList_ofList]
  obtain ⟨before, behind, split, trimmed', literal'⟩ :=
    splitAtComparison?_written bare spelled (literal.toList ++ [' '])
  have blank : Text.isBlank ' ' = true := by decide
  have source : (written path word literal).toList ++ [' '] =
      path.toList ++ ' ' :: (word.toList ++ ' ' :: (literal.toList ++ [' '])) := by
    simp [toList_written]
  rw [trimmed.trimChars_eq] at trimmed'
  rw [Text.trimChars_append blank] at literal'
  simp only [read, source, split, trimmed', literal', String.ofList_toList]
  have some : path.toList.isEmpty = false := by simpa using nonempty
  rw [some]
  rfl

/-- Paths as they are usually written: without white space and without symbols of comparison. -/
structure PlainPath (path : String) : Prop where
  nonempty : path ≠ ""
  unspaced : ∀ c ∈ path.toList, Text.isBlank c = false
  noLess : '<' ∉ path.toList
  noGreater : '>' ∉ path.toList
  noEq : ¬ "==".toList <:+: path.toList
  noNe : ¬ "!=".toList <:+: path.toList

instance (path : String) : Decidable (PlainPath path) :=
  decidable_of_iff (path ≠ "" ∧ path.toList.all (fun c => !Text.isBlank c) = true ∧
      '<' ∉ path.toList ∧ '>' ∉ path.toList ∧ ¬ "==".toList <:+: path.toList ∧
      ¬ "!=".toList <:+: path.toList)
    ⟨fun ⟨nonempty, unspaced, noLess, noGreater, noEq, noNe⟩ =>
      ⟨nonempty, by simpa using unspaced, noLess, noGreater, noEq, noNe⟩,
    fun plain => ⟨plain.nonempty, by simpa using plain.unspaced, plain.noLess, plain.noGreater,
      plain.noEq, plain.noNe⟩⟩

theorem eq_of_toLower {x y : Char} (h : x.toLower = y) (notLetter : y.isLower = false) : x = y := by
  by_cases capital : x.isUpper = true
  · rw [← h, Char.isLower_toLower_eq_isAlpha, Char.isAlpha, capital] at notLetter
    cases notLetter
  · rw [← h, Char.toLower_eq_of_not_isUpper capital]

theorem eq_of_map_toLower {xs ys : List Char} (h : xs.map Char.toLower = ys)
    (notLetters : ∀ y ∈ ys, y.isLower = false) : xs = ys := by
  subst h
  induction xs with
  | nil => rfl
  | cons x xs ih =>
      simp only [List.map_cons, List.mem_cons, forall_eq_or_imp] at notLetters ⊢
      rw [← ih notLetters.2, ← eq_of_toLower rfl notLetters.1]

theorem infix_of_map_toLower {xs ys : List Char} (h : ys <:+: xs.map Char.toLower)
    (notLetters : ∀ y ∈ ys, y.isLower = false) : ys <:+: xs := by
  obtain ⟨before, after, split⟩ := h
  obtain ⟨front, last, rfl, front', rfl⟩ := List.map_eq_append_iff.mp split.symm
  obtain ⟨first, middle, rfl, rfl, middle'⟩ := List.map_eq_append_iff.mp front'
  rw [eq_of_map_toLower middle' notLetters]
  exact ⟨first, last, rfl⟩

namespace PlainPath

variable {path : String}

theorem noSpace (plain : PlainPath path) : ' ' ∉ path.toList.map Char.toLower := by
  intro mem
  obtain ⟨space, mem, lowered⟩ := List.mem_map.mp mem
  obtain rfl := eq_of_toLower lowered rfl
  exact absurd (plain.unspaced ' ' mem) (by decide)

theorem bare (plain : PlainPath path) : Bare path.toList where
  ending := by
    intro d _ last
    exact plain.noSpace (last.mem (List.mem_cons_self ..))
  within := by
    intro d inside
    cases wordy : d.isWord with
    | true =>
        have space : ' ' ∈ d.pattern := by simp [Comparison.pattern, wordy]
        exact plain.noSpace (inside.mem space)
    | false =>
        have symbol : d.pattern <:+: path.toList :=
          infix_of_map_toLower inside (Comparison.isLower_of_mem_pattern wordy)
        cases d with
        | ge => exact plain.noGreater (symbol.mem (by decide))
        | gt => exact plain.noGreater (symbol.mem (by decide))
        | le => exact plain.noLess (symbol.mem (by decide))
        | lt => exact plain.noLess (symbol.mem (by decide))
        | eq => exact plain.noEq symbol
        | ne => exact plain.noNe symbol
        | _ => cases wordy

theorem trimmed (plain : PlainPath path) : Text.Trimmed path.toList :=
  .of_unspaced plain.unspaced

theorem read_written (plain : PlainPath path) {word literal : String}
    (spelled : Text.asciiLower word = c.symbol) :
    read (written path word literal) = .ok ⟨path, c, literalOf (Text.trimChars literal.toList)⟩ :=
  Condition.read_written plain.bare plain.trimmed plain.nonempty spelled

end PlainPath

def enclosed (quote : Char) (s : String) : String :=
  String.ofList (quote :: (s.toList ++ [quote]))

theorem literalOf_enclosed {quote : Char} (mark : quote = '\'' ∨ quote = '"') (inner : List Char) :
    literalOf (quote :: (inner ++ [quote])) = .string (String.ofList inner) := by
  have unquoted : unquote? quote (quote :: (inner ++ [quote])) = some inner := by
    simp [unquote?]
  rcases mark with rfl | rfl
  · simp only [literalOf, unquoted, Option.some_or]
  · have other : unquote? '\'' ('"' :: (inner ++ ['"'])) = none := by simp [unquote?]
    simp only [literalOf, other, unquoted, Option.none_or]

theorem trimmed_enclosed {quote : Char} (mark : quote = '\'' ∨ quote = '"') (inner : List Char) :
    Text.Trimmed (quote :: (inner ++ [quote])) := by
  constructor
  · rintro c ⟨⟩
    rcases mark with rfl | rfl <;> decide
  · rw [← List.cons_append, List.getLast?_append]
    rintro c ⟨⟩
    rcases mark with rfl | rfl <;> decide

theorem literalOf_trim_enclosed {quote : Char} (mark : quote = '\'' ∨ quote = '"') (s : String) :
    literalOf (Text.trimChars (enclosed quote s).toList) = .string s := by
  rw [enclosed, String.toList_ofList, (trimmed_enclosed mark _).trimChars_eq,
    literalOf_enclosed mark, String.ofList_toList]

/-- A plain path, a comparison in any letter case and a text between quotes, with a space between
each two of them, are read as they are written, whatever the text holds. -/
theorem read_quoted (path word s : String) (c : Comparison) (quote : Char) (plain : PlainPath path)
    (spelled : Text.asciiLower word = c.symbol) (mark : quote = '\'' ∨ quote = '"') :
    read (written path word (enclosed quote s)) = .ok ⟨path, c, .string s⟩ := by
  rw [plain.read_written spelled, literalOf_trim_enclosed mark]

theorem read_quoted_comparisons :
    PlainPath "größe!" ∧ Text.asciiLower "StartsWITH" = Comparison.startsWith.symbol ∧
      read "größe! StartsWITH ' >= 'x\" contains \n'" =
        .ok ⟨"größe!", .startsWith, .string " >= 'x\" contains \n"⟩ := by
  have plain : PlainPath "größe!" := by decide +kernel
  have spelled : Text.asciiLower "StartsWITH" = Comparison.startsWith.symbol := by decide +kernel
  have quoted := read_quoted "größe!" "StartsWITH" " >= 'x\" contains \n" .startsWith '\'' plain
    spelled (.inl rfl)
  exact ⟨plain, spelled, quoted⟩

end Condition

end Reshape
