import Mathlib
import Reshape.Formula.Lexer
import Reshape.Proofs.Decimal.RoundTrip
import Reshape.Proofs.Text.Trimming

/-!
# Written tokens

A lexeme is a written form of a token: a text between quotes has a backslash before each of these
quotes and each backslash in it, and a number is any run of digits with at most one point. The
lexer undoes writing: lexemes with white space behind each of them are read as their tokens.
-/

namespace Reshape

variable {c : Char} {cs text after : List Char} {ts : List Token}

/-! ## Letters and numerals -/

namespace Unicode

def Ranges.free (first last : Nat) : Ranges → Bool
  | low :: high :: rest => if last < low then true else high < first && Ranges.free first last rest
  | _ => true

theorem Ranges.contains_of_free {rs : Ranges} {first last n : Nat} (h : rs.free first last = true)
    (within : first ≤ n ∧ n ≤ last) : rs.contains n = false := by
  fun_induction Ranges.free first last rs with
  | case1 low high rest before => rw [Ranges.contains, if_pos (by omega)]
  | case2 low high rest notBefore ih =>
      rw [Bool.and_eq_true, decide_eq_true_eq] at h
      rw [Ranges.contains]
      split
      · rfl
      · rw [if_neg (by omega), ih h.2]
  | case3 rs short =>
      unfold Ranges.contains
      split
      · exact absurd rfl (short _ _ _)
      · rfl

theorem any_contains_of_free {tables : List Ranges} {first last n : Nat}
    (h : tables.all (·.free first last) = true) (within : first ≤ n ∧ n ≤ last) :
    tables.any (·.contains n) = false := by
  rw [List.any_eq_false]
  intro rs mem
  rw [Ranges.contains_of_free (List.all_eq_true.mp h rs mem) within]
  exact Bool.false_ne_true

def alphabetic : List Ranges :=
  [lowercaseLetter, uppercaseLetter, titlecaseLetter, modifierLetter, otherLetter, letterNumber,
    otherAlphabetic]

def numerals : List Ranges :=
  [decimalNumber, letterNumber, otherNumber]

theorem isAlphabetic_eq (c : Char) : isAlphabetic c = alphabetic.any (·.contains c.toNat) := by
  simp [isAlphabetic, isLetter, alphabetic, Bool.or_assoc]

theorem isNumeral_eq (c : Char) : isNumeral c = numerals.any (·.contains c.toNat) := by
  simp [isNumeral, numerals, Bool.or_assoc]

theorem le_of_isAlphabetic (h : isAlphabetic c = true) : 0x41 ≤ c.toNat := by
  by_contra below
  have free : alphabetic.all (·.free 0 0x40) = true := by decide +kernel
  rw [isAlphabetic_eq, any_contains_of_free free (by omega)] at h
  cases h

def blankRuns : List (Nat × Nat) :=
  [(9, 13), (0x20, 0x20), (0x85, 0x85), (0xA0, 0xA0), (0x1680, 0x1680), (0x2000, 0x200A),
    (0x2028, 0x2029), (0x202F, 0x202F), (0x205F, 0x205F), (0x3000, 0x3000)]

theorem exists_blankRun (h : Text.isBlank c = true) :
    ∃ run ∈ blankRuns, run.1 ≤ c.toNat ∧ c.toNat ≤ run.2 := by
  simp only [Text.isBlank, Bool.or_eq_true, Bool.and_eq_true, decide_eq_true_eq, beq_iff_eq] at h
  simp only [blankRuns, List.exists_mem_cons_iff, List.not_mem_nil, false_and, exists_false,
    or_false]
  omega

theorem isAlphanumeric_of_isBlank (h : Text.isBlank c = true) : isAlphanumeric c = false := by
  obtain ⟨run, mem, within⟩ := exists_blankRun h
  have free : ∀ run ∈ blankRuns, (alphabetic ++ numerals).all (·.free run.1 run.2) = true := by
    decide +kernel
  have none := any_contains_of_free (free run mem) within
  rw [List.any_append, Bool.or_eq_false_iff] at none
  rw [isAlphanumeric, isAlphabetic_eq, isNumeral_eq, none.1, none.2, Bool.false_or]

end Unicode

namespace Formula

/-! ## The first character of a lexeme -/

theorem continuesName_of_isBlank (h : Text.isBlank c = true) : continuesName c = false := by
  simp only [continuesName, Unicode.isAlphanumeric_of_isBlank h, Bool.false_or,
    Bool.or_eq_false_iff, beq_eq_false_iff_ne]
  refine ⟨⟨?_, ?_⟩, ?_⟩ <;> rintro rfl <;> exact absurd h (by decide)

theorem startsNumber_iff : startsNumber c = true ↔ c.isDigit = true ∨ c = '.' := by
  simp [startsNumber]

theorem isBlank_of_startsNumber (h : startsNumber c = true) : Text.isBlank c = false := by
  rcases startsNumber_iff.mp h with digit | rfl
  · exact Text.isBlank_of_isDigit digit
  · rfl

theorem symbol?_of_startsNumber (h : startsNumber c = true) : symbol? c = none := by
  rcases startsNumber_iff.mp h with digit | rfl
  · have other (d : Char) (symbol : d.isDigit = false) : c ≠ d := by
      rintro rfl
      rw [digit] at symbol
      cases symbol
    simp [symbol?, other]
  · rfl

structure Unmarked (c : Char) : Prop where
  isBlank : Text.isBlank c = false
  symbol : symbol? c = none
  startsNumber : startsNumber c = false
  isQuote : isQuote c = false

theorem unmarked_of_startsName (h : startsName c = true) : Unmarked c := by
  have visible : Text.isBlank c = false := by
    rw [Bool.eq_false_iff]
    intro blank
    have continues := continuesName_of_isBlank blank
    have letters := Unicode.isAlphanumeric_of_isBlank blank
    simp only [Unicode.isAlphanumeric, Bool.or_eq_false_iff] at letters
    simp only [continuesName, Bool.or_eq_false_iff] at continues
    simp only [startsName, letters.1, continues.1.1.2, continues.1.2, Bool.or_self] at h
    cases h
  have place : c = '_' ∨ c = '$' ∨ 0x41 ≤ c.toNat := by
    simp only [startsName, Bool.or_eq_true, beq_iff_eq] at h
    rcases h with (letter | rfl) | rfl
    · exact .inr (.inr (Unicode.le_of_isAlphabetic letter))
    · exact .inl rfl
    · exact .inr (.inl rfl)
  rcases place with rfl | rfl | letter
  · exact ⟨visible, rfl, rfl, rfl⟩
  · exact ⟨visible, rfl, rfl, rfl⟩
  have other (d : Char) (below : d.toNat < 0x41) : c ≠ d := by
    rintro rfl
    omega
  refine ⟨visible, ?_, ?_, ?_⟩
  · simp [symbol?, other]
  · have notDigit : c.isDigit = false := by
      rw [Bool.eq_false_iff]
      intro digit
      have digit : 48 ≤ c.toNat ∧ c.toNat ≤ 57 := Char.isDigit_iff_toNat.mp digit
      omega
    simp [startsNumber, notDigit, other]
  · simp [isQuote, other]

/-! ## Where a lexeme ends -/

def Ended (text : List Char) : Prop :=
  ∀ c ∈ text.head?, Text.isBlank c = true

theorem ended_nil : Ended [] := nofun

theorem ended_cons (blank : Text.isBlank c = true) : Ended (c :: text) := by
  rintro d ⟨⟩
  exact blank

theorem Ended.startsNumber (h : Ended text) : ∀ c ∈ text.head?, startsNumber c = false := by
  intro c first
  rw [Bool.eq_false_iff]
  intro number
  have visible := isBlank_of_startsNumber number
  rw [h c first] at visible
  cases visible

theorem Ended.continuesName (h : Ended text) : ∀ c ∈ text.head?, continuesName c = false :=
  fun c first => continuesName_of_isBlank (h c first)

theorem spanNumber_append_stop {pointSeen : Bool} (allowed : ∀ c ∈ cs, startsNumber c = true)
    (points : cs.count '.' + pointSeen.toNat ≤ 1)
    (stop : ∀ c ∈ after.head?, startsNumber c = false) :
    spanNumber pointSeen (cs ++ after) = (cs, after) := by
  induction cs generalizing pointSeen with
  | nil =>
      cases after with
      | nil => rfl
      | cons c rest =>
          have other := stop c rfl
          rw [startsNumber, Bool.or_eq_false_iff, beq_eq_false_iff_ne] at other
          simp [spanNumber, other]
  | cons c cs ih =>
      rw [List.count_cons] at points
      have later : ∀ d ∈ cs, startsNumber d = true := fun d mem =>
        allowed d (List.mem_cons_of_mem _ mem)
      rcases startsNumber_iff.mp (allowed c (List.mem_cons_self ..)) with digit | rfl
      · have fewer : cs.count '.' + pointSeen.toNat ≤ 1 := by omega
        simp only [List.cons_append, spanNumber, digit, if_true, ih later fewer]
      · have first : pointSeen = false := by
          cases pointSeen with
          | false => rfl
          | true => simp at points
        subst first
        have once : cs.count '.' + true.toNat ≤ 1 := by simpa using points
        simp [spanNumber, ih later once]

def escape (quote : Char) : List Char → List Char
  | [] => []
  | c :: rest =>
    if c = quote ∨ c = '\\' then '\\' :: c :: escape quote rest else c :: escape quote rest

theorem spanQuoted?_escape {quote : Char} (mark : isQuote quote = true) (cs after : List Char) :
    spanQuoted? quote (escape quote cs ++ quote :: after) = some (cs, after) := by
  have other : quote ≠ '\\' := by
    rintro rfl
    cases mark
  induction cs with
  | nil => simp [escape, spanQuoted?, other]
  | cons c cs ih =>
      rw [escape]
      split
      · simp [spanQuoted?, ih]
      · rename_i plain
        rw [not_or] at plain
        simp [spanQuoted?, plain, ih]

/-! ## Lexemes -/

structure Numeral where
  chars : List Char
  allowed : ∀ c ∈ chars, startsNumber c = true
  points : chars.count '.' ≤ 1
  digit : ∃ c ∈ chars, c.isDigit = true

theorem Numeral.parts (n : Numeral) :
    ∃ whole, (∀ c ∈ whole, c.isDigit = true) ∧ (n.chars = whole ∨
      ∃ fraction, (∀ c ∈ fraction, c.isDigit = true) ∧ n.chars = whole ++ '.' :: fraction) := by
  have digits {cs : List Char} (allowed : ∀ c ∈ cs, startsNumber c = true) (free : '.' ∉ cs) :
      ∀ c ∈ cs, c.isDigit = true := fun c mem =>
    (startsNumber_iff.mp (allowed c mem)).resolve_right fun point => free (point ▸ mem)
  by_cases point : '.' ∈ n.chars
  · obtain ⟨whole, fraction, split⟩ := List.append_of_mem point
    have points := n.points
    have allowed := n.allowed
    simp only [split, List.count_append, List.count_cons_self] at points
    simp only [split, List.mem_append, List.mem_cons] at allowed
    refine ⟨whole, digits (fun c mem => allowed c (.inl mem)) ?_, .inr ⟨fraction,
      digits (fun c mem => allowed c (.inr (.inr mem))) ?_, split⟩⟩
    · exact List.count_eq_zero.mp (by omega)
    · exact List.count_eq_zero.mp (by omega)
  · exact ⟨n.chars, digits n.allowed point, .inl rfl⟩

theorem Numeral.exists_magnitude? (n : Numeral) : ∃ x, Decimal.magnitude? n.chars = some x := by
  obtain ⟨d, mem, digit⟩ := n.digit
  obtain ⟨whole, digits, same | ⟨fraction, more, same⟩⟩ := n.parts
  · have nonempty : whole ≠ [] := by
      rintro rfl
      rw [same] at mem
      cases mem
    have read := Decimal.magnitude?_whole digits Decimal.exponentOf?_nil nonempty
    rw [List.append_nil, ← same] at read
    exact ⟨_, read⟩
  · by_cases nonempty : whole = []
    · -- A point comes first, and the digit stands behind it.
      subst nonempty
      have some : fraction ≠ [] := by
        rintro rfl
        rw [same, List.nil_append, List.mem_singleton] at mem
        subst mem
        cases digit
      have taken : fraction.takeWhile Char.isDigit = fraction := List.takeWhile_eq_self_iff.mpr more
      have dropped : fraction.dropWhile Char.isDigit = [] := List.dropWhile_eq_nil_iff.mpr more
      rw [same]
      simp [Decimal.magnitude?, taken, dropped, some, Decimal.exponentOf?_nil]
    · have read := Decimal.magnitude?_point digits Decimal.exponentOf?_nil more nonempty
      rw [List.append_nil, ← same] at read
      exact ⟨_, read⟩

theorem Numeral.isSome_read? (n : Numeral) : (Decimal.read? n.chars).isSome = true := by
  obtain ⟨x, magnitude⟩ := n.exists_magnitude?
  have read : Decimal.read? n.chars = some x := Decimal.read?_signed magnitude false
  rw [read]
  rfl

def Numeral.value (n : Numeral) : Float :=
  (Decimal.read? n.chars).get n.isSome_read?

theorem Numeral.read?_chars (n : Numeral) : Decimal.read? n.chars = some n.value :=
  (Option.some_get n.isSome_read?).symm

structure Name where
  first : Char
  rest : List Char
  starts : startsName first = true
  continues : ∀ c ∈ rest, continuesName c = true

inductive Lexeme where
  | symbol (op : Operation)
  | left
  | right
  | name (n : Name)
  | quoted (quote : Char) (mark : isQuote quote = true) (s : String)
  | number (n : Numeral)

namespace Lexeme

def chars : Lexeme → List Char
  | symbol op => op.symbol.toList
  | left => ['(']
  | right => [')']
  | name n => n.first :: n.rest
  | quoted quote _ s => quote :: (escape quote s.toList ++ [quote])
  | number n => n.chars

def token : Lexeme → Token
  | symbol op => .symbol op
  | left => .left
  | right => .right
  | name n => .name (String.ofList (n.first :: n.rest))
  | quoted _ _ s => .text s
  | number n => .number n.value

end Lexeme

/-! ## Reading lexemes -/

/-- What the lexer makes of a text, wherever it stands in the formula. -/
def Scanned (text : List Char) (ts : List Token) : Prop :=
  ∀ offset, tokensFrom offset text = .ok ts

namespace Scanned

theorem nil : Scanned [] [] := fun offset => by unfold tokensFrom; rfl

theorem blank (h : Scanned text ts) (blank : Text.isBlank c = true) : Scanned (c :: text) ts := by
  intro offset
  unfold tokensFrom
  simp only [blank, if_true]
  rw [h]

theorem gap (h : Scanned text ts) (blank : ∀ c ∈ cs, Text.isBlank c = true) :
    Scanned (cs ++ text) ts := by
  induction cs with
  | nil => exact h
  | cons c cs ih =>
      exact (ih fun d mem => blank d (List.mem_cons_of_mem _ mem)).blank
        (blank c (List.mem_cons_self ..))

theorem symbol {t : Token} (h : Scanned text ts) (visible : Text.isBlank c = false)
    (found : symbol? c = some t) : Scanned (c :: text) (t :: ts) := by
  intro offset
  unfold tokensFrom
  simp only [visible, Bool.false_eq_true, if_false, found]
  rw [h]
  rfl

theorem number (h : Scanned text ts) (ended : Ended text) (n : Numeral) :
    Scanned (n.chars ++ text) (.number n.value :: ts) := by
  intro offset
  have read := n.read?_chars
  have allowed := n.allowed
  have points := n.points
  cases shape : n.chars with
  | nil =>
      obtain ⟨d, mem, -⟩ := n.digit
      rw [shape] at mem
      cases mem
  | cons c rest =>
      rw [shape] at read allowed points
      have first := allowed c (List.mem_cons_self ..)
      have span : spanNumber (c == '.') (rest ++ text) = (rest, text) := by
        apply spanNumber_append_stop (fun d mem => allowed d (List.mem_cons_of_mem _ mem)) _
          ended.startsNumber
        rw [List.count_cons] at points
        cases point : c == '.' <;> simp_all
      unfold tokensFrom
      simp only [List.cons_append, isBlank_of_startsNumber first, symbol?_of_startsNumber first,
        first, Bool.false_eq_true, if_false, if_true, span, read]
      rw [h]
      rfl

theorem quoted (h : Scanned text ts) {quote : Char} (mark : isQuote quote = true) (s : String) :
    Scanned (quote :: (escape quote s.toList ++ quote :: text)) (.text s :: ts) := by
  intro offset
  have plain : Text.isBlank quote = false ∧ symbol? quote = none ∧ startsNumber quote = false := by
    simp only [isQuote, Bool.or_eq_true, beq_iff_eq] at mark
    rcases mark with rfl | rfl <;> exact ⟨rfl, rfl, rfl⟩
  unfold tokensFrom
  simp only [plain.1, plain.2.1, plain.2.2, mark, Bool.false_eq_true, if_false, if_true]
  have span := spanQuoted?_escape mark s.toList text
  split
  · rename_i chars after found
    obtain ⟨rfl, rfl⟩ := Prod.mk.inj (Option.some.inj (found.symm.trans span))
    rw [h, String.ofList_toList]
    rfl
  · rename_i none
    rw [span] at none
    cases none

theorem name (h : Scanned text ts) (ended : Ended text) (n : Name) :
    Scanned (n.first :: (n.rest ++ text)) (.name (String.ofList (n.first :: n.rest)) :: ts) := by
  intro offset
  have first := unmarked_of_startsName n.starts
  have stop := ended.continuesName
  have taken : (n.rest ++ text).takeWhile continuesName = n.rest := by
    rw [List.takeWhile_append_of_pos n.continues]
    cases text with
    | nil => simp
    | cons c text => simp [stop c rfl]
  have dropped : (n.rest ++ text).dropWhile continuesName = text := by
    rw [List.dropWhile_append_of_pos n.continues]
    cases text with
    | nil => rfl
    | cons c text => simp [stop c rfl]
  unfold tokensFrom
  simp only [first.isBlank, first.symbol, first.startsNumber, first.isQuote, n.starts,
    Bool.false_eq_true, if_false, if_true, taken, dropped]
  rw [h]
  rfl

theorem lexeme (h : Scanned text ts) (ended : Ended text) (l : Lexeme) :
    Scanned (l.chars ++ text) (l.token :: ts) := by
  cases l with
  | symbol op => cases op <;> exact h.symbol rfl rfl
  | left => exact h.symbol rfl rfl
  | right => exact h.symbol rfl rfl
  | name n => exact h.name ended n
  | quoted quote mark s =>
      have whole : (Lexeme.quoted quote mark s).chars ++ text =
          quote :: (escape quote s.toList ++ quote :: text) := by simp [Lexeme.chars]
      rw [whole]
      exact h.quoted mark s
  | number n => exact h.number ended n

end Scanned

/-- Lexemes in their order with white space between each two of them and any around them. -/
inductive Spaced : List Lexeme → List Char → Prop where
  | nil {gap : List Char} (blank : ∀ c ∈ gap, Text.isBlank c = true) : Spaced [] gap
  | cons {gap text : List Char} {l : Lexeme} {ls : List Lexeme}
      (blank : ∀ c ∈ gap, Text.isBlank c = true) (ended : Ended text) (rest : Spaced ls text) :
      Spaced (l :: ls) (gap ++ (l.chars ++ text))

theorem Spaced.scanned {ls : List Lexeme} (h : Spaced ls text) :
    Scanned text (ls.map Lexeme.token) := by
  induction h with
  | nil blank => simpa using Scanned.nil.gap blank
  | cons blank ended rest ih => exact (ih.lexeme ended _).gap blank

theorem spaced_of_spaces (ls : List Lexeme) : Spaced ls (ls.flatMap fun l => ' ' :: l.chars) := by
  induction ls with
  | nil => exact .nil nofun
  | cons l ls ih =>
      have ended : Ended (ls.flatMap fun l => ' ' :: l.chars) := by
        cases ls with
        | nil => exact ended_nil
        | cons l' ls => exact ended_cons (by decide)
      have space : ∀ c ∈ [' '], Text.isBlank c = true := fun c mem =>
        List.mem_singleton.mp mem ▸ by decide
      exact .cons space ended ih

/-- Every list of lexemes can be written with white space between them, and however it is written,
the lexer gives back their tokens and nothing else. -/
theorem tokens_spaced (ls : List Lexeme) :
    (∃ source : String, Spaced ls source.toList) ∧
      ∀ source : String, Spaced ls source.toList → tokens source = .ok (ls.map Lexeme.token) := by
  refine ⟨⟨String.ofList (ls.flatMap fun l => ' ' :: l.chars), ?_⟩, fun source h => h.scanned 0⟩
  rw [String.toList_ofList]
  exact spaced_of_spaces ls

theorem tokens_spaced_quotes :
    ∃ ls, Spaced ls "\u00a0größe.x\t- .5\n* 'it\\'s \"a+\\\\'".toList ∧
      tokens "\u00a0größe.x\t- .5\n* 'it\\'s \"a+\\\\'" =
        .ok [.name "größe.x", .symbol .sub, .number 0.5, .symbol .mul, .text "it's \"a+\\"] := by
  have continues : "röße.x".toList.all continuesName = true := by decide +kernel
  let name : Name := ⟨'g', "röße.x".toList, by decide +kernel, List.all_eq_true.mp continues⟩
  have allowed : ['.', '5'].all startsNumber = true := by decide
  let half : Numeral :=
    ⟨['.', '5'], List.all_eq_true.mp allowed, by decide, '5', by decide, by decide⟩
  have value : half.value = 0.5 := by
    have read : Decimal.read? ['.', '5'] = some 0.5 := by decide +kernel
    exact Option.some.inj (half.read?_chars.symm.trans read)
  let ls : List Lexeme :=
    [.name name, .symbol .sub, .number half, .symbol .mul, .quoted '\'' rfl "it's \"a+\\"]
  have spaced : Spaced ls "\u00a0größe.x\t- .5\n* 'it\\'s \"a+\\\\'".toList := by
    have blank {c : Char} (h : Text.isBlank c = true) : ∀ d ∈ [c], Text.isBlank d = true :=
      fun d mem => List.mem_singleton.mp mem ▸ h
    have text := Spaced.cons (l := .quoted '\'' rfl "it's \"a+\\") (blank (c := ' ') rfl)
      ended_nil (.nil nofun)
    have times := Spaced.cons (l := .symbol .mul) (blank (c := '\n') rfl) (ended_cons rfl) text
    have number := Spaced.cons (l := .number half) (blank (c := ' ') rfl) (ended_cons rfl) times
    have minus := Spaced.cons (l := .symbol .sub) (blank (c := '\t') rfl) (ended_cons rfl) number
    exact Spaced.cons (l := .name name) (blank (c := '\u00a0') rfl) (ended_cons rfl) minus
  refine ⟨ls, spaced, ?_⟩
  have read := (tokens_spaced ls).2 _ spaced
  rw [read]
  simp only [ls, List.map_cons, List.map_nil, Lexeme.token, value]
  rfl

end Formula

end Reshape
