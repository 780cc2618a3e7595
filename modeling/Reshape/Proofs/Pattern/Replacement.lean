import Reshape.Pattern.Replacement
import Reshape.Proofs.Decimal.RoundTrip
import Reshape.Proofs.Pattern.Groups

namespace Reshape.NamedPattern

inductive Part where
  | char (c : Char)
  | whole
  | group (number : Nat)

def Part.text (text : List Char) (m : Match) : Part → List Char
  | char c => [c]
  | whole => slice text m.first.index m.last.index
  | group number => groupText text m number

variable {p : NamedPattern}

def Numbered (p : NamedPattern) (n : Nat) : Prop :=
  1 ≤ n ∧ n ≤ p.pattern.groupCount

/-- What a dollar sign refers to with the text behind it, and what is left of that text. Two digits go
before one. -/
inductive Reference (p : NamedPattern) : List Char → Part → List Char → Prop
  | dollar (rest : List Char) : Reference p ('$' :: rest) (.char '$') rest
  | whole (rest : List Char) : Reference p ('&' :: rest) .whole rest
  | two {a b : Char} {rest : List Char} (first : a.isDigit) (second : b.isDigit)
      (known : p.Numbered (Decimal.ofDigits [a, b])) :
      Reference p (a :: b :: rest) (.group (Decimal.ofDigits [a, b])) rest
  | one {a : Char} {rest : List Char} (first : a.isDigit)
      (known : p.Numbered (Decimal.ofDigits [a]))
      (alone : ∀ b ∈ rest.head?, b.isDigit → ¬ p.Numbered (Decimal.ofDigits [a, b])) :
      Reference p (a :: rest) (.group (Decimal.ofDigits [a])) rest
  | named {name rest : List Char} {number : Nat} (ends : '>' ∉ name)
      (known : p.names.lookup (String.ofList name) = some number) :
      Reference p ('<' :: (name ++ '>' :: rest)) (.group number) rest

inductive Reading (p : NamedPattern) : List Char → List Part → Prop
  | nil : Reading p [] []
  | plain {c : Char} {rest : List Char} {parts : List Part} (other : c ≠ '$')
      (next : Reading p rest parts) : Reading p (c :: rest) (.char c :: parts)
  | reference {behind rest : List Char} {part : Part} {parts : List Part}
      (first : p.Reference behind part rest) (next : Reading p rest parts) :
      Reading p ('$' :: behind) (part :: parts)
  | literal {rest : List Char} {parts : List Part}
      (none : ∀ part after, ¬ p.Reference rest part after) (next : Reading p rest parts) :
      Reading p ('$' :: rest) (.char '$' :: parts)

theorem hasGroup_iff {n : Nat} : p.hasGroup n = true ↔ p.Numbered n := by
  simp [hasGroup, Numbered]

theorem ofDigits_one (a : Char) : Decimal.ofDigits [a] = digitValue a := by
  simp [Decimal.ofDigits, digitValue]

theorem ofDigits_two (a b : Char) :
    Decimal.ofDigits [a, b] = 10 * digitValue a + digitValue b := by
  simp [Decimal.ofDigits, digitValue]

theorem referenceAt?_two {a b : Char} (first : a.isDigit = true) (second : b.isDigit = true)
    (known : p.Numbered (Decimal.ofDigits [a, b])) (rest : List Char) :
    p.referenceAt? (a :: b :: rest) =
      some (reference (Decimal.digits (Decimal.ofDigits [a, b])), 2) := by
  rw [← hasGroup_iff] at known
  rw [ofDigits_two] at known ⊢
  unfold referenceAt?
  split
  all_goals rename_i same
  all_goals cases same
  · cases first
  · cases first
  · cases first
  · simp [first, second, known]

theorem referenceAt?_one {a : Char} {rest : List Char} (first : a.isDigit = true)
    (known : p.Numbered (Decimal.ofDigits [a]))
    (alone : ∀ b ∈ rest.head?, b.isDigit → ¬ p.Numbered (Decimal.ofDigits [a, b])) :
    p.referenceAt? (a :: rest) = some (reference (Decimal.digits (Decimal.ofDigits [a])), 1) := by
  simp only [← hasGroup_iff, ofDigits_one, ofDigits_two] at known alone ⊢
  unfold referenceAt?
  split
  all_goals rename_i same
  all_goals cases same
  · cases first
  · cases first
  · cases first
  · cases rest with
    | nil => simp [first, known]
    | cons b rest =>
      have none : ¬ (b.isDigit = true ∧ p.hasGroup (10 * digitValue a + digitValue b) = true) :=
        fun ⟨digit, two⟩ => alone b rfl digit two
      simp [first, known, none]

theorem referenceAt?_named {name rest : List Char} {number : Nat} (ends : '>' ∉ name)
    (known : p.names.lookup (String.ofList name) = some number) :
    p.referenceAt? ('<' :: (name ++ '>' :: rest)) = some (reference name, name.length + 2) := by
  have found : (name ++ '>' :: rest).takeWhile (· != '>') = name := by
    rw [List.takeWhile_append_of_pos (by simpa using fun c mem => ne_of_mem_of_not_mem mem ends)]
    simp
  simp only [referenceAt?]
  rw [found, known, if_pos (by simp)]

theorem exists_cut {c : Char} {text : List Char}
    (h : (text.takeWhile (· != c)).length < text.length) :
    c ∉ text.takeWhile (· != c) ∧ ∃ after, text = text.takeWhile (· != c) ++ c :: after := by
  refine ⟨fun mem => by simpa using List.mem_takeWhile_imp mem, ?_⟩
  have cut := List.takeWhile_append_dropWhile (p := (· != c)) (l := text)
  have stop := List.head?_dropWhile_not (· != c) text
  cases behind : text.dropWhile (· != c) with
  | nil =>
      rw [behind, List.append_nil] at cut
      rw [cut] at h
      exact absurd h (Nat.lt_irrefl _)
  | cons d after =>
      rw [behind] at stop cut
      obtain rfl : d = c := by simpa using stop
      exact ⟨after, cut.symm⟩

theorem exists_reference {text form : List Char} {length : Nat}
    (h : p.referenceAt? text = some (form, length)) : ∃ part rest, p.Reference text part rest := by
  unfold referenceAt? at h
  split at h
  · exact ⟨_, _, .dollar _⟩
  · exact ⟨_, _, .whole _⟩
  · rename_i rest
    dsimp only at h
    split at h
    · rename_i closed
      obtain ⟨ends, after, cut⟩ := exists_cut closed.1
      obtain ⟨number, known⟩ := Option.isSome_iff_exists.mp closed.2
      refine ⟨.group number, after, ?_⟩
      rw [cut]
      exact .named ends known
    · cases h
  · split at h
    · rename_i a rest _ _ _ digit
      by_cases two : ∃ b ∈ rest.head?, b.isDigit = true ∧ p.Numbered (Decimal.ofDigits [a, b])
      · obtain ⟨b, head, second, known⟩ := two
        obtain ⟨after, rfl⟩ := List.head?_eq_some_iff.mp head
        exact ⟨_, _, .two digit second known⟩
      · by_cases one : p.Numbered (Decimal.ofDigits [a])
        · exact ⟨_, _, .one digit one fun b head second known => two ⟨b, head, second, known⟩⟩
        · exfalso
          simp only [← hasGroup_iff, ofDigits_one, ofDigits_two] at one two
          cases rest with
          | nil => simp [one] at h
          | cons b rest =>
              have none : ¬ (b.isDigit = true ∧
                  p.hasGroup (10 * digitValue a + digitValue b) = true) :=
                fun both => two ⟨b, rfl, both⟩
              simp [one, none] at h
    · cases h
  · cases h

theorem templateFrom_skip (length : Nat) (text : List Char) :
    p.templateFrom length text = p.templateFrom 0 (text.drop length) := by
  induction length generalizing text with
  | zero => rfl
  | succ length ih =>
      cases text with
      | nil => simp [templateFrom]
      | cons c rest => rw [templateFrom, ih, List.drop_succ_cons]

variable {text : List Char} {m : Match}

theorem expandFrom_skip (length : Nat) (form : List Char) :
    p.expandFrom text m length form = p.expandFrom text m 0 (form.drop length) := by
  induction length generalizing form with
  | zero => rfl
  | succ length ih =>
      cases form with
      | nil => simp [expandFrom]
      | cons c rest => rw [expandFrom, ih, List.drop_succ_cons]

theorem expandFrom_plain {c : Char} (other : c ≠ '$') (rest : List Char) :
    p.expandFrom text m 0 (c :: rest) = c :: p.expandFrom text m 0 rest := by
  rw [expandFrom.eq_def]
  exact if_neg other

theorem expandFrom_dollar (after : List Char) :
    p.expandFrom text m 0 ('$' :: '$' :: after) = '$' :: p.expandFrom text m 0 after := by
  rw [expandFrom, if_pos rfl, expandFrom_skip, List.drop_succ_cons, List.drop_zero]

theorem expandFrom_reference {name : List Char} (closed : '\x7d' ∉ name) (after : List Char) :
    p.expandFrom text m 0 (reference name ++ after) =
      p.namedText text m name ++ p.expandFrom text m 0 after := by
  have found : (name ++ '\x7d' :: after).takeWhile (· != '\x7d') = name := by
    rw [List.takeWhile_append_of_pos (by simpa using fun c mem => ne_of_mem_of_not_mem mem closed)]
    simp
  have form : reference name ++ after = '$' :: '\x7b' :: (name ++ '\x7d' :: after) := by
    simp [reference]
  rw [form, expandFrom, if_pos rfl]
  dsimp only
  rw [found, if_pos (by simp), expandFrom_skip]
  simp

theorem namedText_digits (n : Nat) :
    p.namedText text m (Decimal.digits n) = groupText text m n := by
  have digits : (Decimal.digits n).all Char.isDigit = true :=
    List.all_eq_true.mpr fun _ => Decimal.isDigit_of_mem_digits
  have some : (Decimal.digits n).isEmpty = false := by simpa using Decimal.digits_ne_nil n
  rw [namedText, groupNumber?, if_pos ⟨by simp [some], digits⟩, Decimal.ofDigits_digits]

theorem namedText_name {name : List Char} {number : Nat} (valid : Pattern.GroupName name)
    (known : p.names.lookup (String.ofList name) = some number) :
    p.namedText text m name = groupText text m number := by
  rw [namedText, groupNumber?, if_neg (by simp [valid.not_all_isDigit]), known]

theorem exists_form (text : List Char)
    (names : ∀ name ∈ p.names, Pattern.GroupName name.1.toList)
    (whole : m.groups.lookup 0 = some (m.first.index, m.last.index)) {behind rest : List Char}
    {part : Part} (h : p.Reference behind part rest) :
    ∃ form, p.templateFrom 0 ('$' :: behind) = form ++ p.templateFrom 0 rest ∧
      ∀ after, p.expandFrom text m 0 (form ++ after) =
        part.text text m ++ p.expandFrom text m 0 after := by
  -- One reference in both scans: what it becomes in the plain form is expanded to its text.
  have digits (n : Nat) : '\x7d' ∉ Decimal.digits n := fun mem => by
    have digit := Decimal.isDigit_of_mem_digits mem
    cases digit
  have taken {form : List Char} {length : Nat} (found : p.referenceAt? behind = some (form, length)) :
      p.templateFrom 0 ('$' :: behind) = form ++ p.templateFrom 0 (behind.drop length) := by
    rw [templateFrom, if_pos rfl, found, ← templateFrom_skip]
  cases h with
  | dollar => exact ⟨_, taken rfl, expandFrom_dollar⟩
  | whole =>
      refine ⟨_, taken rfl, fun after => ?_⟩
      have zero : Decimal.digits 0 = ['0'] := rfl
      rw [← zero, expandFrom_reference (digits 0), namedText_digits, groupText, whole]
      rfl
  | two first second known =>
      refine ⟨_, taken (referenceAt?_two first second known _), fun after => ?_⟩
      rw [expandFrom_reference (digits _), namedText_digits]
      rfl
  | one first known alone =>
      refine ⟨_, taken (referenceAt?_one first known alone), fun after => ?_⟩
      rw [expandFrom_reference (digits _), namedText_digits]
      rfl
  | @named name rest number ends known =>
      have mem : (String.ofList name, number) ∈ p.names := by
        obtain ⟨before, after, split, -⟩ := List.lookup_eq_some_iff.mp known
        simp [split]
      have valid := names _ mem
      rw [String.toList_ofList] at valid
      refine ⟨reference name, ?_, fun after => ?_⟩
      · rw [taken (referenceAt?_named ends known)]
        simp
      · rw [expandFrom_reference valid.brace_notMem, namedText_name valid known]
        rfl

theorem templateFrom_literal {rest : List Char} (none : ∀ part after, ¬ p.Reference rest part after) :
    p.templateFrom 0 ('$' :: rest) = '$' :: '$' :: p.templateFrom 0 rest := by
  cases found : p.referenceAt? rest with
  | none => rw [templateFrom, if_pos rfl, found]
  | some reference =>
      obtain ⟨part, after, h⟩ := exists_reference found
      exact absurd h (none part after)

theorem expandFrom_templateFrom (names : ∀ name ∈ p.names, Pattern.GroupName name.1.toList)
    (whole : m.groups.lookup 0 = some (m.first.index, m.last.index)) {replacement : List Char}
    {parts : List Part} (h : p.Reading replacement parts) :
    p.expandFrom text m 0 (p.templateFrom 0 replacement) = parts.flatMap (Part.text text m) := by
  induction h with
  | nil => rfl
  | plain other _ ih =>
      rw [templateFrom, if_neg other, expandFrom_plain other, ih]
      rfl
  | reference first _ ih =>
      obtain ⟨form, template, expand⟩ := exists_form text names whole first
      rw [template, expand, ih, List.flatMap_cons]
  | literal none _ ih =>
      rw [templateFrom_literal none, expandFrom_dollar, ih]
      rfl

theorem Reference.length_lt {behind rest : List Char} {part : Part}
    (h : p.Reference behind part rest) : rest.length < behind.length := by
  cases h with
  | named ends known =>
      simp
      omega
  | _ => simp

theorem exists_reading (p : NamedPattern) (replacement : List Char) :
    ∃ parts, p.Reading replacement parts := by
  induction size : replacement.length using Nat.strong_induction_on generalizing replacement with
  | _ n ih =>
      subst size
      cases replacement with
      | nil => exact ⟨[], .nil⟩
      | cons c rest =>
          by_cases dollar : c = '$'
          · subst dollar
            by_cases some : ∃ part after, p.Reference rest part after
            · obtain ⟨part, after, first⟩ := some
              obtain ⟨parts, next⟩ := ih _ (Nat.lt_succ_of_lt first.length_lt) after rfl
              exact ⟨_, .reference first next⟩
            · obtain ⟨parts, next⟩ := ih _ (Nat.lt_succ_self _) rest rfl
              exact ⟨_, .literal (fun part after first => some ⟨part, after, first⟩) next⟩
          · obtain ⟨parts, next⟩ := ih _ (Nat.lt_succ_self _) rest rfl
            exact ⟨_, .plain dollar next⟩

/-- A replacement text can be read, and its plain form stands for what it says in every match. -/
theorem expand_template {anyCase : Bool} {source : String}
    (h : Pattern.read? anyCase source = some p) (replacement : List Char) :
    (∃ parts, p.Reading replacement parts) ∧ ∀ parts, p.Reading replacement parts →
      ∀ text, ∀ m ∈ p.pattern.allMatches text,
        p.expand text m (p.template replacement) = parts.flatMap (Part.text text m) :=
  ⟨p.exists_reading replacement, fun _ reading _ _ mem =>
    expandFrom_templateFrom (fun _ => Pattern.groupName_of_read? h)
      (Pattern.whole_of_mem_allMatches mem) reading⟩

theorem expand_template_alternatives :
    let p : NamedPattern := ⟨.alt (.group 1 (.set .exact (.single 'a')))
      (.group 2 (.set .exact (.single 'b'))), [("n", 1)]⟩
    let m : Match := ⟨.start ['b'], ⟨['b'], [], 1⟩, [(0, 0, 1), (2, 0, 1)]⟩
    let replacement := ['$', '<', 'n', '>', '$', '0', '2', '$', '3']
    let parts : List Part := [.group 1, .group 2, .char '$', .char '3']
    Pattern.read? false "(?<n>a)|(b)" = some p ∧ m ∈ p.pattern.allMatches ['b'] ∧
      p.Reading replacement parts ∧
      p.expand ['b'] m (p.template replacement) = ['b', '$', '3'] := by
  intro p m replacement parts
  have read : Pattern.read? false "(?<n>a)|(b)" = some p := rfl
  have found : m ∈ p.pattern.allMatches ['b'] := .head _
  have missing : ∀ part after, ¬ p.Reference ['3'] part after := by
    intro part after h
    cases h with
    | one _ known _ => exact absurd known.2 (by decide)
  have reading : p.Reading replacement parts :=
    .reference (@Reference.named p ['n'] _ 1 (by decide) rfl) <|
    .reference (@Reference.two p '0' '2' _ rfl rfl ⟨by decide, by decide⟩) <|
    .literal missing <| .plain (by decide) .nil
  exact ⟨read, found, reading, (expand_template read replacement).2 parts reading _ m found⟩

end Reshape.NamedPattern
