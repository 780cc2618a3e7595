import Reshape.Pattern.Matcher
import Reshape.Pattern.Reader
import Reshape.Proofs.Formula.Written

namespace Reshape.Pattern

def GroupName (name : List Char) : Prop :=
  ∃ c cs, name = c :: cs ∧ startsGroupName c = true ∧ ∀ d ∈ cs, continuesGroupName d = true

namespace GroupName

variable {name : List Char}

theorem not_all_isDigit (h : GroupName name) : name.all Char.isDigit = false := by
  obtain ⟨c, cs, rfl, first, -⟩ := h
  have letter : c.isDigit = false := by
    cases digit : c.isDigit with
    | false => rfl
    | true =>
        have below := (Char.isDigit_iff_toNat.mp digit).2
        rw [startsGroupName, Bool.or_eq_true, beq_iff_eq] at first
        rcases first with rfl | letter
        · cases digit
        · have above := Unicode.le_of_isAlphabetic letter
          have : '9'.toNat = 0x39 := rfl
          omega
  rw [List.all_cons, letter, Bool.false_and]

theorem brace_notMem (h : GroupName name) : '\x7d' ∉ name := by
  obtain ⟨c, cs, rfl, first, others⟩ := h
  have outside : continuesGroupName '\x7d' = false := by decide +kernel
  have outside' : startsGroupName '\x7d' = false := by decide +kernel
  simp only [List.mem_cons, not_or]
  constructor
  · rintro rfl
    rw [outside'] at first
    cases first
  · intro mem
    rw [others _ mem] at outside
    cases outside

end GroupName

theorem groupName_of_readGroupName? {names : List (String × Nat)} {text rest : List Char} {s : String}
    (h : readGroupName? names text = some (s, rest)) : GroupName s.toList := by
  simp only [readGroupName?] at h
  split at h
  · rename_i c cs _ _ name _
    split at h
    · rename_i valid
      cases h
      rw [name, String.toList_ofList]
      exact ⟨c, cs, rfl, valid.1, by simpa using valid.2.1⟩
    · cases h
  · cases h

def Reading.Named (st : Reading) : Prop :=
  ∀ name ∈ st.names, GroupName name.1.toList

def Opening.Named : Opening → Prop
  | numbered st => st.Named
  | plain st => st.Named
  | flags _ => True

theorem named_of_namedOpening? {st : Reading} {opening : Opening} {text rest : List Char}
    (h : namedOpening? st text = some (opening, rest)) (named : st.Named) : opening.Named := by
  simp only [namedOpening?, Option.bind_eq_bind, Option.bind_eq_some_iff, Option.pure_def,
    Option.some.injEq, Prod.mk.injEq, Prod.exists] at h
  obtain ⟨name, after, found, rfl, rfl⟩ := h
  intro entry mem
  rcases List.mem_append.mp mem with old | new
  · exact named entry old
  · rw [List.mem_singleton.mp new]
    exact groupName_of_readGroupName? found

theorem named_of_readOpening? {st : Reading} {opening : Opening} {text rest : List Char}
    (h : readOpening? st text = some (opening, rest)) (named : st.Named) : opening.Named := by
  unfold readOpening? at h
  split at h
  · exact named_of_namedOpening? h named
  · split at h
    · cases h
    · exact named_of_namedOpening? h named
  · simp only [Option.bind_eq_bind, Option.bind_eq_some_iff, Prod.exists] at h
    obtain ⟨f, close, after, -, h⟩ := h
    split at h
    · cases h
      trivial
    · cases h
      exact named
  · cases h
    exact named

theorem named_of_readBody? {fuel : Nat} {st after : Reading} {alternatives : List Pattern}
    {parts : Parts} {text rest : List Char} {p : Pattern}
    (h : readBody? fuel st alternatives parts text = some (p, after, rest)) (named : st.Named) :
    after.Named := by
  induction fuel generalizing st alternatives parts text p after rest with
  | zero => cases h
  | succ fuel ih =>
      rw [readBody?] at h
      split at h
      · cases h
        exact named
      · cases h
        exact named
      · exact ih h named
      · simp only [Option.bind_eq_bind, Option.bind_eq_some_iff, Prod.exists] at h
        obtain ⟨opening, inside, opened, h⟩ := h
        have opening' := named_of_readOpening? opened named
        split at h
        · exact ih h named
        · simp only [Option.bind_eq_some_iff, Prod.exists] at h
          obtain ⟨q, between, behind, body, h⟩ := h
          split at h
          · have inside := ih body opening'
            exact ih h inside
          · cases h
        · simp only [Option.bind_eq_some_iff, Prod.exists] at h
          obtain ⟨q, between, behind, body, h⟩ := h
          split at h
          · have inside := ih body opening'
            exact ih h inside
          · cases h
      all_goals simp only [Option.bind_eq_bind, Option.bind_eq_some_iff, Prod.exists] at h
      · obtain ⟨_, _, -, h⟩ := h
        exact ih h named
      · obtain ⟨_, -, h⟩ := h
        exact ih h named
      · obtain ⟨_, -, h⟩ := h
        exact ih h named
      · obtain ⟨_, -, h⟩ := h
        exact ih h named
      · obtain ⟨_, _, _, -, _, -, h⟩ := h
        exact ih h named
      · obtain ⟨_, _, -, h⟩ := h
        exact ih h named

theorem groupName_of_read? {anyCase : Bool} {text : String} {p : NamedPattern}
    (h : read? anyCase text = some p) {name : String × Nat} (mem : name ∈ p.names) :
    GroupName name.1.toList := by
  simp only [read?, Option.bind_eq_bind, Option.bind_eq_some_iff, Prod.exists] at h
  obtain ⟨q, after, rest, body, h⟩ := h
  split at h
  · cases h
    exact named_of_readBody? body (by simp [Reading.Named]) name (List.mem_filter.mp mem).1
  · cases h

variable {p : Pattern} {m : Match} {c : Cursor}

theorem whole_of_matchAt? (h : p.matchAt? c = some m) :
    m.groups.lookup 0 = some (m.first.index, m.last.index) := by
  simp only [matchAt?, Option.map_eq_some_iff, Prod.exists] at h
  obtain ⟨d, g, -, rfl⟩ := h
  rfl

theorem whole_of_findFrom? {before after : List Char} {index : Nat}
    (h : p.findFrom? before index after = some m) :
    m.groups.lookup 0 = some (m.first.index, m.last.index) := by
  induction after generalizing before index with
  | nil => exact whole_of_matchAt? h
  | cons ch rest ih =>
      rw [findFrom?] at h
      cases here : p.matchAt? ⟨before, ch :: rest, index⟩ with
      | some found =>
          rw [here] at h
          cases h
          exact whole_of_matchAt? here
      | none =>
          rw [here] at h
          exact ih h

theorem whole_of_findNext? {last : Option Nat} (h : p.findNext? last c = some m) :
    m.groups.lookup 0 = some (m.first.index, m.last.index) := by
  unfold findNext? at h
  split at h
  · rename_i found first
    split at h
    · obtain ⟨d, -, later⟩ := Option.bind_eq_some_iff.mp h
      exact whole_of_findFrom? later
    · cases h
      exact whole_of_findFrom? first
  · cases h

theorem whole_of_mem_matchesFrom {fuel : Nat} {last : Option Nat}
    (h : m ∈ p.matchesFrom fuel last c) :
    m.groups.lookup 0 = some (m.first.index, m.last.index) := by
  induction fuel generalizing last c with
  | zero => cases h
  | succ fuel ih =>
      rw [matchesFrom] at h
      split at h
      · rename_i found next
        rcases List.mem_cons.mp h with rfl | later
        · exact whole_of_findNext? next
        · exact ih later
      · cases h

theorem whole_of_mem_allMatches {text : List Char} (h : m ∈ p.allMatches text) :
    m.groups.lookup 0 = some (m.first.index, m.last.index) :=
  whole_of_mem_matchesFrom h

end Reshape.Pattern
