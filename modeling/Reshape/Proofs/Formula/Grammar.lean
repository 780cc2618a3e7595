import Reshape.Formula.Message
import Reshape.Formula.Reader
import Reshape.Proofs.Results

/-!
# The grammar of formulas

`Derives` is the grammar of formulas as rules, each with the tree that it builds:

* `sum := term (('+' | '-') term)*`
* `term := factor (('*' | '/') factor)*`
* `factor := ('-' | '+') factor | primary`
* `primary := NUMBER | TEXT | NAME | '(' sum ')'`

Chains are grouped to the left, so a chain is a shorter chain with one more operand. The reader
finds the tree of every list of tokens that the grammar derives, and no other.
-/

namespace Reshape.Formula

inductive Phrase where
  | sum
  | term
  | factor
  | primary

inductive Derives : Phrase → List Token → Formula → Prop
  | sum {ts : List Token} {e : Formula} (only : Derives .term ts e) : Derives .sum ts e
  | moreTerms {op : Operation} {ts us : List Token} {lhs rhs : Formula}
      (additive : op = .add ∨ op = .sub) (before : Derives .sum ts lhs)
      (last : Derives .term us rhs) : Derives .sum (ts ++ .symbol op :: us) (.binary op lhs rhs)
  | term {ts : List Token} {e : Formula} (only : Derives .factor ts e) : Derives .term ts e
  | moreFactors {op : Operation} {ts us : List Token} {lhs rhs : Formula}
      (multiplicative : op = .mul ∨ op = .div) (before : Derives .term ts lhs)
      (last : Derives .factor us rhs) : Derives .term (ts ++ .symbol op :: us) (.binary op lhs rhs)
  | minus {ts : List Token} {e : Formula} (inner : Derives .factor ts e) :
      Derives .factor (.symbol .sub :: ts) (.neg e)
  | plus {ts : List Token} {e : Formula} (inner : Derives .factor ts e) :
      Derives .factor (.symbol .add :: ts) e
  | factor {ts : List Token} {e : Formula} (inner : Derives .primary ts e) : Derives .factor ts e
  | number (x : Float) : Derives .primary [.number x] (.number x)
  | text (s : String) : Derives .primary [.text s] (.text s)
  | name (path : String) : Derives .primary [.name path] (.field path)
  | parens {ts : List Token} {e : Formula} (inner : Derives .sum ts e) :
      Derives .primary (.left :: (ts ++ [.right])) e

theorem joinsTerms?_eq_some {t : Token} {op : Operation} :
    joinsTerms? t = some op ↔ t = .symbol op ∧ (op = .add ∨ op = .sub) := by
  cases t with
  | symbol op' => cases op' <;> cases op <;> simp [joinsTerms?]
  | _ => simp [joinsTerms?]

theorem joinsFactors?_eq_some {t : Token} {op : Operation} :
    joinsFactors? t = some op ↔ t = .symbol op ∧ (op = .mul ∨ op = .div) := by
  cases t with
  | symbol op' => cases op' <;> cases op <;> simp [joinsFactors?]
  | _ => simp [joinsFactors?]

/-! ## What is read is derived -/

def Reads (p : Phrase) (reader : List Token → Parsed) : Prop :=
  ∀ {ts e rest}, reader ts = .ok (e, rest) → ∃ us, ts = us ++ rest ∧ Derives p us e

def Extends (p : Phrase) (reader : Formula → List Token → Parsed) : Prop :=
  ∀ {before lhs}, Derives p before lhs → ∀ {ts e rest}, reader lhs ts = .ok (e, rest) →
    ∃ us, ts = us ++ rest ∧ Derives p (before ++ us) e

structure Sound (fuel : Nat) : Prop where
  sum : Reads .sum (sum fuel)
  moreTerms : Extends .sum (moreTerms fuel)
  term : Reads .term (term fuel)
  moreFactors : Extends .term (moreFactors fuel)
  factor : Reads .factor (factor fuel)

section

variable {p q : Phrase} {operand : List Token → Parsed} {more : Formula → List Token → Parsed}

theorem reads_chain (operands : Reads q operand) (others : Extends p more)
    (only : ∀ {ts e}, Derives q ts e → Derives p ts e) {ts : List Token} {e : Formula}
    {rest : List Token} (h : (operand ts >>= fun r => more r.1 r.2) = .ok (e, rest)) :
    ∃ us, ts = us ++ rest ∧ Derives p us e := by
  obtain ⟨⟨lhs, ts'⟩, first, others_read⟩ := bind_eq_ok.mp h
  obtain ⟨before, rfl, derived⟩ := operands first
  obtain ⟨us, rfl, derived⟩ := others (only derived) others_read
  exact ⟨before ++ us, by simp, derived⟩

theorem extends_join {t : Token} (operands : Reads q operand) (others : Extends p more)
    {op : Operation} {before : List Token} {lhs : Formula}
    (join : ∀ {us rhs}, Derives q us rhs → Derives p (before ++ t :: us) (.binary op lhs rhs))
    {ts : List Token} {e : Formula} {rest : List Token}
    (h : (operand ts >>= fun r => more (.binary op lhs r.1) r.2) = .ok (e, rest)) :
    ∃ us, t :: ts = us ++ rest ∧ Derives p (before ++ us) e := by
  obtain ⟨⟨rhs, ts'⟩, next, others_read⟩ := bind_eq_ok.mp h
  obtain ⟨taken, rfl, derived⟩ := operands next
  obtain ⟨us, rfl, derived⟩ := others (join derived) others_read
  exact ⟨t :: (taken ++ us), by simp, by simpa using derived⟩

end

theorem sound_zero : Sound 0 where
  sum := nofun
  moreTerms := nofun
  term := nofun
  moreFactors := nofun
  factor := nofun

theorem factor_sound {fuel : Nat} (ih : Sound fuel) : Reads .factor (factor (fuel + 1)) := by
  intro ts e rest h
  simp only [factor] at h
  split at h
  · obtain ⟨⟨inner, ts'⟩, found, h⟩ := bind_eq_ok.mp h
    cases h
    obtain ⟨us, rfl, derived⟩ := ih.factor found
    exact ⟨_ :: us, rfl, .minus derived⟩
  · obtain ⟨us, rfl, derived⟩ := ih.factor h
    exact ⟨_ :: us, rfl, .plus derived⟩
  · cases h
    exact ⟨[_], rfl, .factor (.number _)⟩
  · cases h
    exact ⟨[_], rfl, .factor (.text _)⟩
  · cases h
    exact ⟨[_], rfl, .factor (.name _)⟩
  · obtain ⟨⟨inner, ts'⟩, found, closed⟩ := bind_eq_ok.mp h
    obtain ⟨us, rfl, derived⟩ := ih.sum found
    dsimp only at closed
    split at closed
    · cases closed
      exact ⟨.left :: (us ++ [.right]), by simp, .factor (.parens derived)⟩
    · cases closed
  · cases h

theorem sound_succ {fuel : Nat} (ih : Sound fuel) : Sound (fuel + 1) where
  sum := fun h => reads_chain ih.term ih.moreTerms .sum (by simpa only [sum] using h)
  moreTerms := by
    intro before lhs derived ts e rest h
    cases ts with
    | nil =>
        cases h
        exact ⟨[], rfl, by simpa using derived⟩
    | cons t ts =>
        simp only [moreTerms] at h
        split at h
        · rename_i op joins
          obtain ⟨rfl, additive⟩ := joinsTerms?_eq_some.mp joins
          exact extends_join ih.term ih.moreTerms (.moreTerms additive derived) h
        · cases h
          exact ⟨[], rfl, by simpa using derived⟩
  term := fun h => reads_chain ih.factor ih.moreFactors .term (by simpa only [term] using h)
  moreFactors := by
    intro before lhs derived ts e rest h
    cases ts with
    | nil =>
        cases h
        exact ⟨[], rfl, by simpa using derived⟩
    | cons t ts =>
        simp only [moreFactors] at h
        split at h
        · rename_i op joins
          obtain ⟨rfl, multiplicative⟩ := joinsFactors?_eq_some.mp joins
          exact extends_join ih.factor ih.moreFactors (.moreFactors multiplicative derived) h
        · cases h
          exact ⟨[], rfl, by simpa using derived⟩
  factor := factor_sound ih

theorem sound (fuel : Nat) : Sound fuel := by
  induction fuel with
  | zero => exact sound_zero
  | succ fuel ih => exact sound_succ ih

/-! ## What is derived is read -/

theorem Derives.length_pos {p : Phrase} {ts : List Token} {e : Formula} (h : Derives p ts e) :
    0 < ts.length := by
  induction h with
  | sum _ ih | term _ ih | factor _ ih => exact ih
  | moreTerms | moreFactors =>
      simp only [List.length_append, List.length_cons]
      omega
  | _ => simp

def EndsTerm (rest : List Token) : Prop :=
  ∀ t ∈ rest.head?, joinsFactors? t = none

def EndsSum (rest : List Token) : Prop :=
  EndsTerm rest ∧ ∀ t ∈ rest.head?, joinsTerms? t = none

theorem moreFactors_of_endsTerm {fuel : Nat} {e : Formula} {rest : List Token} (h : EndsTerm rest) :
    moreFactors (fuel + 1) e rest = .ok (e, rest) := by
  cases rest with
  | nil => rfl
  | cons t rest => simp only [moreFactors, h t rfl]

theorem moreTerms_of_endsSum {fuel : Nat} {e : Formula} {rest : List Token} (h : EndsSum rest) :
    moreTerms (fuel + 1) e rest = .ok (e, rest) := by
  cases rest with
  | nil => rfl
  | cons t rest => simp only [moreTerms, h.2 t rfl]

theorem endsTerm_of_additive {op : Operation} (h : op = .add ∨ op = .sub) (rest : List Token) :
    EndsTerm (.symbol op :: rest) := by
  rintro t ⟨⟩
  rcases h with rfl | rfl <;> rfl

theorem endsSum_nil : EndsSum [] :=
  ⟨nofun, nofun⟩

theorem endsSum_right (rest : List Token) : EndsSum (.right :: rest) :=
  ⟨by rintro t ⟨⟩; rfl, by rintro t ⟨⟩; rfl⟩

/-- A phrase at the front of the tokens is read with the fuel that its length asks for. Behind a
chain the reader goes on with its loop, with less fuel by at most the length of the chain. -/
def Read (p : Phrase) (ts : List Token) (e : Formula) : Prop :=
  match p with
  | .sum => ∀ fuel rest, 4 * ts.length ≤ fuel + 1 → EndsTerm rest →
      ∃ left, fuel ≤ left + ts.length ∧ sum fuel (ts ++ rest) = moreTerms left e rest
  | .term => ∀ fuel rest, 4 * ts.length ≤ fuel + 2 →
      ∃ left, fuel ≤ left + ts.length ∧ term fuel (ts ++ rest) = moreFactors left e rest
  | .factor => ∀ fuel rest, 4 * ts.length ≤ fuel + 3 → factor fuel (ts ++ rest) = .ok (e, rest)
  | .primary => ∀ fuel rest, 4 * ts.length ≤ fuel + 3 → factor fuel (ts ++ rest) = .ok (e, rest)

theorem Read.term_ok {ts : List Token} {e : Formula} (h : Read .term ts e) (pos : 0 < ts.length)
    {fuel : Nat} {rest : List Token} (enough : 4 * ts.length ≤ fuel + 2) (ends : EndsTerm rest) :
    term fuel (ts ++ rest) = .ok (e, rest) := by
  obtain ⟨left, spent, same⟩ := h fuel rest enough
  obtain ⟨left, rfl⟩ : ∃ n, left = n + 1 := ⟨left - 1, by omega⟩
  rw [same, moreFactors_of_endsTerm ends]

theorem Read.sum_ok {ts : List Token} {e : Formula} (h : Read .sum ts e) (pos : 0 < ts.length)
    {fuel : Nat} {rest : List Token} (enough : 4 * ts.length ≤ fuel + 1) (ends : EndsSum rest) :
    sum fuel (ts ++ rest) = .ok (e, rest) := by
  obtain ⟨left, spent, same⟩ := h fuel rest enough ends.1
  obtain ⟨left, rfl⟩ : ∃ n, left = n + 1 := ⟨left - 1, by omega⟩
  rw [same, moreTerms_of_endsSum ends]

theorem Derives.read {p : Phrase} {ts : List Token} {e : Formula} (h : Derives p ts e) :
    Read p ts e := by
  induction h with
  | @sum ts e only ih =>
      intro fuel rest enough ends
      have pos := only.length_pos
      obtain ⟨fuel, rfl⟩ : ∃ n, fuel = n + 1 := ⟨fuel - 1, by omega⟩
      refine ⟨fuel, by omega, ?_⟩
      simp only [Formula.sum, ih.term_ok pos (by omega) ends]
      rfl
  | @moreTerms op ts us lhs rhs additive before last ihBefore ihLast =>
      intro fuel rest enough ends
      have pos := before.length_pos
      have pos' := last.length_pos
      simp only [List.length_append, List.length_cons] at enough ⊢
      obtain ⟨left, spent, same⟩ := ihBefore fuel (.symbol op :: (us ++ rest)) (by omega)
        (endsTerm_of_additive additive _)
      obtain ⟨left, rfl⟩ : ∃ n, left = n + 1 := ⟨left - 1, by omega⟩
      refine ⟨left, by omega, ?_⟩
      have joins := joinsTerms?_eq_some.mpr ⟨rfl, additive⟩
      have operand : Formula.term left (us ++ rest) = .ok (rhs, rest) :=
        ihLast.term_ok pos' (by omega) ends
      rw [List.append_assoc, List.cons_append, same]
      simp only [Formula.moreTerms, joins, operand]
      rfl
  | @term ts e only ih =>
      intro fuel rest enough
      have pos := only.length_pos
      obtain ⟨fuel, rfl⟩ : ∃ n, fuel = n + 1 := ⟨fuel - 1, by omega⟩
      refine ⟨fuel, by omega, ?_⟩
      simp only [Formula.term, ih fuel rest (by omega)]
      rfl
  | @moreFactors op ts us lhs rhs multiplicative before last ihBefore ihLast =>
      intro fuel rest enough
      have pos := before.length_pos
      have pos' := last.length_pos
      simp only [List.length_append, List.length_cons] at enough ⊢
      obtain ⟨left, spent, same⟩ := ihBefore fuel (.symbol op :: (us ++ rest)) (by omega)
      obtain ⟨left, rfl⟩ : ∃ n, left = n + 1 := ⟨left - 1, by omega⟩
      refine ⟨left, by omega, ?_⟩
      have joins := joinsFactors?_eq_some.mpr ⟨rfl, multiplicative⟩
      rw [List.append_assoc, List.cons_append, same]
      have operand := ihLast left rest (by omega)
      simp only [Formula.moreFactors, joins, operand]
      rfl
  | @minus ts e inner ih =>
      intro fuel rest enough
      simp only [List.length_cons] at enough
      obtain ⟨fuel, rfl⟩ : ∃ n, fuel = n + 1 := ⟨fuel - 1, by omega⟩
      simp only [List.cons_append, Formula.factor, ih fuel rest (by omega)]
      rfl
  | @plus ts e inner ih =>
      intro fuel rest enough
      simp only [List.length_cons] at enough
      obtain ⟨fuel, rfl⟩ : ∃ n, fuel = n + 1 := ⟨fuel - 1, by omega⟩
      simp only [List.cons_append, Formula.factor, ih fuel rest (by omega)]
  | factor inner ih => exact ih
  | number _ | text _ | name _ =>
      intro fuel rest enough
      simp only [List.length_singleton] at enough
      obtain ⟨fuel, rfl⟩ : ∃ n, fuel = n + 1 := ⟨fuel - 1, by omega⟩
      rfl
  | @parens ts e inner ih =>
      intro fuel rest enough
      simp only [List.length_cons, List.length_append, List.length_nil] at enough
      obtain ⟨fuel, rfl⟩ : ∃ n, fuel = n + 1 := ⟨fuel - 1, by omega⟩
      have read : Formula.sum fuel (ts ++ .right :: rest) = .ok (e, .right :: rest) :=
        ih.sum_ok inner.length_pos (by omega) (endsSum_right rest)
      simp only [List.cons_append, List.append_assoc, List.nil_append, Formula.factor, read]
      rfl

theorem Derives.complete {ts : List Token} {e : Formula} (h : Derives .sum ts e) :
    ofTokens ts = .ok e := by
  have pos := h.length_pos
  have read : Formula.sum (4 * ts.length + 4) (ts ++ []) = .ok (e, []) :=
    h.read.sum_ok pos (by omega) endsSum_nil
  rw [List.append_nil] at read
  have tokens : ts.isEmpty = false := by
    cases ts with
    | nil => cases pos
    | cons t ts => rfl
  simp only [ofTokens, tokens, read]
  rfl

theorem Derives.unique {ts : List Token} {e e' : Formula} (h : Derives .sum ts e)
    (h' : Derives .sum ts e') : e = e' :=
  Except.ok.inj (h.complete.symm.trans h'.complete)

/-! ## The reader -/

theorem ofTokens_sound {ts : List Token} {e : Formula} (h : ofTokens ts = .ok e) :
    Derives .sum ts e := by
  unfold ofTokens at h
  split at h
  · cases h
  · obtain ⟨⟨tree, rest⟩, read, ended⟩ := bind_eq_ok.mp h
    obtain ⟨us, same, derived⟩ := (sound _).sum read
    cases rest with
    | nil =>
        cases ended
        rwa [same, List.append_nil]
    | cons t rest => cases ended

theorem message_eq_wrongText (error : FormulaError) : ∃ what, error.message = wrongText what := by
  cases error <;> exact ⟨_, rfl⟩

/-- The reader gives a tree just when the grammar derives it, and a syntax error for every list of
tokens that the grammar does not derive. -/
theorem ofTokens_eq_ok_iff (ts : List Token) :
    (∀ e, ofTokens ts = .ok e ↔ Derives .sum ts e) ∧
      ((∃ e, Derives .sum ts e) ∨
        ∃ error what, ofTokens ts = .error error ∧ error.message = wrongText what) := by
  refine ⟨fun e => ⟨ofTokens_sound, Derives.complete⟩, ?_⟩
  cases result : ofTokens ts with
  | ok e => exact .inl ⟨e, ofTokens_sound result⟩
  | error error =>
      obtain ⟨what, message⟩ := message_eq_wrongText error
      exact .inr ⟨error, what, rfl, message⟩

end Reshape.Formula
