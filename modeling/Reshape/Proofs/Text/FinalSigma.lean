import Reshape.Proofs.Text.LowerCase

/-!
# Small letters of a part of a text

Small letters are looked up one by one, except for the capital sigma, whose form depends on the
letters around it. So a part of a text has the same small letters alone as within the text just if
each of its capital sigmas is final in both or in neither.
-/

namespace Reshape.Unicode

variable {c : Char} {f : Bool} {cs ds before before' after after' part rest : List Char}

def smallSigma (final : Bool) : Char :=
  if final then 'ς' else 'σ'

theorem smallSigma_inj {f g : Bool} : smallSigma f = smallSigma g ↔ f = g := by
  cases f <;> cases g <;> decide

/-- The small letters of a part of a text. As for `isFinal`, the text in front of the part is
given in reverse. -/
def lowerIn (before after : List Char) : List Char → List Char
  | [] => []
  | c :: rest =>
    (if c = 'Σ' then [smallSigma (isFinal before (rest ++ after))] else lowerChar c)
      ++ lowerIn (c :: before) after rest

theorem lowerIn_append (before after cs ds : List Char) :
    lowerIn before after (cs ++ ds) =
      lowerIn before (ds ++ after) cs ++ lowerIn (cs.reverse ++ before) after ds := by
  induction cs generalizing before with
  | nil => rfl
  | cons c cs ih =>
      rw [List.cons_append, lowerIn, lowerIn, ih, List.append_assoc, List.append_assoc,
        List.reverse_cons, List.append_assoc, List.singleton_append]

theorem lowerIn_nil (before cs : List Char) : lowerIn before [] cs = lowerFrom before cs := by
  induction cs generalizing before with
  | nil => rfl
  | cons c cs ih => rw [lowerIn, lowerFrom, ih, List.append_nil, smallSigma]

theorem lowerFrom_append (before cs ds : List Char) :
    lowerFrom before (cs ++ ds) =
      lowerIn before ds cs ++ lowerFrom (cs.reverse ++ before) ds := by
  rw [← lowerIn_nil, lowerIn_append, List.append_nil, lowerIn_nil]

theorem length_lowerIn (before after before' after' part : List Char) :
    (lowerIn before after part).length = (lowerIn before' after' part).length := by
  induction part generalizing before before' with
  | nil => rfl
  | cons c part ih =>
      rw [lowerIn, lowerIn, List.length_append, List.length_append, ih]
      split <;> rfl

def SameSigmas (part before after before' after' : List Char) : Prop :=
  ∀ front behind, part = front ++ 'Σ' :: behind →
    isFinal (front.reverse ++ before) (behind ++ after) =
      isFinal (front.reverse ++ before') (behind ++ after')

/-- Every capital sigma of the part has the form in the text that it has in the part alone. -/
def KeepsSigmas (before part after : List Char) : Prop :=
  SameSigmas part before after [] []

theorem forall_sigma_cons {P : List Char → List Char → Prop} :
    (∀ front behind, c :: rest = front ++ 'Σ' :: behind → P front behind) ↔
      (c = 'Σ' → P [] rest) ∧
        ∀ front behind, rest = front ++ 'Σ' :: behind → P (c :: front) behind := by
  constructor
  · intro h
    refine ⟨fun sigma => h [] rest (by rw [sigma, List.nil_append]), fun front behind split => ?_⟩
    exact h (c :: front) behind (by rw [split, List.cons_append])
  · rintro ⟨first, later⟩ front behind split
    cases front with
    | nil =>
        obtain ⟨sigma, rfl⟩ := List.cons.inj split
        exact first sigma
    | cons d front =>
        obtain ⟨rfl, tail⟩ := List.cons.inj split
        exact later front behind tail

theorem lowerIn_eq_iff :
    lowerIn before after part = lowerIn before' after' part ↔
      SameSigmas part before after before' after' := by
  induction part generalizing before before' with
  | nil => exact iff_of_true rfl fun front behind split => by simp at split
  | cons c part ih =>
      have parts (x x' y y' : List Char) (length : x.length = x'.length) :
          x ++ y = x' ++ y' ↔ x = x' ∧ y = y' :=
        ⟨fun same => List.append_inj same length, fun ⟨left, right⟩ => by rw [left, right]⟩
      rw [SameSigmas, forall_sigma_cons, lowerIn, lowerIn, parts _ _ _ _ (by split <;> rfl), ih,
        SameSigmas]
      refine and_congr ?_ (by
        simp only [List.reverse_cons, List.append_assoc, List.singleton_append])
      by_cases sigma : c = 'Σ'
      · simp only [sigma, if_true, forall_const, List.cons.injEq, and_true, smallSigma_inj,
          List.reverse_nil, List.nil_append]
      · simp only [sigma, if_false, false_implies]

theorem keepsSigmas_iff :
    KeepsSigmas before part after ↔ lowerIn before after part = lowerChars part := by
  rw [KeepsSigmas, ← lowerIn_eq_iff, lowerIn_nil, lowerChars]

instance (before part after : List Char) : Decidable (KeepsSigmas before part after) :=
  decidable_of_iff _ keepsSigmas_iff.symm

theorem lowerChars_prefix_iff :
    lowerChars part <+: lowerChars (part ++ after) ↔ KeepsSigmas [] part after := by
  rw [keepsSigmas_iff, lowerChars, lowerChars, lowerFrom_append, ← lowerIn_nil]
  refine ⟨fun h => ?_, fun same => ?_⟩
  · have alone := List.prefix_of_prefix_length_le (List.prefix_append _ _) h
      (length_lowerIn ..).le
    exact alone.eq_of_length (length_lowerIn ..)
  · rw [same]
    exact List.prefix_append _ _

theorem lowerChars_suffix_iff :
    lowerChars part <:+ lowerChars (before ++ part) ↔ KeepsSigmas before.reverse part [] := by
  rw [keepsSigmas_iff, lowerChars, lowerChars, lowerFrom_append, List.append_nil, ← lowerIn_nil,
    ← lowerIn_nil]
  refine ⟨fun h => ?_, fun same => ?_⟩
  · have alone := List.suffix_of_suffix_length_le (List.suffix_append _ _) h
      (length_lowerIn ..).le
    exact alone.eq_of_length (length_lowerIn ..)
  · rw [same]
    exact List.suffix_append _ _

theorem lowerChars_infix (h : KeepsSigmas before.reverse part after) :
    lowerChars part <:+: lowerChars (before ++ part ++ after) := by
  rw [keepsSigmas_iff] at h
  rw [List.append_assoc, lowerChars, lowerChars, lowerFrom_append, lowerFrom_append,
    List.append_nil, h, ← List.append_assoc]
  exact List.infix_append _ _ _

theorem meetsCased_append (cs ds : List Char) :
    meetsCased (cs ++ ds) = if cs.all isCaseIgnorable then meetsCased ds else meetsCased cs := by
  induction cs with
  | nil => rfl
  | cons c cs ih =>
      cases ignorable : isCaseIgnorable c with
      | true =>
          simp only [meetsCased, List.cons_append, List.dropWhile_cons, ignorable, if_true,
            List.all_cons, Bool.true_and] at ih ⊢
          exact ih
      | false =>
          simp only [meetsCased, List.cons_append, List.dropWhile_cons, ignorable, List.all_cons,
            Bool.false_and, Bool.false_eq_true, if_false]

theorem meetsCased_of_all (h : cs.all isCaseIgnorable = true) : meetsCased cs = false := by
  have none := meetsCased_append cs []
  rw [List.append_nil, h] at none
  exact none

/-- The part decides by itself on every capital sigma in it. Apart from characters that are
case-ignorable, a letter with case comes next behind the sigma in the part, or what comes next in
front of it is no such letter, or something stands on both sides of it. -/
def Settled (part : List Char) : Prop :=
  ∀ front behind, part = front ++ 'Σ' :: behind → meetsCased behind = true ∨
    front.all isCaseIgnorable = false ∧
      (meetsCased front.reverse = false ∨ behind.all isCaseIgnorable = false)

theorem settled_of_not_mem (h : 'Σ' ∉ part) : Settled part := by
  rintro front behind rfl
  exact absurd (by simp) h

theorem keepsSigmas_of_settled (h : Settled part) (before after : List Char) :
    KeepsSigmas before part after := by
  intro front behind split
  rw [List.append_nil, List.append_nil, isFinal, isFinal, meetsCased_append, meetsCased_append,
    List.all_reverse]
  rcases h front behind split with cased | ⟨word, uncased | ends⟩
  · have some : behind.all isCaseIgnorable = false := by
      by_contra all
      rw [Bool.not_eq_false] at all
      rw [meetsCased_of_all all] at cased
      cases cased
    simp [some, cased]
  · simp [word, uncased]
  · simp [word, ends]

def FormPersists (f : Bool) (part before after before' after' : List Char) : Prop :=
  ∀ front behind, part = front ++ 'Σ' :: behind →
    isFinal (front.reverse ++ before') (behind ++ after') = f →
      isFinal (front.reverse ++ before) (behind ++ after) = f

theorem formPersists_cons (h : FormPersists f (c :: part) before after before' after') :
    (c = 'Σ' → isFinal before' (part ++ after') = f → isFinal before (part ++ after) = f) ∧
      FormPersists f part (c :: before) after (c :: before') after' := by
  rw [FormPersists, forall_sigma_cons] at h
  exact ⟨h.1, by simpa [FormPersists] using h.2⟩

theorem count_smallSigma (f g : Bool) :
    [smallSigma g].count (smallSigma f) = if g = f then 1 else 0 := by
  simp only [List.count_singleton, beq_iff_eq, smallSigma_inj]

theorem count_head_le {g g' : Bool} (h : c = 'Σ' → g' = f → g = f) :
    (if c = 'Σ' then [smallSigma g'] else lowerChar c).count (smallSigma f) ≤
      (if c = 'Σ' then [smallSigma g] else lowerChar c).count (smallSigma f) := by
  by_cases sigma : c = 'Σ'
  · rw [if_pos sigma, if_pos sigma, count_smallSigma, count_smallSigma]
    split
    · rename_i form
      rw [if_pos (h sigma form)]
    · exact Nat.zero_le _
  · rw [if_neg sigma, if_neg sigma]

theorem count_lowerIn_le (h : FormPersists f part before after before' after') :
    (lowerIn before' after' part).count (smallSigma f) ≤
      (lowerIn before after part).count (smallSigma f) := by
  induction part generalizing before before' with
  | nil => exact le_rfl
  | cons c part ih =>
      obtain ⟨first, later⟩ := formPersists_cons h
      rw [lowerIn, lowerIn, List.count_append, List.count_append]
      exact Nat.add_le_add (count_head_le first) (ih later)

theorem sameSigmas_of_count_le (h : FormPersists f part before after before' after')
    (count : (lowerIn before after part).count (smallSigma f) ≤
      (lowerIn before' after' part).count (smallSigma f)) :
    SameSigmas part before' after' before after := by
  induction part generalizing before before' with
  | nil => exact fun front behind split => by simp at split
  | cons c part ih =>
      obtain ⟨first, later⟩ := formPersists_cons h
      rw [lowerIn, lowerIn, List.count_append, List.count_append] at count
      have head := count_head_le first
      have tail := count_lowerIn_le later
      rw [SameSigmas, forall_sigma_cons]
      refine ⟨fun sigma => ?_, by simpa [SameSigmas] using ih later (by omega)⟩
      rw [if_pos sigma, if_pos sigma, count_smallSigma, count_smallSigma] at count
      show isFinal before' (part ++ after') = isFinal before (part ++ after)
      by_cases form : isFinal before (part ++ after) = f
      · by_cases form' : isFinal before' (part ++ after') = f
        · rw [form, form']
        · rw [if_pos form, if_neg form'] at count
          omega
      · have form' : isFinal before' (part ++ after') ≠ f := fun form' => form (first sigma form')
        rw [Bool.eq_not.mpr form, Bool.eq_not.mpr form']

theorem meetsCased_alpha : meetsCased ['α'] = true := by
  decide +kernel

theorem lowerChar_alpha : lowerChar 'α' = ['α'] := by
  decide +kernel

theorem lowerFrom_alpha (before cs : List Char) :
    lowerFrom before ('α' :: cs) = 'α' :: lowerFrom ('α' :: before) cs := by
  rw [lowerFrom, if_neg (by decide), lowerChar_alpha, List.singleton_append]

theorem keepsSigmas_of_letter_after (h : lowerChars part <:+: lowerChars (part ++ ['α'])) :
    KeepsSigmas [] part ['α'] := by
  have persists : FormPersists true part [] [] [] ['α'] := by
    intro front behind split final
    rw [isFinal, meetsCased_append behind, meetsCased_alpha] at final
    rw [List.append_nil behind, isFinal]
    split at final <;> simp_all
  refine sameSigmas_of_count_le persists ?_
  have count := h.sublist.count_le (smallSigma true)
  rw [lowerChars, lowerChars, lowerFrom_append, lowerFrom_alpha, List.count_append,
    ← lowerIn_nil] at count
  simpa [lowerFrom, smallSigma] using count

theorem keepsSigmas_of_letter_before (h : lowerChars part <:+: lowerChars ('α' :: part)) :
    KeepsSigmas ['α'] part [] := by
  have persists : FormPersists false part [] [] ['α'] [] := by
    intro front behind split notFinal
    rw [isFinal, meetsCased_append front.reverse, meetsCased_alpha] at notFinal
    rw [List.append_nil front.reverse, isFinal]
    split at notFinal <;> simp_all
  refine sameSigmas_of_count_le persists ?_
  have count := h.sublist.count_le (smallSigma false)
  rw [lowerChars, lowerChars, lowerFrom_alpha, ← lowerIn_nil, ← lowerIn_nil] at count
  simpa [smallSigma] using count

theorem settled_of_keepsSigmas (left : KeepsSigmas ['α'] part [])
    (right : KeepsSigmas [] part ['α']) : Settled part := by
  intro front behind split
  replace left := left front behind split
  replace right := right front behind split
  simp only [isFinal, List.append_nil, meetsCased_append _ ['α'], meetsCased_alpha,
    List.all_reverse] at left right
  cases word : front.all isCaseIgnorable with
  | true =>
      have alone : meetsCased front.reverse = false := meetsCased_of_all (by rwa [List.all_reverse])
      left
      simpa [word, alone] using left
  | false =>
      cases ends : behind.all isCaseIgnorable with
      | true =>
          have none := meetsCased_of_all ends
          refine .inr ⟨rfl, .inl ?_⟩
          simpa [ends, none] using right
      | false => exact .inr ⟨rfl, .inr rfl⟩

theorem forall_infix_iff_settled :
    (∀ before after, lowerChars part <:+: lowerChars (before ++ part ++ after)) ↔ Settled part := by
  refine ⟨fun h => ?_, fun settled before after =>
    lowerChars_infix (keepsSigmas_of_settled settled _ _)⟩
  refine settled_of_keepsSigmas (keepsSigmas_of_letter_before ?_) (keepsSigmas_of_letter_after ?_)
  · simpa using h ['α'] []
  · simpa using h [] ['α']

end Reshape.Unicode
