import Mathlib.Data.List.Forall2
import Reshape.Value.Basic

namespace Reshape

variable {ε α β : Type}

theorem bind_eq_ok {x : Except ε α} {f : α → Except ε β} {b : β} :
    (x >>= f) = .ok b ↔ ∃ a, x = .ok a ∧ f a = .ok b := by
  cases x with
  | error e => simp [bind, Except.bind]
  | ok a => simp [bind, Except.bind]

theorem pure_eq_ok {a b : α} : (pure a : Except ε α) = .ok b ↔ a = b := by
  simp [pure, Except.pure]

theorem mapError_eq_ok {δ : Type} {f : ε → δ} {x : Except ε α} {a : α} :
    x.mapError f = .ok a ↔ x = .ok a := by
  cases x with
  | error e => simp [Except.mapError]
  | ok b => simp [Except.mapError]

theorem mapM_eq_ok {f : α → Except ε β} {xs : List α} {ys : List β} :
    xs.mapM f = .ok ys ↔ List.Forall₂ (fun x y => f x = .ok y) xs ys := by
  induction xs generalizing ys with
  | nil => rw [List.mapM_nil, pure_eq_ok, List.forall₂_nil_left_iff, eq_comm]
  | cons x xs ih =>
      rw [List.mapM_cons, List.forall₂_cons_left_iff]
      simp only [bind_eq_ok, pure_eq_ok, ih]
      constructor
      · rintro ⟨y, first, rest, others, rfl⟩
        exact ⟨y, rest, first, others, rfl⟩
      · rintro ⟨y, rest, first, others, rfl⟩
        exact ⟨y, first, rest, others, rfl⟩

/-- The results are related if both readings have one; their errors may differ. -/
def Agree {α' : Type} (R : α → α' → Prop) (x : Except ε α) (y : Except ε α') : Prop :=
  ∀ a b, x = .ok a → y = .ok b → R a b

namespace Agree

variable {α' β' : Type} {R : α → α' → Prop} {S : β → β' → Prop} {x : Except ε α} {y : Except ε α'}

theorem ok {a : α} {b : α'} (h : R a b) : Agree R (.ok a : Except ε α) (.ok b) := by
  intro a' b' left right
  cases left
  cases right
  exact h

theorem error_left {e : ε} : Agree R (.error e) y := by
  intro a b left
  cases left

theorem refl (x : Except ε α) : Agree Eq x x := by
  intro a b left right
  exact Except.ok.inj (left.symm.trans right)

theorem imp {R' : α → α' → Prop} (h : Agree R x y) (results : ∀ a b, R a b → R' a b) :
    Agree R' x y := by
  intro a b left right
  exact results a b (h a b left right)

theorem bind {f : α → Except ε β} {g : α' → Except ε β'} (h : Agree R x y)
    (next : ∀ a b, R a b → Agree S (f a) (g b)) : Agree S (x >>= f) (y >>= g) := by
  intro a b left right
  obtain ⟨first, read, left⟩ := bind_eq_ok.mp left
  obtain ⟨second, read', right⟩ := bind_eq_ok.mp right
  exact next first second (h first second read read') a b left right

theorem bind_same {y : Except ε α} {f : α → Except ε β} {g : α → Except ε β'} (h : Agree Eq x y)
    (next : ∀ a, Agree S (f a) (g a)) : Agree S (x >>= f) (y >>= g) := by
  refine h.bind fun a b same => ?_
  subst same
  exact next a

theorem mapError {δ : Type} {f g : ε → δ} (h : Agree R x y) :
    Agree R (x.mapError f) (y.mapError g) := by
  intro a b left right
  exact h a b (mapError_eq_ok.mp left) (mapError_eq_ok.mp right)

theorem map {f : α → β} {g : α' → β'} (h : Agree R x y) (results : ∀ a b, R a b → S (f a) (g b)) :
    Agree S (x.map f) (y.map g) := by
  intro a b left right
  cases x with
  | error e => cases left
  | ok first =>
      cases y with
      | error e => cases right
      | ok second =>
          cases left
          cases right
          exact results first second (h first second rfl rfl)

theorem ite {c : Prop} [Decidable c] {x' : Except ε α} {y' : Except ε α'} (yes : Agree R x y)
    (no : Agree R x' y') : Agree R (if c then x else x') (if c then y else y') := by
  split
  · exact yes
  · exact no

theorem mapM {γ γ' : Type} {xs : List γ} {ys : List γ'} {f : γ → Except ε α} {g : γ' → Except ε α'}
    (h : List.Forall₂ (fun a b => Agree R (f a) (g b)) xs ys) :
    Agree (List.Forall₂ R) (xs.mapM f) (ys.mapM g) := by
  induction h with
  | nil => exact .ok .nil
  | cons first _ ih =>
      rw [List.mapM_cons, List.mapM_cons]
      exact first.bind fun a b head => ih.bind fun as bs tail => .ok (.cons head tail)

theorem mapM_same {γ γ' : Type} {xs : List γ} {ys : List γ'} {f : γ → Except ε α}
    {g : γ' → Except ε α} (h : List.Forall₂ (fun a b => Agree Eq (f a) (g b)) xs ys) :
    Agree Eq (xs.mapM f) (ys.mapM g) := by
  intro as bs left right
  have same := mapM h as bs left right
  rwa [List.forall₂_eq_eq_eq] at same

end Agree

end Reshape
