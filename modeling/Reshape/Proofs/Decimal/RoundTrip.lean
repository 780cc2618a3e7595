import Reshape.Proofs.Decimal.Shortest

namespace Reshape.Decimal

open Float.Model
open Float.Model.UnpackedFloat (Sign)

variable {n k : Nat} {e : Int} {s : Scaled} {y : Float} {ds fraction rest : List Char}

theorem ofDigits_eq (ds : List Char) : ofDigits ds = Nat.ofDigitChars 10 ds 0 := rfl

theorem ofDigits_digits (n : Nat) : ofDigits (digits n) = n :=
  Nat.ofDigitChars_toDigits (by decide) (by decide)

theorem isDigit_of_mem_digits {c : Char} (h : c ∈ digits n) : c.isDigit = true :=
  Nat.isDigit_of_mem_toDigits (by decide) (by decide) h

theorem digits_ne_nil (n : Nat) : digits n ≠ [] :=
  Nat.toDigits_ne_nil

theorem ofDigits_append_zeros (ds : List Char) (k : Nat) :
    ofDigits (ds ++ List.replicate k '0') = ofDigits ds * 10 ^ k := by
  rw [ofDigits_eq, Nat.ofDigitChars_append, Nat.ofDigitChars_replicate_zero, mul_comm]
  rfl

theorem ofDigits_zeros_append (ds : List Char) (k : Nat) :
    ofDigits (List.replicate k '0' ++ ds) = ofDigits ds := by
  rw [ofDigits_eq, Nat.ofDigitChars_append, Nat.ofDigitChars_replicate_zero, mul_zero]
  rfl

theorem exponentOf?_eq_some (h : exponentOf? rest = some e) :
    rest = [] ∨ ∃ mark tail, rest = mark :: tail ∧ (mark = 'e' ∨ mark = 'E') := by
  cases rest with
  | nil => exact .inl rfl
  | cons mark tail =>
      by_cases marked : mark = 'e' ∨ mark = 'E'
      · exact .inr ⟨mark, tail, rfl, marked⟩
      · rw [exponentOf?, if_neg marked] at h
        cases h

theorem takeWhile_rest (h : exponentOf? rest = some e) :
    rest.takeWhile Char.isDigit = [] ∧ rest.dropWhile Char.isDigit = rest := by
  rcases exponentOf?_eq_some h with rfl | ⟨mark, tail, rfl, rfl | rfl⟩ <;> exact ⟨rfl, rfl⟩

section Spelled

variable (whole : ∀ c ∈ ds, c.isDigit = true) (exponent : exponentOf? rest = some e)
include whole exponent

theorem magnitude?_whole (nonempty : ds ≠ []) :
    magnitude? (ds ++ rest) = some (nearest (ofDigits ds) e) := by
  obtain ⟨taken, dropped⟩ := takeWhile_rest exponent
  have first : (ds ++ rest).takeWhile Char.isDigit = ds := by
    rw [List.takeWhile_append_of_pos whole, taken, List.append_nil]
  have second : (ds ++ rest).dropWhile Char.isDigit = rest := by
    rw [List.dropWhile_append_of_pos whole, dropped]
  rcases exponentOf?_eq_some exponent with rfl | ⟨mark, tail, rfl, rfl | rfl⟩ <;>
    simp only [magnitude?, first, second] <;>
    simp [exponent, nonempty]

theorem magnitude?_point (all : ∀ c ∈ fraction, c.isDigit = true) (nonempty : ds ≠ []) :
    magnitude? (ds ++ '.' :: (fraction ++ rest)) =
      some (nearest (ofDigits (ds ++ fraction)) (e - fraction.length)) := by
  obtain ⟨taken, dropped⟩ := takeWhile_rest exponent
  have first : (ds ++ '.' :: (fraction ++ rest)).takeWhile Char.isDigit = ds := by
    rw [List.takeWhile_append_of_pos whole, List.takeWhile_cons_of_neg (by decide), List.append_nil]
  have second : (ds ++ '.' :: (fraction ++ rest)).dropWhile Char.isDigit =
      '.' :: (fraction ++ rest) := by
    rw [List.dropWhile_append_of_pos whole, List.dropWhile_cons_of_neg (by decide)]
  have third : (fraction ++ rest).takeWhile Char.isDigit = fraction := by
    rw [List.takeWhile_append_of_pos all, taken, List.append_nil]
  have fourth : (fraction ++ rest).dropWhile Char.isDigit = rest := by
    rw [List.dropWhile_append_of_pos all, dropped]
  simp only [magnitude?, first, second, third, fourth]
  simp [exponent, nonempty]

end Spelled

def ReadsAs (s : Scaled) (y : Float) : Prop :=
  ∀ (c : Nat) (k : Int), (c : ℚ) * 10 ^ k = s.coefficient * 10 ^ s.exponent → nearest c k = y

theorem isDigit_of_mem_zeros {c : Char} (h : c ∈ List.replicate k '0') : c.isDigit = true := by
  rw [List.eq_of_mem_replicate h]
  rfl

theorem exponentOf?_nil : exponentOf? [] = some 0 := rfl

theorem magnitude?_integral {c : Nat} (h : ReadsAs ⟨c, k⟩ y) (keepsFraction : Bool) :
    magnitude? (digits c ++ List.replicate k '0' ++ if keepsFraction then ['.', '0'] else []) =
      some y := by
  have whole : ∀ d ∈ digits c ++ List.replicate k '0', d.isDigit = true := fun d mem =>
    (List.mem_append.mp mem).elim isDigit_of_mem_digits isDigit_of_mem_zeros
  have nonempty : digits c ++ List.replicate k '0' ≠ [] := by simp [digits_ne_nil]
  cases keepsFraction with
  | false =>
      rw [if_neg (by decide), magnitude?_whole whole exponentOf?_nil nonempty,
        ofDigits_append_zeros, ofDigits_digits, h]
      push_cast
      simp
  | true =>
      have fraction : ∀ d ∈ List.replicate 1 '0', d.isDigit = true := fun d =>
        isDigit_of_mem_zeros
      have point : (['.', '0'] : List Char) = '.' :: (List.replicate 1 '0' ++ []) := rfl
      have last : (0 : Int) - (List.replicate 1 '0').length = -1 := rfl
      rw [if_pos rfl, point, magnitude?_point whole exponentOf?_nil fraction nonempty,
        ofDigits_append_zeros, ofDigits_append_zeros, ofDigits_digits, h]
      simp only [last, zpow_neg_one, zpow_natCast]
      push_cast
      field_simp

theorem magnitude?_inside {c places : Nat} (h : ReadsAs ⟨c, -places⟩ y)
    (inside : places < (digits c).length) :
    magnitude? ((digits c).take ((digits c).length - places) ++
      '.' :: (digits c).drop ((digits c).length - places)) = some y := by
  have size : ((digits c).drop ((digits c).length - places)).length = places := by
    rw [List.length_drop]
    omega
  have nonempty : (digits c).take ((digits c).length - places) ≠ [] := by
    rw [← List.length_pos_iff, List.length_take]
    omega
  rw [← List.append_nil ((digits c).drop _), magnitude?_point
    (fun d mem => isDigit_of_mem_digits (List.mem_of_mem_take mem)) exponentOf?_nil
    (fun d mem => isDigit_of_mem_digits (List.mem_of_mem_drop mem)) nonempty,
    List.take_append_drop, size, ofDigits_digits, h]
  simp

theorem magnitude?_outside {c places : Nat} (h : ReadsAs ⟨c, -places⟩ y)
    (outside : (digits c).length ≤ places) :
    magnitude? ('0' :: '.' :: (List.replicate (places - (digits c).length) '0' ++ digits c)) =
      some y := by
  have whole : ∀ d ∈ List.replicate 1 '0', d.isDigit = true := fun d => isDigit_of_mem_zeros
  have fraction : ∀ d ∈ List.replicate (places - (digits c).length) '0' ++ digits c,
      d.isDigit = true := fun d mem =>
    (List.mem_append.mp mem).elim isDigit_of_mem_zeros isDigit_of_mem_digits
  have size : (List.replicate (places - (digits c).length) '0' ++ digits c).length = places := by
    rw [List.length_append, List.length_replicate]
    omega
  have read := magnitude?_point whole exponentOf?_nil fraction (by decide)
  rw [List.append_nil, size, ofDigits_zeros_append, ofDigits_zeros_append, ofDigits_digits, h] at read
  · exact read
  · simp

theorem magnitude?_positionalText (h : ReadsAs s y) (keepsFraction : Bool) :
    magnitude? (Layout.positionalText keepsFraction s) = some y := by
  obtain ⟨c, exponent⟩ := s
  unfold Layout.positionalText
  simp only
  split
  · rename_i nonneg
    obtain ⟨k, rfl⟩ := Int.eq_ofNat_of_zero_le nonneg
    exact magnitude?_integral h keepsFraction
  · rename_i negative
    obtain ⟨places, rfl⟩ : ∃ places : Nat, exponent = -places := ⟨exponent.natAbs, by omega⟩
    rw [neg_neg, Int.toNat_natCast]
    split
    · rename_i inside
      exact magnitude?_inside h inside
    · rename_i outside
      exact magnitude?_outside h (Nat.le_of_not_lt outside)

theorem exponentOf?_written (n : Int) :
    exponentOf? ('e' :: (if 0 ≤ n then '+' else '-') :: digits n.natAbs) = some n := by
  have all : (digits n.natAbs).all Char.isDigit = true :=
    List.all_eq_true.mpr fun c => isDigit_of_mem_digits
  have nonempty : (digits n.natAbs).isEmpty = false :=
    List.isEmpty_eq_false_iff.mpr (digits_ne_nil n.natAbs)
  by_cases sign : 0 ≤ n
  · simp [exponentOf?, takeSign, sign, all, nonempty, ofDigits_digits]
  · have size : -|n| = n := by rw [abs_of_neg (not_le.mp sign), neg_neg]
    simp [exponentOf?, takeSign, sign, all, nonempty, ofDigits_digits, size]

theorem magnitude?_exponentText (h : ReadsAs s y) :
    magnitude? (Layout.exponentText s) = some y := by
  obtain ⟨c, exponent⟩ := s
  have all : ∀ d ∈ digits c, d.isDigit = true := fun d => isDigit_of_mem_digits
  have written := exponentOf?_written (exponent + ((digits c).length - 1 : Nat))
  obtain ⟨first, rest, parts⟩ := List.exists_cons_of_ne_nil (digits_ne_nil c)
  have value := ofDigits_digits c
  unfold Layout.exponentText
  simp only
  rw [parts] at all value written ⊢
  simp only [List.take_succ_cons, List.take_zero, List.drop_succ_cons, List.drop_zero]
  cases rest with
  | nil =>
      have read := magnitude?_whole all written (by simp)
      rw [value, h _ _ (by simp)] at read
      exact read
  | cons second rest =>
      have whole : ∀ d ∈ [first], d.isDigit = true :=
        fun d mem => all d (List.mem_cons.mpr (.inl (List.mem_singleton.mp mem)))
      have fraction : ∀ d ∈ second :: rest, d.isDigit = true :=
        fun d mem => all d (List.mem_cons_of_mem first mem)
      have read := magnitude?_point whole written fraction (by simp)
      rw [List.singleton_append, List.singleton_append, value, h] at read
      · exact read
      · simp

theorem magnitude?_magnitudeText (h : ReadsAs s y) (l : Layout) :
    magnitude? (l.magnitudeText s) = some y := by
  unfold Layout.magnitudeText
  simp only
  split
  · exact magnitude?_positionalText h _
  · split
    · exact magnitude?_positionalText h _
    · exact magnitude?_exponentText h

theorem takeSign_of_magnitude? {text : List Char} (h : magnitude? text = some y) :
    takeSign text = (false, text) := by
  unfold takeSign
  split
  · cases h
  · cases h
  · rfl

theorem read?_signed {text : List Char} (h : magnitude? text = some y) (negative : Bool) :
    read? (if negative then '-' :: text else text) = some (if negative then -y else y) := by
  cases negative with
  | false =>
      simp only [read?, Bool.false_eq_true, if_false, takeSign_of_magnitude? h, h, Option.some_or,
        Option.map_some]
  | true =>
      have sign : takeSign ('-' :: text) = (true, text) := rfl
      simp only [read?, if_true, sign, h, Option.some_or, Option.map_some]

theorem Binary.canonical_of_ofBits? {bits : Nat} {b : Binary} (h : Binary.ofBits? bits = some b)
    (pos : 0 < b.mantissa) : b.Canonical := by
  have field : bits / hiddenBit % 2048 < 2048 := Nat.mod_lt _ (by decide)
  have fraction : bits % hiddenBit < 2 ^ 52 := Nat.mod_lt _ (by decide)
  have hidden : hiddenBit = 2 ^ 52 := rfl
  unfold Binary.ofBits? at h
  simp only at h
  split at h
  · cases h
  split at h
  · cases h
    refine ⟨pos, ?_, le_rfl, ?_, .inl rfl⟩ <;> simp only <;> omega
  · cases h
    refine ⟨pos, ?_, ?_, ?_, .inr ?_⟩ <;> simp only <;> omega

theorem readsAs_zero : ReadsAs ⟨0, 0⟩ 0 := by
  intro c k zero
  rw [Nat.cast_zero, zero_mul, mul_eq_zero] at zero
  have none : c = 0 := by
    exact_mod_cast zero.resolve_right (zpow_ne_zero k (by norm_num))
  rw [nearest, if_pos none]

theorem readsAs_shortest {b : Binary} (canonical : b.Canonical) (tie : Tie) :
    ReadsAs (b.shortest tie)
      (.ofModel (pack (.finite .positive b.mantissa b.exponent canonical.pos))) := by
  intro c k same
  apply nearest_eq canonical
  rw [same]
  exact Binary.shortest_interval canonical tie

theorem exists_readsAs {x : Float} {b : Binary} (h : Binary.ofFloat? x = some b) (tie : Tie) :
    ∃ y, ReadsAs (b.shortest tie) y ∧ (if b.negative then -y else y) = x := by
  have parts : Binary.ofFloat? x = parts? x.toModel.unpack := ofBits?_eq_parts? x.toBits.toBitVec
  have whole := pack_unpack x
  rw [h] at parts
  cases unpacked : x.toModel.unpack with
  | notANumber => rw [unpacked] at parts; cases parts
  | infinity s => rw [unpacked] at parts; cases parts
  | zero s =>
      rw [unpacked] at parts whole
      cases parts
      refine ⟨0, readsAs_zero, ?_⟩
      rw [← whole]
      cases s <;> rfl
  | finite s m e pos =>
      rw [unpacked] at parts whole
      cases parts
      have canonical := Binary.canonical_of_ofBits? h pos
      have kept := unpack_pack_canonical canonical .positive
      refine ⟨_, readsAs_shortest canonical tie, ?_⟩
      rw [← whole]
      cases s with
      | positive => rfl
      | negative =>
          show Float.ofModel (pack (pack _).unpack.neg) = _
          rw [kept]
          rfl

theorem exists_parts_of_isFinite {x : Float} (finite : x.isFinite = true) :
    ∃ b, Binary.ofFloat? x = some b := by
  have parts : Binary.ofFloat? x = parts? x.toModel.unpack := ofBits?_eq_parts? x.toBits.toBitVec
  change x.toModel.unpack.isFinite = true at finite
  rw [parts]
  cases unpacked : x.toModel.unpack with
  | notANumber => rw [unpacked] at finite; cases finite
  | infinity s => rw [unpacked] at finite; cases finite
  | zero s => exact ⟨_, rfl⟩
  | finite s m e pos => exact ⟨_, rfl⟩

theorem read?_write (l : Layout) {x : Float} (finite : x.isFinite = true) :
    read? (l.write x).toList = some x := by
  obtain ⟨b, found⟩ := exists_parts_of_isFinite finite
  obtain ⟨y, read, same⟩ := exists_readsAs found l.tie
  simp only [Layout.write, found, String.toList_ofList]
  rw [read?_signed (magnitude?_magnitudeText read l), same]

theorem nearest_ofNat (m : Nat) : nearest m 0 = Float.ofNat m := by
  by_cases zero : m = 0
  · subst zero
    rfl
  · rw [nearest, if_neg zero, if_neg (by decide), if_neg (by omega)]
    rfl

theorem magnitude?_digits (m : Nat) : magnitude? (digits m) = some (Float.ofNat m) := by
  have read := magnitude?_whole (fun c => isDigit_of_mem_digits) exponentOf?_nil (digits_ne_nil m)
  rwa [List.append_nil, ofDigits_digits, nearest_ofNat] at read

theorem read?_ofInt (n : Int) :
    read? (if n < 0 then '-' :: digits n.natAbs else digits n.natAbs) = some (Float.ofInt n) := by
  cases n with
  | ofNat m => exact read?_signed (magnitude?_digits m) false
  | negSucc m =>
      rw [if_pos (Int.negSucc_lt_zero m)]
      exact read?_signed (magnitude?_digits (m + 1)) true

theorem ofFloat?_eq_some {x : Float} {v : Value} (h : Value.ofFloat? x = some v) :
    x.isFinite = true ∧ ((∃ n : Int, v = .number (.int n) ∧ n.natAbs ≤ exactBound) ∨
      v = .number (.float x)) := by
  unfold Value.ofFloat? at h
  split at h
  · rename_i finite
    refine ⟨finite, ?_⟩
    cases exact : exactInteger? x with
    | some n =>
        rw [exact] at h
        rw [exactInteger?, Option.filter_eq_some_iff] at exact
        exact .inl ⟨n, (Option.some.inj h).symm, by simpa using exact.2⟩
    | none =>
        rw [exact] at h
        exact .inr (Option.some.inj h).symm
  · cases h

theorem mem_positionalText {c : Char} {keepsFraction : Bool}
    (h : c ∈ Layout.positionalText keepsFraction s) : c.isDigit = true ∨ c = '.' := by
  unfold Layout.positionalText at h
  simp only at h
  split at h
  · rcases List.mem_append.mp h with mem | mem
    · rcases List.mem_append.mp mem with mem | mem
      · exact .inl (isDigit_of_mem_digits mem)
      · exact .inl (isDigit_of_mem_zeros mem)
    · cases keepsFraction with
      | false => simp at mem
      | true =>
          simp only [if_true, List.mem_cons, List.not_mem_nil, or_false] at mem
          rcases mem with point | rfl
          · exact .inr point
          · exact .inl rfl
  · split at h
    · rcases List.mem_append.mp h with mem | mem
      · exact .inl (isDigit_of_mem_digits (List.mem_of_mem_take mem))
      · rcases List.mem_cons.mp mem with point | mem
        · exact .inr point
        · exact .inl (isDigit_of_mem_digits (List.mem_of_mem_drop mem))
    · simp only [List.cons_append, List.mem_cons, List.mem_append] at h
      rcases h with rfl | point | mem | mem
      · exact .inl rfl
      · exact .inr point
      · exact .inl (isDigit_of_mem_zeros mem)
      · exact .inl (isDigit_of_mem_digits mem)

theorem mem_exponentText {c : Char} (h : c ∈ Layout.exponentText s) :
    c.isDigit = true ∨ c ∈ ['.', 'e', '+', '-'] := by
  unfold Layout.exponentText at h
  simp only [List.mem_append, List.mem_cons] at h
  rcases h with (mem | mem) | mark | sign | mem
  · exact .inl (isDigit_of_mem_digits (List.mem_of_mem_take mem))
  · split at mem
    · cases mem
    · rcases List.mem_cons.mp mem with point | mem
      · exact .inr (by simp [point])
      · exact .inl (isDigit_of_mem_digits (List.mem_of_mem_drop mem))
  · exact .inr (by simp [mark])
  · right
    split at sign <;> simp [sign]
  · exact .inl (isDigit_of_mem_digits mem)

theorem isDigit_of_mem_ofInt {n : Int} {c : Char}
    (h : c ∈ if n < 0 then '-' :: digits n.natAbs else digits n.natAbs) :
    c.isDigit = true ∨ c = '-' := by
  split at h
  · exact (List.mem_cons.mp h).symm.imp_left isDigit_of_mem_digits
  · exact .inl (isDigit_of_mem_digits h)

theorem mem_write {l : Layout} {x : Float} {c : Char} (finite : x.isFinite = true)
    (h : c ∈ (l.write x).toList) :
    c = '-' ∨ ∃ s, c ∈ l.magnitudeText s := by
  obtain ⟨b, found⟩ := exists_parts_of_isFinite finite
  simp only [Layout.write, found, String.toList_ofList] at h
  split at h
  · exact (List.mem_cons.mp h).imp_right fun mem => ⟨_, mem⟩
  · exact .inr ⟨_, h⟩

theorem isDigit_of_mem_write {l : Layout} {x : Float} {c : Char} (finite : x.isFinite = true)
    (h : c ∈ (l.write x).toList) : c.isDigit = true ∨ c ∈ ['.', 'e', '+', '-'] := by
  rcases mem_write finite h with rfl | ⟨s, mem⟩
  · exact .inr (by simp)
  have positional {keepsFraction : Bool} (mem : c ∈ Layout.positionalText keepsFraction s) :
      c.isDigit = true ∨ c ∈ ['.', 'e', '+', '-'] :=
    (mem_positionalText mem).imp_right fun point => by simp [point]
  unfold Layout.magnitudeText at mem
  simp only at mem
  split at mem
  · exact positional mem
  · split at mem
    · exact positional mem
    · exact mem_exponentText mem

theorem isDigit_of_mem_positional {l : Layout} {x : Float} {c : Char} (always : l.positional = none)
    (finite : x.isFinite = true) (h : c ∈ (l.write x).toList) :
    c.isDigit = true ∨ c ∈ ['.', '-'] := by
  rcases mem_write finite h with rfl | ⟨s, mem⟩
  · exact .inr (by simp)
  simp only [Layout.magnitudeText, always] at mem
  exact (mem_positionalText mem).imp_right fun point => by simp [point]

end Reshape.Decimal
