import Reshape.Proofs.Operator.WholeNumbers
import Reshape.Proofs.Pipeline.Completion

namespace Reshape

namespace Counter

theorem length_numberAll (c : Counter) (n : Int) (rs : List Record) :
    (c.numberAll n rs).length = rs.length := by
  induction rs generalizing n with
  | nil => rfl
  | cons r rs ih => rw [numberAll, List.length_cons, ih, List.length_cons]

theorem getElem?_numberAll (c : Counter) (n : Int) (rs : List Record) (i : Nat) :
    (c.numberAll n rs)[i]? = rs[i]?.map (c.numbered (n + i)) := by
  induction rs generalizing n i with
  | nil => rfl
  | cons r rs ih =>
      cases i with
      | zero => simp [numberAll]
      | succ i =>
          have next : n + 1 + i = n + (i + 1 : Nat) := by omega
          rw [numberAll, List.getElem?_cons_succ, List.getElem?_cons_succ, ih, next]

theorem start_of_read {config : Value} {c : Counter} (h : read config = .ok c) :
    Argument.minInteger ≤ c.start ∧ c.start ≤ Argument.maxInteger := by
  have default : Argument.minInteger ≤ 1 ∧ 1 ≤ Argument.maxInteger := by decide
  cases config with
  | null =>
      cases h
      exact default
  | bool b =>
      cases b with
      | true =>
          cases h
          exact default
      | false => cases h
  | string field =>
      simp only [read] at h
      split at h
      · cases h
      · cases h
        exact default
  | object args =>
      simp only [read, bind_eq_ok, pure_eq_ok] at h
      obtain ⟨field, -, start, found, rfl⟩ := h
      cases start with
      | none => exact default
      | some n =>
          obtain ⟨v, read⟩ := Argument.exists_of_optional found
          exact Argument.integer_bounds read
  | number n => cases h
  | array items => cases h

theorem read_start (field : String) {n : Int}
    (h : Argument.minInteger ≤ n ∧ n ≤ Argument.maxInteger) :
    Operator.read .addIndex (.object [("field", .string field), ("start", .int n)]) =
      .ok (.addIndex ⟨field, n⟩) := by
  have start : Argument.integer "start" (.int n) = .ok n :=
    Argument.integer_eq_ok_iff.mpr ⟨rfl, h.1, h.2, fun _ => rfl⟩
  have given : Argument.given? [("field", .string field), ("start", .int n)] ["start"] =
      some (.int n) := rfl
  rw [Operator.read, read, Argument.optional_of_given given, start]
  rfl

structure Numbers (c : Counter) (rs outs : List Record) : Prop where
  length : outs.length = rs.length
  numbered : ∀ (i : Nat) (r : Record), rs[i]? = some r →
    outs[i]? = some ((c.field, Value.int (c.start + i)) :: r.filter fun field => field.1 ≠ c.field)
  integers : ∀ i < rs.length,
    Argument.minInteger ≤ c.start + i ∧ c.start + i ≤ Argument.maxInteger

/-- A sequence is numbered if the number behind its last one is an integer of 64 bits too. -/
theorem apply_numbers {config : Value} {op : Operator}
    (h : Operator.read .addIndex config = .ok op) :
    ∃ c, op = .addIndex c ∧ Argument.minInteger ≤ c.start ∧ c.start ≤ Argument.maxInteger ∧
      ∀ (context : Context) (rs : List Record),
        (c.start + rs.length ≤ Argument.maxInteger →
          ∃ outs, op.apply context (.many rs) = .ok (.many outs, []) ∧ c.Numbers rs outs) ∧
        (Argument.maxInteger < c.start + rs.length →
          op.apply context (.many rs) = .error .counterOverflow) := by
  obtain ⟨c, reading, same⟩ := bind_eq_ok.mp h
  cases same
  obtain ⟨low, high⟩ := start_of_read reading
  refine ⟨c, rfl, low, high, fun context rs => ⟨fun fits => ?_, fun passed => ?_⟩⟩
  · refine ⟨c.numberAll c.start rs, ?_, c.length_numberAll c.start rs, fun i r found => ?_,
      fun i inside => ?_⟩
    · simp only [Operator.apply, Operator.action, Action.apply, apply, if_pos fits]
      rfl
    · rw [getElem?_numberAll, found]
      rfl
    · omega
  · simp only [Operator.apply, Operator.action, Action.apply, apply, if_neg (Int.not_le.mpr passed)]
    rfl

theorem apply_numbers_near_end :
    let start : Int := Argument.maxInteger - 2
    let config : Value := .object [("field", .string "n"), ("start", .int start)]
    let rs : List Record := [[("a", .null)], [("b", .bool true), ("n", .string "x"), ("a", .null)]]
    Operator.read .addIndex config = .ok (.addIndex ⟨"n", start⟩) ∧
      start + rs.length ≤ Argument.maxInteger ∧
      ∀ context, ∃ outs,
        (Operator.addIndex ⟨"n", start⟩).apply context (.many rs) = .ok (.many outs, []) ∧
        outs[0]? = some [("n", .int 9223372036854775805), ("a", .null)] ∧
        outs[1]? =
          some [("n", .int 9223372036854775806), ("b", .bool true), ("a", .null)] := by
  intro start config rs
  have reading : Operator.read .addIndex config = .ok (.addIndex ⟨"n", start⟩) :=
    read_start "n" (by decide)
  have fits : start + rs.length ≤ Argument.maxInteger := by decide
  refine ⟨reading, fits, fun context => ?_⟩
  obtain ⟨c, same, -, -, acts⟩ := apply_numbers reading
  cases same
  obtain ⟨outs, applied, numbers⟩ := (acts context rs).1 fits
  exact ⟨outs, applied, numbers.numbered 0 _ rfl, numbers.numbered 1 _ rfl⟩

/-- The largest integer would be the number of the only record, but the counter moves on past it. -/
theorem not_numbers_largest :
    let config : Value :=
      .object [("field", .string "n"), ("start", .int Argument.maxInteger)]
    let rs : List Record := [[("a", .int 1)]]
    ∃ c, Operator.read .addIndex config = .ok (.addIndex c) ∧
      (∀ i < rs.length, c.start + i ≤ Argument.maxInteger) ∧
      ∀ context, (Operator.addIndex c).apply context (.many rs) = .error .counterOverflow := by
  intro config rs
  refine ⟨⟨"n", Argument.maxInteger⟩, read_start "n" (by decide), fun i inside => ?_,
    fun context => rfl⟩
  have first : i = 0 := Nat.lt_one_iff.mp inside
  rw [first]
  decide

end Counter

end Reshape
