import Mathlib.Algebra.Order.BigOperators.Group.List
import Reshape.Proofs.Decimal.Exact
import Reshape.Proofs.Operator.Grouping

namespace Reshape

open Decimal (Denotes)

namespace Aggregate

/-- The integer that a field adds to a sum. What is no number, absent or not, adds nothing. -/
def amount : Option Value → Int
  | some (.number n) => n.integer?.getD 0
  | _ => 0

inductive Whole : Option Value → Prop
  | absent : Whole none
  | skipped {v : Value} (h : v.toFloat? = none) : Whole (some v)
  | integer {n : Number} {k : Int} (h : n.integer? = some k) : Whole (some (.number n))

theorem denotes_toFloat {n : Number} {k : Int} (h : n.integer? = some k)
    (bound : k.natAbs ≤ exactBound) : Denotes n.toFloat k := by
  cases n with
  | int i =>
      obtain rfl : i = k := Option.some.inj h
      exact Decimal.denotes_ofInt bound
  | float x => exact Decimal.integer?_eq_some_iff.mp h

theorem Whole.read {v : Option Value} (h : Whole v) (bound : (amount v).natAbs ≤ exactBound) :
    (v.bind Value.toFloat? = none ∧ amount v = 0) ∨
      ∃ x, v.bind Value.toFloat? = some x ∧ Denotes x (amount v) := by
  cases h with
  | absent => exact .inl ⟨rfl, rfl⟩
  | @skipped v unread =>
      refine .inl ⟨unread, ?_⟩
      cases v with
      | number n => cases unread
      | _ => rfl
  | @integer n k integral =>
      have exact : amount (some (.number n)) = k := by rw [amount, integral, Option.getD_some]
      rw [exact] at bound ⊢
      exact .inr ⟨n.toFloat, rfl, denotes_toFloat integral bound⟩

theorem denotes_foldl {values : List (Option Value)} (whole : ∀ v ∈ values, Whole v) {x : Float}
    {k : Int} (start : Denotes x k)
    (bound : k.natAbs + (values.map fun v => (amount v).natAbs).sum ≤ exactBound) :
    Denotes ((values.filterMap (·.bind Value.toFloat?)).foldl (· + ·) x)
      (k + (values.map amount).sum : Int) := by
  -- The float so far denotes the exact sum so far: the magnitudes of what was added and of what
  -- is still to come are bounded together.
  induction values generalizing x k with
  | nil => simpa using start
  | cons v rest ih =>
      rw [List.map_cons, List.sum_cons] at bound ⊢
      have later := fun w mem => whole w (List.mem_cons_of_mem v mem)
      rcases (whole v List.mem_cons_self).read (by omega) with ⟨passed, zero⟩ | ⟨y, read, denoted⟩
      · simp only [List.filterMap_cons, passed, zero, zero_add]
        exact ih later start (by omega)
      · simp only [List.filterMap_cons, read, List.foldl_cons, ← add_assoc]
        have added := start.add denoted (n := k + amount v) (by push_cast; rfl) (by omega)
        exact ih later added (by omega)

theorem combine_sum (listSeparator : String) {values : List (Option Value)}
    (whole : ∀ v ∈ values, Whole v)
    (bound : (values.map fun v => (amount v).natAbs).sum ≤ exactBound) :
    combine listSeparator .sum values = .int (values.map amount).sum := by
  have magnitude : (values.map amount).sum.natAbs ≤ exactBound := by
    have parts := List.le_sum_of_subadditive Int.natAbs le_rfl Int.natAbs_add_le
      (values.map amount)
    rw [List.map_map] at parts
    exact parts.trans bound
  have total := denotes_foldl whole (x := 0) (k := 0) rfl (by simpa using bound)
  rw [zero_add] at total
  exact congrArg (·.getD Value.null) (total.ofFloat?_eq magnitude)

theorem reduce_sum (name field listSeparator : String) {rs : List Record}
    (whole : ∀ r ∈ rs, Whole (r.resolve field))
    (bound : (rs.map fun r => (amount (r.resolve field)).natAbs).sum ≤ exactBound) :
    reduce ⟨name, .sum, some field⟩ listSeparator rs =
      .int (rs.map fun r => amount (r.resolve field)).sum := by
  have combined := @combine_sum listSeparator (rs.map fun r => r.resolve field)
    (by simpa using whole) (by simpa [Function.comp_def] using bound)
  rw [List.map_map] at combined
  exact combined

end Aggregate

namespace Grouping

open Aggregate (Whole amount)

variable {g : Grouping} {listSeparator : String} {rs : List Record}

theorem sum_filter_sameKey (g : Grouping) (f : Record → Int) (rs : List Record) :
    ((leaders (sameKey g.key) rs).map fun r => ((rs.filter (sameKey g.key r)).map f).sum).sum =
      (rs.map f).sum := by
  -- The classes hold every record once.
  have same := ((flatten_classes_perm g.key rs).map f).sum_eq
  rw [classes_eq, List.map_flatten, List.sum_flatten, List.map_map, List.map_map] at same
  exact same

/-- Where the field holds integers or no numbers, and the magnitudes of the integers add up to at
most `exactBound`, the sum of each class is the exact sum of its integers, and the sum of the whole
sequence is the sum of these sums. -/
theorem sums_conserved (g : Grouping) (s : Summary) (listSeparator : String) (rs : List Record)
    {field name name' : String} (names : (g.aggregates.map Aggregate.name).Nodup)
    (names' : (s.aggregates.map Aggregate.name).Nodup)
    (mem : ⟨name, .sum, some field⟩ ∈ g.aggregates)
    (mem' : ⟨name', .sum, some field⟩ ∈ s.aggregates)
    (whole : ∀ r ∈ rs, Whole (r.resolve field))
    (bound : (rs.map fun r => (amount (r.resolve field)).natAbs).sum ≤ exactBound) :
    ∃ sums : List Int,
      sums = (leaders (sameKey g.key) rs).map (fun r =>
        ((rs.filter (sameKey g.key r)).map fun member => amount (member.resolve field)).sum) ∧
      (g.apply listSeparator rs).map (·.get? name) = sums.map (fun n => some (.int n)) ∧
      sums.sum = (rs.map fun r => amount (r.resolve field)).sum ∧
      (s.totals listSeparator rs).get? name' = some (.int sums.sum) := by
  have conserved := sum_filter_sameKey g (fun r => amount (r.resolve field)) rs
  refine ⟨_, rfl, ?_, conserved, ?_⟩
  · rw [apply_eq, List.map_map, List.map_map]
    refine List.map_congr_left fun r _ => ?_
    have part : (rs.filter (sameKey g.key r)).Sublist rs := List.filter_sublist
    have smaller := (part.map fun r => (amount (r.resolve field)).natAbs).sum_le_sum
      fun _ _ => Nat.zero_le _
    have exact := Aggregate.reduce_sum name field listSeparator
      (fun member mem => whole member (part.mem mem)) (smaller.trans bound)
    exact (get?_summary_name names mem).trans (congrArg some exact)
  · rw [conserved, ← Aggregate.reduce_sum name' field listSeparator whole bound]
    exact get?_addAll names' mem'

theorem sums_conserved_bound :
    ∃ rs : List Record,
      rs = [[("k", .string "a"), ("v", .int 9007199254740991)],
        [("k", .string "b"), ("v", .number (.float (-1)))],
        [("k", .string "a"), ("v", .string "x")], [("k", .string "b")]] ∧
      (∀ r ∈ rs, Whole (r.resolve "v")) ∧
      (rs.map fun r => (amount (r.resolve "v")).natAbs).sum = exactBound ∧
      ∃ sums : List Int,
        (apply ⟨["k"], [⟨"total", .sum, some "v"⟩]⟩ ", " rs).map (·.get? "total") =
          sums.map (fun n => some (.int n)) ∧
        sums.sum = 9007199254740990 ∧
        (Summary.totals ⟨[⟨"v", .sum, some "v"⟩], []⟩ ", " rs).get? "v" =
          some (.int 9007199254740990) := by
  have negative : Number.integer? (.float (-1)) = some (-1) := by decide +kernel
  have unread : (Value.string "x").toFloat? = none := by decide +kernel
  have whole : ∀ r ∈ [[("k", .string "a"), ("v", .int 9007199254740991)],
      [("k", .string "b"), ("v", .number (.float (-1)))],
      [("k", .string "a"), ("v", .string "x")], [("k", .string "b")]],
      Whole (Record.resolve r "v") := by
    intro r mem
    simp only [List.mem_cons, List.not_mem_nil, or_false] at mem
    rcases mem with rfl | rfl | rfl | rfl
    · exact .integer (n := .int 9007199254740991) rfl
    · exact .integer negative
    · exact .skipped unread
    · exact .absent
  refine ⟨_, rfl, whole, by decide +kernel, ?_⟩
  obtain ⟨sums, -, groups, exact, total⟩ :=
    sums_conserved ⟨["k"], [⟨"total", .sum, some "v"⟩]⟩ ⟨[⟨"v", .sum, some "v"⟩], []⟩ ", " _
      (by decide) (by decide) (List.mem_singleton_self _) (List.mem_singleton_self _) whole
      (by decide +kernel)
  have sum : sums.sum = 9007199254740990 := exact.trans (by decide +kernel)
  exact ⟨sums, groups, sum, total.trans (by rw [sum])⟩

end Grouping

end Reshape
