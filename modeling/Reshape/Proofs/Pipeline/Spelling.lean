import Reshape.Proofs.Operator.Respelling
import Reshape.Proofs.Pipeline.Independence

namespace Reshape

structure Step.Same (s t : Step) : Prop where
  index : s.index = t.index
  operator : s.operator.Same t.operator

theorem Step.Same.actAlike {s t : Step} (h : s.Same t) (context : Context) :
    s.ActAlike context context t :=
  ⟨h.index, h.operator.kind, h.operator.action context⟩

theorem Run.runSteps_congr {context : Context} {steps steps' : List Step}
    (h : List.Forall₂ Step.Same steps steps') (r : Run) :
    runSteps context steps r = runSteps context steps' r :=
  runSteps_eq (h.imp fun _ _ same => same.actAlike context) r

theorem Step.CountFrom.indices {index : Nat} {xs ys : List Step} (left : Step.CountFrom index xs)
    (right : Step.CountFrom index ys) (length : xs.length = ys.length) :
    List.Forall₂ (fun s t => s.index = t.index) xs ys := by
  induction xs generalizing index ys with
  | nil =>
      cases ys with
      | nil => exact .nil
      | cons t ys => cases length
  | cons s xs ih =>
      cases ys with
      | nil => cases length
      | cons t ys =>
          exact .cons (left.1.trans right.1.symm) (ih left.2 right.2 (Nat.succ.inj length))

def Step.SameData (s t : Step) : Prop :=
  s.kind.SameData s.config t.config

namespace Step

theorem config_wellFormed {s : Step} (h : s.toValue.WellFormed) : s.config.WellFormed := by
  cases h with
  | object _ inner => exact inner _ (List.mem_cons_self ..)

theorem kind_of_alike {s t : Step} (h : s.toValue.Alike t.toValue) :
    s.kind = t.kind ∧ s.config.Alike t.config := by
  cases h with
  | object fields =>
      have field := fields s.kind.name
      rw [Record.get?_cons, if_pos rfl, Record.get?_cons] at field
      split at field
      · rename_i name
        cases field with
        | some alike => exact ⟨(Kind.name_injective name).symm, alike⟩
      · cases field

theorem same_of_alike {s t : Step} (index : s.index = t.index) (left : s.Reads) (right : t.Reads)
    (alike : s.toValue.Alike t.toValue) (formed : s.toValue.WellFormed)
    (formed' : t.toValue.WellFormed) (data : s.SameData t) : s.Same t := by
  obtain ⟨kind, configs⟩ := kind_of_alike alike
  have respelled : s.config.Respelled t.config :=
    ⟨configs, config_wellFormed formed, config_wellFormed formed', data.integers⟩
  rw [Reads, ← kind] at right
  exact ⟨index, Operator.read_agree respelled data _ _ left right⟩

end Step

namespace Pipeline

theorem steps_same {base base' : Settings} {p q : Pipeline} (compiled : p.CompiledUnder base)
    (compiled' : q.CompiledUnder base') (equal : structuralEq p.toValue q.toValue = true)
    (formed : p.toValue.WellFormed) (formed' : q.toValue.WellFormed)
    (data : List.Forall₂ Step.SameData p.steps q.steps) :
    List.Forall₂ Step.Same p.steps q.steps := by
  have alike := Value.Alike.of_structuralEq formed formed' equal
  cases alike with
  | array items =>
      have pairs := List.forall₂_map_left_iff.mp (List.forall₂_map_right_iff.mp items)
      have indices := compiled.countFrom.indices compiled'.countFrom pairs.length_eq
      cases formed with
      | array inner =>
          cases formed' with
          | array inner' =>
              refine List.forall₂_iff_zip.mpr ⟨pairs.length_eq, fun {s t} pair => ?_⟩
              obtain ⟨mem, mem'⟩ := List.of_mem_zip pair
              exact Step.same_of_alike (List.forall₂_zip indices pair) (compiled.reads s mem)
                (compiled'.reads t mem') (List.forall₂_zip pairs pair)
                (inner _ (List.mem_map_of_mem mem)) (inner' _ (List.mem_map_of_mem mem'))
                (List.forall₂_zip data pair)

theorem run_eq_of_same {p q : Pipeline} (config : p.overrides = q.overrides)
    (same : List.Forall₂ Step.Same p.steps q.steps) (settings : Settings) (now : DateTime)
    (sorter : Sorter) (input : Value) :
    p.run settings now sorter input = q.run settings now sorter input := by
  rw [run, run, Pipeline.settings, config, Run.runSteps_congr same]
  rfl

/-- Two compiled pipelines whose lists of steps are structurally equal and hold the same data run in
the same way on every input, with one output and the same diagnostics and statistics. -/
theorem run_eq_of_sameData {base base' : Settings} {p q : Pipeline}
    (compiled : p.CompiledUnder base) (compiled' : q.CompiledUnder base')
    (config : p.overrides = q.overrides) (equal : structuralEq p.toValue q.toValue = true)
    (formed : p.toValue.WellFormed) (formed' : q.toValue.WellFormed)
    (data : List.Forall₂ Step.SameData p.steps q.steps)
    (settings : Settings) (now : DateTime) (sorter : Sorter) (input : Value) :
    p.run settings now sorter input = q.run settings now sorter input := by
  have same := steps_same compiled compiled' equal formed formed' data
  exact run_eq_of_same config same settings now sorter input

theorem run_eq_of_sameData_sort :
    let p : Pipeline :=
      ⟨{}, [⟨0, .sort [⟨"x", true⟩], .object [("field", .string "x"), ("order", .string "desc")]⟩,
        ⟨1, .limit 2, .int 2⟩]⟩
    let q : Pipeline :=
      ⟨{}, [⟨0, .sort [⟨"x", true⟩], .object [("order", .string "desc"), ("field", .string "x")]⟩,
        ⟨1, .limit 2, .number (.float 2)⟩]⟩
    p.CompiledUnder {} ∧ q.CompiledUnder {} ∧ p.overrides = q.overrides ∧
      structuralEq p.toValue q.toValue = true ∧ p.toValue.WellFormed ∧ q.toValue.WellFormed ∧
      List.Forall₂ Step.SameData p.steps q.steps ∧
      ∀ settings now sorter input,
        p.run settings now sorter input = q.run settings now sorter input := by
  intro p q
  have compiled : p.CompiledUnder {} := .ofValue (.object [("transforms", p.toValue)]) rfl
  have compiled' : q.CompiledUnder {} := by
    refine .ofValue (.object [("transforms", q.toValue)]) ?_
    with_unfolding_all rfl
  have equal : structuralEq p.toValue q.toValue = true := by decide +kernel
  have formed : p.toValue.WellFormed := by
    simp [p, toValue, Step.toValue, Value.int, Number.WellFormed, Record.Distinct, Record.keys]
  have finite : Float.isFinite 2 = true := by decide +kernel
  have formed' : q.toValue.WellFormed := by
    simp [q, toValue, Step.toValue, Number.WellFormed, finite, Record.Distinct, Record.keys]
  have data : List.Forall₂ Step.SameData p.steps q.steps := by
    refine .cons ⟨?_, ?_, ?_⟩ (.cons ⟨?_, ?_, ?_⟩ .nil)
    · intro place literal
      simp [Step.kind, Operator.kind, Kind.literalAt] at literal
    · intro place ordered
      simp [Step.kind, Operator.kind, Kind.orderedAt] at ordered
    · refine .object fun name v w found _ => ?_
      have texts : ∃ s, v = .string s := by
        have mem := Record.mem_of_get? found
        simp only [List.mem_cons, List.not_mem_nil, or_false, Prod.mk.injEq] at mem
        rcases mem with ⟨-, rfl⟩ | ⟨-, rfl⟩
        · exact ⟨"x", rfl⟩
        · exact ⟨"desc", rfl⟩
      obtain ⟨s, rfl⟩ := texts
      exact .string s w
    · intro place literal
      simp [Step.kind, Operator.kind, Kind.literalAt] at literal
    · intro place ordered
      simp [Step.kind, Operator.kind, Kind.orderedAt] at ordered
    · intro place m n here there
      cases place with
      | nil =>
          cases here
          cases there
          decide +kernel
      | cons name names => cases here
  exact ⟨compiled, compiled', rfl, equal, formed, formed', data,
    run_eq_of_sameData compiled compiled' rfl equal formed formed' data⟩

theorem run_eq_of_read {base base' : Settings} {text text' : String} {p q : Pipeline}
    (compiled : read base text = .ok p) (compiled' : read base' text' = .ok q)
    (config : p.overrides = q.overrides) (equal : structuralEq p.toValue q.toValue = true)
    (data : List.Forall₂ Step.SameData p.steps q.steps)
    (settings : Settings) (now : DateTime) (sorter : Sorter) (input : Value) :
    p.run settings now sorter input = q.run settings now sorter input := by
  have same := steps_same (.read text compiled) (.read text' compiled') equal
    (toValue_wellFormed_of_read compiled) (toValue_wellFormed_of_read compiled') data
  exact run_eq_of_same config same settings now sorter input

/-- Fields that are set in another order: the digests are the same, and the outputs differ. -/
theorem run_ne_of_order :
    ∃ p q : Pipeline, p.CompiledUnder {} ∧ q.CompiledUnder {} ∧ p.overrides = q.overrides ∧
      structuralEq p.toValue q.toValue = true ∧ p.fingerprint = q.fingerprint ∧
      ∃ input, ∀ now sorter, ∃ out out' : Collection, (p.run {} now sorter input).output = .ok out ∧
        (q.run {} now sorter input).output = .ok out' ∧
        structuralEq out.toValue out'.toValue = false := by
  let p : Pipeline :=
    ⟨{}, [⟨0, .set [("x", .source (.literal (.string "q"))), ("y", .source (.field "x"))],
      .object [("x", .string "q"), ("y", .string "$x")]⟩]⟩
  let q : Pipeline :=
    ⟨{}, [⟨0, .set [("y", .source (.field "x")), ("x", .source (.literal (.string "q")))],
      .object [("y", .string "$x"), ("x", .string "q")]⟩]⟩
  have encoded : Digest.encodeValue p.toValue = Digest.encodeValue q.toValue := by
    simp [p, q, toValue, Step.toValue, Step.kind, Operator.kind, Digest.encodeValue,
      Digest.encodeItems, Digest.encodeFields, Digest.encodeSorted, List.mergeSort,
      List.MergeSort.Internal.splitInTwo, List.splitAt, List.splitAt.go]
  refine ⟨p, q, .ofValue (.object [("transforms", p.toValue)]) rfl,
    .ofValue (.object [("transforms", q.toValue)]) rfl, rfl, by decide +kernel, ?_, ?_⟩
  · rw [fingerprint, fingerprint, Digest.hashValue, Digest.hashValue, encoded]
  · exact ⟨.object [("x", .string "p")], fun now sorter =>
      ⟨.single [("x", .string "q"), ("y", .string "q")],
        .single [("x", .string "q"), ("y", .string "p")], rfl, rfl, by decide +kernel⟩⟩

end Pipeline

end Reshape
