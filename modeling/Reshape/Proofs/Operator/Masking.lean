import Reshape.Operator.Action
import Reshape.Proofs.Record.Path

namespace Reshape

namespace Mask

theorem read_full (path : String) :
    Operator.read .mask (.object [(path, .string "full")]) =
      .ok (.mask [(path, ⟨.full, '*'⟩)]) := rfl

def hidden (length : Nat) : Value :=
  .string (String.ofList (List.replicate length '*'))

theorem apply_full {context : Context} {r : Record} {path s : String}
    (h : r.resolve path = some (.string s)) :
    (Operator.mask [(path, ⟨.full, '*'⟩)]).apply context (.single r) =
      .ok (.single (r.insert path (hidden s.length)), []) := by
  have outcome : (edit (path, ⟨.full, '*'⟩)).outcome r r = .write (hidden s.length) := by
    simp only [edit, h, apply, hide, Value.display, hidden, String.length_toList]
  have applied : Edit.applyAll [edit (path, ⟨.full, '*'⟩)] r =
      (r.insert path (hidden s.length), []) := by
    simp only [Edit.applyAll, List.foldl, Edit.apply, outcome]
    rfl
  simp only [Operator.apply, Operator.action, Action.apply, Action.onEach, Action.onRecord,
    List.map_cons, List.map_nil, applied]

theorem nested_insert_inj {r : Record} {path : String}
    (nested : ¬ (¬ isDotted path ∨ r.contains path)) {v₁ v₂ w : Value}
    (h : (r.setPath path v₁).insert path w = (r.setPath path v₂).insert path w) : v₁ = v₂ := by
  obtain ⟨name, names, other, -, written⟩ := Record.setPath_nested nested
  have shown (v : Value) : ((r.setPath path v).insert path w).walk (name :: names) = some v := by
    rw [Record.walk_insert_of_ne _ names w (Ne.symm other), written,
      Record.walk_setWalk r v (List.cons_ne_nil name names)]
  have first := shown v₁
  rw [h, shown v₂] at first
  exact (Option.some.inj first).symm

/-- After a full mask, two records with texts of one length at the path read alike at the path. They
are alike as a whole just when the texts stood in the field of that name or were one text. -/
theorem full_setPath {path : String} (h : path ≠ "") :
    ∃ op, Operator.read .mask (.object [(path, .string "full")]) = .ok op ∧
      ∀ (context : Context) (r : Record) (s₁ s₂ : String), s₁.length = s₂.length →
        ∃ out₁ out₂,
          op.apply context (.single (r.setPath path (.string s₁))) = .ok (.single out₁, []) ∧
          op.apply context (.single (r.setPath path (.string s₂))) = .ok (.single out₂, []) ∧
          out₁.resolve path = some (hidden s₁.length) ∧
          out₂.resolve path = some (hidden s₁.length) ∧
          (out₁ = out₂ ↔ ¬ isDotted path ∨ r.contains path ∨ s₁ = s₂) := by
  refine ⟨_, read_full path, fun context r s₁ s₂ same => ?_⟩
  refine ⟨_, _, apply_full (Record.resolve_setPath r h (.string s₁)),
    apply_full (Record.resolve_setPath r h (.string s₂)), ?_, ?_, ?_⟩
  · exact Record.resolve_insert_self _ h _
  · rw [same]
    exact Record.resolve_insert_self _ h _
  · rw [same]
    constructor
    · intro equal
      by_cases literal : ¬ isDotted path ∨ r.contains path
      · exact literal.imp_right .inl
      · exact .inr (.inr (Value.string.inj (nested_insert_inj literal equal)))
    · intro cases
      rcases cases with plain | present | rfl
      · rw [Record.setPath_literal (.inl plain), Record.setPath_literal (.inl plain),
          Record.insert_insert, Record.insert_insert]
      · rw [Record.setPath_literal (.inr present), Record.setPath_literal (.inr present),
          Record.insert_insert, Record.insert_insert]
      · rfl

theorem full_setPath_nested :
    "a.b" ≠ "" ∧ "x".length = "y".length ∧
      ∃ op, Operator.read .mask (.object [("a.b", .string "full")]) = .ok op ∧
        ∀ context, ∃ out₁ out₂,
          op.apply context (.single (Record.setPath [] "a.b" (.string "x"))) =
            .ok (.single out₁, []) ∧
          op.apply context (.single (Record.setPath [] "a.b" (.string "y"))) =
            .ok (.single out₂, []) ∧
          out₁.resolve "a.b" = out₂.resolve "a.b" ∧ out₁ ≠ out₂ := by
  have path : "a.b" ≠ "" := by decide
  have length : "x".length = "y".length := by decide
  obtain ⟨op, reading, masked⟩ := full_setPath path
  refine ⟨path, length, op, reading, fun context => ?_⟩
  obtain ⟨out₁, out₂, applied₁, applied₂, read₁, read₂, alike⟩ := masked context [] "x" "y" length
  refine ⟨out₁, out₂, applied₁, applied₂, read₁.trans read₂.symm, fun same => ?_⟩
  have literal : ¬ (¬ isDotted "a.b" ∨ Record.contains [] "a.b" ∨ "x" = "y") := by decide
  exact literal (alike.mp same)

/-- A text in a nested record is still there after a full mask on its path. -/
theorem full_mask_shows_nested :
    ∃ op, Operator.read .mask (.object [("a.b", .string "full")]) = .ok op ∧
      "x".length = "y".length ∧
      ∀ context, op.apply context (.single (Record.setPath [] "a.b" (.string "x"))) ≠
        op.apply context (.single (Record.setPath [] "a.b" (.string "y"))) := by
  have path : "a.b" ≠ "" := by decide
  have length : "x".length = "y".length := by decide
  refine ⟨_, read_full "a.b", length, fun context same => ?_⟩
  rw [apply_full (Record.resolve_setPath [] path (.string "x")),
    apply_full (Record.resolve_setPath [] path (.string "y"))] at same
  have equal := congrArg Prod.fst (Except.ok.inj same)
  have nested : ¬ (¬ isDotted "a.b" ∨ Record.contains [] "a.b") := by decide
  have shown := Value.string.inj (nested_insert_inj nested (Collection.single.inj equal))
  exact absurd shown (by decide)

end Mask

end Reshape
