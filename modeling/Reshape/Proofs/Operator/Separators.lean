import Reshape.Proofs.Operator.Flattening
import Reshape.Proofs.Text.Joining

/-!
# Flattening with any separator

Flattening loses a leaf when two ways join to one name. If no name holds the separator, that takes
a separator that overlaps itself: `a-` and `b` are joined by `--` as `a` and `-b` are. Such a
separator does no harm to names behind which, or in front of which, it is found once.
-/

namespace Reshape

open Text (Overlapping EndsApart StartsApart)

namespace Nesting

/-- As many fields as there are leaves, and each leaf under the joined names on the way to it. -/
def KeepsLeaves (separator : String) (r : Record) : Prop :=
  (flatten separator r).length = (Record.leaves r).length ∧
    ∀ leaf ∈ Record.leaves r, (flatten separator r).get? (Text.join separator leaf.1) = some leaf.2

/-- No name in a record holds the separator, and no leaves lie below an empty name in front. -/
structure Separable (separator : String) (r : Record) : Prop where
  formed : (Value.object r).WellFormed
  outside : (Value.object r).Named fun name => ¬ separator.toList <:+: name.toList
  front : ∀ v, r.get? "" = some v → v.isLeaf

variable {separator : String} {r : Record}

theorem keepsLeaves_iff (formed : (Value.object r).WellFormed)
    (front : ∀ v, r.get? "" = some v → v.isLeaf) :
    KeepsLeaves separator r ↔ JoinsApart separator r := by
  constructor
  · rintro ⟨length, -⟩ leaf mem leaf' mem' same
    have size : (Record.leaves r).length =
        ((Record.leaves r).map fun leaf => (Text.join separator leaf.1, leaf.2)).length :=
      (List.length_map _).symm
    rw [flatten, leavesBelow_joined formed front, size, Record.length_ofList_eq_iff,
      Record.Distinct, Record.keys, List.map_map] at length
    exact congrArg Prod.fst (List.inj_on_of_nodup_map length mem mem' same)
  · intro apart
    have flat := flatten_joined formed apart front
    refine ⟨by rw [flat, List.length_map], fun leaf mem => ?_⟩
    rw [flat, ← Record.mem_iff_get? (distinct_leaves formed apart)]
    exact List.mem_map.mpr ⟨leaf, mem, rfl⟩

theorem joinsApart_of_names (nonempty : separator ≠ "")
    (names : (Value.object r).Named (EndsApart separator.toList ·.toList) ∨
      (Value.object r).Named (StartsApart separator.toList ·.toList)) :
    JoinsApart separator r := by
  intro leaf mem leaf' mem' same
  refine Text.join_inj nonempty (Record.ne_nil_of_mem_leaves mem)
    (Record.ne_nil_of_mem_leaves mem') ?_ same
  refine names.imp (fun named => ?_) (fun named => ?_)
  all_goals
    exact List.forall_mem_append.mpr ⟨named.of_mem_fields mem, named.of_mem_fields mem'⟩

theorem Separable.joinsApart (h : Separable separator r) (nonempty : separator ≠ "")
    (single : ¬ Overlapping separator.toList) : JoinsApart separator r :=
  joinsApart_of_names nonempty
    (.inl (h.outside.mono fun _ => Text.endsApart_of_not_overlapping single))

def twoWays (front back : String) : Record :=
  [(front, .object [(front, .object [("", .null)]), ("", .object [(back, .bool true)])])]

theorem separable_twoWays {front back : String} (named : front ≠ "")
    (outside : ∀ name ∈ [front, "", back], ¬ separator.toList <:+: name.toList) :
    Separable separator (twoWays front back) := by
  have null : Value.null.Named fun name => ¬ separator.toList <:+: name.toList := .leaf rfl
  have flag : (Value.bool true).Named fun name => ¬ separator.toList <:+: name.toList := .leaf rfl
  have first := outside front (by simp)
  have empty := outside "" (by simp)
  have last := outside back (by simp)
  refine ⟨?_, ?_, ?_⟩
  · simp [twoWays, Record.Distinct, Record.keys, named]
  · simpa [twoWays, Value.named_object_iff, Record.keys, first, last, null, flag] using empty
  · simp [twoWays, Record.get?, named]

theorem not_joinsApart_twoWays {front back : String}
    (same : front.toList ++ separator.toList = separator.toList ++ back.toList)
    (named : front ≠ "") : ¬ JoinsApart separator (twoWays front back) := by
  intro apart
  have joined : Text.join separator [front, front, ""] = Text.join separator [front, "", back] := by
    apply String.toList_injective
    simpa [Text.join] using same
  have ways := apart ([front, front, ""], .null) (by simp [twoWays, Record.leaves, Value.leaves])
    ([front, "", back], .bool true) (by simp [twoWays, Record.leaves, Value.leaves]) joined
  exact named (List.cons.inj (List.cons.inj ways).2).1

theorem exists_not_joinsApart (h : Overlapping separator.toList) :
    ∃ r, Separable separator r ∧ ¬ JoinsApart separator r := by
  -- What stands in front of the overlap is joined to an empty name as an empty name is joined to
  -- what stands behind the overlap.
  obtain ⟨part, some, proper, ⟨back, begins⟩, ⟨front, ends⟩⟩ := h
  have nonempty : front ≠ [] := by
    rintro rfl
    exact proper ends
  have named : String.ofList front ≠ "" := by simpa using nonempty
  refine ⟨twoWays (String.ofList front) (String.ofList back), separable_twoWays named ?_,
    not_joinsApart_twoWays ?_ named⟩
  · -- These parts of the separator are shorter than it is, so they do not hold it.
    have size := List.length_pos_iff.mpr some
    have first := congrArg List.length ends
    have second := congrArg List.length begins
    rw [List.length_append] at first second
    have outside (name : String) (short : name.toList.length < separator.toList.length) :
        ¬ separator.toList <:+: name.toList :=
      fun inside => absurd inside.length_le (Nat.not_le.mpr short)
    intro name mem
    apply outside
    simp only [List.mem_cons, List.not_mem_nil, or_false] at mem
    rcases mem with rfl | rfl | rfl
    · rw [String.toList_ofList]
      omega
    · rw [String.toList_empty, List.length_nil]
      omega
    · rw [String.toList_ofList]
      omega
  · rw [String.toList_ofList, String.toList_ofList]
    calc front ++ separator.toList
        = front ++ (part ++ back) := by rw [begins]
      _ = separator.toList ++ back := by rw [← List.append_assoc, ends]

/-- Of the records without the separator in a name, flattening keeps all leaves of those whose ways
join to different names. They do if behind every name the separator is found at the end only, or if
in front of every name it is found at the start only. With a separator that does not overlap itself
they always do, and with any other one some do not. -/
theorem flatten_keeps_leaves (separator : String) (nonempty : separator ≠ "") :
    (∀ r, Separable separator r → (KeepsLeaves separator r ↔ JoinsApart separator r)) ∧
    (∀ r, Separable separator r →
      ((Value.object r).Named (EndsApart separator.toList ·.toList) ∨
        (Value.object r).Named (StartsApart separator.toList ·.toList)) →
      KeepsLeaves separator r) ∧
    ((∀ r, Separable separator r → KeepsLeaves separator r) ↔ ¬ Overlapping separator.toList) := by
  have keeps (r : Record) (h : Separable separator r) :
      KeepsLeaves separator r ↔ JoinsApart separator r := keepsLeaves_iff h.formed h.front
  refine ⟨keeps, fun r h names => (keeps r h).mpr (joinsApart_of_names nonempty names), ?_, ?_⟩
  · intro all overlapping
    obtain ⟨r, separable, joined⟩ := exists_not_joinsApart overlapping
    exact joined ((keeps r separable).mp (all r separable))
  · exact fun single r h => (keeps r h).mpr (h.joinsApart nonempty single)

theorem flatten_keeps_leaves_doubled :
    let r : Record := [("a", .object [("_b", .int 1), ("c", .object [])]), ("", .int 2)]
    "__" ≠ "" ∧ Separable "__" r ∧ (Value.object r).Named (EndsApart "__".toList ·.toList) ∧
      (flatten "__" r).length = 3 ∧ (flatten "__" r).get? "a___b" = some (.int 1) ∧
      (flatten "__" r).get? "a__c" = some (.object []) ∧
      (flatten "__" r).get? "" = some (.int 2) := by
  intro r
  have nonempty : "__" ≠ "" := by decide
  have ends : (Value.object r).Named (EndsApart "__".toList ·.toList) := by
    refine .object (by decide) (List.forall_mem_cons.mpr ⟨.object (by decide) ?_, ?_⟩)
    · exact List.forall_mem_cons.mpr ⟨.leaf rfl, List.forall_mem_singleton.mpr (.leaf rfl)⟩
    · exact List.forall_mem_singleton.mpr (.leaf rfl)
  have separable : Separable "__" r := by
    refine ⟨?_, ends.mono fun _ apart => apart.outside, ?_⟩
    · simp [r, Record.Distinct, Record.keys, Value.int, Number.WellFormed]
    · simp [r, Record.get?, Value.int, Value.isLeaf]
  obtain ⟨length, leaves⟩ := (flatten_keeps_leaves "__" nonempty).2.1 r separable (.inl ends)
  refine ⟨nonempty, separable, ends, length, ?_, ?_, ?_⟩
  · exact leaves (["a", "_b"], .int 1) (by simp [r, Record.leaves, Value.leaves, Value.int])
  · exact leaves (["a", "c"], .object []) (by simp [r, Record.leaves, Value.leaves, Value.int])
  · exact leaves ([""], .int 2) (by simp [r, Record.leaves, Value.leaves, Value.int])

/-- Two ways that join to one name, and an empty name that is lost on the way. -/
theorem flatten_loses_leaf :
    let r : Record := [("a-", .object [("b", .int 1)]), ("a", .object [("-b", .int 2)])]
    let s : Record := [("", .object [("a", .int 1)])]
    ("--" ≠ "" ∧ (Value.object r).WellFormed ∧
      (Value.object r).Named (fun name => ¬ "--".toList <:+: name.toList) ∧
      flatten "--" r = [("a---b", .int 2)] ∧ ¬ KeepsLeaves "--" r) ∧
    "." ≠ "" ∧ (Value.object s).WellFormed ∧
      (Value.object s).Named (fun name => ¬ ".".toList <:+: name.toList) ∧
      flatten "." s = [("a", .int 1)] ∧ ¬ KeepsLeaves "." s := by
  intro r s
  have names : (Value.object r).Named fun name => ¬ "--".toList <:+: name.toList := by
    refine .object (by decide) (List.forall_mem_cons.mpr ⟨.object (by decide) ?_, ?_⟩)
    · exact List.forall_mem_singleton.mpr (.leaf rfl)
    · exact List.forall_mem_singleton.mpr (.object (by decide)
        (List.forall_mem_singleton.mpr (.leaf rfl)))
  have names' : (Value.object s).Named fun name => ¬ ".".toList <:+: name.toList :=
    .object (by decide) (List.forall_mem_singleton.mpr
      (.object (by decide) (List.forall_mem_singleton.mpr (.leaf rfl))))
  have one : flatten "--" r = [("a---b", .int 2)] := rfl
  have bare : flatten "." s = [("a", .int 1)] := rfl
  refine ⟨⟨by decide, ?_, names, one, fun keeps => ?_⟩,
    by decide, ?_, names', bare, fun keeps => ?_⟩
  · simp [r, Record.Distinct, Record.keys, Value.int, Number.WellFormed]
  · exact absurd keeps.1 (by decide)
  · simp [s, Record.Distinct, Record.keys, Value.int, Number.WellFormed]
  · have kept := keeps.2 (["", "a"], .int 1) (by simp [s, Record.leaves, Value.leaves, Value.int])
    have missing : Record.get? [("a", .int 1)] (Text.join "." ["", "a"]) = none := rfl
    rw [bare, missing] at kept
    cases kept

end Nesting

end Reshape
