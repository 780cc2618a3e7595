import Reshape.Proofs.Operator.Argument
import Reshape.Proofs.Operator.Editing
import Reshape.Proofs.Record.Fields
import Reshape.Proofs.Text.Cutting
import Reshape.Proofs.Text.Trimming

namespace Reshape

theorem Argument.names_array {what : String} {names : List String} (h : names ≠ []) :
    Argument.names what (.array (names.map .string)) = .ok names := by
  have found : (names.map Value.string).mapM (text what) = .ok names := by
    rw [mapM_eq_ok, List.forall₂_map_left_iff, List.forall₂_same]
    exact fun name _ => rfl
  simp only [Argument.names, found, bind, Except.bind, List.isEmpty_iff, if_neg h]
  rfl

namespace Concat

def toValue (c : Concat) : Value :=
  .object [("targetField", .string c.target), ("sourceFields", .array (c.sources.map .string)),
    ("separator", .string c.separator)]

theorem read_toValue (c : Concat) (h : c.sources ≠ []) :
    Operator.read .concat c.toValue = .ok (.concat c) := by
  refine bind_eq_ok.mpr ⟨c, ?_, rfl⟩
  refine bind_eq_ok.mpr ⟨_, rfl, bind_eq_ok.mpr ⟨c.target, rfl, ?_⟩⟩
  refine bind_eq_ok.mpr ⟨c.sources, ?_, rfl⟩
  exact (Argument.required_of_given rfl).trans (Argument.names_array h)

theorem isBlank_eq_false {v : Option Value} (h : displayOf v ≠ "") : isBlank v = false := by
  match v with
  | none => exact absurd rfl h
  | some .null => exact absurd rfl h
  | some (.string s) => exact beq_false_of_ne h
  | some (.bool _) | some (.number _) | some (.array _) | some (.object _) => rfl

theorem parts_eq {c : Concat} {r : Record}
    (h : ∀ source ∈ c.sources, displayOf (r.resolve source) ≠ "") :
    c.parts r = c.sources.map fun source => displayOf (r.resolve source) := by
  have filled : ∀ v ∈ c.sources.map r.resolve, (!isBlank v) = true := by
    intro v mem
    obtain ⟨source, here, rfl⟩ := List.mem_map.mp mem
    rw [isBlank_eq_false (h source here)]
    rfl
  rw [parts, List.filter_eq_self.mpr filled, List.map_map]
  rfl

theorem resolve_applyAll {c : Concat} (h : c.target ≠ "") (r : Record) :
    (Edit.applyAll [c.edit] r).1.resolve c.target =
      some (.string (Text.join c.separator (c.parts r))) :=
  Edit.resolve_of_write (e := c.edit) h rfl

end Concat

namespace Split

def toValue (s : Split) : Value :=
  .object [("sourceField", .string s.source), ("separator", .string s.separator),
    ("targetFields", .array (s.targets.map .string))]

theorem read_toValue (s : Split) (h : s.separator ≠ "") (h' : s.targets ≠ []) :
    Operator.read .split s.toValue = .ok (.split s) := by
  refine bind_eq_ok.mpr ⟨s, ?_, rfl⟩
  refine bind_eq_ok.mpr ⟨_, rfl, bind_eq_ok.mpr ⟨some s.separator, rfl, ?_⟩⟩
  have filled : ¬ ((some s.separator).getD ",").isEmpty := by simpa using h
  dsimp only
  rw [if_neg filled]
  refine bind_eq_ok.mpr ⟨s.source, rfl, bind_eq_ok.mpr ⟨s.targets, ?_, rfl⟩⟩
  exact (Argument.required_of_given rfl).trans (Argument.names_array h')

/-- What a part of a text must be like to come back from it as it was. -/
structure Plain (separator : Char) (text : String) : Prop where
  filled : text ≠ ""
  trimmed : Text.Trimmed text.toList
  free : separator ∉ text.toList

theorem endsApart_singleton {c : Char} {text : List Char} (h : c ∉ text) :
    Text.EndsApart [c] text := by
  rintro ⟨front, back, found⟩
  simp at found
  rw [← found] at h
  simp at h

theorem parts_join {c : Char} {source : String} {targets texts : List String} (some : texts ≠ [])
    (plain : ∀ text ∈ texts, Plain c text) :
    parts ⟨source, String.singleton c, targets⟩ (Text.join (String.singleton c) texts) = texts := by
  have apart : ∀ part ∈ texts.map String.toList, Text.EndsApart [c] part := by
    intro part mem
    obtain ⟨text, here, rfl⟩ := List.mem_map.mp mem
    exact endsApart_singleton (plain text here).free
  have kept : ∀ text ∈ texts, String.ofList (Text.trimChars text.toList) = text := by
    intro text mem
    rw [(plain text mem).trimmed.trimChars_eq, String.ofList_toList]
  rw [parts, Text.join, String.toList_intercalate, String.toList_singleton,
    Text.splitAround_intercalate (by simp) (by simpa using some) apart, List.map_map]
  exact (List.map_congr_left kept).trans (List.map_id texts)

def written (s : Split) (texts : List String) : Record :=
  (s.targets.zip texts).map fun field => (field.1, .string field.2)

theorem distinct_written {s : Split} {texts : List String} (length : s.targets.length ≤ texts.length)
    (names : s.targets.Nodup) : (s.written texts).Distinct := by
  have keys : (s.written texts).keys = s.targets := by
    rw [written, Record.keys, List.map_map]
    exact List.map_fst_zip length
  rwa [Record.Distinct, keys]

theorem edits_writes {s : Split} {r : Record} {text : String}
    (found : r.resolve s.source = some (.string text))
    (length : s.targets.length = (s.parts text).length) :
    List.Forall₂ (Edit.Writes r) s.edits (s.written (s.parts text)) := by
  rw [List.forall₂_iff_get]
  refine ⟨by simp [edits, written, length], fun i inside inside' => ?_⟩
  have here : i < (s.parts text).length := by simpa [written, length] using inside'
  have part : (s.parts text)[i]?.getD "" = (s.parts text)[i] := by
    rw [List.getElem?_eq_getElem here]
    rfl
  simp only [List.get_eq_getElem, edits, List.getElem_mapIdx, written, List.getElem_map,
    List.getElem_zip]
  refine ⟨rfl, fun current => ?_⟩
  simp only [edit, found, Value.display, part]

theorem resolve_applyAll {s : Split} {r : Record} {text : String}
    (found : r.resolve s.source = some (.string text))
    (length : s.targets.length = (s.parts text).length) (names : s.targets.Nodup)
    (named : ∀ target ∈ s.targets, target ≠ "") :
    List.Forall₂
      (fun target part => (Edit.applyAll s.edits r).1.resolve target = some (.string part))
      s.targets (s.parts text) := by
  have distinct := distinct_written length.le names
  rw [List.forall₂_iff_zip]
  refine ⟨length, fun {target part} mem => ?_⟩
  have here : (target, Value.string part) ∈ s.written (s.parts text) :=
    List.mem_map.mpr ⟨_, mem, rfl⟩
  have only : ∀ v, (target, v) ∈ s.written (s.parts text) → v = .string part := by
    intro v other
    have same := Record.get?_of_mem distinct other
    rw [Record.get?_of_mem distinct here] at same
    exact (Option.some.inj same).symm
  rw [Record.resolve, if_neg (named target (List.of_mem_zip mem).1),
    Edit.applyAll_of_writes (edits_writes found length), Record.get?_foldl_of_mem here only]
  rfl

/-- The texts of some fields, joined by a character that none of them holds and split at it, stand
in the targets. -/
theorem concat_then_split (c : Char) {field : String} {sources targets : List String}
    (h : field ≠ "") (some : sources ≠ []) (length : sources.length = targets.length)
    (names : targets.Nodup) (named : ∀ target ∈ targets, target ≠ "") :
    let join : Concat := ⟨field, sources, String.singleton c⟩
    let split : Split := ⟨field, String.singleton c, targets⟩
    Operator.read .concat join.toValue = .ok (.concat join) ∧
    Operator.read .split split.toValue = .ok (.split split) ∧
    ∃ f : Record → Record,
      (∀ context records, Operator.applyAll context [.concat join, .split split] records =
        .ok (records.map f)) ∧
      ∀ r, (∀ source ∈ sources, Plain c (displayOf (r.resolve source))) →
        List.Forall₂ (fun source target =>
          (f r).resolve target = Option.some (.string (displayOf (r.resolve source))))
          sources targets := by
  intro join split
  have separator : split.separator ≠ "" := by simp [split]
  have some' : split.targets ≠ [] := by
    rintro none
    rw [List.eq_nil_of_length_eq_zero (length.trans (congrArg List.length none))] at some
    exact some rfl
  refine ⟨join.read_toValue some, split.read_toValue separator some', _,
    fun context records => Operator.applyAll_edits (.cons rfl (.cons rfl .nil)) records,
    fun r plain => ?_⟩
  have texts : join.parts r = sources.map fun source => displayOf (r.resolve source) :=
    Concat.parts_eq fun source mem => (plain source mem).filled
  have joined := Concat.resolve_applyAll (c := join) h r
  have parts : split.parts (Text.join join.separator (join.parts r)) =
      sources.map fun source => displayOf (r.resolve source) := by
    rw [texts]
    exact parts_join (by simpa using some) (by simpa using plain)
  have shown := resolve_applyAll joined (by rw [parts]; simpa using length.symm) names named
  rw [parts, List.forall₂_map_right_iff] at shown
  exact shown.flip

theorem concat_then_split_replaced :
    let sources := ["a.b", "n", "t"]
    let targets := ["n", "a", "all"]
    let ops : List Operator := [.concat ⟨"all", sources, ";"⟩, .split ⟨"all", ";", targets⟩]
    let r : Record :=
      [("a", .object [("b", .string "Ada L")]), ("n", .int 36), ("t", .bool true)]
    "all" ≠ "" ∧ sources ≠ [] ∧ sources.length = targets.length ∧ targets.Nodup ∧
      (∀ target ∈ targets, target ≠ "") ∧
      (∀ source ∈ sources, Plain ';' (displayOf (r.resolve source))) ∧
      ∀ context, ∃ out, Operator.applyAll context ops (.single r) = .ok (.single out) ∧
        out.resolve "n" = some (.string "Ada L") ∧ out.resolve "a" = some (.string "36") ∧
        out.resolve "all" = some (.string "true") := by
  intro sources targets ops r
  have field : "all" ≠ "" := by decide
  have nonempty : sources ≠ [] := by decide
  have length : sources.length = targets.length := by decide
  have names : targets.Nodup := by decide
  have named : ∀ target ∈ targets, target ≠ "" := by decide
  have plain : ∀ source ∈ sources, Plain ';' (displayOf (r.resolve source)) := by
    have text : Plain ';' "Ada L" := ⟨by decide, Text.trimmed_iff.mpr (by decide), by decide⟩
    have number : Plain ';' "36" := ⟨by decide, Text.trimmed_iff.mpr (by decide), by decide⟩
    have flag : Plain ';' "true" := ⟨by decide, Text.trimmed_iff.mpr (by decide), by decide⟩
    simp only [sources, List.forall_mem_cons, List.not_mem_nil, false_implies, implies_true,
      and_true]
    exact ⟨text, number, flag⟩
  refine ⟨field, nonempty, length, names, named, plain, fun context => ?_⟩
  obtain ⟨-, -, f, acts, split⟩ := concat_then_split ';' field nonempty length names named
  refine ⟨f r, acts context (.single r), ?_⟩
  obtain ⟨first, second, third, -⟩ : _ ∧ _ ∧ _ ∧ _ := by
    simpa only [sources, targets, List.forall₂_cons] using split r plain
  exact ⟨first, second, third⟩

end Split

end Reshape
