import Reshape.Operator.Action
import Reshape.Proofs.Operator.Argument

/-!
# Configurations that are spelled otherwise

What becomes of an operator when its configuration is spelled otherwise. Values that are written into
records are data and must be the same, and entries that add fields one after another must stand in
one order. All else is free: the order of arguments, renamings and tables, and the spelling of
numbers.
-/

namespace Reshape

open Argument

variable {v w : Value}

/-! ## Data in configurations -/

namespace Kind

/-- The places of values that are written into records as they are. -/
def literalAt : Kind → List String → Bool
  | format, [_, "value"] => true
  | lookup, ["default"] => true
  | lookup, [argument, _] => argument ∈ ["map", "table", "mapping"]
  | summarize, [argument] => argument ∈ ["label", "labels"]
  | coalesce, ["default"] => true
  | choice, [argument] => argument ∈ ["then", "else"]
  | set, [_] => true
  | _, _ => false

/-- The places of mappings whose entries add fields one after another. -/
def orderedAt : Kind → List String → Bool
  | format, [] => true
  | compute, [] => true
  | truncate, [] => true
  | pad, [] => true
  | mask, [] => true
  | set, [] => true
  | group, [argument] => argument ∈ ["aggregations", "aggregate", "aggs"]
  | summarize, [argument] => argument ∈ ["fields", "aggregations"]
  | _, _ => false

/-- What two configurations must share besides being alike. -/
structure SameData (k : Kind) (c d : Value) : Prop where
  literals : ∀ place, k.literalAt place → c.part? place = d.part? place
  order : ∀ place, k.orderedAt place →
    (c.part? place).map Value.names = (d.part? place).map Value.names
  integers : c.SameIntegers d

theorem SameData.inOrder {k : Kind} {c d : Value} (h : k.SameData c d) (ordered : k.orderedAt []) :
    c.names = d.names :=
  Option.some.inj (h.order [] ordered)

end Kind

/-! ## Texts only -/

theorem Extraction.readFilter_agree (h : v.Alike w) : Agree Eq (readFilter v) (readFilter w) := by
  cases h with
  | string s => exact .refl _
  | object fields => exact (required_agree fields text_agree).bind_same fun source => .refl _
  | _ => exact .error_left

theorem Projection.readSelect_agree (h : v.Alike w) : Agree Eq (readSelect v) (readSelect w) := by
  cases h with
  | string s => exact .refl _
  | array items => exact names_agree _ _ _ (.array items)
  | object fields => exact required_agree fields names_agree
  | _ => exact .error_left

theorem Projection.readExclude_agree (h : v.Alike w) : Agree Eq (readExclude v) (readExclude w) := by
  cases h with
  | string s => exact .refl _
  | array items => exact names_agree _ _ _ (.array items)
  | object fields => exact required_agree fields names_agree
  | _ => exact .error_left

theorem SortKey.read_agree (v w : Value) (h : v.Alike w) : Agree Eq (read v) (read w) := by
  cases h with
  | string s => exact .refl _
  | object fields =>
      refine (required_agree fields text_agree).bind_same fun path => ?_
      exact (optional_agree fields text_agree).bind_same fun order => .refl _
  | _ => exact .error_left

theorem Sorting.read_agree (h : v.Alike w) : Agree Eq (read v) (read w) := by
  cases h with
  | string s => exact .refl _
  | array items =>
      exact (Agree.mapM_same (items.imp SortKey.read_agree)).bind_same fun keys => .refl _
  | object fields =>
      exact (SortKey.read_agree _ _ (.object fields)).bind_same fun key => .refl _
  | _ => exact .error_left

theorem Identity.read_agree (h : v.Alike w) : Agree Eq (read v) (read w) := by
  cases h with
  | null => exact .refl _
  | bool b => exact .refl _
  | number equal => exact .error_left
  | string s => exact .refl _
  | array items => exact (names_agree _ _ _ (.array items)).map fun a b same => congrArg paths same
  | @object xs ys fields =>
      have given := given?_rel (fun _ _ => Value.Alike.isNull) fun other
        (_ : other ∈ ["fields", "by"]) => fields other
      unfold read
      dsimp only
      generalize given? xs ["fields", "by"] = a at given ⊢
      generalize given? ys ["fields", "by"] = b at given ⊢
      cases given with
      | none => exact .refl _
      | some alike => exact (names_agree _ _ _ alike).map fun a b same => congrArg paths same

theorem Nesting.readFlatten_agree (h : v.Alike w) : Agree Eq (readFlatten v) (readFlatten w) := by
  cases h with
  | null => exact .refl _
  | bool b => exact .refl _
  | string s => exact .refl _
  | object fields => exact (optional_agree fields text_agree).bind_same fun separator => .refl _
  | _ => exact .error_left

theorem Unwinding.read_agree (h : v.Alike w) : Agree Eq (read v) (read w) := by
  cases h with
  | string s => exact .refl _
  | object fields =>
      refine (required_agree fields text_agree).bind_same fun path => ?_
      exact (optional_agree fields flag_agree).bind_same fun preserveEmpty => .refl _
  | _ => exact .error_left

theorem Concat.read_agree (h : v.Alike w) : Agree Eq (read v) (read w) := by
  refine (mapping_agree h).bind fun xs ys fields => ?_
  refine (required_agree fields text_agree).bind_same fun target => ?_
  refine (required_agree fields names_agree).bind_same fun sources => ?_
  exact (optional_agree fields text_agree).bind_same fun separator => .refl _

theorem Split.read_agree (h : v.Alike w) : Agree Eq (read v) (read w) := by
  refine (mapping_agree h).bind fun xs ys fields => ?_
  refine (optional_agree fields text_agree).bind_same fun separator => ?_
  refine .ite .error_left ?_
  refine (required_agree fields text_agree).bind_same fun source => ?_
  exact (required_agree fields names_agree).bind_same fun targets => .refl _

/-! ## Numbers -/

theorem Value.Respelled.related {xs ys : Record} (h : (Value.object xs).Respelled (.object ys)) :
    xs.Related Value.Alike ys := by
  cases h.alike with
  | object fields => exact fields

theorem Extraction.readCount_agree (operator : String) (h : v.Respelled w) :
    Agree Eq (readCount operator v) (readCount operator w) := by
  cases h.alike with
  | number equal => exact count_agree _ _ _ h
  | object _ => exact (optional_respelled h.fields count_agree).bind_same fun count => .refl _
  | _ => exact .error_left

theorem Counter.read_agree (h : v.Respelled w) : Agree Eq (read v) (read w) := by
  cases h.alike with
  | null => exact .refl _
  | bool b => exact .refl _
  | string s => exact .refl _
  | object fields =>
      refine (optional_agree fields text_agree).bind_same fun field => ?_
      exact (optional_respelled h.fields integer_agree).bind_same fun start => .refl _
  | _ => exact .error_left

theorem Truncation.readRule_agree (field : String) (v w : Value) (h : v.Respelled w) :
    Agree Eq (readRule field v) (readRule field w) := by
  cases h.alike with
  | number equal => exact (count_agree _ _ _ h).bind_same fun length => .refl _
  | object fields =>
      refine (optional_respelled h.fields count_agree).bind_same fun length => ?_
      cases length with
      | none => exact .error_left
      | some length =>
          exact (optional_agree fields text_agree).bind_same fun suffix => .refl _
  | _ => exact .error_left

theorem Padding.readRule_agree (field : String) (v w : Value) (h : v.Respelled w) :
    Agree Eq (readRule field v) (readRule field w) := by
  cases h.alike with
  | number equal => exact (count_agree _ _ _ h).bind_same fun width => .refl _
  | object fields =>
      refine (optional_agree fields text_agree).bind_same fun written => ?_
      refine (Agree.refl _).bind_same fun side => ?_
      refine (optional_respelled h.fields count_agree).bind_same fun width => ?_
      cases width with
      | none => exact .error_left
      | some width =>
          exact (optional_agree fields character_agree).bind_same fun fill => .refl _
  | _ => exact .error_left

theorem Mask.readType_agree {field : String} {xs ys : Record} (fields : xs.Related Value.Alike ys) :
    Agree Eq (readType field xs) (readType field ys) := by
  have type := fields "type"
  unfold readType
  generalize Record.get? xs "type" = a at type ⊢
  generalize Record.get? ys "type" = b at type ⊢
  cases type with
  | none => exact .refl _
  | some alike =>
      cases alike with
      | string name => exact .refl _
      | _ => exact .error_left

theorem Mask.readKind_agree {field name : String} {xs ys : Record}
    (fields : xs.Related Value.Respelled ys) :
    Agree Eq (readKind field xs name) (readKind field ys name) := by
  refine .ite (.refl _) (.ite (.refl _) (.ite (.refl _) (.ite ?_ .error_left)))
  refine (optional_respelled fields count_agree).bind_same fun head => ?_
  exact (optional_respelled fields count_agree).bind_same fun tail => .refl _

theorem Mask.readRule_agree (field : String) (v w : Value) (h : v.Respelled w) :
    Agree Eq (readRule field v) (readRule field w) := by
  cases h.alike with
  | string name => exact .refl _
  | object fields =>
      simp only [readRule, pure_bind]
      refine (readType_agree fields).bind_same fun name => ?_
      refine (readKind_agree h.fields).bind_same fun kind => ?_
      exact (optional_agree fields character_agree).bind_same fun fill => .refl _
  | _ => exact .error_left

/-! ## Renamings -/

theorem Projection.readRename_agree (h : v.Alike w) :
    Agree (fun s t => newName s = newName t) (readRename v) (readRename w) := by
  intro s t left right
  obtain ⟨xs, rfl, first⟩ := entries_eq_ok left
  obtain ⟨ys, rfl, second⟩ := entries_eq_ok right
  cases h with
  | object fields =>
      funext name
      rw [newName, newName, lookup_entries_eq fields text_agree first second name]

/-! ## Aggregates -/

theorem Aggregate.read_agree {default : Option String} {name : String} (h : v.Alike w) :
    Agree Eq (read default name v) (read default name w) := by
  cases h with
  | string s => exact .refl _
  | object fields =>
      refine (required_agree fields text_agree).bind_same fun op => ?_
      refine (Agree.refl _).bind_same fun function => ?_
      exact (optional_agree fields text_agree).bind_same fun field => .refl _
  | _ => exact .error_left

theorem Aggregate.readAll_agree {what : String} {fieldIsName : Bool} {a b : Option Value}
    (h : Option.Rel (fun v w => v.Respelled w ∧ v.names = w.names) a b) :
    Agree Eq (readAll what fieldIsName a) (readAll what fieldIsName b) := by
  cases h with
  | none => exact .refl _
  | some related =>
      obtain ⟨h, order⟩ := related
      cases h.alike with
      | object fields =>
          refine Agree.mapM_same ((h.pairs order).imp fun f g pair => ?_)
          obtain ⟨name, -, -, respelled⟩ := pair
          dsimp only
          rw [name]
          exact read_agree respelled.alike
      | _ => exact .error_left

theorem given?_ordered {xs ys : Record} (h : (Value.object xs).Respelled (.object ys))
    {names : List String} (order : ∀ name ∈ names, ((Value.object xs).part? [name]).map Value.names =
      ((Value.object ys).part? [name]).map Value.names) :
    Option.Rel (fun v w => v.Respelled w ∧ v.names = w.names) (given? xs names)
      (given? ys names) := by
  refine given?_rel (fun _ _ related => related.1.alike.isNull) fun name mem => ?_
  refine rel_of_rel (h.fields name) fun a b found found' respelled => ⟨respelled, ?_⟩
  have same := order name mem
  rw [Value.part?_name, Value.part?_name, found, found'] at same
  exact Option.some.inj same

theorem Grouping.read_agree (h : v.Respelled w)
    (order : ∀ name ∈ ["aggregations", "aggregate", "aggs"],
      (v.part? [name]).map Value.names = (w.part? [name]).map Value.names) :
    Agree Eq (read v) (read w) := by
  cases h.alike with
  | string s => exact .refl _
  | array items =>
      exact (names_agree _ _ _ (.array items)).bind_same fun paths => .refl _
  | object fields =>
      refine (Aggregate.readAll_agree (given?_ordered h order)).bind_same fun aggregates => ?_
      exact (required_agree fields names_agree).bind_same fun paths => .refl _
  | _ => exact .error_left

theorem Summary.read_agree (h : v.Respelled w)
    (order : ∀ name ∈ ["fields", "aggregations"],
      (v.part? [name]).map Value.names = (w.part? [name]).map Value.names)
    (label : ∀ name ∈ ["label", "labels"], v.part? [name] = w.part? [name]) :
    Agree Eq (read v) (read w) := by
  cases h.alike with
  | @object xs ys fields =>
      have labels : given? xs ["label", "labels"] = given? ys ["label", "labels"] := by
        refine given?_congr fun name mem => ?_
        rw [← Value.part?_name, ← Value.part?_name]
        exact label name mem
      refine (Aggregate.readAll_agree (given?_ordered h order)).bind_same fun aggregates => ?_
      dsimp only
      rw [labels]
      exact .refl _
  | _ => exact .error_left

/-! ## Formulas -/

theorem Value.ofFloat?_isZero {x : Float} (h : Decimal.IsZero x) :
    Value.ofFloat? x = some (.int 0) := by
  have zero : x.isFinite = true ∧ exactInteger? x = some 0 := by
    rcases h with bits | bits
    · obtain rfl : x = 0 := Decimal.eq_of_toBits_eq (bits.trans (by decide +kernel))
      decide +kernel
    · obtain rfl : x = -0 := Decimal.eq_of_toBits_eq (bits.trans (by decide +kernel))
      decide +kernel
  rw [Value.ofFloat?, if_pos zero.1, zero.2]

theorem Value.ofFloat?_eq {x y : Float} (h : (x == y) = true) :
    Value.ofFloat? x = Value.ofFloat? y := by
  rcases Decimal.eq_or_isZero_of_beq h with rfl | ⟨zero, zero'⟩
  · rfl
  · rw [ofFloat?_isZero zero, ofFloat?_isZero zero']

theorem Formula.evaluate_number_eq {x y : Float} (h : (x == y) = true) (r : Record) :
    (number x).evaluate r = (number y).evaluate r := by
  have same := Value.ofFloat?_eq h
  change (Operand.number x).toValue = (Operand.number y).toValue
  rw [Operand.toValue, Operand.toValue, same]

theorem Formula.readField_agree (field : String) (v w : Value) (h : v.Alike w) :
    Agree (fun e f => edit (field, e) = edit (field, f)) (readField field v)
      (readField field w) := by
  -- Constants that are equal as floats fill a field alike, although one may be a negative zero.
  cases h with
  | string source => exact (Agree.refl _).imp fun e f same => by rw [same]
  | number equal =>
      refine .ok ?_
      simp only [edit, evaluate_number_eq equal]
  | _ => exact .error_left

/-! ## Formats -/

namespace FieldForm

theorem readThousands_agree (name : String) (v w : Value) (h : v.Alike w) :
    Agree Eq (readThousands name v) (readThousands name w) := by
  cases h with
  | bool b => exact .refl _
  | string s => exact .refl _
  | _ => exact .error_left

theorem readNumber_agree {xs ys : Record} (h : (Value.object xs).Respelled (.object ys)) :
    Agree Eq (readNumber xs) (readNumber ys) := by
  have fields := h.related
  refine (optional_respelled h.fields count_agree).bind_same fun decimals => ?_
  refine (optional_agree fields readThousands_agree).bind_same fun thousands => ?_
  refine (optional_agree fields text_agree).bind_same fun before => ?_
  exact (optional_agree fields text_agree).bind_same fun after => .refl _

theorem readFlagLabels_agree {xs ys : Record} (fields : xs.Related Value.Alike ys) :
    Agree Eq (readFlagLabels xs) (readFlagLabels ys) := by
  refine (optional_agree fields text_agree).bind_same fun yes => ?_
  exact (optional_agree fields text_agree).bind_same fun no => .refl _

theorem readReplace_agree {xs ys : Record} (fields : xs.Related Value.Alike ys) :
    Agree Eq (readReplace xs) (readReplace ys) := by
  refine (required_agree fields text_agree).bind_same fun source => ?_
  refine (optional_agree fields text_agree).bind_same fun flags => ?_
  refine (Agree.refl _).bind_same fun cases => ?_
  obtain ⟨everywhere, anyCase⟩ := cases
  dsimp only
  split
  · exact .error_left
  · exact (optional_agree fields text_agree).bind_same fun replacement => .refl _

theorem readForm_agree {xs ys : Record} (h : (Value.object xs).Respelled (.object ys))
    (default : xs.get? "value" = ys.get? "value") (name : String) :
    Agree Eq (readForm xs name) (readForm ys name) := by
  have fields := h.related
  refine .ite ?_ <| .ite ?_ <| .ite ?_ <| .ite ?_ <| .ite ?_ <| .ite ?_ <| .ite ?_ <| .ite ?_ ?_
  · exact (optional_agree fields text_agree).bind_same fun pattern => .refl _
  · exact readNumber_agree h
  · exact .refl _
  · exact .refl _
  · exact .refl _
  · exact readFlagLabels_agree fields
  · exact readReplace_agree fields
  · rw [default]
    exact .refl _
  · exact .refl _

theorem readRule_agree (field : String) (h : v.Respelled w)
    (default : v.part? ["value"] = w.part? ["value"]) :
    Agree Eq (readRule field v) (readRule field w) := by
  cases h.alike with
  | string name => exact .refl _
  | @object xs ys fields =>
      rw [Value.part?_name, Value.part?_name] at default
      refine Agree.mapError ?_
      exact (required_agree fields text_agree).bind_same fun type => readForm_agree h default type
  | _ => exact .error_left

end FieldForm

/-! ## Literals -/

theorem Coalesce.read_agree (h : v.Alike w) (default : v.part? ["default"] = w.part? ["default"]) :
    Agree Eq (read v) (read w) := by
  cases h with
  | object fields =>
      rw [Value.part?_name, Value.part?_name] at default
      refine (required_agree fields text_agree).bind_same fun target => ?_
      refine (required_agree fields names_agree).bind_same fun sources => ?_
      rw [default]
      exact .refl _
  | _ => exact .error_left

theorem Choice.read_agree (h : v.Alike w) (yes : v.part? ["then"] = w.part? ["then"])
    (no : v.part? ["else"] = w.part? ["else"]) : Agree Eq (read v) (read w) := by
  cases h with
  | object fields =>
      rw [Value.part?_name, Value.part?_name] at yes no
      refine (required_agree fields text_agree).bind_same fun source => ?_
      refine (Agree.refl _).bind_same fun condition => ?_
      rw [yes, no]
      refine .ite .error_left ?_
      exact (required_agree fields text_agree).bind_same fun target => .refl _
  | _ => exact .error_left

theorem Lookup.readTable_agree {a b : Option Value}
    (h : Option.Rel (fun v w => v.Alike w ∧ ∀ key, v.part? [key] = w.part? [key]) a b) :
    Agree (fun s t => ∀ key, s.get? key = t.get? key) (readTable a) (readTable b) := by
  cases h with
  | none => exact .error_left
  | some related =>
      obtain ⟨alike, values⟩ := related
      cases alike with
      | @object s t fields =>
          refine .ok fun key => ?_
          rw [← Value.part?_name, ← Value.part?_name]
          exact values key
      | _ => exact .error_left

theorem Lookup.read_agree (h : v.Alike w) (default : v.part? ["default"] = w.part? ["default"])
    (tables : ∀ name ∈ ["map", "table", "mapping"], ∀ key,
      v.part? [name, key] = w.part? [name, key]) :
    Agree (fun l m => l.edit = m.edit) (read v) (read w) := by
  cases h with
  | @object xs ys fields =>
      have given : Option.Rel (fun v w => v.Alike w ∧ ∀ key, v.part? [key] = w.part? [key])
          (given? xs ["map", "table", "mapping"]) (given? ys ["map", "table", "mapping"]) := by
        refine given?_rel (fun _ _ related => related.1.isNull) fun name mem => ?_
        refine rel_of_rel (fields name) fun a b found found' alike => ⟨alike, fun key => ?_⟩
        rw [← Value.part?_name] at found found'
        rw [← Value.part?_cons found, ← Value.part?_cons found']
        exact tables name mem key
      rw [Value.part?_name, Value.part?_name] at default
      refine (required_agree fields text_agree).bind_same fun source => ?_
      refine (readTable_agree given).bind fun s t same => ?_
      refine (optional_agree fields text_agree).bind_same fun target => ?_
      rw [default]
      refine .ok ?_
      simp only [edit, same]
  | _ => exact .error_left

theorem Assigned.readFields_agree (h : v.Respelled w) (order : v.names = w.names)
    (values : ∀ name, v.part? [name] = w.part? [name]) :
    Agree Eq (readFields v) (readFields w) := by
  refine entries_same h order fun name a b found found' _ => ?_
  rw [values, found'] at found
  cases found
  exact .refl _

/-! ## Operators -/

structure Operator.Same (a b : Operator) : Prop where
  kind : a.kind = b.kind
  action : ∀ context, a.action context = b.action context

namespace Operator

theorem Same.refl (op : Operator) : op.Same op :=
  ⟨rfl, fun _ => rfl⟩

theorem read_agree {k : Kind} {c d : Value} (h : c.Respelled d) (data : k.SameData c d) :
    Agree Same (read k c) (read k d) := by
  have alike := h.alike
  -- Renamings, tables and constants may differ as arguments; all other kinds read equal ones.
  cases k with
  | filter => exact (Extraction.readFilter_agree alike).bind_same fun condition => .ok (.refl _)
  | select => exact (Projection.readSelect_agree alike).bind_same fun paths => .ok (.refl _)
  | exclude => exact (Projection.readExclude_agree alike).bind_same fun names => .ok (.refl _)
  | rename =>
      refine (Projection.readRename_agree alike).bind fun s t same => .ok ⟨rfl, fun context => ?_⟩
      have renamed : Projection.rename s = Projection.rename t := by
        funext r
        rw [Projection.rename, Projection.rename, same]
      exact congrArg Action.each renamed
  | sort => exact (Sorting.read_agree alike).bind_same fun keys => .ok (.refl _)
  | format =>
      have fields : Agree Eq (FieldForm.readFields c) (FieldForm.readFields d) := by
        refine entries_same h (data.inOrder rfl) fun name a b found found' respelled => ?_
        refine FieldForm.readRule_agree name respelled ?_
        rw [← Value.part?_cons found, ← Value.part?_cons found']
        exact data.literals [name, "value"] rfl
      exact fields.bind_same fun fields => .ok (.refl _)
  | limit => exact (Extraction.readCount_agree "limit" h).bind_same fun count => .ok (.refl _)
  | skip => exact (Extraction.readCount_agree "skip" h).bind_same fun count => .ok (.refl _)
  | reverse => exact .ok (.refl _)
  | distinct => exact (Identity.read_agree alike).bind_same fun identity => .ok (.refl _)
  | flatten => exact (Nesting.readFlatten_agree alike).bind_same fun separator => .ok (.refl _)
  | compute =>
      have fields : Agree (fun fs gs => fs.map Formula.edit = gs.map Formula.edit)
          (Formula.readFields c) (Formula.readFields d) :=
        entries_agree h (data.inOrder rfl) fun name a b _ _ respelled =>
          Formula.readField_agree name a b respelled.alike
      exact fields.bind fun fs gs same => .ok ⟨rfl, fun context => congrArg Action.edits same⟩
  | concat => exact (Concat.read_agree alike).bind_same fun c => .ok (.refl _)
  | split => exact (Split.read_agree alike).bind_same fun s => .ok (.refl _)
  | lookup =>
      have tables : Agree (fun l m => l.edit = m.edit) (Lookup.read c) (Lookup.read d) := by
        refine Lookup.read_agree alike (data.literals ["default"] rfl) fun name mem key => ?_
        exact data.literals [name, key] (by simpa [Kind.literalAt] using mem)
      exact tables.bind fun l m same => .ok ⟨rfl, fun context => by rw [action, action, same]⟩
  | group =>
      have grouping : Agree Eq (Grouping.read c) (Grouping.read d) :=
        Grouping.read_agree h fun name mem => data.order [name] (decide_eq_true mem)
      exact grouping.bind_same fun g => .ok (.refl _)
  | summarize =>
      have summary : Agree Eq (Summary.read c) (Summary.read d) :=
        Summary.read_agree h (fun name mem => data.order [name] (decide_eq_true mem))
          fun name mem => data.literals [name] (decide_eq_true mem)
      exact summary.bind_same fun s => .ok (.refl _)
  | truncate =>
      have fields : Agree Eq (Truncation.readFields c) (Truncation.readFields d) :=
        entries_same h (data.inOrder rfl) fun name a b _ _ => Truncation.readRule_agree name a b
      exact fields.bind_same fun fields => .ok (.refl _)
  | pad =>
      have fields : Agree Eq (Padding.readFields c) (Padding.readFields d) :=
        entries_same h (data.inOrder rfl) fun name a b _ _ => Padding.readRule_agree name a b
      exact fields.bind_same fun fields => .ok (.refl _)
  | mask =>
      have fields : Agree Eq (Mask.readFields c) (Mask.readFields d) :=
        entries_same h (data.inOrder rfl) fun name a b _ _ => Mask.readRule_agree name a b
      exact fields.bind_same fun fields => .ok (.refl _)
  | unwind => exact (Unwinding.read_agree alike).bind_same fun u => .ok (.refl _)
  | addIndex => exact (Counter.read_agree h).bind_same fun c => .ok (.refl _)
  | coalesce =>
      have first := Coalesce.read_agree alike (data.literals ["default"] rfl)
      exact first.bind_same fun c => .ok (.refl _)
  | choice =>
      have chosen := Choice.read_agree alike (data.literals ["then"] rfl)
        (data.literals ["else"] rfl)
      exact chosen.bind_same fun c => .ok (.refl _)
  | set =>
      have fields : Agree Eq (Assigned.readFields c) (Assigned.readFields d) :=
        Assigned.readFields_agree h (data.inOrder rfl) fun name => data.literals [name] rfl
      exact fields.bind_same fun fields => .ok (.refl _)

end Operator

end Reshape
