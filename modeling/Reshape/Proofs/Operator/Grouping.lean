import Reshape.Proofs.Digest.Encoding
import Reshape.Proofs.Operator.Classes
import Reshape.Proofs.Record.Fields

namespace Reshape

theorem Value.Storable.field {fields : Record} {name : String} {v : Value}
    (h : (Value.object fields).Storable) (found : fields.get? name = some v) : v.Storable where
  wellFormed := h.wellFormed.field found
  sized := (sized_object_iff.mp h.sized).2.2 _ (Record.mem_of_get? found)

namespace Record

theorem walk_storable {r : Record} {names : List String} {v : Value}
    (h : (Value.object r).Storable) (found : r.walk names = some v) : v.Storable := by
  induction names generalizing r with
  | nil => cases found
  | cons name names ih =>
      cases names with
      | nil => exact h.field found
      | cons next names =>
          simp only [walk] at found
          split at found
          · rename_i inner here
            exact ih (h.field here) found
          · cases found

theorem resolve_storable {r : Record} {path : String} {v : Value}
    (h : (Value.object r).Storable) (found : r.resolve path = some v) : v.Storable := by
  rw [resolve] at found
  split at found
  · cases found
  · rcases Option.or_eq_some_iff.mp found with here | ⟨-, below⟩
    · exact h.field here
    · exact walk_storable h below

theorem resolve_of_get? {r : Record} {path : String} {v : Value} (h : path ≠ "")
    (found : r.get? path = some v) : r.resolve path = some v := by
  rw [resolve, if_neg h, found]
  rfl

end Record

namespace Grouping

variable {g : Grouping} {listSeparator : String} {rs : List Record}

def values (g : Grouping) (r : Record) : List (Option Value) :=
  g.paths.map r.resolve

theorem apply_eq (g : Grouping) (listSeparator : String) (rs : List Record) :
    g.apply listSeparator rs = (leaders (sameKey g.key) rs).map fun r =>
      g.summary listSeparator (rs.filter (sameKey g.key r)) := by
  rw [apply, classes_eq, List.map_map]
  rfl

theorem get?_heading {members : List Record} {path : String} (h : path ∈ g.paths) :
    (g.heading members).get? path =
      some ((members.head?.bind fun r => r.resolve path).getD .null) := by
  refine Record.get?_foldl_of_mem (List.mem_map.mpr ⟨path, h, rfl⟩) fun w mem => ?_
  obtain ⟨path', -, same⟩ := List.mem_map.mp mem
  cases same
  rfl

theorem addAll_eq (aggregates : List Aggregate) (listSeparator : String) (rs : List Record)
    (out : Record) : Aggregate.addAll aggregates listSeparator rs out =
      (aggregates.map fun a => (a.name, a.reduce listSeparator rs)).foldl
        (fun r field => r.insert field.1 field.2) out := by
  rw [Aggregate.addAll, List.foldl_map]

theorem get?_addAll {aggregates : List Aggregate} {out : Record}
    (names : (aggregates.map Aggregate.name).Nodup) {a : Aggregate} (h : a ∈ aggregates) :
    (Aggregate.addAll aggregates listSeparator rs out).get? a.name =
      some (a.reduce listSeparator rs) := by
  rw [addAll_eq]
  refine Record.get?_foldl_of_mem (List.mem_map.mpr ⟨a, h, rfl⟩) fun w written => ?_
  obtain ⟨b, mem, same⟩ := List.mem_map.mp written
  obtain ⟨name, rfl⟩ := Prod.mk.inj same
  rw [List.inj_on_of_nodup_map names mem h name]

theorem get?_summary_name {members : List Record} (names : (g.aggregates.map Aggregate.name).Nodup)
    {a : Aggregate} (h : a ∈ g.aggregates) :
    (g.summary listSeparator members).get? a.name = some (a.reduce listSeparator members) :=
  get?_addAll names h

theorem get?_summary_of_notMem {members : List Record} {name : String}
    (h : name ∉ g.aggregates.map Aggregate.name) :
    (g.summary listSeparator members).get? name =
      if "_count" = name then some (.int members.length)
      else (g.heading members).get? name := by
  have others : name ∉ (g.aggregates.map fun a =>
      (a.name, a.reduce listSeparator members)).map Prod.fst := by
    simpa using h
  rw [summary, addAll_eq, Record.get?_foldl_of_notMem others, Record.get?_insert]

def sameClass (g : Grouping) (r s : Record) : Bool :=
  g.paths.all fun path => sameValue (r.resolve path) (s.resolve path)

/-- Of a sequence, only records whose keys are encoded alike have one key. -/
def Separates (g : Grouping) (rs : List Record) : Prop :=
  ∀ r ∈ rs, ∀ s ∈ rs, g.key r = g.key s →
    GroupKey.encodeValues (g.values r) = GroupKey.encodeValues (g.values s)

theorem values_storable {r : Record} (h : (Value.object r).Storable) :
    GroupKey.Storable (g.values r) := by
  intro v mem
  obtain ⟨path, -, found⟩ := List.mem_map.mp mem
  exact Record.resolve_storable h found

theorem forall₂_values_iff {r s : Record} :
    List.Forall₂ (fun a b => sameValue a b = true) (g.values r) (g.values s) ↔
      g.sameClass r s = true := by
  simp [values, sameClass, List.forall₂_map_left_iff, List.forall₂_map_right_iff, List.forall₂_same]

theorem sameKey_eq_sameClass (storable : ∀ r ∈ rs, (Value.object r).Storable)
    (separates : g.Separates rs) {r s : Record} (hr : r ∈ rs) (hs : s ∈ rs) :
    sameKey g.key r s = g.sameClass r s := by
  have length : (g.values r).length = (g.values s).length := by simp [values]
  have encoded : GroupKey.encodeValues (g.values r) = GroupKey.encodeValues (g.values s) ↔
      g.sameClass r s = true := by
    rw [← forall₂_values_iff, ← GroupKey.flatMap_encode_eq_iff length
      (values_storable (storable r hr)) (values_storable (storable s hs))]
    simp [GroupKey.encodeValues, length]
  rw [Bool.eq_iff_iff, ← encoded, sameKey, beq_iff_eq]
  constructor
  · exact separates r hr s hs
  · intro same
    exact congrArg (fun bytes => GroupKey.mk (Digest.ofBytes bytes)) same

def members (g : Grouping) (rs : List Record) (r : Record) : List Record :=
  rs.filter (g.sameClass r)

theorem classes_key (storable : ∀ r ∈ rs, (Value.object r).Storable) (separates : g.Separates rs) :
    classes g.key rs = (leaders g.sameClass rs).map (g.members rs) := by
  have lead : leaders (sameKey g.key) rs = leaders g.sameClass rs :=
    leaders_congr fun _ hr _ hs => sameKey_eq_sameClass storable separates hr hs
  rw [classes_eq, lead]
  refine List.map_congr_left fun r leads => List.filter_congr fun s hs => ?_
  exact sameKey_eq_sameClass storable separates ((leaders_sublist rs).mem leads) hs

theorem apply_eq_members (storable : ∀ r ∈ rs, (Value.object r).Storable)
    (separates : g.Separates rs) :
    g.apply listSeparator rs =
      (leaders g.sameClass rs).map fun r => g.summary listSeparator (g.members rs r) := by
  rw [apply, classes_key storable separates, List.map_map]
  rfl

theorem flatten_members_perm (storable : ∀ r ∈ rs, (Value.object r).Storable)
    (separates : g.Separates rs) :
    ((leaders g.sameClass rs).map (g.members rs)).flatten.Perm rs := by
  rw [← classes_key storable separates]
  exact flatten_classes_perm g.key rs

/-- One record for each class, in the order of the first records of the classes: its aggregates are
those of the records of the class in their order, and unless an aggregate takes that name `_count`
is their number. The classes are disjoint and hold all records, so the numbers add up. -/
theorem apply_partitions (g : Grouping) (listSeparator : String) (rs : List Record)
    (names : (g.aggregates.map Aggregate.name).Nodup)
    (storable : ∀ r ∈ rs, (Value.object r).Storable) (separates : g.Separates rs) :
    ((leaders g.sameClass rs).map (g.members rs)).flatten.Perm rs ∧
    List.Forall₂ (fun r out => ∀ a ∈ g.aggregates,
        out.get? a.name = some (a.reduce listSeparator (g.members rs r)))
      (leaders g.sameClass rs) (g.apply listSeparator rs) ∧
    ("_count" ∉ g.aggregates.map Aggregate.name →
      ∃ counts : List Nat,
        counts = (leaders g.sameClass rs).map (fun r => (g.members rs r).length) ∧
        (g.apply listSeparator rs).map (·.get? "_count") =
          counts.map (fun n => some (.int n)) ∧
        counts.sum = rs.length) := by
  have perm := flatten_members_perm storable separates
  refine ⟨perm, ?_, fun fresh => ⟨_, rfl, ?_, ?_⟩⟩
  · rw [apply_eq_members storable separates, List.forall₂_map_right_iff, List.forall₂_same]
    exact fun r _ a mem => get?_summary_name names mem
  · rw [apply_eq_members storable separates, List.map_map, List.map_map]
    refine List.map_congr_left fun r _ => ?_
    simp [get?_summary_of_notMem fresh]
  · simpa [List.length_flatten, Function.comp_def] using perm.length_eq

theorem apply_partitions_spelled :
    ([Aggregate.mk "last" .last (some "v")].map Aggregate.name).Nodup ∧
      (∀ r ∈ [[("k", .int 1), ("v", .int 2)], [("k", .number (.float 1)), ("v", .int 3)]],
        (Value.object r).Storable) ∧
      Separates ⟨["k", "z"], [⟨"last", .last, some "v"⟩]⟩
        [[("k", .int 1), ("v", .int 2)], [("k", .number (.float 1)), ("v", .int 3)]] ∧
      ∃ out, apply ⟨["k", "z"], [⟨"last", .last, some "v"⟩]⟩ ", "
          [[("k", .int 1), ("v", .int 2)], [("k", .number (.float 1)), ("v", .int 3)]] = [out] ∧
        out.get? "last" = some (.int 3) ∧ out.get? "_count" = some (.int 2) := by
  have names : ([Aggregate.mk "last" .last (some "v")].map Aggregate.name).Nodup := by simp
  have storable : ∀ r ∈ [[("k", Value.int 1), ("v", .int 2)],
      [("k", .number (.float 1)), ("v", .int 3)]], (Value.object r).Storable := by
    have finite : (1 : Float).isFinite = true := by decide +kernel
    have short : "k".utf8ByteSize < Digest.lengthBound ∧ "v".utf8ByteSize < Digest.lengthBound := by
      decide
    have few : 2 < Digest.lengthBound := by decide
    simp [-Prod.forall, Value.storable_iff, Value.int, Record.Distinct, Record.keys,
      Number.WellFormed, finite, short, few]
  have separates : Separates ⟨["k", "z"], [⟨"last", .last, some "v"⟩]⟩
      [[("k", .int 1), ("v", .int 2)], [("k", .number (.float 1)), ("v", .int 3)]] := by
    have encoded : GroupKey.encodeValues [some (.int 1), none] =
        GroupKey.encodeValues [some (.number (.float 1)), none] := by decide +kernel
    intro r hr s hs _
    simp only [List.mem_cons, List.not_mem_nil, or_false] at hr hs
    rcases hr with rfl | rfl <;> rcases hs with rfl | rfl
    · rfl
    · exact encoded
    · exact encoded.symm
    · rfl
  refine ⟨names, storable, separates, ?_⟩
  obtain ⟨-, aggregates, counts⟩ := apply_partitions _ ", " _ names storable separates
  have alike : sameClass ⟨["k", "z"], [⟨"last", .last, some "v"⟩]⟩
      [("k", .int 1), ("v", .int 2)] [("k", .number (.float 1)), ("v", .int 3)] = true := by
    decide +kernel
  have self : sameClass ⟨["k", "z"], [⟨"last", .last, some "v"⟩]⟩
      [("k", .int 1), ("v", .int 2)] [("k", .int 1), ("v", .int 2)] = true := by
    decide +kernel
  have first : leaders (sameClass ⟨["k", "z"], [⟨"last", .last, some "v"⟩]⟩)
      [[("k", .int 1), ("v", .int 2)], [("k", .number (.float 1)), ("v", .int 3)]] =
      [[("k", .int 1), ("v", .int 2)]] := by
    simp [leaders, alike]
  have both : members ⟨["k", "z"], [⟨"last", .last, some "v"⟩]⟩
      [[("k", .int 1), ("v", .int 2)], [("k", .number (.float 1)), ("v", .int 3)]]
      [("k", .int 1), ("v", .int 2)] =
      [[("k", .int 1), ("v", .int 2)], [("k", .number (.float 1)), ("v", .int 3)]] := by
    simp [members, alike, self]
  rw [first] at aggregates counts
  obtain ⟨out, _, lasts, none_else, emitted⟩ := List.forall₂_cons_left_iff.mp aggregates
  rw [List.forall₂_nil_left_iff.mp none_else] at emitted
  obtain ⟨_, rfl, sizes, -⟩ := counts (by simp)
  refine ⟨out, emitted, ?_, ?_⟩
  · rw [lasts _ (List.mem_singleton_self _), both]
    rfl
  · simpa [emitted, both] using sizes

theorem get?_summary_path {members : List Record} {path : String} (h : path ∈ g.paths)
    (fresh : ∀ a ∈ g.aggregates, a.name ∉ g.paths) :
    (g.summary listSeparator members).get? path =
      some (if path = "_count" then .int members.length
        else (members.head?.bind fun r => r.resolve path).getD .null) := by
  have others : path ∉ g.aggregates.map Aggregate.name := by
    intro named
    obtain ⟨a, mem, rfl⟩ := List.mem_map.mp named
    exact fresh a mem h
  rw [get?_summary_of_notMem others, get?_heading h]
  by_cases count : path = "_count"
  · rw [if_pos count, if_pos count.symm]
  · rw [if_neg count, if_neg (Ne.symm count)]

/-- Each record of a grouping reads at a grouping path what the first record of its class reads
there, or null if that is absent. At `_count` it reads the size of the class, which is written after
the values at the paths. -/
theorem resolve_apply (g : Grouping) (listSeparator : String) (rs : List Record)
    (named : ∀ path ∈ g.paths, path ≠ "") (fresh : ∀ a ∈ g.aggregates, a.name ∉ g.paths) :
    List.Forall₂ (fun r out => ∀ path ∈ g.paths,
        out.resolve path = some (if path = "_count"
          then .int (rs.filter (sameKey g.key r)).length
          else (r.resolve path).getD .null))
      (leaders (sameKey g.key) rs) (g.apply listSeparator rs) := by
  rw [apply_eq, List.forall₂_map_right_iff, List.forall₂_same]
  intro r lead path mem
  refine Record.resolve_of_get? (named path mem) ?_
  rw [get?_summary_path mem fresh, head?_filter_sameKey g.key lead]
  rfl

theorem resolve_apply_nested :
    (∀ path ∈ ["a.b", "c"], path ≠ "") ∧
      (∀ a ∈ [Aggregate.mk "total" .count none], a.name ∉ ["a.b", "c"]) ∧
      ∃ out, apply ⟨["a.b", "c"], [⟨"total", .count, none⟩]⟩ ", "
          [[("a", .object [("b", .int 1)])]] = [out] ∧
        out.resolve "a.b" = some (.int 1) ∧ out.resolve "c" = some .null := by
  have named : ∀ path ∈ ["a.b", "c"], path ≠ "" := by decide
  have fresh : ∀ a ∈ [Aggregate.mk "total" .count none], a.name ∉ ["a.b", "c"] := by decide
  refine ⟨named, fresh, ?_⟩
  obtain ⟨out, _, reads, none_else, emitted⟩ := List.forall₂_cons_left_iff.mp
    (resolve_apply ⟨["a.b", "c"], [⟨"total", .count, none⟩]⟩ ", "
      [[("a", .object [("b", .int 1)])]] named fresh)
  rw [List.forall₂_nil_left_iff.mp none_else] at emitted
  refine ⟨out, emitted, ?_, ?_⟩
  · rw [reads "a.b" (by simp), if_neg (by decide)]
    rfl
  · rw [reads "c" (by simp), if_neg (by decide)]
    rfl

/-- A value at the path `_count` is lost: the size of the class has its name. -/
theorem count_path_unread :
    read (.string "_count") = .ok ⟨["_count"], []⟩ ∧
      (∀ path ∈ ["_count"], path ≠ "") ∧
      Record.resolve [("_count", .string "x")] "_count" = some (.string "x") ∧
      ∃ out, apply ⟨["_count"], []⟩ ", " [[("_count", .string "x")]] = [out] ∧
        out.resolve "_count" = some (.int 1) ∧ out.resolve "_count" ≠ some (.string "x") := by
  have one : apply ⟨["_count"], []⟩ ", " [[("_count", .string "x")]] =
      [[("_count", .int 1)]] := rfl
  refine ⟨rfl, by decide, rfl, _, one, rfl, ?_⟩
  intro same
  cases same

end Grouping

end Reshape
