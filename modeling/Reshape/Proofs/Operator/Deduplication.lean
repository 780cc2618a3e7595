import Reshape.Operator.Action
import Reshape.Proofs.Operator.Grouping

namespace Reshape

variable {κ α : Type}

def firsts (same : α → α → Bool) (items : List α) : List (α × Nat) :=
  items.zipIdx.filter fun entry => !(items.take entry.2).any (same · entry.1)

section

variable {same same' : α → α → Bool}

theorem mem_firsts {items : List α} {a : α} {n : Nat} :
    (a, n) ∈ firsts same items ↔ items[n]? = some a ∧ ∀ b ∈ items.take n, same b a = false := by
  simp [firsts, List.mem_zipIdx_iff_getElem?]

theorem firsts_append_singleton (items : List α) (x : α) :
    firsts same (items ++ [x]) =
      firsts same items ++ if items.any (same · x) then [] else [(x, items.length)] := by
  have front : items.zipIdx.filter (fun entry =>
      !((items ++ [x]).take entry.2).any (same · entry.1)) = firsts same items := by
    refine List.filter_congr fun entry mem => ?_
    have inside : entry.2 < items.length :=
      (List.getElem?_eq_some_iff.mp (List.mem_zipIdx_iff_getElem?.mp mem)).1
    rw [List.take_append_of_le_length (Nat.le_of_lt inside)]
  have last : [x].zipIdx (0 + items.length) = [(x, items.length)] := by simp
  rw [firsts, List.zipIdx_append, List.filter_append, front, last]
  by_cases earlier : items.any (same · x) = true <;> simp [earlier]

theorem map_fst_firsts (items : List α) :
    (firsts same items).map Prod.fst = leaders same items := by
  induction items using List.reverseRecOn with
  | nil => rfl
  | append_singleton items x ih =>
      rw [firsts_append_singleton, leaders_append_singleton, List.map_append, ih]
      split <;> rfl

theorem firsts_congr {items : List α} (h : ∀ a ∈ items, ∀ b ∈ items, same a b = same' a b) :
    firsts same items = firsts same' items := by
  refine List.filter_congr fun entry mem => ?_
  have here : entry.1 ∈ items := List.mem_of_getElem? (List.mem_zipIdx_iff_getElem?.mp mem)
  congr 1
  rw [Bool.eq_iff_iff, List.any_eq_true, List.any_eq_true]
  refine exists_congr fun b => and_congr_right fun earlier => ?_
  rw [h b (List.mem_of_mem_take earlier) entry.1 here]

theorem leaders_eq_self {items : List α} (h : items.Pairwise fun a b => same a b = false) :
    leaders same items = items := by
  induction items with
  | nil => rfl
  | cons a rest ih =>
      obtain ⟨others, later⟩ := List.pairwise_cons.mp h
      rw [leaders, ih later, List.filter_eq_self.mpr fun b mem => by rw [others b mem]; rfl]

end

section

variable [BEq κ] [LawfulBEq κ] (key : α → κ)

theorem exists_first {items : List α} {n : Nat} {b : α} (h : items[n]? = some b) :
    ∃ a m, (a, m) ∈ firsts (sameKey key) items ∧ m ≤ n ∧ key a = key b := by
  induction n using Nat.strongRecOn generalizing b with
  | ind n ih =>
      by_cases first : ∀ a ∈ items.take n, sameKey key a b = false
      · exact ⟨b, n, mem_firsts.mpr ⟨h, first⟩, Nat.le_refl n, rfl⟩
      · -- An earlier item has the key, and so has the first of those before that one.
        simp only [not_forall, Bool.not_eq_false] at first
        obtain ⟨c, mem, same⟩ := first
        obtain ⟨l, before, rfl⟩ := List.mem_take_iff_getElem.mp mem
        obtain ⟨before, inside⟩ := Nat.lt_min.mp before
        obtain ⟨a, m, kept, earlier, equal⟩ := ih l before (List.getElem?_eq_getElem inside)
        exact ⟨a, m, kept, Nat.le_trans earlier (Nat.le_of_lt before),
          equal.trans (eq_of_beq same)⟩

theorem any_leaders (items : List α) (x : α) :
    (leaders (sameKey key) items).any (sameKey key · x) = items.any (sameKey key · x) := by
  rw [Bool.eq_iff_iff, List.any_eq_true, List.any_eq_true]
  constructor
  · rintro ⟨a, mem, same⟩
    exact ⟨a, (leaders_sublist items).mem mem, same⟩
  · rintro ⟨b, mem, same⟩
    obtain ⟨a, lead, equal⟩ := exists_leader key mem
    exact ⟨a, lead, beq_iff_eq.mpr (equal.trans (eq_of_beq same))⟩

theorem eraseDupsBy_loop (seen rest : List α) :
    List.eraseDupsBy.loop (fun a b : κ × α => a.1 == b.1) (rest.map fun a => (key a, a))
        ((leaders (sameKey key) seen).map fun a => (key a, a)).reverse =
      (leaders (sameKey key) (seen ++ rest)).map fun a => (key a, a) := by
  -- The loop has kept the leaders of the items behind it, the last one on top.
  induction rest generalizing seen with
  | nil => simp [List.eraseDupsBy.loop]
  | cons x rest ih =>
      have met : ((leaders (sameKey key) seen).map fun a => (key a, a)).reverse.any
          (fun b => key x == b.1) = seen.any (sameKey key · x) := by
        rw [← any_leaders, List.any_reverse, List.any_map]
        exact congrArg (List.any _) (funext fun a => BEq.comm)
      have next := ih (seen ++ [x])
      rw [List.append_assoc, List.singleton_append, leaders_append_singleton] at next
      rw [List.map_cons, List.eraseDupsBy.loop, met]
      by_cases earlier : seen.any (sameKey key · x) = true
      · simpa [earlier] using next
      · simpa [earlier] using next

theorem eraseDupsBy_key (items : List α) :
    ((items.map fun a => (key a, a)).eraseDupsBy fun a b => a.1 == b.1).map Prod.snd =
      leaders (sameKey key) items := by
  have kept := eraseDupsBy_loop key [] items
  simp only [leaders, List.map_nil, List.reverse_nil, List.nil_append] at kept
  rw [List.eraseDupsBy, kept, List.map_map]
  exact List.map_id _

end

namespace Identity

def same (i : Identity) (r s : Record) : Bool :=
  match i with
  | paths ps => ps.all fun path => sameValue (r.resolve path) (s.resolve path)
  | whole => structuralEq (.object r) (.object s)

def encoding (i : Identity) (r : Record) : List UInt8 :=
  match i with
  | paths ps => GroupKey.encodeValues (ps.map r.resolve)
  | whole => GroupKey.encodeRecord r

/-- Of a sequence, only records whose keys are encoded alike have one key. -/
def Separates (i : Identity) (rs : List Record) : Prop :=
  ∀ r ∈ rs, ∀ s ∈ rs, i.key r = i.key s → i.encoding r = i.encoding s

variable {i : Identity} {rs : List Record}

theorem sameKey_eq_same (storable : ∀ r ∈ rs, (Value.object r).Storable)
    (separates : i.Separates rs) {r s : Record} (hr : r ∈ rs) (hs : s ∈ rs) :
    sameKey i.key r s = i.same r s := by
  cases i with
  | paths ps => exact Grouping.sameKey_eq_sameClass (g := ⟨ps, []⟩) storable separates hr hs
  | whole =>
      have encoded := GroupKey.encodeRecord_eq_iff (storable r hr) (storable s hs)
      rw [Bool.eq_iff_iff, same, ← encoded, sameKey, beq_iff_eq]
      constructor
      · exact separates r hr s hs
      · intro alike
        exact congrArg (fun bytes => GroupKey.mk (Digest.ofBytes bytes)) alike

theorem distinct_eq (i : Identity) (rs : List Record) :
    i.distinct rs = leaders (sameKey i.key) rs :=
  eraseDupsBy_key i.key rs

theorem distinct_distinct (i : Identity) (rs : List Record) :
    i.distinct (i.distinct rs) = i.distinct rs := by
  rw [distinct_eq, distinct_eq]
  exact leaders_eq_self (pairwise_leaders rs)

theorem apply_eq (i : Identity) (context : Context) (rs : List Record) :
    (Operator.distinct i).apply context (.many rs) = .ok (.many (i.distinct rs), []) := rfl

/-- Of a sequence `distinct` keeps the records before which no record has the same values, so no two
of them have. Each record stands behind one that is kept and has its values, or is kept itself. The
records that are kept are all kept the next time. -/
theorem apply_distinct (i : Identity) (context : Context) (rs : List Record)
    (storable : ∀ r ∈ rs, (Value.object r).Storable) (separates : i.Separates rs) :
    ∃ out, (Operator.distinct i).apply context (.many rs) = .ok (.many out, []) ∧
      out = (firsts i.same rs).map Prod.fst ∧
      (out.Pairwise fun r s => i.same r s = false) ∧
      (∀ n s, rs[n]? = some s → ∃ r m, (r, m) ∈ firsts i.same rs ∧ m ≤ n ∧ i.same r s = true) ∧
      (Operator.distinct i).apply context (.many out) = .ok (.many out, []) := by
  have agree : ∀ r ∈ rs, ∀ s ∈ rs, sameKey i.key r s = i.same r s :=
    fun _ hr _ hs => sameKey_eq_same storable separates hr hs
  have kept : i.distinct rs = leaders i.same rs := (distinct_eq i rs).trans (leaders_congr agree)
  refine ⟨i.distinct rs, apply_eq i context rs, ?_, ?_, fun n s found => ?_, ?_⟩
  · rw [kept, map_fst_firsts]
  · rw [kept]
    exact pairwise_leaders rs
  · obtain ⟨r, m, first, earlier, equal⟩ := exists_first i.key found
    have mem : r ∈ rs := List.mem_of_getElem? (mem_firsts.mp first).1
    refine ⟨r, m, firsts_congr agree ▸ first, earlier, ?_⟩
    rw [← agree r mem s (List.mem_of_getElem? found)]
    exact beq_iff_eq.mpr equal
  · rw [apply_eq, distinct_distinct]

theorem apply_distinct_respelled :
    let rs : List Record :=
      [[("a", .int 1), ("b", .bool true)], [("b", .bool true), ("a", .number (.float 1))]]
    (∀ r ∈ rs, (Value.object r).Storable) ∧ whole.Separates rs ∧
      ∀ context, (Operator.distinct .whole).apply context (.many rs) =
        .ok (.many [[("a", .int 1), ("b", .bool true)]], []) := by
  intro rs
  have storable : ∀ r ∈ rs, (Value.object r).Storable := by
    have finite : (1 : Float).isFinite = true := by decide +kernel
    have short : "a".utf8ByteSize < Digest.lengthBound ∧ "b".utf8ByteSize < Digest.lengthBound := by
      decide
    have few : 2 < Digest.lengthBound := by decide
    simp [rs, -Prod.forall, Value.storable_iff, Value.int, Record.Distinct, Record.keys,
      Number.WellFormed, finite, short, few]
  have alike : structuralEq (.object [("a", .int 1), ("b", .bool true)])
      (.object [("b", .bool true), ("a", .number (.float 1))]) = true := by decide +kernel
  have encoded : GroupKey.encodeRecord [("a", .int 1), ("b", .bool true)] =
      GroupKey.encodeRecord [("b", .bool true), ("a", .number (.float 1))] :=
    (GroupKey.encodeRecord_eq_iff (storable _ (by simp [rs])) (storable _ (by simp [rs]))).mpr alike
  have separates : whole.Separates rs := by
    intro r hr s hs _
    simp only [rs, List.mem_cons, List.not_mem_nil, or_false] at hr hs
    rcases hr with rfl | rfl <;> rcases hs with rfl | rfl
    · rfl
    · exact encoded
    · exact encoded.symm
    · rfl
  refine ⟨storable, separates, fun context => ?_⟩
  obtain ⟨out, applied, kept, -, -, -⟩ := apply_distinct whole context rs storable separates
  have first : out = [[("a", .int 1), ("b", .bool true)]] := by
    simp [kept, firsts, rs, same, alike]
  rw [applied, first]

end Identity

namespace Grouping

/-- `group` gives one record for each that `distinct` keeps by the same paths, and under each path
as a name it holds what the kept record has there, or null. A name that the size of the class or an
aggregate takes is theirs. -/
theorem apply_beside_distinct (g : Grouping) (context : Context) (rs : List Record) :
    ∃ kept groups,
      (Operator.distinct (.paths g.paths)).apply context (.many rs) = .ok (.many kept, []) ∧
      (Operator.group g).apply context (.many rs) = .ok (.many groups, []) ∧
      groups.length = kept.length ∧
      List.Forall₂ (fun r out => ∀ path ∈ g.paths, path ≠ "_count" →
          path ∉ g.aggregates.map Aggregate.name →
          out.get? path = some ((r.resolve path).getD .null))
        kept groups := by
  refine ⟨_, _, Identity.apply_eq _ context rs, rfl, ?_, ?_⟩
  · rw [Identity.distinct_eq, apply_eq, List.length_map]
    rfl
  · rw [Identity.distinct_eq, apply_eq, List.forall₂_map_right_iff]
    refine List.forall₂_same.mpr fun r lead path mem count fresh => ?_
    have first : (rs.filter (sameKey g.key r)).head? = some r := head?_filter_sameKey g.key lead
    rw [get?_summary_of_notMem fresh, if_neg (Ne.symm count), get?_heading mem, first]
    rfl

theorem apply_beside_distinct_nested :
    let g : Grouping := ⟨["a.b", "c"], [⟨"total", .count, none⟩]⟩
    let rs : List Record := [[("a", .object [("b", .int 1)])], [("n", .int 2), ("a.b", .int 1)]]
    (∀ path ∈ g.paths, path ≠ "_count" ∧ path ∉ g.aggregates.map Aggregate.name) ∧
      ∀ context, ∃ out,
        (Operator.distinct (.paths g.paths)).apply context (.many rs) =
          .ok (.many [[("a", .object [("b", .int 1)])]], []) ∧
        (Operator.group g).apply context (.many rs) = .ok (.many [out], []) ∧
        out.get? "a.b" = some (.int 1) ∧ out.get? "c" = some .null := by
  intro g rs
  have free : ∀ path ∈ g.paths, path ≠ "_count" ∧ path ∉ g.aggregates.map Aggregate.name := by
    decide
  refine ⟨free, fun context => ?_⟩
  have one : (Identity.paths g.paths).distinct rs = [[("a", .object [("b", .int 1)])]] := by
    have values : g.paths.map (Record.resolve [("a", .object [("b", .int 1)])]) =
        g.paths.map (Record.resolve [("n", .int 2), ("a.b", .int 1)]) := rfl
    have alike : sameKey (Identity.paths g.paths).key [("a", .object [("b", .int 1)])]
        [("n", .int 2), ("a.b", .int 1)] = true := by
      rw [sameKey, Identity.key, Identity.key, values, beq_self_eq_true]
    simp [Identity.distinct_eq, leaders, rs, alike]
  obtain ⟨kept, groups, keeps, grouped, -, beside⟩ := apply_beside_distinct g context rs
  obtain rfl : [[("a", .object [("b", .int 1)])]] = kept := by
    rw [Identity.apply_eq, one] at keeps
    simpa using keeps
  obtain ⟨out, _, reads, none_else, rfl⟩ := List.forall₂_cons_left_iff.mp beside
  obtain rfl := List.forall₂_nil_left_iff.mp none_else
  have nested : "a.b" ∈ g.paths := by decide
  have missing : "c" ∈ g.paths := by decide
  refine ⟨out, keeps, grouped, ?_, ?_⟩
  · exact reads "a.b" nested (free _ nested).1 (free _ nested).2
  · exact reads "c" missing (free _ missing).1 (free _ missing).2

end Grouping

end Reshape
