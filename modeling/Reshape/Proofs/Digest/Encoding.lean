import Reshape.Digest.Encoding
import Reshape.Proofs.Value.Alike

/-!
# The encoding of keys is exact

Two values have the same encoding just when they are structurally equal, and two tuples just when
they have equal values, or none, at each place. Every part is led by its kind or its length, so that
an encoding can be cut off from the bytes that follow it: the `_append_inj` lemmas say so for each
part, and for fields because both records are encoded in the order of their names.
-/

namespace Reshape

namespace Digest

def lengthBound : Nat := 0x10000000000000000

end Digest

namespace Value

/-- No text, name, array or record in it is too long for its length to be written. -/
inductive Sized : Value → Prop
  | null : Sized .null
  | bool (b : Bool) : Sized (.bool b)
  | number (n : Number) : Sized (.number n)
  | string {s : String} (size : s.utf8ByteSize < Digest.lengthBound) : Sized (.string s)
  | array {items : List Value} (size : items.length < Digest.lengthBound)
      (inner : ∀ v ∈ items, Sized v) : Sized (.array items)
  | object {fields : Record} (size : fields.length < Digest.lengthBound)
      (names : ∀ field ∈ fields, field.1.utf8ByteSize < Digest.lengthBound)
      (inner : ∀ field ∈ fields, Sized field.2) : Sized (.object fields)

@[simp] theorem sized_null : null.Sized := .null

@[simp] theorem sized_bool (b : Bool) : (bool b).Sized := .bool b

@[simp] theorem sized_number (n : Number) : (number n).Sized := .number n

@[simp] theorem sized_string_iff {s : String} :
    (string s).Sized ↔ s.utf8ByteSize < Digest.lengthBound := by
  constructor
  · intro h
    cases h with
    | string size => exact size
  · exact .string

@[simp] theorem sized_array_iff {items : List Value} :
    (array items).Sized ↔ items.length < Digest.lengthBound ∧ ∀ v ∈ items, v.Sized := by
  constructor
  · intro h
    cases h with
    | array size inner => exact ⟨size, inner⟩
  · exact fun h => .array h.1 h.2

@[simp] theorem sized_object_iff {fields : Record} :
    (object fields).Sized ↔ fields.length < Digest.lengthBound ∧
      (∀ field ∈ fields, field.1.utf8ByteSize < Digest.lengthBound) ∧
      ∀ field ∈ fields, field.2.Sized := by
  constructor
  · intro h
    cases h with
    | object size names inner => exact ⟨size, names, inner⟩
  · exact fun h => .object h.1 h.2.1 h.2.2

structure Storable (v : Value) : Prop where
  wellFormed : v.WellFormed
  sized : v.Sized

theorem storable_iff {v : Value} : v.Storable ↔ v.WellFormed ∧ v.Sized :=
  ⟨fun h => ⟨h.wellFormed, h.sized⟩, fun h => ⟨h.1, h.2⟩⟩

end Value

def sameValue : Option Value → Option Value → Bool
  | none, none => true
  | some v, some w => structuralEq v w
  | _, _ => false

namespace Digest

variable {u u' : List UInt8}

/-! ## Parts of fixed length -/

@[simp] theorem length_littleEndian (count n : Nat) : (littleEndian count n).length = count := by
  induction count generalizing n with
  | zero => rfl
  | succ count ih => simp [littleEndian, ih]

theorem littleEndian_inj {count m n : Nat} (left : m < 256 ^ count) (right : n < 256 ^ count)
    (h : littleEndian count m = littleEndian count n) : m = n := by
  induction count generalizing m n with
  | zero =>
      simp only [Nat.pow_zero] at left right
      omega
  | succ count ih =>
      obtain ⟨low, high⟩ := List.cons.inj h
      have low : m % 256 = n % 256 := by simpa using congrArg UInt8.toNat low
      rw [Nat.pow_succ] at left right
      have high : m / 256 = n / 256 := ih (by omega) (by omega) high
      omega

theorem littleEndian_append_inj {count m n : Nat} (left : m < 256 ^ count) (right : n < 256 ^ count)
    (h : littleEndian count m ++ u = littleEndian count n ++ u') : m = n ∧ u = u' := by
  obtain ⟨bytes, rest⟩ := List.append_inj h (by simp)
  exact ⟨littleEndian_inj left right bytes, rest⟩

theorem encodeLength_append_inj {m n : Nat} (left : m < lengthBound) (right : n < lengthBound)
    (h : encodeLength m ++ u = encodeLength n ++ u') : m = n ∧ u = u' :=
  littleEndian_append_inj left right h

theorem toList_bytes_from (bytes : ByteArray) (i : Nat) (before : List UInt8) :
    ByteArray.toList.loop bytes i before = before.reverse ++ bytes.data.toList.drop i := by
  fun_induction ByteArray.toList.loop bytes i before with
  | case1 i before inside ih =>
      have inside : i < bytes.data.toList.length := by simpa using inside
      have byte : bytes.get! i = bytes.data.toList[i] := by
        simp only [ByteArray.get!, Array.getElem_toList]
        exact getElem!_pos bytes.data i (by simpa using inside)
      rw [ih, List.drop_eq_getElem_cons inside, byte]
      simp
  | case2 i before outside =>
      have outside : bytes.data.toList.length ≤ i := by simpa using outside
      simp [List.drop_eq_nil_of_le outside]

theorem toList_bytes (bytes : ByteArray) : bytes.toList = bytes.data.toList := by
  simp [ByteArray.toList, toList_bytes_from]

theorem encodeString_append_inj {s t : String} (left : s.utf8ByteSize < lengthBound)
    (right : t.utf8ByteSize < lengthBound) (h : encodeString s ++ u = encodeString t ++ u') :
    s = t ∧ u = u' := by
  simp only [encodeString, List.append_assoc] at h
  obtain ⟨size, h⟩ := encodeLength_append_inj left right h
  have length : s.toUTF8.toList.length = t.toUTF8.toList.length := by
    simpa [toList_bytes] using size
  obtain ⟨bytes, rest⟩ := List.append_inj h length
  rw [toList_bytes, toList_bytes] at bytes
  exact ⟨String.toByteArray_inj.mp (ByteArray.ext (Array.toList_inj.mp bytes)), rest⟩

/-! ## Numbers -/

theorem floatBits_lt (x : Float) : (if x == 0 then 0 else x.toBits.toNat) < 256 ^ 8 := by
  have bound : x.toBits.toNat < 256 ^ 8 := x.toBits.toNat_lt
  split
  · decide
  · exact bound

theorem encodeFloat_append_inj {x y : Float} (number : x ≠ Float.nan)
    (h : encodeFloat x ++ u = encodeFloat y ++ u') : (x == y) = true ∧ u = u' := by
  obtain ⟨bits, rest⟩ := littleEndian_append_inj (floatBits_lt x) (floatBits_lt y) h
  refine ⟨?_, rest⟩
  have zero_bits (z : Float) (h : z.toBits.toNat = 0) : (z == 0) = true :=
    Decimal.beq_zero_iff.mpr (.inl (UInt64.toNat_inj.mp h))
  by_cases zero : (x == 0) = true
  · rw [if_pos zero] at bits
    by_cases zero' : (y == 0) = true
    · exact BEq.trans zero (BEq.symm zero')
    · rw [if_neg zero'] at bits
      exact absurd (zero_bits y bits.symm) zero'
  · rw [if_neg zero] at bits
    by_cases zero' : (y == 0) = true
    · rw [if_pos zero'] at bits
      exact absurd (zero_bits x bits) zero
    · rw [if_neg zero'] at bits
      rw [Decimal.eq_of_toBits_eq (UInt64.toNat_inj.mp bits)] at number ⊢
      exact Float.beq_self_iff.mpr number

theorem encodeFloat_congr {x y : Float} (h : (x == y) = true) : encodeFloat x = encodeFloat y := by
  rcases Decimal.eq_or_isZero_of_beq h with rfl | ⟨zero, zero'⟩
  · rfl
  · rw [encodeFloat, encodeFloat, if_pos (Decimal.beq_zero_iff.mpr zero),
      if_pos (Decimal.beq_zero_iff.mpr zero')]

end Digest

theorem Number.WellFormed.toFloat_ne_nan {n : Number} (h : n.WellFormed) : n.toFloat ≠ Float.nan := by
  cases n with
  | int n => exact Decimal.ofInt_ne_nan n
  | float x => exact Decimal.ne_nan_of_isFinite h

namespace Digest

variable {u u' : List UInt8}

/-! ## Sequences -/

theorem flatMap_append_inj {α : Type} {encoding : α → List UInt8} {R : α → α → Prop} {xs ys : List α}
    (length : xs.length = ys.length)
    (item : ∀ x ∈ xs, ∀ y ∈ ys, ∀ u u', encoding x ++ u = encoding y ++ u' → R x y ∧ u = u')
    (h : xs.flatMap encoding ++ u = ys.flatMap encoding ++ u') : List.Forall₂ R xs ys ∧ u = u' := by
  induction xs generalizing ys with
  | nil =>
      cases ys with
      | nil => exact ⟨.nil, h⟩
      | cons y ys => cases length
  | cons x xs ih =>
      cases ys with
      | nil => cases length
      | cons y ys =>
          simp only [List.flatMap_cons, List.append_assoc] at h
          obtain ⟨first, h⟩ := item x (by simp) y (by simp) _ _ h
          obtain ⟨rest, h⟩ := ih (by simpa using length)
            (fun x mem y mem' => item x (by simp [mem]) y (by simp [mem'])) h
          exact ⟨.cons first rest, h⟩

theorem flatMap_congr {α : Type} {encoding : α → List UInt8} {xs ys : List α}
    (h : List.Forall₂ (fun x y => encoding x = encoding y) xs ys) :
    xs.flatMap encoding = ys.flatMap encoding := by
  induction h with
  | nil => rfl
  | cons first _ ih => rw [List.flatMap_cons, List.flatMap_cons, first, ih]

theorem encodeItems_eq (items : List Value) : encodeItems items = items.flatMap encodeValue := by
  induction items with
  | nil => rfl
  | cons item rest ih => rw [encodeItems, ih, List.flatMap_cons]

/-! ## Fields in the order of their names -/

def encodeField (field : String × Value) : List UInt8 :=
  encodeString field.1 ++ encodeValue field.2

def byName (r : Record) : Record :=
  r.mergeSort fun a b => decide (a.1 ≤ b.1)

theorem byName_perm (r : Record) : (byName r).Perm r :=
  List.mergeSort_perm ..

theorem encodeFields_eq (r : Record) :
    encodeFields r = r.map fun field => (field.1, encodeValue field.2) := by
  induction r with
  | nil => rfl
  | cons field rest ih =>
      obtain ⟨name, v⟩ := field
      rw [encodeFields, ih, List.map_cons]

theorem encodeSorted_encodeFields (r : Record) :
    encodeSorted (encodeFields r) = encodeLength r.length ++ (byName r).flatMap encodeField := by
  have sorted : (byName r).map (fun field => (field.1, encodeValue field.2)) =
      (r.map fun field => (field.1, encodeValue field.2)).mergeSort fun a b => decide (a.1 ≤ b.1) :=
    List.map_mergeSort fun _ _ _ _ => rfl
  rw [encodeSorted, encodeFields_eq, ← sorted, List.length_map, List.flatMap_map]
  rfl

theorem keys_byName {r s : Record} (h : r.keys.Perm s.keys) : (byName r).keys = (byName s).keys := by
  have sorted (r : Record) : (byName r).keys.Pairwise (· ≤ ·) := by
    refine List.pairwise_map.mpr ((List.pairwise_mergeSort ?_ ?_ r).imp of_decide_eq_true)
    · intro a b c le le'
      exact decide_eq_true (String.le_trans (of_decide_eq_true le) (of_decide_eq_true le'))
    · intro a b
      simpa using String.le_total a.1 b.1
  have perm : (byName r).keys.Perm (byName s).keys :=
    ((byName_perm r).map Prod.fst).trans (h.trans ((byName_perm s).map Prod.fst).symm)
  exact perm.eq_of_pairwise (fun _ _ _ _ => String.le_antisymm) (sorted r) (sorted s)

theorem encodeField_append_inj {f g : String × Value} (left : f.1.utf8ByteSize < lengthBound)
    (right : g.1.utf8ByteSize < lengthBound)
    (value : ∀ u u', encodeValue f.2 ++ u = encodeValue g.2 ++ u' →
      structuralEq f.2 g.2 = true ∧ u = u')
    (h : encodeField f ++ u = encodeField g ++ u') :
    (f.1 = g.1 ∧ structuralEq f.2 g.2 = true) ∧ u = u' := by
  simp only [encodeField, List.append_assoc] at h
  obtain ⟨name, h⟩ := encodeString_append_inj left right h
  obtain ⟨equal, rest⟩ := value _ _ h
  exact ⟨⟨name, equal⟩, rest⟩

theorem structuralEq_object {r s : Record} (names : s.Distinct)
    (h : List.Forall₂ (fun f g => f.1 = g.1 ∧ structuralEq f.2 g.2 = true) (byName r) (byName s)) :
    structuralEq (.object r) (.object s) = true := by
  have length : r.length = s.length :=
    (byName_perm r).length_eq.symm.trans (h.length_eq.trans (byName_perm s).length_eq)
  simp only [structuralEq, Bool.and_eq_true, beq_iff_eq, structuralEqFields_iff]
  refine ⟨length, fun field mem => ?_⟩
  obtain ⟨i, bound, rfl⟩ := List.getElem_of_mem ((byName_perm r).mem_iff.mpr mem)
  have bound' : i < (byName s).length := h.length_eq ▸ bound
  obtain ⟨name, equal⟩ := h.get bound bound'
  refine ⟨(byName s)[i].2, ?_, equal⟩
  have mem' : (byName s)[i] ∈ s := (byName_perm s).mem_iff.mp (List.getElem_mem bound')
  have name : (byName r)[i].1 = (byName s)[i].1 := name
  rw [name]
  exact Record.get?_of_mem names mem'

theorem encodeValue_append_inj {v w : Value} (left : v.Storable) (right : w.Storable)
    (h : encodeValue v ++ u = encodeValue w ++ u') : structuralEq v w = true ∧ u = u' := by
  obtain ⟨formed, sized⟩ := left
  -- The bytes behind the value stay general: those of an item are the items that follow it.
  induction sized generalizing w u u' with
  | null =>
      cases w with
      | null => simpa [encodeValue, structuralEq] using h
      | _ => simp [encodeValue] at h
  | bool b =>
      cases w with
      | bool c => cases b <;> cases c <;> simp_all [encodeValue, structuralEq]
      | _ => simp [encodeValue] at h
  | number m =>
      cases w with
      | number n =>
          have number := (Value.wellFormed_number_iff.mp formed).toFloat_ne_nan
          simp only [encodeValue, List.cons_append, List.cons.injEq, true_and] at h
          simpa only [structuralEq] using encodeFloat_append_inj number h
      | _ => simp [encodeValue] at h
  | @string s size =>
      cases right.sized with
      | @string t size' =>
          simp only [encodeValue, List.cons_append, List.cons.injEq, true_and] at h
          simpa [structuralEq] using encodeString_append_inj size size' h
      | _ => simp [encodeValue] at h
  | @array xs size _ ih =>
      cases right.sized with
      | @array ys size' inner =>
          simp only [encodeValue, List.cons_append, List.cons.injEq, true_and, List.append_assoc,
            encodeItems_eq] at h
          obtain ⟨length, h⟩ := encodeLength_append_inj size size' h
          have formed := Value.wellFormed_array_iff.mp formed
          have formed' := Value.wellFormed_array_iff.mp right.wellFormed
          simp only [structuralEq, structuralEqItems_iff]
          refine flatMap_append_inj length (fun x mem y mem' _ _ h => ?_) h
          exact ih x mem ⟨formed' y mem', inner y mem'⟩ h (formed x mem)
      | _ => simp [encodeValue] at h
  | @object r size names _ ih =>
      cases right.sized with
      | @object s size' names' inner =>
          simp only [encodeValue, List.cons_append, List.cons.injEq, true_and, List.append_assoc,
            encodeSorted_encodeFields] at h
          obtain ⟨length, h⟩ := encodeLength_append_inj size size' h
          have formed := Value.wellFormed_object_iff.mp formed
          have formed' := Value.wellFormed_object_iff.mp right.wellFormed
          have sorted : (byName r).length = (byName s).length :=
            (byName_perm r).length_eq.trans (length.trans (byName_perm s).length_eq.symm)
          -- The sorted fields are not parts of the record, but the induction reaches each of them.
          have field (f) (mem : f ∈ byName r) (g) (mem' : g ∈ byName s) (u u' : List UInt8)
              (h : encodeField f ++ u = encodeField g ++ u') :
              (f.1 = g.1 ∧ structuralEq f.2 g.2 = true) ∧ u = u' := by
            have mem := (byName_perm r).mem_iff.mp mem
            have mem' := (byName_perm s).mem_iff.mp mem'
            refine encodeField_append_inj (names f mem) (names' g mem') (fun _ _ h => ?_) h
            exact ih f mem ⟨formed'.2 g mem', inner g mem'⟩ h (formed.2 f mem)
          obtain ⟨fields, rest⟩ := flatMap_append_inj sorted field h
          exact ⟨structuralEq_object formed'.1 fields, rest⟩
      | _ => simp [encodeValue] at h

/-! ## Equal values -/

theorem forall₂_byName {r s : Record} (left : r.Distinct) (right : s.Distinct)
    (h : structuralEq (.object r) (.object s) = true) :
    List.Forall₂ (fun f g => f.1 = g.1 ∧ structuralEq f.2 g.2 = true) (byName r) (byName s) := by
  simp only [structuralEq, Bool.and_eq_true, beq_iff_eq] at h
  obtain ⟨length, fields⟩ := h
  have covered := Record.keys_subset_of_structuralEqFields fields
  have keys := keys_byName (Record.keys_perm_of_subset left length covered)
  have sorted : (byName r).length = (byName s).length := by
    simpa [Record.keys] using congrArg List.length keys
  refine List.forall₂_iff_get.mpr ⟨sorted, fun i bound bound' => ?_⟩
  have name : (byName r)[i].1 = (byName s)[i].1 := by
    have same := List.getElem_of_eq keys (i := i) (by simpa [Record.keys] using bound)
    simpa [Record.keys] using same
  have mem : (byName r)[i] ∈ r := (byName_perm r).mem_iff.mp (List.getElem_mem bound)
  have mem' : (byName s)[i] ∈ s := (byName_perm s).mem_iff.mp (List.getElem_mem bound')
  obtain ⟨y, found, equal⟩ := structuralEqFields_iff.mp fields _ mem
  have found' : s.get? (byName s)[i].1 = some (byName s)[i].2 := Record.get?_of_mem right mem'
  rw [name, found'] at found
  obtain rfl := Option.some.inj found
  exact ⟨name, equal⟩

theorem encodeValue_congr {v w : Value} (left : v.WellFormed) (right : w.WellFormed)
    (h : structuralEq v w = true) : encodeValue v = encodeValue w := by
  induction left generalizing w with
  | null =>
      cases w with
      | null => rfl
      | _ => simp [structuralEq] at h
  | bool b =>
      cases w with
      | bool c =>
          obtain rfl : b = c := by simpa [structuralEq] using h
          rfl
      | _ => simp [structuralEq] at h
  | @number m _ =>
      cases w with
      | number n =>
          have equal : (m.toFloat == n.toFloat) = true := by simpa only [structuralEq] using h
          rw [encodeValue, encodeValue, encodeFloat_congr equal]
      | _ => simp [structuralEq] at h
  | string s =>
      cases w with
      | string t =>
          obtain rfl : s = t := by simpa [structuralEq] using h
          rfl
      | _ => simp [structuralEq] at h
  | @array xs _ ih =>
      cases right with
      | @array ys inner =>
          have items := structuralEqItems_iff.mp (by simpa only [structuralEq] using h)
          obtain ⟨length, equal⟩ := List.forall₂_iff_zip.mp items
          rw [encodeValue, encodeValue, length, encodeItems_eq, encodeItems_eq, flatMap_congr]
          refine List.forall₂_iff_zip.mpr ⟨length, fun {x y} pair => ?_⟩
          obtain ⟨mem, mem'⟩ := List.of_mem_zip pair
          exact ih x mem (inner y mem') (equal pair)
      | _ => simp [structuralEq] at h
  | @object r names _ ih =>
      cases right with
      | @object s names' inner =>
          have fields := forall₂_byName names names' h
          have length : r.length = s.length :=
            (byName_perm r).length_eq.symm.trans (fields.length_eq.trans (byName_perm s).length_eq)
          rw [encodeValue, encodeValue, encodeSorted_encodeFields, encodeSorted_encodeFields, length,
            flatMap_congr]
          obtain ⟨sorted, equal⟩ := List.forall₂_iff_zip.mp fields
          refine List.forall₂_iff_zip.mpr ⟨sorted, fun {f g} pair => ?_⟩
          obtain ⟨mem, mem'⟩ := List.of_mem_zip pair
          obtain ⟨name, equal⟩ := equal pair
          rw [encodeField, encodeField, name, ih f ((byName_perm r).mem_iff.mp mem)
            (inner g ((byName_perm s).mem_iff.mp mem')) equal]
      | _ => simp [structuralEq] at h

/-! ## Values that may be absent -/

theorem encode_append_inj {a b : Option Value} (left : ∀ v, a = some v → v.Storable)
    (right : ∀ w, b = some w → w.Storable) (h : encode a ++ u = encode b ++ u') :
    sameValue a b = true ∧ u = u' := by
  -- No kind of a value is zero, which stands for its absence.
  have present (v : Value) (u u' : List UInt8) : encodeValue v ++ u ≠ 0 :: u' := by
    cases v <;> simp [encodeValue]
  cases a with
  | none =>
      cases b with
      | none => simpa [encode, sameValue] using h
      | some w => exact absurd h.symm (present w u' u)
  | some v =>
      cases b with
      | none => exact absurd h (present v u u')
      | some w => exact encodeValue_append_inj (left v rfl) (right w rfl) h

theorem encode_congr {a b : Option Value} (left : ∀ v, a = some v → v.WellFormed)
    (right : ∀ w, b = some w → w.WellFormed) (h : sameValue a b = true) : encode a = encode b := by
  cases a with
  | none =>
      cases b with
      | none => rfl
      | some w => simp [sameValue] at h
  | some v =>
      cases b with
      | none => simp [sameValue] at h
      | some w => exact encodeValue_congr (left v rfl) (right w rfl) h

end Digest

namespace GroupKey

def Storable (values : List (Option Value)) : Prop :=
  ∀ v, some v ∈ values → v.Storable

theorem flatMap_encode_eq_iff {xs ys : List (Option Value)} (length : xs.length = ys.length)
    (left : Storable xs) (right : Storable ys) :
    xs.flatMap Digest.encode = ys.flatMap Digest.encode ↔
      List.Forall₂ (fun a b => sameValue a b = true) xs ys := by
  constructor
  · intro h
    have ended : xs.flatMap Digest.encode ++ [] = ys.flatMap Digest.encode ++ [] := by rw [h]
    refine (Digest.flatMap_append_inj length (fun a mem b mem' u u' h => ?_) ended).1
    exact Digest.encode_append_inj (fun v same => left v (same ▸ mem))
      (fun w same => right w (same ▸ mem')) h
  · intro h
    obtain ⟨_, equal⟩ := List.forall₂_iff_zip.mp h
    refine Digest.flatMap_congr (List.forall₂_iff_zip.mpr ⟨length, fun {a b} pair => ?_⟩)
    obtain ⟨mem, mem'⟩ := List.of_mem_zip pair
    exact Digest.encode_congr (fun v same => (left v (same ▸ mem)).wellFormed)
      (fun w same => (right w (same ▸ mem')).wellFormed) (equal pair)

theorem encodeValues_eq_iff {xs ys : List (Option Value)} (size : xs.length < Digest.lengthBound)
    (size' : ys.length < Digest.lengthBound) (left : Storable xs) (right : Storable ys) :
    encodeValues xs = encodeValues ys ↔ List.Forall₂ (fun a b => sameValue a b = true) xs ys := by
  constructor
  · intro h
    obtain ⟨length, values⟩ := Digest.encodeLength_append_inj size size' h
    exact (flatMap_encode_eq_iff length left right).mp values
  · intro h
    rw [encodeValues, encodeValues, h.length_eq,
      (flatMap_encode_eq_iff h.length_eq left right).mpr h]

theorem encodeRecord_eq_iff {r s : Record} (left : (Value.object r).Storable)
    (right : (Value.object s).Storable) :
    encodeRecord r = encodeRecord s ↔ structuralEq (.object r) (.object s) = true := by
  constructor
  · intro h
    have ended : encodeRecord r ++ [] = encodeRecord s ++ [] := by rw [h]
    exact (Digest.encodeValue_append_inj left right ended).1
  · exact Digest.encodeValue_congr left.wellFormed right.wellFormed

/-- The bytes of two tuples are equal just when the tuples have the same values at each place, and
those of two records just when the records are structurally equal. -/
theorem encode_eq_iff :
    (∀ xs ys : List (Option Value), xs.length < Digest.lengthBound →
      ys.length < Digest.lengthBound → Storable xs → Storable ys →
      (encodeValues xs = encodeValues ys ↔
        List.Forall₂ (fun a b => sameValue a b = true) xs ys)) ∧
    ∀ r s : Record, (Value.object r).Storable → (Value.object s).Storable →
      (encodeRecord r = encodeRecord s ↔ structuralEq (.object r) (.object s) = true) :=
  ⟨fun _ _ size size' left right => encodeValues_eq_iff size size' left right,
    fun _ _ left right => encodeRecord_eq_iff left right⟩

theorem encode_eq_iff_respelled :
    Storable [none, some (.object [("a", .int 1), ("b", .array [.bool true, .string "x"])])] ∧
      Storable [none, some (.object [("b", .array [.bool true, .string "x"]),
        ("a", .number (.float 1))])] ∧
      encodeValues [none, some (.object [("a", .int 1), ("b", .array [.bool true, .string "x"])])] =
        encodeValues [none, some (.object [("b", .array [.bool true, .string "x"]),
          ("a", .number (.float 1))])] ∧
      Storable [some .null] ∧ encodeValues [none] ≠ encodeValues [some .null] := by
  have finite : (1 : Float).isFinite = true := by decide +kernel
  have short : "a".utf8ByteSize < Digest.lengthBound ∧ "b".utf8ByteSize < Digest.lengthBound ∧
      "x".utf8ByteSize < Digest.lengthBound := by decide
  have few : 2 < Digest.lengthBound := by decide
  have left : Storable [none, some (.object [("a", .int 1),
      ("b", .array [.bool true, .string "x"])])] := by
    simp [-Prod.forall, Storable, Value.storable_iff, Value.int, Record.Distinct, Record.keys,
      Number.WellFormed, short, few]
  have right : Storable [none, some (.object [("b", .array [.bool true, .string "x"]),
      ("a", .number (.float 1))])] := by
    simp [-Prod.forall, Storable, Value.storable_iff, Record.Distinct, Record.keys,
      Number.WellFormed, finite, short, few]
  have null : Storable [some .null] := by
    simp [Storable, Value.storable_iff]
  have equal : List.Forall₂ (fun a b => sameValue a b = true)
      [none, some (.object [("a", .int 1), ("b", .array [.bool true, .string "x"])])]
      [none, some (.object [("b", .array [.bool true, .string "x"]), ("a", .number (.float 1))])] :=
    .cons (by decide) (.cons (by decide +kernel) .nil)
  refine ⟨left, right, ?_, null, fun same => ?_⟩
  · exact (encode_eq_iff.1 _ _ (by decide) (by decide) left right).mpr equal
  · have same := (encode_eq_iff.1 _ _ (by decide) (by decide) (by simp [Storable]) null).mp same
    cases same with
    | cons first _ => exact absurd first (by decide)

end GroupKey

end Reshape
