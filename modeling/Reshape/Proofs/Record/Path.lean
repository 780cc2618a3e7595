import Reshape.Record.Path

namespace Reshape

namespace Text

theorem splitOn_of_mem {sep : Char} {cs : List Char} (h : sep ∈ cs) :
    ∃ first next others, splitOn sep cs = first :: next :: others := by
  induction cs with
  | nil => cases h
  | cons c rest ih =>
      by_cases here : c = sep
      · cases parts : splitOn sep rest with
        | nil => exact absurd parts (splitOn_ne_nil sep rest)
        | cons next others => exact ⟨[], next, others, by simp only [splitOn, if_pos here, parts]⟩
      · obtain ⟨first, next, others, parts⟩ := ih ((List.mem_cons.mp h).resolve_left (Ne.symm here))
        exact ⟨c :: first, next, others, by simp only [splitOn, if_neg here, parts]⟩

theorem splitOn_of_notMem {sep : Char} {cs : List Char} (h : sep ∉ cs) : splitOn sep cs = [cs] := by
  induction cs with
  | nil => rfl
  | cons c rest ih =>
      rw [List.mem_cons, not_or] at h
      obtain ⟨here, later⟩ := h
      simp only [splitOn, if_neg (Ne.symm here), ih later]

theorem splitOn_append (sep : Char) (front back : List Char) :
    splitOn sep (front ++ sep :: back) = splitOn sep front ++ splitOn sep back := by
  induction front with
  | nil => exact splitOn_self sep back
  | cons c rest ih =>
      by_cases here : c = sep
      · simp only [List.cons_append, splitOn, if_pos here, ih]
      · simp only [List.cons_append, splitOn, if_neg here, ih]
        cases parts : splitOn sep rest with
        | nil => exact absurd parts (splitOn_ne_nil sep rest)
        | cons part others => rfl

theorem joinWith_eq_intercalate (sep : Char) (parts : List (List Char)) :
    joinWith sep parts = [sep].intercalate parts := by
  induction parts with
  | nil => rfl
  | cons part parts ih =>
      cases parts with
      | nil => rw [joinWith, List.intercalate_singleton]
      | cons next others =>
          rw [joinWith, ih, List.intercalate_cons_cons, List.append_assoc, List.singleton_append]

end Text

theorem segments_ne_nil (path : String) : segments path ≠ [] := by
  simp [segments, Text.splitOn_ne_nil]

theorem segments_of_not_isDotted {path : String} (plain : ¬ isDotted path) :
    segments path = [path] := by
  have absent : '.' ∉ path.toList := fun mem => plain (List.contains_iff_mem.mpr mem)
  rw [segments, Text.splitOn_of_notMem absent]
  simp

theorem not_isDotted_of_mem_segments {path name : String} (mem : name ∈ segments path) :
    ¬ isDotted name := by
  obtain ⟨part, found, rfl⟩ := List.mem_map.mp mem
  rw [isDotted, String.toList_ofList, List.contains_iff_mem]
  exact Text.not_mem_of_mem_splitOn found

theorem segments_below (p q : String) : segments (p ++ "." ++ q) = segments p ++ segments q := by
  have cut : (p ++ "." ++ q).toList = p.toList ++ '.' :: q.toList := by simp
  rw [segments, cut, Text.splitOn_append, List.map_append]
  rfl

theorem join_segments (path : String) : Text.join "." (segments path) = path := by
  apply String.toList_injective
  rw [Text.join, String.toList_intercalate, segments, List.map_map]
  simp [Function.comp_def, ← Text.joinWith_eq_intercalate, Text.joinWith_splitOn]

theorem segments_join {names : List String} (h : names ≠ [])
    (plain : ∀ name ∈ names, ¬ isDotted name) : segments (Text.join "." names) = names := by
  induction names with
  | nil => exact absurd rfl h
  | cons name names ih =>
      obtain ⟨first, others⟩ := List.forall_mem_cons.mp plain
      cases names with
      | nil => rw [Text.join, String.intercalate_singleton, segments_of_not_isDotted first]
      | cons next names =>
          rw [Text.join, String.intercalate_cons_cons, segments_below, ← Text.join,
            ih (List.cons_ne_nil next names) others, segments_of_not_isDotted first,
            List.singleton_append]

theorem segments_of_isDotted {path : String} (dotted : isDotted path) :
    ∃ name next names, segments path = name :: next :: names ∧ name ≠ path := by
  have mem : '.' ∈ path.toList := List.contains_iff_mem.mp dotted
  obtain ⟨first, next, others, parts⟩ := Text.splitOn_of_mem mem
  refine ⟨String.ofList first, String.ofList next, others.map String.ofList, ?_, ?_⟩
  · rw [segments, parts]
    rfl
  · rintro rfl
    rw [String.toList_ofList] at mem parts
    exact Text.not_mem_of_mem_splitOn (by rw [parts]; exact List.mem_cons_self ..) mem

theorem isDotted_below (q rest : String) : isDotted (q ++ "." ++ rest) := by
  simp [isDotted]

theorem ne_below (q rest : String) : q ++ "." ++ rest ≠ q := by
  intro same
  have longer := congrArg segments same
  rw [segments_below] at longer
  exact segments_ne_nil rest (by simpa using longer)

namespace Record

theorem get?_insert_self (r : Record) (key : String) (v : Value) :
    (r.insert key v).get? key = some v := by
  rw [get?_insert, if_pos rfl]

theorem get?_insert_of_ne (r : Record) {key other : String} (v : Value) (h : key ≠ other) :
    (r.insert key v).get? other = r.get? other := by
  rw [get?_insert, if_neg h]

theorem insert_insert (r : Record) (key : String) (v w : Value) :
    (r.insert key v).insert key w = r.insert key w := by
  induction r with
  | nil => simp [insert]
  | cons field rest ih =>
      obtain ⟨k, old⟩ := field
      by_cases same : k = key
      · simp [insert, same]
      · simp [insert, same, ih]

theorem walk_congr {r r' : Record} {name : String} (names : List String)
    (h : r'.get? name = r.get? name) : r'.walk (name :: names) = r.walk (name :: names) := by
  cases names with
  | nil => simp only [walk, h]
  | cons next names => simp only [walk, h]

theorem walk_insert_of_ne (r : Record) {key name : String} (names : List String) (v : Value)
    (h : key ≠ name) : (r.insert key v).walk (name :: names) = r.walk (name :: names) :=
  walk_congr names (get?_insert_of_ne r v h)

theorem walk_below {r inner : Record} {name : String} {names : List String} (h : names ≠ [])
    (found : r.get? name = some (.object inner)) : r.walk (name :: names) = inner.walk names := by
  cases names with
  | nil => exact absurd rfl h
  | cons next names => simp only [walk, found]

theorem walk_append (r : Record) {names more : List String} (h : names ≠ []) (h' : more ≠ []) :
    r.walk (names ++ more) = (r.walk names).bind fun v => v.asRecord?.bind (walk · more) := by
  obtain ⟨first, others, rfl⟩ := List.exists_cons_of_ne_nil h'
  induction names generalizing r with
  | nil => exact absurd rfl h
  | cons name names ih =>
      cases names with
      | nil =>
          simp only [List.singleton_append, walk]
          cases r.get? name with
          | none => rfl
          | some v => cases v <;> rfl
      | cons next names =>
          simp only [List.cons_append, walk]
          cases r.get? name with
          | none => rfl
          | some v =>
              cases v with
              | object inner => exact ih inner (List.cons_ne_nil next names)
              | _ => rfl

theorem walk_setWalk (r : Record) (v : Value) {names : List String} (h : names ≠ []) :
    (r.setWalk v names).walk names = some v := by
  induction names generalizing r with
  | nil => exact absurd rfl h
  | cons name names ih =>
      cases names with
      | nil => simp only [setWalk, walk, get?_insert_self]
      | cons next names =>
          simp only [setWalk, walk, get?_insert_self]
          exact ih _ (List.cons_ne_nil next names)

theorem walk_setWalk_above (r : Record) (v : Value) {names more : List String} (h : names ≠ [])
    (h' : more ≠ []) : ∃ fields, (r.setWalk v (names ++ more)).walk names = some (.object fields) := by
  obtain ⟨first, others, rfl⟩ := List.exists_cons_of_ne_nil h'
  induction names generalizing r with
  | nil => exact absurd rfl h
  | cons name names ih =>
      cases names with
      | nil =>
          simp only [List.singleton_append, setWalk, walk, get?_insert_self]
          exact ⟨_, rfl⟩
      | cons next names =>
          simp only [List.cons_append, setWalk, walk, get?_insert_self]
          exact ih _ (List.cons_ne_nil next names)

theorem get?_setWalk_of_ne (r : Record) (v : Value) {name other : String} (names : List String)
    (h : name ≠ other) : (r.setWalk v (name :: names)).get? other = r.get? other := by
  cases names with
  | nil => simp only [setWalk, get?_insert_of_ne r _ h]
  | cons next names => simp only [setWalk, get?_insert_of_ne r _ h]

theorem walk_setWalk_of_apart (r : Record) (v : Value) {names others : List String}
    (h : ¬ names <+: others) (h' : ¬ others <+: names) :
    (r.setWalk v names).walk others = r.walk others := by
  induction names generalizing r others with
  | nil => exact absurd (by simp) h
  | cons name names ih =>
      cases others with
      | nil => exact absurd (by simp) h'
      | cons other others =>
          by_cases same : name = other
          · subst same
            rw [List.prefix_cons_inj] at h h'
            cases names with
            | nil => exact absurd (by simp) h
            | cons next names =>
                cases others with
                | nil => exact absurd (by simp) h'
                | cons next' others =>
                    simp only [setWalk, walk, get?_insert_self]
                    rw [ih _ h h']
                    -- What is no record becomes one, and holds nothing at the other names.
                    cases r.get? name with
                    | none => cases others <;> rfl
                    | some inner => cases inner <;> cases others <;> rfl
          · exact walk_congr others (get?_setWalk_of_ne r v names same)

theorem setPath_literal {r : Record} {path : String} (h : ¬ isDotted path ∨ r.contains path)
    (v : Value) : r.setPath path v = r.insert path v :=
  if_pos h

theorem setPath_nested {r : Record} {path : String} (h : ¬ (¬ isDotted path ∨ r.contains path)) :
    ∃ name names, name ≠ path ∧ segments path = name :: names ∧
      ∀ v, r.setPath path v = r.setWalk v (name :: names) := by
  obtain ⟨dotted, -⟩ := not_or.mp h
  obtain ⟨name, next, names, parts, other⟩ := segments_of_isDotted (Classical.not_not.mp dotted)
  exact ⟨name, next :: names, other, parts, fun v => by rw [setPath, if_neg h, parts]⟩

theorem get?_eq_none {r : Record} {key : String} (h : ¬ r.contains key) : r.get? key = none :=
  Option.not_isSome_iff_eq_none.mp h

theorem resolve_of_not_isDotted (r : Record) {path : String} (h : path ≠ "")
    (plain : ¬ isDotted path) : r.resolve path = r.get? path := by
  rw [resolve, if_neg h, segments_of_not_isDotted plain, walk, Option.or_self]

theorem resolve_of_unnamed {r : Record} {path : String} (nonempty : path ≠ "")
    (h : ¬ (isDotted path ∧ r.contains path)) : r.resolve path = r.walk (segments path) := by
  by_cases dotted : isDotted path
  · rw [resolve, if_neg nonempty, get?_eq_none fun found => h ⟨dotted, found⟩, Option.none_or]
  · rw [resolve_of_not_isDotted r nonempty dotted, segments_of_not_isDotted dotted, walk]

theorem resolve_below (r : Record) (p q : String) :
    r.resolve (p ++ "." ++ q) =
      (r.get? (p ++ "." ++ q)).or (r.walk (segments p ++ segments q)) := by
  have nonempty : p ++ "." ++ q ≠ "" := by
    intro empty
    have nothing := congrArg String.toList empty
    simp at nothing
  rw [resolve, if_neg nonempty, segments_below]

theorem resolve_setPath (r : Record) {path : String} (h : path ≠ "") (v : Value) :
    (r.setPath path v).resolve path = some v := by
  rw [resolve, if_neg h]
  by_cases literal : ¬ isDotted path ∨ r.contains path
  · rw [setPath_literal literal, get?_insert_self]
    rfl
  · obtain ⟨name, names, other, parts, nested⟩ := setPath_nested literal
    have absent := get?_eq_none (not_or.mp literal).2
    rw [nested, parts, get?_setWalk_of_ne r v names other, absent,
      walk_setWalk r v (List.cons_ne_nil name names)]
    rfl

section Apart

variable (r : Record) {p q : String} (v : Value) (h : ¬ segments p <+: segments q)
  (h' : ¬ segments q <+: segments p)

include h h'

theorem get?_setPath_of_apart : (r.setPath p v).get? q = r.get? q := by
  by_cases literal : ¬ isDotted p ∨ r.contains p
  · rw [setPath_literal literal]
    apply get?_insert_of_ne
    rintro rfl
    exact h List.prefix_rfl
  · obtain ⟨name, names, -, parts, nested⟩ := setPath_nested literal
    have mem : name ∈ segments p := by simp [parts]
    rw [nested]
    apply get?_setWalk_of_ne
    rintro rfl
    -- A single name of `p` would be a path that `p` goes through.
    rw [segments_of_not_isDotted (not_isDotted_of_mem_segments mem), parts] at h'
    exact h' (by simp)

theorem walk_setPath_of_apart : (r.setPath p v).walk (segments q) = r.walk (segments q) := by
  by_cases literal : ¬ isDotted p ∨ r.contains p
  · obtain ⟨name, names, parts⟩ := List.exists_cons_of_ne_nil (segments_ne_nil q)
    have mem : name ∈ segments q := by simp [parts]
    rw [setPath_literal literal, parts]
    apply walk_insert_of_ne
    rintro rfl
    rw [segments_of_not_isDotted (not_isDotted_of_mem_segments mem), parts] at h
    exact h (by simp)
  · obtain ⟨name, names, -, parts, nested⟩ := setPath_nested literal
    rw [nested, ← parts]
    exact walk_setWalk_of_apart r v h h'

theorem resolve_setPath_of_apart : (r.setPath p v).resolve q = r.resolve q := by
  rw [resolve, resolve, get?_setPath_of_apart r v h h', walk_setPath_of_apart r v h h']

end Apart

/-- What is written at a path is read there, and nothing changes at a path of which neither is the
beginning of the other. -/
theorem setPath_lens (r : Record) {p : String} (h : p ≠ "") (v : Value) :
    (r.setPath p v).resolve p = some v ∧
      ∀ q, ¬ segments p <+: segments q → ¬ segments q <+: segments p →
        (r.setPath p v).resolve q = r.resolve q :=
  ⟨resolve_setPath r h v, fun _ apart apart' => resolve_setPath_of_apart r v apart apart'⟩

theorem setPath_lens_literal :
    let r : Record := [("a", .int 1), ("a.c", .string "x")]
    "a.b" ≠ "" ∧ ¬ segments "a.b" <+: segments "a.c" ∧ ¬ segments "a.c" <+: segments "a.b" ∧
      ∀ v, r.setPath "a.b" v = [("a", .object [("b", v)]), ("a.c", .string "x")] ∧
        (r.setPath "a.b" v).resolve "a.b" = some v ∧
        (r.setPath "a.b" v).resolve "a.c" = some (.string "x") := by
  intro r
  have path : "a.b" ≠ "" := by decide
  have apart : ¬ segments "a.b" <+: segments "a.c" := by decide
  have apart' : ¬ segments "a.c" <+: segments "a.b" := by decide
  refine ⟨path, apart, apart', fun v => ⟨rfl, ?_⟩⟩
  obtain ⟨written, others⟩ := setPath_lens r path v
  exact ⟨written, others "a.c" apart apart'⟩

theorem resolve_insert_self (r : Record) {path : String} (h : path ≠ "") (v : Value) :
    (r.insert path v).resolve path = some v := by
  rw [resolve, if_neg h, get?_insert_self]
  rfl

theorem resolve_insert_of_isDotted (r : Record) {key path : String} (dotted : isDotted key)
    (h : key ≠ path) (v : Value) : (r.insert key v).resolve path = r.resolve path := by
  obtain ⟨name, names, parts⟩ := List.exists_cons_of_ne_nil (segments_ne_nil path)
  have mem : name ∈ segments path := by simp [parts]
  have other : key ≠ name := by
    rintro rfl
    exact not_isDotted_of_mem_segments mem dotted
  rw [resolve, resolve, get?_insert_of_ne r v h, parts, walk_insert_of_ne r names v other]

section Above

variable {r : Record} {q rest : String} (v : Value)

theorem setPath_below (h : ¬ r.contains (q ++ "." ++ rest)) :
    r.setPath (q ++ "." ++ rest) v = r.setWalk v (segments q ++ segments rest) := by
  rw [setPath, if_neg (not_or.mpr ⟨absurd (isDotted_below q rest), h⟩), segments_below]

theorem get?_setPath_below (h : ¬ r.contains (q ++ "." ++ rest)) (dotted : isDotted q) :
    (r.setPath (q ++ "." ++ rest) v).get? q = r.get? q := by
  obtain ⟨name, names, parts⟩ := List.exists_cons_of_ne_nil (segments_ne_nil q)
  have mem : name ∈ segments q := by simp [parts]
  rw [setPath_below v h, parts, List.cons_append]
  apply get?_setWalk_of_ne
  rintro rfl
  exact not_isDotted_of_mem_segments mem dotted

theorem resolve_setPath_above_of_named
    (h : r.contains (q ++ "." ++ rest) ∨ isDotted q ∧ r.contains q) :
    (r.setPath (q ++ "." ++ rest) v).resolve q = r.resolve q := by
  by_cases literal : r.contains (q ++ "." ++ rest)
  · rw [setPath_literal (.inr literal)]
    exact resolve_insert_of_isDotted r (isDotted_below q rest) (ne_below q rest) v
  · obtain ⟨dotted, found⟩ := h.resolve_left literal
    obtain ⟨w, here⟩ := Option.isSome_iff_exists.mp found
    rw [resolve, resolve, get?_setPath_below v literal dotted, here, Option.some_or, Option.some_or]

theorem resolve_setPath_above (nonempty : q ≠ "")
    (h : ¬ (r.contains (q ++ "." ++ rest) ∨ isDotted q ∧ r.contains q)) :
    ∃ fields, (r.setPath (q ++ "." ++ rest) v).resolve q = some (.object fields) := by
  obtain ⟨absent, unnamed⟩ := not_or.mp h
  obtain ⟨fields, above⟩ := walk_setWalk_above r v (segments_ne_nil q) (segments_ne_nil rest)
  refine ⟨fields, ?_⟩
  rw [← setPath_below v absent] at above
  rw [resolve_of_unnamed nonempty, above]
  rintro ⟨dotted, found⟩
  rw [contains, get?_setPath_below v absent dotted] at found
  exact unnamed ⟨dotted, found⟩

theorem resolve_below_of_plain (nonempty : q ≠ "") {w : Value} (found : r.resolve q = some w)
    (plain : w.asRecord? = none) (h : ¬ (r.contains (q ++ "." ++ rest) ∨ isDotted q ∧ r.contains q)) :
    r.resolve (q ++ "." ++ rest) = none := by
  obtain ⟨absent, unnamed⟩ := not_or.mp h
  rw [resolve_of_unnamed nonempty unnamed] at found
  rw [resolve_below, get?_eq_none absent, Option.none_or,
    walk_append r (segments_ne_nil q) (segments_ne_nil rest), found, Option.bind_some, plain,
    Option.bind_none]

end Above

end Record

end Reshape
