import Reshape.CommandLine.Program
import Reshape.Proofs.Pipeline.Rebuilding

namespace Reshape

open CommandLine (Environment)

def Value.asText? : Value → Option String
  | .string s => some s
  | _ => none

theorem Value.asText?_eq_some {v : Value} {s : String} : v.asText? = some s ↔ v = .string s := by
  cases v <;> simp [asText?]

namespace SettingName

theorem mem_all (name : SettingName) : name ∈ all := by
  cases name <;> decide

def spellings (name : SettingName) : List String :=
  name.canonical :: name.aliases

theorem eq_of_spelling {name other : SettingName} {s : String} (h : s ∈ name.spellings)
    (h' : s ∈ other.spellings) : name = other := by
  have apart : ∀ a ∈ all, ∀ b ∈ all, ∀ s ∈ a.spellings, s ∈ b.spellings → a = b := by decide
  exact apart name name.mem_all other other.mem_all s h h'

def inBlock? (name : SettingName) : Value → Option Value
  | .object fields => (fields.find? fun field => field.1 ∈ name.spellings).map Prod.snd
  | .array items => (all.zip items).lookup name
  | _ => none

end SettingName

namespace Overrides

variable {o next : Overrides}

theorem flattenSeparator_of_setNullable {name : SettingName} {v : Value}
    (h : o.setNullable name v = .ok next) :
    next.flattenSeparator =
      if name = .flattenSeparator then v.asText?.or o.flattenSeparator else o.flattenSeparator := by
  rw [setNullable] at h
  split at h
  · cases h
    cases v <;> simp_all [Value.isNull, Value.asText?]
  · cases name with
    | flattenSeparator =>
        simp only [set, bind_eq_ok, pure_eq_ok] at h
        obtain ⟨s, text, rfl⟩ := h
        cases v with
        | string t =>
            cases text
            rfl
        | _ => cases text
    | _ =>
        simp only [set, bind_eq_ok, pure_eq_ok] at h
        obtain ⟨_, -, rfl⟩ := h
        rfl

theorem readField_ok {seen seen' : List SettingName} {field : String × Value}
    (h : readField (seen, o) field = .ok (seen', next)) :
    ∃ name, field.1 ∈ name.spellings ∧ name ∉ seen ∧ seen' = name :: seen ∧
      o.setNullable name field.2 = .ok next := by
  unfold readField at h
  dsimp only at h
  split at h
  · cases h
  · rename_i name found
    split at h
    · cases h
    · rename_i fresh
      simp only [bind_eq_ok, pure_eq_ok, Prod.mk.injEq] at h
      obtain ⟨_, set, rfl, rfl⟩ := h
      have spelled := List.find?_some found
      exact ⟨name, by simpa [SettingName.spellings] using spelled, fresh, rfl, set⟩

theorem flattenSeparator_of_foldlM {fields : Record} {seen seen' : List SettingName}
    (h : fields.foldlM readField (seen, o) = .ok (seen', next)) :
    next.flattenSeparator = (if .flattenSeparator ∈ seen then none
      else (SettingName.inBlock? .flattenSeparator (.object fields)).bind Value.asText?).or
        o.flattenSeparator := by
  -- A second field with one of the names is refused, so the first one decides.
  induction fields generalizing seen o with
  | nil =>
      cases h
      simp [SettingName.inBlock?]
  | cons field fields ih =>
      rw [List.foldlM_cons, bind_eq_ok] at h
      obtain ⟨⟨read, middle⟩, first, rest⟩ := h
      obtain ⟨name, spelled, fresh, rfl, set⟩ := readField_ok first
      rw [ih rest, flattenSeparator_of_setNullable set]
      by_cases same : name = .flattenSeparator
      · subst same
        simp [SettingName.inBlock?, spelled, fresh]
      · have other : field.1 ∉ SettingName.spellings .flattenSeparator :=
          fun mem => same (SettingName.eq_of_spelling spelled mem)
        simp [SettingName.inBlock?, other, same, Ne.symm same]

theorem flattenSeparator_of_zip {names : List SettingName} (distinct : names.Nodup)
    {items : List Value}
    (h : (names.zip items).foldlM (fun o (name, v) => o.setNullable name v) o = .ok next) :
    next.flattenSeparator =
      (((names.zip items).lookup .flattenSeparator).bind Value.asText?).or o.flattenSeparator := by
  induction names generalizing items o with
  | nil => cases h; rfl
  | cons name names ih =>
      cases items with
      | nil => cases h; rfl
      | cons v items =>
          rw [List.zip_cons_cons, List.foldlM_cons, bind_eq_ok] at h
          obtain ⟨middle, first, rest⟩ := h
          obtain ⟨fresh, distinct⟩ := List.nodup_cons.mp distinct
          rw [ih distinct rest, flattenSeparator_of_setNullable first, List.zip_cons_cons,
            List.lookup_cons]
          by_cases same : name = .flattenSeparator
          · subst same
            have absent : (names.zip items).lookup .flattenSeparator = none := by
              rw [List.lookup_eq_none_iff]
              intro pair mem
              rw [bne_iff_ne]
              intro here
              exact fresh (here ▸ (List.of_mem_zip mem).1)
            simp [absent]
          · simp [same, beq_false_of_ne (Ne.symm same)]

theorem flattenSeparator_of_ofValue {v : Value} (h : ofValue v = .ok o) :
    o.flattenSeparator = (SettingName.inBlock? .flattenSeparator v).bind Value.asText? := by
  cases v with
  | array items =>
      simp only [ofValue, readArray, bind_eq_ok] at h
      obtain ⟨read, fold, checked⟩ := h
      split at checked
      · cases checked
      · cases checked
        simpa [SettingName.inBlock?] using flattenSeparator_of_zip (by decide) fold
  | object fields =>
      simp only [ofValue, bind_eq_ok, pure_eq_ok] at h
      obtain ⟨⟨seen, read⟩, fold, rfl⟩ := h
      simpa using flattenSeparator_of_foldlM fold
  | _ => cases h

end Overrides

theorem Document.flattenSeparator_of_readOverrides {block : Option Value} {o : Overrides}
    (h : readOverrides block = .ok o) :
    o.flattenSeparator =
      (block.bind (SettingName.inBlock? .flattenSeparator)).bind Value.asText? := by
  unfold readOverrides at h
  split at h
  · cases h
    rfl
  · cases h
    rfl
  · rw [mapError_eq_ok] at h
    rw [Option.bind_some, Overrides.flattenSeparator_of_ofValue h]

theorem Nesting.readFlatten_ne_empty {v : Value} {own : Option String}
    (h : readFlatten v = .ok own) : own ≠ some "" := by
  have checked (separator : Option String)
      (h : (if separator = some "" then throw (.emptySeparator "flatten") else return separator) =
        (.ok own : Except ConfigError _)) : own ≠ some "" := by
    split at h
    · cases h
    · rename_i nonempty
      cases h
      exact nonempty
  cases v with
  | null => exact checked none h
  | bool b =>
      cases b with
      | true => exact checked none h
      | false => cases h
  | string s => exact checked (some s) h
  | object args =>
      obtain ⟨separator, -, h⟩ := bind_eq_ok.mp h
      exact checked separator h
  | number n => cases h
  | array items => cases h

theorem CommandLine.Environment.flattenSeparator_ne_empty (e : Environment) :
    e.settings.flattenSeparator ≠ "" := by
  have layers : e.settings.flattenSeparator = (e.flattenSeparator.filter (!·.isEmpty)).getD "." :=
    rfl
  rw [layers]
  cases given : e.flattenSeparator.filter (!·.isEmpty) with
  | none => simp
  | some s =>
      have nonempty := (Option.filter_eq_some_iff.mp given).2
      simpa using nonempty

theorem Step.Reads.exists_flatten {s : Step} (h : s.Reads) (kind : s.kind = .flatten) :
    ∃ own, Nesting.readFlatten s.config = .ok own ∧ s.operator = .flatten own := by
  rw [Reads, kind] at h
  obtain ⟨own, read, same⟩ := bind_eq_ok.mp h
  exact ⟨own, read, (Except.ok.inj same).symm⟩

namespace Pipeline

variable {e : Environment} {p : Pipeline}

/-- The separators of the flattening steps of a pipeline, in an environment and under the block of
settings of a document. -/
def JoinsUnder (e : Environment) (block : Option Value) (p : Pipeline) : Prop :=
  ∀ s ∈ p.steps, s.kind = .flatten → ∃ own separator,
    Nesting.readFlatten s.config = .ok own ∧
    (∀ now sorter, s.operator.action ⟨p.settings e.settings, now, sorter⟩ =
      .each (Nesting.flatten separator)) ∧
    separator = own.getD (((block.bind (SettingName.inBlock? .flattenSeparator)).bind
      Value.asText?).getD ((e.flattenSeparator.filter (!·.isEmpty)).getD ".")) ∧
    (separator = "" ↔
      own = none ∧ block.bind (SettingName.inBlock? .flattenSeparator) = some (.string ""))

theorem joinsUnder_of_ofValue {v : Value} (h : ofValue e.settings v = .ok p) :
    p.JoinsUnder e (Document.configBlock v) := by
  intro s mem kind
  obtain ⟨own, read, operator⟩ := ((CompiledUnder.ofValue v h).reads s mem).exists_flatten kind
  simp only [ofValue, bind_eq_ok, mapError_eq_ok] at h
  obtain ⟨d, document, h⟩ := h
  have block := Document.flattenSeparator_of_readOverrides
    (Document.readOverrides_configBlock document)
  rw [← (compile_ok h).2.1] at block
  have layers : own.getD (p.settings e.settings).flattenSeparator =
      own.getD (p.overrides.flattenSeparator.getD e.settings.flattenSeparator) := rfl
  refine ⟨own, own.getD (p.settings e.settings).flattenSeparator, read,
    fun now sorter => by rw [operator]; rfl, by rw [layers, block]; rfl, ?_⟩
  rw [layers]
  cases own with
  | some s => simpa using Nesting.readFlatten_ne_empty read
  | none =>
      have empty : p.overrides.flattenSeparator = some "" ↔
          (Document.configBlock v).bind (SettingName.inBlock? .flattenSeparator) =
            some (.string "") := by
        rw [block, Option.bind_eq_some_iff]
        simp [Value.asText?_eq_some]
      rw [← empty]
      cases p.overrides.flattenSeparator with
      | none => simpa using e.flattenSeparator_ne_empty
      | some s => simp

/-- A flattening step joins names with its own separator, else with the one of the block of
settings, else with the one of the environment unless that is empty, else with a dot. So it joins
them with nothing exactly if it has none of its own and the block gives the empty one. -/
theorem flatten_separator (e : Environment) (p : Pipeline) :
    (∀ v, ofValue e.settings v = .ok p → p.JoinsUnder e (Document.configBlock v)) ∧
      ∀ text, read e.settings text = .ok p →
        ∃ v, Document.held? text = some v ∧ p.JoinsUnder e (Document.configBlock v) := by
  refine ⟨fun v h => joinsUnder_of_ofValue h, fun text h => ?_⟩
  obtain ⟨v, held, h⟩ := read_eq_ok.mp h
  exact ⟨v, held, joinsUnder_of_ofValue h⟩

theorem flatten_separator_own :
    let step (config : Value) : Value := Document.stepOf .flatten config
    let v : Value := .object [("config", .object [("flattenSeparator", .string "")]),
      ("transforms", .array [step .null, step (.string "_")])]
    let w : Value := .object [("transforms", .array [step .null])]
    let e : Environment := { flattenSeparator := some "" }
    let s : Step := ⟨0, .flatten none, .null⟩
    let t : Step := ⟨1, .flatten (some "_"), .string "_"⟩
    ∃ p q, ofValue e.settings v = .ok p ∧ ofValue e.settings w = .ok q ∧ p.steps = [s, t] ∧
      q.steps = [s] ∧ s.kind = .flatten ∧ t.kind = .flatten ∧
      (∀ now sorter, s.operator.action ⟨p.settings e.settings, now, sorter⟩ =
        .each (Nesting.flatten "")) ∧
      (∀ now sorter, t.operator.action ⟨p.settings e.settings, now, sorter⟩ =
        .each (Nesting.flatten "_")) ∧
      ∀ now sorter, s.operator.action ⟨q.settings e.settings, now, sorter⟩ =
        .each (Nesting.flatten ".") := by
  intro step v w e s t
  have compiled : ofValue e.settings v = .ok ⟨{ flattenSeparator := some "" }, [s, t]⟩ := rfl
  have compiled' : ofValue e.settings w = .ok ⟨{}, [s]⟩ := rfl
  refine ⟨_, _, compiled, compiled', rfl, rfl, rfl, rfl, ?_, ?_, ?_⟩
  · obtain ⟨own, separator, read, acts, -, empty⟩ :=
      (flatten_separator e _).1 v compiled s (by simp) rfl
    cases read
    rwa [empty.mpr ⟨rfl, rfl⟩] at acts
  · obtain ⟨own, separator, read, acts, layers, -⟩ :=
      (flatten_separator e _).1 v compiled t (by simp) rfl
    cases read
    rwa [layers] at acts
  · obtain ⟨own, separator, read, acts, layers, -⟩ :=
      (flatten_separator e _).1 w compiled' s (by simp) rfl
    cases read
    rwa [layers] at acts

/-- A field of a record in a record replaces another field, since their names are joined with
nothing. -/
theorem flatten_joins_with_nothing :
    let v : Value := .object [("config", .object [("flatten_separator", .string "")]),
      ("transforms", .array [Document.stepOf .flatten .null])]
    let e : Environment := {}
    let r : Collection := .single [("ab", .int 1), ("a", .object [("b", .int 2)])]
    ∃ p, ofValue e.settings v = .ok p ∧ p.steps.map Step.kind = [.flatten] ∧
      (p.settings e.settings).flattenSeparator = "" ∧
      ∀ now sorter,
        (p.run e.settings now sorter r.toValue).output = .ok (.single [("ab", .int 2)]) := by
  intro v e r
  have compiled : ofValue e.settings v =
      .ok ⟨{ flattenSeparator := some "" }, [⟨0, .flatten none, .null⟩]⟩ := rfl
  exact ⟨_, compiled, rfl, rfl, fun now sorter => rfl⟩

end Pipeline

end Reshape
