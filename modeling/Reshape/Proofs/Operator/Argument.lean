import Reshape.Operator.Argument
import Reshape.Proofs.Results
import Reshape.Proofs.Value.Alike

namespace Reshape

def Record.Related (P : Value → Value → Prop) (xs ys : Record) : Prop :=
  ∀ name, Option.Rel P (xs.get? name) (ys.get? name)

namespace Argument

variable {α β : Type} {P : Value → Value → Prop} {xs ys : Record} {v w : Value}

theorem given?_cons (args : Record) (name : String) (names : List String) :
    given? args (name :: names) =
      ((args.get? name).filter fun v => !v.isNull).or (given? args names) := by
  rw [given?, List.findSome?_cons]
  cases (args.get? name).filter fun v => !v.isNull <;> rfl

theorem filter_or_rel (nulls : ∀ v w, P v w → v.isNull = w.isNull) {a b c d : Option Value}
    (first : Option.Rel P a b) (second : Option.Rel P c d) :
    Option.Rel P ((a.filter fun v => !v.isNull).or c) ((b.filter fun v => !v.isNull).or d) := by
  cases first with
  | none => exact second
  | @some v w related =>
      have null := nulls v w related
      rw [Option.filter_some, Option.filter_some, null]
      by_cases absent : w.isNull
      · rw [absent]
        exact second
      · rw [Bool.not_eq_true] at absent
        rw [absent]
        exact .some related

theorem given?_rel (nulls : ∀ v w, P v w → v.isNull = w.isNull) {names : List String}
    (fields : ∀ name ∈ names, Option.Rel P (xs.get? name) (ys.get? name)) :
    Option.Rel P (given? xs names) (given? ys names) := by
  induction names with
  | nil => exact .none
  | cons name names ih =>
      have later := ih fun other mem => fields other (List.mem_cons_of_mem name mem)
      rw [given?_cons, given?_cons]
      exact filter_or_rel nulls (fields name (List.mem_cons_self ..)) later

theorem given?_congr {names : List String} (fields : ∀ name ∈ names, xs.get? name = ys.get? name) :
    given? xs names = given? ys names := by
  induction names with
  | nil => rfl
  | cons name names ih =>
      rw [given?_cons, given?_cons, fields name (List.mem_cons_self ..),
        ih fun other mem => fields other (List.mem_cons_of_mem name mem)]

section Readers

variable {name : String} {aliases : List String} {read : String → Value → Except ConfigError α}

theorem optional_of_given (h : given? xs (name :: aliases) = some v) :
    optional xs name aliases read = (read name v).map some := by
  rw [optional, h]

theorem required_of_given (h : given? xs (name :: aliases) = some v) :
    required xs name aliases read = read name v := by
  rw [required, h]

theorem exists_of_optional {a : α} (h : optional xs name aliases read = .ok (some a)) :
    ∃ v, read name v = .ok a := by
  unfold optional at h
  split at h
  · rename_i v _
    cases found : read name v with
    | error e => rw [found] at h; cases h
    | ok b =>
        rw [found] at h
        cases h
        exact ⟨v, found⟩
  · cases h

theorem optional_rel (nulls : ∀ v w, P v w → v.isNull = w.isNull) (fields : xs.Related P ys)
    (values : ∀ name v w, P v w → Agree Eq (read name v) (read name w)) :
    Agree Eq (optional xs name aliases read) (optional ys name aliases read) := by
  have found := given?_rel nulls fun other (_ : other ∈ name :: aliases) => fields other
  unfold optional
  generalize given? xs (name :: aliases) = a at found ⊢
  generalize given? ys (name :: aliases) = b at found ⊢
  cases found with
  | none => exact .refl _
  | some related => exact (values name _ _ related).map fun a b same => congrArg some same

theorem optional_agree (fields : xs.Related Value.Alike ys)
    (values : ∀ name v w, v.Alike w → Agree Eq (read name v) (read name w)) :
    Agree Eq (optional xs name aliases read) (optional ys name aliases read) :=
  optional_rel (fun _ _ => Value.Alike.isNull) fields values

theorem optional_respelled (fields : xs.Related Value.Respelled ys)
    (values : ∀ name v w, v.Respelled w → Agree Eq (read name v) (read name w)) :
    Agree Eq (optional xs name aliases read) (optional ys name aliases read) :=
  optional_rel (fun _ _ h => h.alike.isNull) fields values

theorem required_agree (fields : xs.Related Value.Alike ys)
    (values : ∀ name v w, v.Alike w → Agree Eq (read name v) (read name w)) :
    Agree Eq (required xs name aliases read) (required ys name aliases read) := by
  have found := given?_rel (fun _ _ => Value.Alike.isNull) fun other
    (_ : other ∈ name :: aliases) => fields other
  unfold required
  generalize given? xs (name :: aliases) = a at found ⊢
  generalize given? ys (name :: aliases) = b at found ⊢
  cases found with
  | none => exact .refl _
  | some alike => exact values name _ _ alike

end Readers

theorem mapping_agree {what : String} (h : v.Alike w) :
    Agree (Record.Related Value.Alike) (mapping what v) (mapping what w) := by
  cases h with
  | object fields => exact .ok fields
  | _ => exact .error_left

theorem text_agree (what : String) (v w : Value) (h : v.Alike w) :
    Agree Eq (text what v) (text what w) := by
  cases h with
  | string s => exact .refl _
  | _ => exact .error_left

theorem flag_agree (name : String) (v w : Value) (h : v.Alike w) :
    Agree Eq (flag name v) (flag name w) := by
  cases h with
  | bool b => exact .refl _
  | _ => exact .error_left

theorem character_agree (name : String) (v w : Value) (h : v.Alike w) :
    Agree Eq (character name v) (character name w) :=
  (text_agree name v w h).bind_same fun _ => .refl _

theorem character_singleton (name : String) (c : Char) :
    character name (.string (String.singleton c)) = .ok c := by
  simp only [character, text, bind, Except.bind, String.toList_singleton]
  rfl

theorem names_agree (what : String) (v w : Value) (h : v.Alike w) :
    Agree Eq (names what v) (names what w) := by
  cases h with
  | string s => exact .refl _
  | array items =>
      exact (Agree.mapM_same (items.imp (text_agree what))).bind_same fun found => .refl _
  | _ => exact .error_left

theorem count?_number {n : Number} (h : n.WellFormed) :
    count? (.number n) = n.integer?.bind fun k =>
      if 0 ≤ k ∧ k ≤ countBound then some (min k.toNat (countBound - 1)) else none := by
  cases n with
  | float x => rfl
  | int k =>
      have below : k < (countBound : Int) := h.2
      simp only [count?, Number.integer?, Option.bind_some]
      by_cases natural : 0 ≤ k
      · have least : min k.toNat (countBound - 1) = k.toNat := by omega
        rw [if_pos natural, if_pos ⟨natural, below.le⟩, least]
      · rw [if_neg natural, if_neg fun both => natural both.1]

theorem count_agree (what : String) (v w : Value) (h : v.Respelled w) :
    Agree Eq (count what v) (count what w) := by
  have same : count? v = count? w := by
    obtain ⟨alike, left, right, integers⟩ := h
    cases alike with
    | @number m n _ =>
        cases left with
        | number size =>
            cases right with
            | number size' =>
                rw [count?_number size, count?_number size', integers [] m n rfl rfl]
    | _ => rfl
  intro a b left right
  unfold count at left right
  rw [← same] at right
  cases read : count? v with
  | none => rw [read] at left; cases left
  | some n =>
      rw [read] at left right
      cases left
      cases right
      rfl

theorem integer?_eq_some {v : Value} {k : Int} (h : integer? v = some k) :
    ∃ n, v = .number n ∧ n.integer? = some k := by
  cases v with
  | number n =>
      refine ⟨n, rfl, ?_⟩
      cases n with
      | int m =>
          simp only [integer?] at h
          split at h
          · exact h
          · cases h
      | float x =>
          simp only [integer?, Option.bind_eq_bind, Option.bind_eq_some_iff] at h
          obtain ⟨m, denoted, h⟩ := h
          split at h
          · cases h
            exact denoted
          · cases h
  | _ => cases h

theorem integer_eq_ok {what : String} {v : Value} {k : Int} (h : integer what v = .ok k) :
    ∃ n, v = .number n ∧ n.integer? = some k := by
  unfold integer at h
  split at h
  · rename_i found
    cases h
    exact integer?_eq_some found
  · cases h

theorem integer_agree (what : String) (v w : Value) (h : v.Respelled w) :
    Agree Eq (integer what v) (integer what w) := by
  intro a b left right
  obtain ⟨m, rfl, denoted⟩ := integer_eq_ok left
  obtain ⟨n, rfl, denoted'⟩ := integer_eq_ok right
  rw [h.number_integer?, denoted'] at denoted
  exact (Option.some.inj denoted).symm

section Entries

variable {operator noun : String} {read : String → Value → Except ConfigError α}

def IsEntry (read : String → Value → Except ConfigError α) (arg : String × Value)
    (entry : String × α) : Prop :=
  entry.1 = arg.1 ∧ read arg.1 arg.2 = .ok entry.2

theorem entries_eq_ok {out : List (String × α)} (h : entries operator noun read v = .ok out) :
    ∃ args : Record, v = .object args ∧ List.Forall₂ (IsEntry read) args out := by
  simp only [entries, bind_eq_ok] at h
  obtain ⟨args, mapping, h⟩ := h
  cases v with
  | object fields =>
      cases mapping
      refine ⟨args, rfl, ?_⟩
      split at h
      · cases h
      · refine (mapM_eq_ok.mp h).imp fun arg entry rule => ?_
        obtain ⟨a, value, same⟩ := bind_eq_ok.mp rule
        cases same
        exact ⟨rfl, value⟩
  | _ => cases mapping

theorem entries_singleton {field : String} {rule : Value} {a : α} (h : read field rule = .ok a) :
    entries operator noun read (.object [(field, rule)]) = .ok [(field, a)] := by
  refine bind_eq_ok.mpr ⟨[(field, rule)], rfl, mapM_eq_ok.mpr (.cons ?_ .nil)⟩
  exact bind_eq_ok.mpr ⟨a, h, rfl⟩

theorem exists_arg_of_mem {args : Record} {out : List (String × α)}
    (h : List.Forall₂ (IsEntry read) args out) {entry : String × α} (mem : entry ∈ out) :
    ∃ arg ∈ args, IsEntry read arg entry := by
  induction h with
  | nil => cases mem
  | cons first _ ih =>
      rcases List.mem_cons.mp mem with rfl | later
      · exact ⟨_, List.mem_cons_self .., first⟩
      · obtain ⟨arg, found, rule⟩ := ih later
        exact ⟨arg, List.mem_cons_of_mem _ found, rule⟩

theorem names_entries {args : Record} {out : List (String × α)}
    (h : List.Forall₂ (IsEntry read) args out) : out.map Prod.fst = args.keys := by
  induction h with
  | nil => rfl
  | cons first _ ih => rw [List.map_cons, first.1, ih]; rfl

theorem map_entries_eq {act : String × α → β} {fs gs : List (String × α)}
    (rules : List.Forall₂ (fun f g => f.1 = g.1 ∧
      Agree (fun x y => act (f.1, x) = act (g.1, y)) (read f.1 f.2) (read g.1 g.2)) xs ys)
    (left : List.Forall₂ (IsEntry read) xs fs) (right : List.Forall₂ (IsEntry read) ys gs) :
    fs.map act = gs.map act := by
  induction rules generalizing fs gs with
  | nil =>
      cases left
      cases right
      rfl
  | cons rule _ ih =>
      cases left with
      | cons entry left =>
          cases right with
          | cons entry' right =>
              have first := rule.2 _ _ entry.2 entry'.2
              rw [← entry.1, ← entry'.1] at first
              rw [List.map_cons, List.map_cons, first, ih left right]

theorem entries_agree {act : String × α → β} (h : v.Respelled w) (order : v.names = w.names)
    (rules : ∀ name a b, v.part? [name] = some a → w.part? [name] = some b → a.Respelled b →
      Agree (fun x y => act (name, x) = act (name, y)) (read name a) (read name b)) :
    Agree (fun fs gs => fs.map act = gs.map act) (entries operator noun read v)
      (entries operator noun read w) := by
  intro fs gs left right
  obtain ⟨xs, rfl, first⟩ := entries_eq_ok left
  obtain ⟨ys, rfl, second⟩ := entries_eq_ok right
  refine map_entries_eq ((h.pairs order).imp fun f g pair => ?_) first second
  obtain ⟨name, found, found', respelled⟩ := pair
  refine ⟨name, ?_⟩
  rw [← name] at found' ⊢
  exact rules f.1 f.2 g.2 ((Value.part?_name xs f.1).trans found)
    ((Value.part?_name ys f.1).trans found') respelled

theorem entries_same (h : v.Respelled w) (order : v.names = w.names)
    (rules : ∀ name a b, v.part? [name] = some a → w.part? [name] = some b → a.Respelled b →
      Agree Eq (read name a) (read name b)) :
    Agree Eq (entries operator noun read v) (entries operator noun read w) := by
  have mapped : Agree (fun fs gs => fs.map id = gs.map id) (entries operator noun read v)
      (entries operator noun read w) :=
    entries_agree h order fun name a b found found' respelled =>
      (rules name a b found found' respelled).imp fun x y same => by rw [same]
  exact mapped.imp fun fs gs same => by rwa [List.map_id, List.map_id] at same

theorem lookup_entries {args : Record} {out : List (String × α)}
    (h : List.Forall₂ (IsEntry read) args out) (name : String) :
    Option.Rel (fun arg a => read name arg = .ok a) (args.get? name) (out.lookup name) := by
  induction h with
  | nil => exact .none
  | @cons arg entry args out first _ ih =>
      obtain ⟨key, v⟩ := arg
      obtain ⟨key', a⟩ := entry
      obtain ⟨same, value⟩ := first
      cases same
      rw [Record.get?_cons, List.lookup_cons]
      by_cases here : key = name
      · subst here
        rw [if_pos rfl, beq_self_eq_true]
        exact .some value
      · rw [if_neg here, beq_false_of_ne (Ne.symm here)]
        exact ih

theorem lookup_entries_eq {fs gs : List (String × α)} (fields : xs.Related Value.Alike ys)
    (values : ∀ name v w, v.Alike w → Agree Eq (read name v) (read name w))
    (left : List.Forall₂ (IsEntry read) xs fs) (right : List.Forall₂ (IsEntry read) ys gs)
    (name : String) : fs.lookup name = gs.lookup name := by
  have alike := fields name
  have first := lookup_entries left name
  have second := lookup_entries right name
  generalize xs.get? name = a at alike first
  generalize ys.get? name = b at alike second
  generalize fs.lookup name = c at first ⊢
  generalize gs.lookup name = d at second ⊢
  cases alike with
  | none =>
      cases first
      cases second
      rfl
  | some alike =>
      cases first with
      | some value =>
          cases second with
          | some value' => exact congrArg some (values name _ _ alike _ _ value value')

end Entries

end Argument

end Reshape
