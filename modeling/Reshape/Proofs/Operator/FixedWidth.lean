import Reshape.Proofs.Operator.Argument
import Reshape.Proofs.Operator.Editing

namespace Reshape

namespace Truncation

variable {t : Truncation} {text : List Char}

def toValue (t : Truncation) : Value :=
  .object [("length", .int t.length), ("suffix", .string t.suffix)]

theorem read_toValue (path : String) (t : Truncation) :
    Operator.read .truncate (.object [(path, t.toValue)]) = .ok (.truncate [(path, t)]) := rfl

theorem shorten_of_le (h : text.length ≤ t.length) : t.shorten text = text :=
  if_pos h

theorem shorten_of_room (h : t.length < text.length) (room : t.suffix.length < t.length) :
    t.shorten text = text.take (t.length - t.suffix.length) ++ t.suffix.toList := by
  rw [shorten, if_neg (Nat.not_le.mpr h), String.length_toList, if_neg (Nat.not_le.mpr room)]

theorem shorten_of_no_room (h : t.length < text.length) (full : t.length ≤ t.suffix.length) :
    t.shorten text = text.take t.length := by
  rw [shorten, if_neg (Nat.not_le.mpr h), String.length_toList, if_pos full]

theorem length_shorten (h : t.length < text.length) : (t.shorten text).length = t.length := by
  rcases Nat.lt_or_ge t.suffix.length t.length with room | full
  · rw [shorten_of_room h room, List.length_append, List.length_take, String.length_toList]
    omega
  · rw [shorten_of_no_room h full, List.length_take]
    omega

theorem resolve_applyAll {r : Record} {path s : String} (h : path ≠ "")
    (found : r.resolve path = some (.string s)) :
    (Edit.applyAll [edit (path, t)] r).1.resolve path =
      some (.string (String.ofList (t.shorten s.toList))) := by
  by_cases short : s.length ≤ t.length
  · have kept : (edit (path, t)).outcome r r = .keep := by simp only [edit, found, if_pos short]
    rw [Edit.applyAll_of_keep kept, shorten_of_le (by rwa [String.length_toList]),
      String.ofList_toList, found]
  · have cut : (edit (path, t)).outcome r r =
        .write (.string (String.ofList (t.shorten s.toList))) := by
      simp only [edit, found, if_neg short]
    exact Edit.resolve_of_write h cut

end Truncation

def Side.word : Side → String
  | left => "left"
  | right => "right"

namespace Padding

variable {p : Padding} {text : List Char}

def toValue (p : Padding) : Value :=
  .object [("length", .int p.width), ("char", .string (String.singleton p.fill)),
    ("side", .string p.side.word)]

theorem readSide_word (side : Side) : readSide (some side.word) = .ok side := by
  have left : Text.asciiLower "left" = "left" := by decide
  have right : Text.asciiLower "right" = "right" := by decide
  cases side with
  | left => simp [readSide, Side.word, left]
  | right => simp [readSide, Side.word, right]

theorem readRule_toValue (field : String) (p : Padding) : readRule field p.toValue = .ok p := by
  have given : Argument.given?
      [("length", .int p.width), ("char", .string (String.singleton p.fill)),
        ("side", .string p.side.word)] ["char", "fill"] =
      some (.string (String.singleton p.fill)) := rfl
  have given' : Argument.given?
      [("length", .int p.width), ("char", .string (String.singleton p.fill)),
        ("side", .string p.side.word)] ["side", "direction"] = some (.string p.side.word) := rfl
  rw [toValue, readRule, Argument.optional_of_given given, Argument.character_singleton,
    Argument.optional_of_given given']
  simp only [Argument.text, Except.map, bind, Except.bind, readSide_word]
  rfl

theorem read_toValue (path : String) (p : Padding) :
    Operator.read .pad (.object [(path, p.toValue)]) = .ok (.pad [(path, p)]) :=
  bind_eq_ok.mpr ⟨_, Argument.entries_singleton (readRule_toValue path p), rfl⟩

theorem pad_of_le (h : p.width ≤ text.length) : p.pad text = text := by
  rw [pad, Nat.sub_eq_zero_of_le h]
  cases p.side with
  | left => rfl
  | right => exact List.append_nil text

theorem length_pad (p : Padding) (text : List Char) :
    (p.pad text).length = max p.width text.length := by
  rw [pad]
  cases p.side <;> simp <;> omega

theorem resolve_applyAll {r : Record} {path : String} {v : Value} (h : path ≠ "")
    (found : r.resolve path = some v) (some : v.isNull = false) :
    (Edit.applyAll [edit (path, p)] r).1.resolve path =
      Option.some (.string (String.ofList (p.pad v.display.toList))) := by
  have filled : (edit (path, p)).outcome r r =
      .write (.string (String.ofList (p.pad v.display.toList))) := by
    cases v with
    | null => cases some
    | _ => simp only [edit, found]
  exact Edit.resolve_of_write h filled

/-- A text that has been brought to a width: one that was too short has only been filled up on its
side, and one that was too long ends in the suffix, if the suffix leaves room for anything else. -/
structure Fitted (p : Padding) (suffix s text : String) : Prop where
  length : text.length = p.width
  same : s.length = p.width → text = s
  left : p.side = .left → s.length < p.width →
    text.toList = List.replicate (p.width - s.length) p.fill ++ s.toList
  right : p.side = .right → s.length < p.width →
    text.toList = s.toList ++ List.replicate (p.width - s.length) p.fill
  cut : p.width < s.length → suffix.length < p.width →
    ∃ front, front <+: s.toList ∧ text.toList = front ++ suffix.toList
  cutShort : p.width < s.length → p.width ≤ suffix.length → text.toList = s.toList.take p.width

theorem fitted (p : Padding) (suffix s : String) :
    p.Fitted suffix s
      (String.ofList (p.pad (Truncation.shorten ⟨p.width, suffix⟩ s.toList))) := by
  have size : s.toList.length = s.length := String.length_toList
  rcases Nat.lt_or_ge p.width s.length with long | short
  · have long' : p.width < s.toList.length := by rwa [size]
    have shortened := Truncation.length_shorten (t := ⟨p.width, suffix⟩) long'
    rw [pad_of_le shortened.ge]
    refine ⟨?_, fun same => ?_, fun _ less => ?_, fun _ less => ?_, fun _ room => ?_,
      fun _ full => ?_⟩
    · rw [String.length_ofList, shortened]
    · omega
    · omega
    · omega
    · rw [Truncation.shorten_of_room (t := ⟨p.width, suffix⟩) long' room, String.toList_ofList]
      exact ⟨_, List.take_prefix _ _, rfl⟩
    · rw [Truncation.shorten_of_no_room (t := ⟨p.width, suffix⟩) long' full, String.toList_ofList]
  · have short' : s.toList.length ≤ p.width := by rwa [size]
    rw [Truncation.shorten_of_le (t := ⟨p.width, suffix⟩) short']
    refine ⟨?_, fun same => ?_, fun left _ => ?_, fun right _ => ?_, fun long => ?_,
      fun long => ?_⟩
    · rw [String.length_ofList, length_pad, max_eq_left short']
    · rw [pad_of_le (by rw [size, same]), String.ofList_toList]
    · rw [String.toList_ofList, pad, left, size]
    · rw [String.toList_ofList, pad, right, size]
    · omega
    · omega

/-- A text at the path, after the two operators with one width, has that many characters. -/
theorem truncate_then_pad {path : String} (h : path ≠ "") (p : Padding) (suffix : String) :
    Operator.read .truncate (.object [(path, Truncation.toValue ⟨p.width, suffix⟩)]) =
      .ok (.truncate [(path, ⟨p.width, suffix⟩)]) ∧
    Operator.read .pad (.object [(path, p.toValue)]) = .ok (.pad [(path, p)]) ∧
    ∃ f : Record → Record,
      (∀ context c, Operator.applyAll context
        [.truncate [(path, ⟨p.width, suffix⟩)], .pad [(path, p)]] c = .ok (c.map f)) ∧
      ∀ r s, r.resolve path = some (.string s) →
        ∃ text, (f r).resolve path = some (.string text) ∧ p.Fitted suffix s text := by
  refine ⟨Truncation.read_toValue path _, read_toValue path p, _,
    fun context c => Operator.applyAll_edits (.cons rfl (.cons rfl .nil)) c, fun r s found => ?_⟩
  have cut := Truncation.resolve_applyAll (t := ⟨p.width, suffix⟩) h found
  have shown (w : String) : (Value.string w).display = w := rfl
  have filled := resolve_applyAll (p := p) h cut rfl
  rw [shown, String.toList_ofList] at filled
  exact ⟨_, filled, p.fitted suffix s⟩

theorem truncate_then_pad_nested :
    let p : Padding := ⟨4, '.', .right⟩
    let ops : List Operator := [.truncate [("a.b", ⟨4, "~"⟩)], .pad [("a.b", p)]]
    let r : Record := [("a", .object [("b", .string "größer")])]
    let r' : Record := [("a", .object [("b", .null)]), ("a.b", .string "né")]
    let out : Record := [("a", .object [("b", .string "größer")]), ("a.b", .string "grö~")]
    let out' : Record := [("a", .object [("b", .null)]), ("a.b", .string "né..")]
    "a.b" ≠ "" ∧ r.resolve "a.b" = some (.string "größer") ∧
      r'.resolve "a.b" = some (.string "né") ∧
      ∀ context, Operator.applyAll context ops (.many [r, r']) = .ok (.many [out, out']) ∧
        p.Fitted "~" "größer" "grö~" ∧ p.Fitted "~" "né" "né.." := by
  intro p ops r r' out out'
  have path : "a.b" ≠ "" := by decide
  have found : r.resolve "a.b" = some (.string "größer") := rfl
  have found' : r'.resolve "a.b" = some (.string "né") := rfl
  refine ⟨path, found, found', fun context => ?_⟩
  have applied : Operator.applyAll context ops (.many [r, r']) = .ok (.many [out, out']) := rfl
  obtain ⟨-, -, f, acts, fits⟩ := truncate_then_pad path p "~"
  have same : f r = out ∧ f r' = out' := by
    have both := (acts context (.many [r, r'])).symm.trans applied
    simpa [Collection.map] using both
  obtain ⟨text, read, fitted⟩ := fits r _ found
  obtain ⟨text', read', fitted'⟩ := fits r' _ found'
  rw [same.1] at read
  rw [same.2] at read'
  cases read
  cases read'
  exact ⟨applied, fitted, fitted'⟩

end Padding

end Reshape
