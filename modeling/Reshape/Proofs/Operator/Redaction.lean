import Mathlib.Data.List.Basic
import Mathlib.Data.List.TakeWhile
import Reshape.Operator.Masking

namespace Reshape

namespace MaskKind

def marks : MaskKind → Char → Bool
  | email, c => c = '@'
  | digits, c => c.isDigit
  | full, _ | custom _ _, _ => false

def shows (marks : List Bool) (place : Nat) : MaskKind → Bool
  | email =>
    let front := (marks.takeWhile (!·)).length
    front < marks.length && (place < min (front / 2) 2 || front ≤ place)
  | digits =>
    !marks[place]?.getD false || (4 < marks.countP id && (marks.drop (place + 1)).countP id < 4)
  | full => false
  | custom head tail =>
    head + tail < marks.length && (place < head || marks.length ≤ place + tail)

/-- What a mask of a kind may show of a text: nothing; the ends, if they leave something between
them; of the digits the last four, if there are more; in front of the first `@` half of the
characters and two at most, and nothing if there is no `@`. -/
def Allows (text : List Char) (shown : Nat → Bool) : MaskKind → Prop
  | full => ∀ place < text.length, shown place = false
  | custom head tail => ∀ place < text.length,
      shown place = true ↔
        head + tail < text.length ∧ (place < head ∨ text.length ≤ place + tail)
  | digits => ∀ place c, text[place]? = some c → c.isDigit = true →
      (shown place = true ↔
        4 < text.countP Char.isDigit ∧ (text.drop (place + 1)).countP Char.isDigit < 4)
  | email =>
      let front := (text.takeWhile (· ≠ '@')).length
      ('@' ∉ text → ∀ place < text.length, shown place = false) ∧
        ('@' ∈ text → (List.range front).countP shown = min (front / 2) 2)

end MaskKind

namespace Mask

def shows (m : Mask) (text : List Char) (place : Nat) : Bool :=
  m.kind.shows (text.map m.kind.marks) place

def redact (fill : Char) (shown : Nat → Bool) (text : List Char) : List Char :=
  text.mapIdx fun place c => if shown place then c else fill

section

variable {fill : Char} {shown shown' : Nat → Bool} {text : List Char}

theorem redact_cons (c : Char) (rest : List Char) : redact fill shown (c :: rest) =
    (if shown 0 then c else fill) :: redact fill (fun place => shown (place + 1)) rest :=
  List.mapIdx_cons

theorem redact_append (front back : List Char) : redact fill shown (front ++ back) =
    redact fill shown front ++ redact fill (fun place => shown (place + front.length)) back :=
  List.mapIdx_append

theorem redact_congr (h : ∀ place < text.length, shown place = shown' place) :
    redact fill shown text = redact fill shown' text := by
  refine List.ext_getElem (by simp [redact]) fun place inside _ => ?_
  simp only [redact, List.length_mapIdx] at inside
  simp [redact, h place inside]

theorem redact_shown (h : ∀ place < text.length, shown place = true) :
    redact fill shown text = text := by
  refine List.ext_getElem (by simp [redact]) fun place _ inside => ?_
  simp [redact, h place inside]

theorem redact_hidden (m : Mask) (h : ∀ place < text.length, shown place = false) :
    redact m.fill shown text = m.hide text := by
  refine List.ext_getElem (by simp [redact, hide]) fun place inside _ => ?_
  simp only [redact, List.length_mapIdx] at inside
  simp [redact, hide, h place inside]

end

theorem redact_middle (m : Mask) {shown : Nat → Bool} {first middle last : List Char}
    (h : ∀ place < first.length + middle.length + last.length, shown place =
      (place < first.length || first.length + middle.length ≤ place)) :
    redact m.fill shown (first ++ middle ++ last) = first ++ m.hide middle ++ last := by
  rw [redact_append, redact_append, redact_shown, redact_hidden, redact_shown]
  · intro place inside
    rw [List.length_append, h _ (by omega)]
    simp
  · intro place inside
    rw [h _ (by omega)]
    simp [Nat.add_comm place, inside]
  · intro place inside
    rw [h _ (by omega)]
    simp [inside]

theorem custom_eq (m : Mask) (head tail : Nat) (text : List Char) :
    m.custom head tail text = redact m.fill
      ((MaskKind.custom head tail).shows (text.map (MaskKind.custom head tail).marks)) text := by
  simp only [custom, MaskKind.shows, List.length_map]
  by_cases short : text.length ≤ head + tail
  · rw [if_pos short, redact_hidden]
    simp [Nat.not_lt.mpr short]
  · have cut : text = text.take head ++ (text.take (text.length - tail)).drop head ++
        text.drop (text.length - tail) := by
      have front : text.take head = (text.take (text.length - tail)).take head := by
        rw [List.take_take, Nat.min_eq_left (by omega)]
      rw [front, List.take_append_drop, List.take_append_drop]
    rw [if_neg short]
    conv_rhs => rw [cut]
    refine (redact_middle m fun place inside => ?_).symm
    simp only [List.length_take, List.length_drop] at inside ⊢
    rw [Bool.eq_iff_iff]
    simp
    omega

theorem length_takeWhile_marks (text : List Char) :
    ((text.map MaskKind.email.marks).takeWhile (!·)).length =
      (text.takeWhile (· ≠ '@')).length := by
  simp [List.takeWhile_map, MaskKind.marks, Function.comp_def]

theorem email_eq (m : Mask) (text : List Char) :
    m.email text =
      redact m.fill (MaskKind.email.shows (text.map MaskKind.email.marks)) text := by
  have cut := List.takeWhile_append_dropWhile (p := (· ≠ '@')) (l := text)
  have length := congrArg List.length cut
  rw [List.length_append] at length
  simp only [email, MaskKind.shows, length_takeWhile_marks, List.length_map]
  generalize text.takeWhile (· ≠ '@') = front at *
  generalize text.dropWhile (· ≠ '@') = back at *
  by_cases whole : front.length = text.length
  · rw [if_pos whole, redact_hidden]
    simp [whole]
  · rw [if_neg whole]
    have parted : text = front.take (min (front.length / 2) 2) ++
        front.drop (min (front.length / 2) 2) ++ back := by
      rw [List.take_append_drop, cut]
    conv_rhs => rw [parted]
    refine (redact_middle m fun place inside => ?_).symm
    simp only [List.length_take, List.length_drop] at inside ⊢
    rw [Bool.eq_iff_iff]
    simp
    omega

theorem hideDigits_eq (m : Mask) (hidden : Nat) (text : List Char) :
    m.hideDigits hidden text = redact m.fill (fun place =>
      !(text.map Char.isDigit)[place]?.getD false ||
        hidden ≤ ((text.map Char.isDigit).take place).countP id) text := by
  induction text generalizing hidden with
  | nil => cases hidden <;> rfl
  | cons c rest ih =>
      cases hidden with
      | zero => rw [hideDigits, redact_shown] <;> simp
      | succ hidden =>
          rw [hideDigits, redact_cons]
          by_cases digit : c.isDigit
          · simp [digit, ih]
          · simp [digit, ih]

theorem countP_around {marks : List Bool} {place : Nat} (h : marks[place]? = some true) :
    (marks.take place).countP id + 1 + (marks.drop (place + 1)).countP id = marks.countP id := by
  obtain ⟨inside, here⟩ := List.getElem?_eq_some_iff.mp h
  conv_rhs => rw [← List.take_append_drop place marks, List.drop_eq_getElem_cons inside, here]
  rw [List.countP_append, List.countP_cons_of_pos rfl]
  omega

theorem countP_isDigit (text : List Char) :
    (text.map Char.isDigit).countP id = text.countP Char.isDigit := by
  rw [List.countP_map]
  rfl

theorem digits_eq (m : Mask) (text : List Char) :
    m.digits text =
      redact m.fill (MaskKind.digits.shows (text.map MaskKind.digits.marks)) text := by
  rw [digits, hideDigits_eq]
  refine redact_congr fun place inside => ?_
  have marks : text.map MaskKind.digits.marks = text.map Char.isDigit := rfl
  simp only [MaskKind.shows, marks, ← countP_isDigit]
  generalize known : text.map Char.isDigit = marks
  cases here : marks[place]? with
  | none => simp
  | some digit =>
      cases digit with
      | false => simp
      | true =>
          have parts := countP_around here
          rw [Bool.eq_iff_iff]
          simp
          split <;> omega

theorem apply_eq (m : Mask) (text : List Char) :
    m.apply text = redact m.fill (m.shows text) text := by
  obtain ⟨kind, fill⟩ := m
  cases kind with
  | email => exact email_eq _ text
  | digits => exact digits_eq _ text
  | full => exact (redact_hidden _ fun _ _ => rfl).symm
  | custom head tail => exact custom_eq _ head tail text

theorem length_takeWhile_eq_iff {text : List Char} :
    (text.takeWhile (· ≠ '@')).length = text.length ↔ '@' ∉ text := by
  constructor
  · intro same mem
    have begins : text.takeWhile (· ≠ '@') <+: text := List.takeWhile_prefix _
    have whole := begins.eq_of_length same
    simpa using List.takeWhile_eq_self_iff.mp whole '@' mem
  · intro absent
    rw [List.takeWhile_eq_self_iff.mpr]
    rintro c mem
    simpa using fun same : c = '@' => absent (same ▸ mem)

theorem countP_range_lt {n m : Nat} (h : n ≤ m) : (List.range m).countP (· < n) = n := by
  obtain ⟨rest, rfl⟩ := Nat.exists_eq_add_of_le h
  rw [List.range_add, List.countP_append, List.countP_eq_length.mpr, List.countP_eq_zero.mpr]
  · simp
  · simp
  · simp

theorem allows_email (fill : Char) (text : List Char) :
    MaskKind.email.Allows text (shows ⟨.email, fill⟩ text) := by
  have begins : text.takeWhile (· ≠ '@') <+: text := List.takeWhile_prefix _
  have bound := begins.length_le
  have whole : (text.takeWhile (· ≠ '@')).length = text.length ↔ '@' ∉ text :=
    length_takeWhile_eq_iff
  have seen (place : Nat) : shows ⟨.email, fill⟩ text place =
      let front := (text.takeWhile (· ≠ '@')).length
      (front < text.length && (place < min (front / 2) 2 || front ≤ place)) := by
    simp only [shows, MaskKind.shows, length_takeWhile_marks, List.length_map]
  simp only [MaskKind.Allows]
  generalize (text.takeWhile (· ≠ '@')).length = front at *
  refine ⟨fun absent place _ => ?_, fun mem => ?_⟩
  · simp [seen, whole.mpr absent]
  · have parted : front ≠ text.length := fun same => whole.mp same mem
    have inside : front < text.length := by omega
    have half : min (front / 2) 2 ≤ front := by omega
    conv_rhs => rw [← countP_range_lt half]
    refine List.countP_congr fun place mem => ?_
    have before := List.mem_range.mp mem
    simp [seen, inside, Nat.not_le.mpr before]

theorem allows_digits (fill : Char) (text : List Char) :
    MaskKind.digits.Allows text (shows ⟨.digits, fill⟩ text) := by
  intro place c here digit
  have marks : text.map MaskKind.digits.marks = text.map Char.isDigit := rfl
  simp [shows, MaskKind.shows, marks, here, digit, ← List.map_drop]

theorem shows_allowed (m : Mask) (text : List Char) : m.kind.Allows text (m.shows text) := by
  obtain ⟨kind, fill⟩ := m
  cases kind with
  | email => exact allows_email fill text
  | digits => exact allows_digits fill text
  | full => exact fun _ _ => rfl
  | custom head tail =>
      intro place _
      simp [shows, MaskKind.shows]

/-- A masked text has as many characters as the text, and at each place either its character or the
fill. No mask shows more than its kind allows, and two texts with the same marks that agree at the
places shown look alike when they are masked. -/
theorem apply_redacts (m : Mask) (text : List Char) :
    (m.apply text).length = text.length ∧
      (∀ place c, text[place]? = some c →
        (m.apply text)[place]? = some (if m.shows text place then c else m.fill)) ∧
      m.kind.Allows text (m.shows text) ∧
      ∀ other : List Char, other.map m.kind.marks = text.map m.kind.marks →
        (∀ place, m.shows text place = true → other[place]? = text[place]?) →
        m.apply other = m.apply text := by
  have masked := apply_eq m text
  refine ⟨?_, fun place c here => ?_, shows_allowed m text, fun other marks shown => ?_⟩
  · rw [masked, redact, List.length_mapIdx]
  · rw [masked, redact, List.getElem?_mapIdx, here]
    rfl
  · have seen : m.shows other = m.shows text := by
      funext place
      rw [shows, shows, marks]
    have length : other.length = text.length := by simpa using congrArg List.length marks
    rw [masked, apply_eq m other, seen]
    refine List.ext_getElem? fun place => ?_
    rw [redact, redact, List.getElem?_mapIdx, List.getElem?_mapIdx]
    by_cases visible : m.shows text place = true
    · rw [shown place visible]
    · by_cases inside : place < text.length
      · simp [visible, inside, length]
      · simp [inside, length]

theorem apply_redacts_card :
    let m : Mask := ⟨.digits, '*'⟩
    let text := "4111-1111-1111-1234".toList
    let other := "5222-3333-4444-1234".toList
    other.map m.kind.marks = text.map m.kind.marks ∧
      (∀ place, m.shows text place = true → other[place]? = text[place]?) ∧
      m.apply other = m.apply text ∧ m.apply text = "****-****-****-1234".toList := by
  intro m text other
  have marks : other.map m.kind.marks = text.map m.kind.marks := by decide
  have shown (place : Nat) (visible : m.shows text place = true) :
      other[place]? = text[place]? := by
    by_cases inside : place < 19
    · have all : ∀ place < 19, m.shows text place = true → other[place]? = text[place]? := by decide
      exact all place inside visible
    · have beyond : 19 ≤ place := Nat.le_of_not_lt inside
      rw [List.getElem?_eq_none (l := other) beyond, List.getElem?_eq_none (l := text) beyond]
  exact ⟨marks, shown, (apply_redacts m text).2.2.2 other marks shown, by decide⟩

end Mask

end Reshape
