import Reshape.Proofs.Decimal.RoundTrip
import Reshape.Proofs.Operator.Argument
import Reshape.Proofs.Operator.Editing
import Reshape.Proofs.Text.Trimming

/-!
# Written dates read back

A date that is written with its time, or without it, is read as the same date. Numbers are written
in full width, so that a reader which takes as many digits as it may stops where they end; only the
digits of a signed year have no bound, and the dash behind the year ends them. No written date is a
text in RFC 3339: such a text starts with four digits and ends in an offset, so a date with a signed
year does not start as one, and any other is too short.
-/

namespace Reshape.Calendar

open Decimal

variable {low high width n : Nat} {c : Char} {ds text rest : List Char}

/-! ## Numbers -/

theorem number?_append (all : ∀ c ∈ ds, c.isDigit = true) (few : low ≤ ds.length)
    (many : ds.length ≤ high)
    (ends : ds.length = high ∨ ∀ c ∈ rest.head?, c.isDigit = false) :
    number? low high (ds ++ rest) = some (ofDigits ds, rest) := by
  have after : (rest.take (high - ds.length)).takeWhile Char.isDigit = [] := by
    rcases ends with full | other
    · rw [full, Nat.sub_self]
      rfl
    · cases rest with
      | nil => simp
      | cons c rest =>
          cases high - ds.length with
          | zero => rfl
          | succ more => simp [other c rfl]
  have taken : ((ds ++ rest).take high).takeWhile Char.isDigit = ds := by
    rw [List.take_append, List.take_of_length_le many, List.takeWhile_append_of_pos all, after,
      List.append_nil]
  rw [number?, taken, if_neg (Nat.not_lt.mpr few), List.drop_left]

theorem isDigit_of_mem_padded (h : c ∈ padded width n) : c.isDigit = true :=
  (List.mem_append.mp h).elim isDigit_of_mem_zeros isDigit_of_mem_digits

theorem isBlank_of_mem_padded (h : c ∈ padded width n) : Text.isBlank c = false :=
  Text.isBlank_of_isDigit (isDigit_of_mem_padded h)

theorem ofDigits_padded (width n : Nat) : ofDigits (padded width n) = n := by
  rw [padded, ofDigits_zeros_append, ofDigits_digits]

theorem padded_ne_nil (width n : Nat) : padded width n ≠ [] := by
  simp [padded, digits_ne_nil]

theorem length_padded (pos : 0 < width) (small : n < 10 ^ width) :
    (padded width n).length = width := by
  have fits : (digits n).length ≤ width :=
    (Nat.length_toDigits_le_iff (by decide) pos).mpr small
  rw [padded, List.length_append, List.length_replicate]
  omega

theorem length_pair (small : n < 100) : (padded 2 n).length = 2 :=
  length_padded (by decide) small

theorem isDigit_of_head? (h : c ∈ (padded width n ++ rest).head?) : c.isDigit = true := by
  rw [List.head?_append_of_ne_nil _ (padded_ne_nil width n)] at h
  exact isDigit_of_mem_padded (List.mem_of_mem_head? h)

theorem number?_padded (pos : 0 < width) (small : n < 10 ^ width) (few : low ≤ width)
    (rest : List Char) : number? low width (padded width n ++ rest) = some (n, rest) := by
  have length := length_padded pos small
  rw [number?_append (fun c => isDigit_of_mem_padded) (few.trans length.ge) length.le (.inl length),
    ofDigits_padded]

theorem pair?_padded (small : n < 100) (rest : List Char) :
    pair? (padded 2 n ++ rest) = some (n, rest) := by
  have unspaced : Text.dropBlank (padded 2 n ++ rest) = padded 2 n ++ rest :=
    Text.dropBlank_of_first fun c first => Text.isBlank_of_isDigit (isDigit_of_head? first)
  rw [pair?, unspaced, number?_padded (by decide) small (by decide)]

/-! ## Years -/

theorem year?_of_isDigit (first : ∀ c ∈ text.head?, c.isDigit = true) :
    year? text = (number? 1 4 text).map fun (n, rest) => ((n : Int), rest) := by
  have unspaced : Text.dropBlank text = text :=
    Text.dropBlank_of_first fun c mem => Text.isBlank_of_isDigit (first c mem)
  rw [year?, unspaced]
  split
  · exact absurd (first '-' rfl) (by decide)
  · exact absurd (first '+' rfl) (by decide)
  · rfl

theorem number?_signed (n : Nat) (rest : List Char) :
    number? 1 (padded 4 n ++ '-' :: rest).length (padded 4 n ++ '-' :: rest) =
      some (n, '-' :: rest) := by
  have few : 1 ≤ (padded 4 n).length := List.length_pos_of_ne_nil (padded_ne_nil 4 n)
  have many : (padded 4 n).length ≤ (padded 4 n ++ '-' :: rest).length := by simp
  have ends : ∀ c ∈ ('-' :: rest).head?, c.isDigit = false := by
    rintro _ ⟨⟩
    rfl
  rw [number?_append (fun c => isDigit_of_mem_padded) few many (.inr ends), ofDigits_padded]

theorem year?_yearText (year : Int) (rest : List Char) :
    year? (yearText year ++ '-' :: rest) = some (year, '-' :: rest) := by
  unfold yearText
  split
  · rename_i range
    have small : year.natAbs < 10 ^ 4 := by omega
    have size : ((year.natAbs : Nat) : Int) = year := Int.natAbs_of_nonneg range.1
    rw [year?_of_isDigit (fun c => isDigit_of_head?), number?_padded (by decide) small (by decide),
      Option.map_some]
    simp only [size]
  · rename_i range
    by_cases negative : year < 0
    · have signed : year? ('-' :: (padded 4 year.natAbs ++ '-' :: rest)) =
          (number? 1 _ _).map fun (n, rest) => (-(n : Int), rest) := rfl
      have size : -((year.natAbs : Nat) : Int) = year := by
        rw [Int.ofNat_natAbs_of_nonpos negative.le, neg_neg]
      rw [if_pos negative, List.cons_append, signed, number?_signed, Option.map_some]
      simp only [size]
    · have signed : year? ('+' :: (padded 4 year.natAbs ++ '-' :: rest)) =
          (number? 1 _ _).map fun (n, rest) => ((n : Int), rest) := rfl
      have size : ((year.natAbs : Nat) : Int) = year := Int.natAbs_of_nonneg (not_lt.mp negative)
      rw [if_neg negative, List.cons_append, signed, number?_signed, Option.map_some]
      simp only [size]

/-! ## The parts of a written date -/

def dateText (d : Date) : List Char :=
  yearText d.year ++ '-' :: (padded 2 d.month ++ '-' :: padded 2 d.day)

def timeText (t : Time) : List Char :=
  padded 2 t.hour ++ ':' :: (padded 2 t.minute ++ ':' :: padded 2 t.second)

theorem daysInMonth_lt (year : Int) (month : Nat) : daysInMonth year month < 100 := by
  unfold daysInMonth
  split
  · split <;> decide
  · split <;> decide

theorem month_lt (d : Date) : d.month < 100 := by
  obtain ⟨-, -, -, month, -⟩ := d.valid
  omega

theorem day_lt (d : Date) : d.day < 100 := by
  obtain ⟨-, -, -, -, -, day⟩ := d.valid
  exact day.trans_lt (daysInMonth_lt d.year d.month)

theorem datePart?_dateText (d : Date) (rest : List Char) :
    datePart? (dateText d ++ rest) = some (d, rest) := by
  have date : Date.ofYmd? d.year d.month d.day = some d := dif_pos d.valid
  simp only [datePart?, dateText, List.append_assoc, List.cons_append, year?_yearText, char?,
    pair?_padded (month_lt d), pair?_padded (day_lt d), date, if_true, bind, Option.bind, pure]

theorem timePart?_timeText {t : Time} (whole : t.nanos = 0) :
    timePart? (timeText t) = some (t, []) := by
  obtain ⟨hour, minute, second, -⟩ := t.valid
  have time : Time.ofHms? t.hour t.minute t.second 0 = some t := by
    rw [← whole]
    exact dif_pos t.valid
  have last := pair?_padded (n := t.second) (by omega) []
  rw [List.append_nil] at last
  simp only [timePart?, timeText, char?, pair?_padded (n := t.hour) (by omega),
    pair?_padded (n := t.minute) (by omega), last, time, if_true, bind, Option.bind, pure]

/-! ## Texts in RFC 3339 -/

theorem length_of_number? (h : number? low high text = some (n, rest)) :
    rest.length + low ≤ text.length := by
  unfold number? at h
  simp only at h
  split at h
  · cases h
  · rename_i few
    cases h
    have taken : ((text.take high).takeWhile Char.isDigit).length ≤ text.length :=
      ((List.takeWhile_prefix _).length_le).trans (List.length_take_le' high text)
    rw [List.length_drop]
    omega

theorem length_of_char? (h : char? c text = some rest) : rest.length < text.length := by
  cases text with
  | nil => cases h
  | cons first text =>
      rw [char?] at h
      split at h
      · cases h
        exact Nat.lt_succ_self _
      · cases h

theorem length_of_fraction? (h : fraction? text = some (n, rest)) : rest.length ≤ text.length := by
  unfold fraction? at h
  split at h
  · rename_i digits
    simp only [bind, Option.bind_eq_some_iff, Prod.exists, pure, Option.some.injEq,
      Prod.mk.injEq] at h
    obtain ⟨_, after, read, -, rfl⟩ := h
    have first := length_of_number? read
    have second := (List.dropWhile_suffix (l := after) Char.isDigit).length_le
    rw [List.length_cons]
    omega
  · cases h
    exact le_rfl

theorem length_of_offset? {ahead : Int} (h : offset? text = some (ahead, rest)) :
    rest.length < text.length := by
  cases text with
  | nil => cases h
  | cons sign text =>
      rw [offset?] at h
      split at h
      · cases h
        exact Nat.lt_succ_self _
      · split at h
        · simp only [bind, Option.bind_eq_some_iff, Prod.exists] at h
          obtain ⟨hours, _, first, _, colon, minutes, _, second, valid⟩ := h
          split at valid
          · cases valid
            have := length_of_number? first
            have := length_of_char? colon
            have := length_of_number? second
            rw [List.length_cons]
            omega
          · cases valid
        · cases h

theorem length_of_rfc3339? {t : DateTime × Int} (h : rfc3339? text = some t) :
    20 ≤ text.length := by
  unfold rfc3339? at h
  obtain ⟨_, year, h⟩ := Option.bind_eq_some_iff.mp h
  obtain ⟨_, dash, h⟩ := Option.bind_eq_some_iff.mp h
  obtain ⟨_, month, h⟩ := Option.bind_eq_some_iff.mp h
  obtain ⟨_, dash', h⟩ := Option.bind_eq_some_iff.mp h
  obtain ⟨_, day, h⟩ := Option.bind_eq_some_iff.mp h
  obtain ⟨after, between, h⟩ := Option.bind_eq_some_iff.mp h
  obtain ⟨_, hour, h⟩ := Option.bind_eq_some_iff.mp h
  obtain ⟨_, colon, h⟩ := Option.bind_eq_some_iff.mp h
  obtain ⟨_, minute, h⟩ := Option.bind_eq_some_iff.mp h
  obtain ⟨_, colon', h⟩ := Option.bind_eq_some_iff.mp h
  obtain ⟨_, second, h⟩ := Option.bind_eq_some_iff.mp h
  obtain ⟨_, fraction, h⟩ := Option.bind_eq_some_iff.mp h
  obtain ⟨_, offset, -⟩ := Option.bind_eq_some_iff.mp h
  obtain ⟨_, mark⟩ : ∃ c, char? c _ = some after := by
    simp only [Option.or_eq_some_iff] at between
    rcases between with h | ⟨-, h | ⟨-, h⟩⟩ <;> exact ⟨_, h⟩
  have := length_of_number? year
  have := length_of_char? dash
  have := length_of_number? month
  have := length_of_char? dash'
  have := length_of_number? day
  have := length_of_char? mark
  have := length_of_number? hour
  have := length_of_char? colon
  have := length_of_number? minute
  have := length_of_char? colon'
  have := length_of_number? second
  have := length_of_fraction? fraction
  have := length_of_offset? offset
  omega

theorem number?_of_sign (sign : c.isDigit = false) (pos : 0 < low) :
    number? low high (c :: rest) = none := by
  have none : ((c :: rest).take high).takeWhile Char.isDigit = [] := by
    cases high with
    | zero => rfl
    | succ high => simp [sign]
  rw [number?, none]
  exact if_pos pos

theorem rfc3339?_dateText (d : Date) (short : rest.length < 10) :
    rfc3339? (dateText d ++ rest) = none := by
  by_cases unsigned : 0 ≤ d.year ∧ d.year ≤ 9999
  · have year : (padded 4 d.year.natAbs).length = 4 := length_padded (by decide) (by omega)
    have length : (dateText d ++ rest).length < 20 := by
      simp only [dateText, yearText, if_pos unsigned, List.length_append, List.length_cons, year,
        length_pair (month_lt d), length_pair (day_lt d)]
      omega
    rw [Option.eq_none_iff_forall_ne_some]
    intro t read
    exact length.not_ge (length_of_rfc3339? read)
  · have year : number? 4 4 (dateText d ++ rest) = none := by
      unfold dateText yearText
      rw [if_neg unsigned]
      split <;> exact number?_of_sign rfl (by decide)
    rw [rfc3339?, year]
    rfl

/-! ## Written dates -/

theorem isBlank_yearText {year : Int} (mem : c ∈ yearText year) : Text.isBlank c = false := by
  unfold yearText at mem
  split at mem
  · exact isBlank_of_mem_padded mem
  · rcases List.mem_cons.mp mem with rfl | mem
    · split <;> rfl
    · exact isBlank_of_mem_padded mem

theorem trimmed_dateText (d : Date) : Text.Trimmed (dateText d) := by
  refine .of_unspaced fun c mem => ?_
  simp only [dateText, List.mem_append, List.mem_cons] at mem
  rcases mem with year | rfl | month | rfl | day
  · exact isBlank_yearText year
  · rfl
  · exact isBlank_of_mem_padded month
  · rfl
  · exact isBlank_of_mem_padded day

theorem trimmed_timeText (t : Time) : Text.Trimmed (timeText t) := by
  refine .of_unspaced fun c mem => ?_
  simp only [timeText, List.mem_append, List.mem_cons] at mem
  rcases mem with hour | rfl | minute | rfl | second
  · exact isBlank_of_mem_padded hour
  · rfl
  · exact isBlank_of_mem_padded minute
  · rfl
  · exact isBlank_of_mem_padded second

theorem inText?_dateText (d : Date) : inText? (dateText d) = some ⟨d, .midnight⟩ := by
  have standard : rfc3339? (dateText d ++ []) = none := rfc3339?_dateText d (by decide)
  have date := datePart?_dateText d []
  rw [List.append_nil] at standard date
  have spaced : dateAndTime? (fun rest => some (Text.dropBlank rest)) (dateText d) = none := by
    rw [dateAndTime?, date]
    rfl
  have marked : dateAndTime? (char? 'T') (dateText d) = none := by
    rw [dateAndTime?, date]
    rfl
  have only : dateOnly? (dateText d) = some ⟨d, .midnight⟩ := by
    rw [dateOnly?, date]
    rfl
  rw [inText?, (trimmed_dateText d).trimChars_eq, standard, spaced, marked, only]
  rfl

theorem dateText_ne_nil (d : Date) : dateText d ≠ [] := by
  simp [dateText]

theorem timeText_ne_nil (t : Time) : timeText t ≠ [] := by
  simp [timeText]

theorem length_timeText (t : Time) : (timeText t).length = 8 := by
  obtain ⟨hour, minute, second, -⟩ := t.valid
  have first : (padded 2 t.hour).length = 2 := length_pair (by omega)
  have second : (padded 2 t.minute).length = 2 := length_pair (by omega)
  have third : (padded 2 t.second).length = 2 := length_pair (by omega)
  rw [timeText, List.length_append, List.length_cons, List.length_append, List.length_cons, first,
    second, third]

theorem inText?_dateAndTime {t : DateTime} (whole : t.time.nanos = 0) :
    inText? (dateText t.date ++ [' '] ++ timeText t.time) = some t := by
  have trimmed := (trimmed_dateText t.date).append (trimmed_timeText t.time)
    (dateText_ne_nil t.date) (timeText_ne_nil t.time) [' ']
  have standard : rfc3339? (dateText t.date ++ ([' '] ++ timeText t.time)) = none := by
    apply rfc3339?_dateText
    rw [List.length_append, length_timeText]
    decide
  have between : Text.dropBlank ([' '] ++ timeText t.time) = timeText t.time := by
    rw [List.singleton_append, Text.dropBlank, List.dropWhile_cons_of_pos (by decide)]
    exact Text.dropBlank_of_first (trimmed_timeText t.time).first
  have spaced : dateAndTime? (fun rest => some (Text.dropBlank rest))
      (dateText t.date ++ ([' '] ++ timeText t.time)) = some t := by
    simp only [dateAndTime?, datePart?_dateText, between, timePart?_timeText whole, bind,
      Option.bind]
    rfl
  rw [inText?, trimmed.trimChars_eq, List.append_assoc, standard, spaced]
  rfl

theorem render_date (t : DateTime) : render "YYYY-MM-DD" t = String.ofList (dateText t.date) := by
  have directives : template "YYYY-MM-DD".toList = "%Y-%m-%d".toList := by decide
  rw [render, directives]
  simp [expand, field?, dateText]

theorem render_dateAndTime (t : DateTime) :
    render "YYYY-MM-DD HH:mm:ss" t =
      String.ofList (dateText t.date ++ [' '] ++ timeText t.time) := by
  have directives : template "YYYY-MM-DD HH:mm:ss".toList = "%Y-%m-%d %H:%M:%S".toList := by decide
  rw [render, directives]
  simp [expand, field?, dateText, timeText]

theorem read?_render_date (t : DateTime) :
    read? (.string (render "YYYY-MM-DD" t)) = some ⟨t.date, .midnight⟩ := by
  rw [render_date, read?, String.toList_ofList, inText?_dateText]

theorem read?_render_dateAndTime {t : DateTime} (whole : t.time.nanos = 0) :
    read? (.string (render "YYYY-MM-DD HH:mm:ss" t)) = some t := by
  rw [render_dateAndTime, read?, String.toList_ofList, inText?_dateAndTime whole]

/-! ## Formatted twice -/

theorem read_date (field : String) :
    Operator.read .format (.object [(field, .string "date")]) =
      .ok (.format [(field, .date none)]) := by
  have name : Text.asciiLower "date" = "date" := by decide
  have rule : FieldForm.readRule field (.string "date") = .ok (.date none) := by
    simp only [FieldForm.readRule, FieldForm.readForm, name, if_true]
    rfl
  exact bind_eq_ok.mpr ⟨_, Argument.entries_singleton rule, rfl⟩

def withDate (settings : Settings) (field : String) (r : Record) : Record :=
  (Edit.applyAll [FieldForm.edit settings (field, .date none)] r).1

section Twice

variable {settings : Settings} {field : String} {r : Record} {v : Value} {t : DateTime}

theorem withDate_of_dated (found : r.resolve field = some v) (dated : read? v = some t) :
    withDate settings field r = r.insert field (.string (render settings.dateFormat t)) := by
  have written : (FieldForm.edit settings (field, .date none)).outcome r r =
      .write (.string (render settings.dateFormat t)) := by
    cases v with
    | null => cases dated
    | _ => simp [FieldForm.edit, FieldForm.outcome, found, FieldForm.apply, dated, Outcome.write]
  rw [withDate, Edit.applyAll_of_write written]
  rfl

theorem withDate_of_undated (undated : ∀ v ∈ r.resolve field, read? v = none) :
    withDate settings field r = r := by
  have kept : ((FieldForm.edit settings (field, .date none)).outcome r r).value = none := by
    cases found : r.resolve field with
    | none => simp [FieldForm.edit, FieldForm.outcome, found, Outcome.keep]
    | some v =>
        have undated := undated v found
        cases v with
        | null => simp [FieldForm.edit, FieldForm.outcome, found, Outcome.keep]
        | _ => simp [FieldForm.edit, FieldForm.outcome, found, FieldForm.apply, undated]
  rw [withDate, Edit.applyAll, List.foldl_cons, List.foldl_nil, Edit.apply, kept]

theorem resolve_withDate (found : r.resolve field = some v) (dated : read? v = some t) :
    (withDate settings field r).resolve field =
      some (.string (render settings.dateFormat t)) := by
  have nonempty : field ≠ "" := by
    rintro rfl
    cases found
  rw [withDate_of_dated found dated]
  exact Record.resolve_insert_self r nonempty _

theorem withDate_withDate (standard : settings.dateFormat = "YYYY-MM-DD") (r : Record) :
    withDate settings field (withDate settings field r) = withDate settings field r := by
  -- The day of a date is all that the first text keeps, and all that the second one shows.
  by_cases dated : ∃ v ∈ r.resolve field, ∃ t, read? v = some t
  · obtain ⟨v, found, t, dated⟩ := dated
    have again : read? (.string (render settings.dateFormat t)) = some ⟨t.date, .midnight⟩ := by
      rw [standard, read?_render_date]
    have same : render settings.dateFormat ⟨t.date, .midnight⟩ = render settings.dateFormat t := by
      rw [standard, render_date, render_date]
    rw [withDate_of_dated (resolve_withDate found dated) again, withDate_of_dated found dated,
      Record.insert_insert, same]
  · have undated : ∀ v ∈ r.resolve field, read? v = none := by
      intro v found
      rw [Option.eq_none_iff_forall_ne_some]
      exact fun t read => dated ⟨v, found, t, read⟩
    rw [withDate_of_undated undated, withDate_of_undated undated]

end Twice

/-- A date that is written with its time is read as the same moment and one that is written alone as
the start of its day, so a second format by the default pattern leaves every record as it is. -/
theorem read?_render :
    (∀ t : DateTime, t.time.nanos = 0 →
      read? (.string (render "YYYY-MM-DD HH:mm:ss" t)) = some t) ∧
    (∀ t : DateTime, read? (.string (render "YYYY-MM-DD" t)) = some ⟨t.date, .midnight⟩) ∧
    ∀ (field : String) (context : Context),
      context.settings.dateFormat = ({} : Settings).dateFormat →
      let op : Operator := .format [(field, .date none)]
      Operator.read .format (.object [(field, .string "date")]) = .ok op ∧
      ∃ f : Record → Record,
        (∀ c, Operator.applyAll context [op] c = .ok (c.map f)) ∧
        (∀ c, Operator.applyAll context [op, op] c = .ok (c.map f)) ∧
        ∀ r v t, r.resolve field = some v → read? v = some t →
          (f r).resolve field = some (.string (render "YYYY-MM-DD" t)) := by
  refine ⟨fun t => read?_render_dateAndTime, read?_render_date, fun field context standard => ?_⟩
  intro op
  refine ⟨read_date field, withDate context.settings field, fun c => ?_, fun c => ?_,
    fun r v t found dated => ?_⟩
  · exact Operator.applyAll_edits (.cons rfl .nil) c
  · have twice : Operator.applyAll context [op, op] c =
        .ok (c.map fun r => withDate context.settings field (withDate context.settings field r)) :=
      Operator.applyAll_edits (.cons rfl (.cons rfl .nil)) c
    simp only [withDate_withDate standard] at twice
    exact twice
  · rw [resolve_withDate found dated, standard]

theorem read?_render_signed_year :
    let t : DateTime := ⟨⟨-44, 3, 15, by decide⟩, ⟨9, 30, 0, 0, by decide⟩⟩
    let context : Context := ⟨{}, t, .checked⟩
    let op : Operator := .format [("seen", .date none)]
    let r : Record := [("seen", .string "-44-3-15T9:30:0")]
    t.time.nanos = 0 ∧ context.settings.dateFormat = ({} : Settings).dateFormat ∧
      r.resolve "seen" = some (.string "-44-3-15T9:30:0") ∧
      read? (.string "-44-3-15T9:30:0") = some t ∧
      read? (.string "-0044-03-15 09:30:00") = some t ∧
      read? (.string "-0044-03-15") = some ⟨t.date, .midnight⟩ ∧
      ∃ out, Operator.applyAll context [op, op] (.single r) = .ok (.single out) ∧
        out.resolve "seen" = some (.string "-0044-03-15") := by
  intro t context op r
  have first : render "YYYY-MM-DD HH:mm:ss" t = "-0044-03-15 09:30:00" := by decide
  have second : render "YYYY-MM-DD" t = "-0044-03-15" := by decide
  have dated : read? (.string "-44-3-15T9:30:0") = some t := by decide
  obtain ⟨together, alone, formatted⟩ := read?_render
  obtain ⟨-, f, -, twice, text⟩ := formatted "seen" context rfl
  have moment := together t rfl
  have day := alone t
  have shown := text r _ t rfl dated
  rw [first] at moment
  rw [second] at day shown
  exact ⟨rfl, rfl, rfl, dated, moment, day, f r, twice (.single r), shown⟩

end Reshape.Calendar
