import Mathlib.Data.List.TakeWhile
import Slumber.Proofs.Decimal.Digits
import Slumber.Proofs.Time.ClockRules
import Slumber.Proofs.Time.Clocks
import Slumber.Proofs.Time.Days

/-!
# Local times in writing

A pause can be given as a local date and time, `2024-03-31 02:30` or with the second behind it, and
the zone of the clock that shows it. The text has no offset of its own, so it is read by one of the
two local formats, as the time that it writes. The instant that is meant is the earliest one at
which the clock shows that time, if the zones keep what a database promises. A clock that is put
forward passes over some times; such a time is well formed and yet no instant, and it is refused.

* `CalendarTime` — real dates and times of day, and their text;
* `CalendarTime.read_text` — the local formats read the text back;
* `ZonedDateTime.instant_eq` — what comes of the text on the clock of its zone;
* `local_time_resolved` — the main theorem;
* `local_time_skipped` — a time that was passed over in Paris.
-/

namespace Slumber

open Text Decimal Time

/-! ### Dates and times of day -/

/-- A date of the calendar in a year of at most four digits and a time of day, with the second if
that is given. The second 60 is a leap second. -/
structure CalendarTime where
  date : Date
  hour : Nat
  minute : Nat
  second : Option Nat
  date_isValid : date.isValid = true
  year_nonneg : 0 ≤ date.year
  year_le : date.year ≤ 9999
  hour_le : hour ≤ 23
  minute_le : minute ≤ 59
  second_le : ∀ s ∈ second, s ≤ 60

namespace CalendarTime

variable (c : CalendarTime)

/-- The text up to the minute. -/
def front : List Char :=
  (padded 4 c.date.year.toNat).toList ++ '-' :: ((padded 2 c.date.month).toList ++ '-' ::
    ((padded 2 c.date.day).toList ++ ' ' :: ((padded 2 c.hour).toList ++ ':' ::
      (padded 2 c.minute).toList)))

/-- The text behind the minute. -/
def back : List Char :=
  match c.second with
  | none => []
  | some s => ':' :: (padded 2 s).toList

/-- The text `YYYY-MM-DD HH:MM` or `YYYY-MM-DD HH:MM:SS`. -/
def text : String :=
  String.ofList (c.front ++ c.back)

/-- What a clock shows at that date and time. The leap second is shown as the one before it. -/
def shown : LocalTime :=
  let s := c.second.getD 0
  ⟨dayNumber c.date, (c.hour * 60 + c.minute) * 60 + min s 59, if s = 60 then 1000000000 else 0⟩

theorem second_shown_lt : c.shown.second < 86400 := by
  have hhour := c.hour_le
  have hminute := c.minute_le
  simp only [shown]
  omega

end CalendarTime

/-! ### Numbers in front of a text -/

namespace Time

theorem scanNumber?_append {least most : Nat} {ds rest : List Char}
    (hds : ∀ d ∈ ds, isAsciiDigit d = true) (hlength : ds.length = most) (hleast : least ≤ most)
    (hfits : digitsValue ds ≤ maxSigned64) :
    scanNumber? least most (ds ++ rest) = some ((digitsValue ds : Int), rest) := by
  have htake : ((ds ++ rest).take most).takeWhile isAsciiDigit = ds := by
    rw [List.take_left' hlength]
    exact List.takeWhile_eq_self_iff.2 hds
  unfold scanNumber?
  dsimp only
  rw [htake, if_neg (by omega), if_pos hfits, List.drop_left]

theorem scanNumber?_padded {least width n : Nat} (rest : List Char) (hwidth : 0 < width)
    (hn : n < 10 ^ width) (hleast : least ≤ width) (hfits : 10 ^ width ≤ maxSigned64) :
    scanNumber? least width ((padded width n).toList ++ rest) = some ((n : Int), rest) := by
  have hdigits : ∀ d ∈ (padded width n).toList, isAsciiDigit d = true :=
    fun _ hd => isAsciiDigit_of_mem_padded hd
  have hvalue := digitsValue_padded width n
  have hle : digitsValue (padded width n).toList ≤ maxSigned64 := by
    rw [hvalue]
    exact Nat.le_trans (Nat.le_of_lt hn) hfits
  rw [scanNumber?_append hdigits (length_padded hwidth hn) hleast hle, hvalue]

theorem trimLeft_padded {width n : Nat} (rest : List Char) (hwidth : 0 < width)
    (hn : n < 10 ^ width) :
    trimLeft ((padded width n).toList ++ rest) = (padded width n).toList ++ rest := by
  obtain ⟨d, ds, hcs, hd⟩ := exists_digit_of_padded hwidth hn
  rw [hcs]
  exact trimLeft_cons_of_not_blank (isBlank_of_isAsciiDigit hd)

/-- A number of fixed width is read as what it writes. -/
theorem Fields.readNumber?_padded {field : NumericField} {width n : Nat} (f : Fields)
    (rest : List Char) (hfield : digitsOf field = some width) (hwidth : 0 < width)
    (hn : n < 10 ^ width) (hfits : 10 ^ width ≤ maxSigned64) :
    readNumber? field f ((padded width n).toList ++ rest)
      = (f.setNumber? field n).map fun g => (g, rest) := by
  have hscan := scanNumber?_padded rest hwidth hn hwidth hfits
  obtain ⟨d, ds, hcs, hd⟩ := exists_digit_of_padded hwidth hn
  have hminus : d ≠ '-' := ne_of_isAsciiDigit hd (by decide)
  have hplus : d ≠ '+' := ne_of_isAsciiDigit hd (by decide)
  unfold readNumber?
  rw [trimLeft_padded rest hwidth hn, hfield]
  rw [hcs] at hscan ⊢
  dsimp only [Option.getD_some]
  split
  · rename_i heq
    exact absurd (List.cons.inj heq).1 hminus
  · rename_i heq
    exact absurd (List.cons.inj heq).1 hplus
  · rw [hscan, Option.bind_eq_bind, Option.bind_some]
    dsimp only
    cases f.setNumber? field n <;> rfl

/-! ### Items of a format -/

theorem within?_eq {lo hi v : Int} (hlo : lo ≤ v) (hhi : v ≤ hi) : within? lo hi v = some v :=
  if_pos ⟨hlo, hhi⟩

namespace Fields

theorem readItems?_number {field : NumericField} {width n : Nat} {items : Format} {f g : Fields}
    {rest : List Char} (hfield : digitsOf field = some width) (hwidth : 0 < width)
    (hn : n < 10 ^ width) (hfits : 10 ^ width ≤ maxSigned64)
    (hset : f.setNumber? field n = some g) :
    readItems? (.number field :: items) f ((padded width n).toList ++ rest)
      = readItems? items g rest := by
  rw [readItems?, readItem?, readNumber?_padded f rest hfield hwidth hn hfits, hset]
  rfl

theorem readItems?_literal {x : Char} {items : Format} {f : Fields} {rest : List Char} :
    readItems? (.literal [x] :: items) f (x :: rest) = readItems? items f rest := by
  simp [readItems?, readItem?, dropToken?]

theorem readItems?_blank {width n : Nat} {items : Format} {f : Fields} {rest : List Char}
    (hwidth : 0 < width) (hn : n < 10 ^ width) :
    readItems? (.blank :: items) f (' ' :: ((padded width n).toList ++ rest))
      = readItems? items f ((padded width n).toList ++ rest) := by
  have htrim : trimLeft (' ' :: ((padded width n).toList ++ rest))
      = trimLeft ((padded width n).toList ++ rest) := List.dropWhile_cons_of_pos (by decide)
  rw [readItems?, readItem?, htrim, trimLeft_padded rest hwidth hn]

end Fields

end Time

/-! ### Reading by the local formats -/

/-- The items of the local formats up to the minute. -/
def frontItems : Format :=
  [.number .year, .literal ['-'], .number .month, .literal ['-'], .number .day, .blank,
    .number .hour, .literal [':'], .number .minute]

theorem localFormats_eq :
    localFormats = [frontItems ++ [.literal [':'], .number .second], frontItems] :=
  rfl

namespace CalendarTime

variable (c : CalendarTime)

/-- The parts that the text gives up to the minute. -/
def frontFields : Fields :=
  { year := some c.date.year, month := some c.date.month, day := some c.date.day,
    halfDay := some ((c.hour : Int) / 12), hourOfHalf := some ((c.hour : Int) % 12),
    minute := some c.minute }

/-- The numbers up to the minute can be entered one after the other. -/
theorem exists_fields_of_front : ∃ year month day hour : Fields,
    Fields.setNumber? {} .year c.date.year.toNat = some year
      ∧ year.setNumber? .month c.date.month = some month
      ∧ month.setNumber? .day c.date.day = some day
      ∧ day.setNumber? .hour c.hour = some hour
      ∧ hour.setNumber? .minute c.minute = some c.frontFields := by
  obtain ⟨hmonth, hday⟩ := Date.bounds_of_isValid c.date_isValid
  have hyearLow := c.year_nonneg
  have hyearHigh := c.year_le
  have hhour := c.hour_le
  have hminute := c.minute_le
  let year : Fields := { year := some c.date.year }
  let month : Fields := { year with month := some c.date.month }
  let day : Fields := { month with day := some c.date.day }
  let hour : Fields :=
    { day with halfDay := some ((c.hour : Int) / 12), hourOfHalf := some ((c.hour : Int) % 12) }
  have hyearIn : within? (-0x80000000) 0x7FFFFFFF c.date.year = some c.date.year :=
    within?_eq (by omega) (by omega)
  have hmonthIn : within? 1 12 c.date.month = some (c.date.month : Int) :=
    within?_eq (by omega) (by omega)
  have hdayIn : within? 1 31 c.date.day = some (c.date.day : Int) :=
    within?_eq (by omega) (by omega)
  have hhourIn : ¬ ((c.hour : Int) < 0 ∨ 23 < (c.hour : Int)) := by omega
  have hminuteIn : within? 0 59 c.minute = some (c.minute : Int) :=
    within?_eq (by omega) (by omega)
  refine ⟨year, month, day, hour, ?_, ?_, ?_, ?_, ?_⟩
  · rw [Int.toNat_of_nonneg hyearLow, Fields.setNumber?, hyearIn]
    rfl
  · rw [Fields.setNumber?, hmonthIn]
    rfl
  · rw [Fields.setNumber?, hdayIn]
    rfl
  · rw [Fields.setNumber?, Fields.setHour?, if_neg hhourIn]
    rfl
  · rw [Fields.setNumber?, hminuteIn]
    rfl

/-- The numbers of the text fit their widths. -/
theorem widths : c.date.year.toNat < 10 ^ 4 ∧ c.date.month < 10 ^ 2 ∧ c.date.day < 10 ^ 2
    ∧ c.hour < 10 ^ 2 ∧ c.minute < 10 ^ 2 ∧ ∀ s ∈ c.second, s < 10 ^ 2 := by
  obtain ⟨hmonth, hday⟩ := Date.bounds_of_isValid c.date_isValid
  have hyearLow := c.year_nonneg
  have hyearHigh := c.year_le
  have hhour := c.hour_le
  have hminute := c.minute_le
  refine ⟨by omega, by omega, by omega, by omega, by omega, ?_⟩
  intro s hs
  have hsecond := c.second_le s hs
  omega

/-- The text up to the minute is read item by item. -/
theorem readItems?_front (items : Format) (rest : List Char) :
    Fields.readItems? (frontItems ++ items) {} (c.front ++ rest)
      = Fields.readItems? items c.frontFields rest := by
  obtain ⟨hyear, hmonth, hday, hhour, hminute, -⟩ := c.widths
  obtain ⟨year, month, day, hour, hyearSet, hmonthSet, hdaySet, hhourSet, hminuteSet⟩ :=
    c.exists_fields_of_front
  simp only [frontItems, front, List.cons_append, List.append_assoc, List.nil_append]
  rw [Fields.readItems?_number rfl (by decide) hyear (by decide) hyearSet,
    Fields.readItems?_literal,
    Fields.readItems?_number rfl (by decide) hmonth (by decide) hmonthSet,
    Fields.readItems?_literal,
    Fields.readItems?_number rfl (by decide) hday (by decide) hdaySet,
    Fields.readItems?_blank (by decide) hhour,
    Fields.readItems?_number rfl (by decide) hhour (by decide) hhourSet,
    Fields.readItems?_literal,
    Fields.readItems?_number rfl (by decide) hminute (by decide) hminuteSet]

/-- The strict notation of instants does not take the text, which has no offset. -/
theorem readRfc3339?_text : Instant.readRfc3339? c.text = none := by
  obtain ⟨hyear, hmonth, hday, hhour, hminute, hsecond⟩ := c.widths
  obtain ⟨year, month, day, hour, hyearSet, hmonthSet, hdaySet, hhourSet, hminuteSet⟩ :=
    c.exists_fields_of_front
  have h4 : ∀ n rest, n < 10 ^ 4 →
      scanNumber? 4 4 ((padded 4 n).toList ++ rest) = some ((n : Int), rest) :=
    fun n rest hn => scanNumber?_padded rest (by decide) hn (by decide) (by decide)
  have h2 : ∀ n rest, n < 10 ^ 2 →
      scanNumber? 2 2 ((padded 2 n).toList ++ rest) = some ((n : Int), rest) :=
    fun n rest hn => scanNumber?_padded rest (by decide) hn (by decide) (by decide)
  have htext : c.text.toList = (padded 4 c.date.year.toNat).toList ++ '-' ::
      ((padded 2 c.date.month).toList ++ '-' :: ((padded 2 c.date.day).toList ++ ' ' ::
        ((padded 2 c.hour).toList ++ ':' :: ((padded 2 c.minute).toList ++ c.back)))) := by
    simp [text, front]
  unfold Instant.readRfc3339?
  rw [htext]
  simp only [Option.bind_eq_bind, Option.bind_some, Option.pure_def, List.mem_cons, true_or,
    or_true, if_true, h4 _ _ hyear, hyearSet, h2 _ _ hmonth, hmonthSet, h2 _ _ hday, hdaySet,
    h2 _ _ hhour, hhourSet, h2 _ _ hminute, hminuteSet]
  cases hs : c.second with
  | none =>
      have hback : c.back = [] := by rw [back, hs]
      rw [hback]
      rfl
  | some s =>
      have hwidth := hsecond s hs
      have hback : c.back = ':' :: ((padded 2 s).toList ++ []) := by
        rw [back, hs, List.append_nil]
      simp only [hback, true_or, if_true, Option.bind_some, h2 _ _ hwidth]
      cases c.frontFields.setNumber? .second s <;> rfl

/-- All the parts that the text gives. -/
def fields : Fields :=
  { c.frontFields with second := c.second.map Int.ofNat }

theorem date_fields : c.fields.date = .ok (dayNumber c.date) := by
  have hdate : (⟨c.date.year, ((c.date.month : Int)).toNat, ((c.date.day : Int)).toNat⟩ : Date)
      = c.date := rfl
  have hweek : c.fields.fitsIsoWeek (dayNumber c.date) = true := by
    simp [Fields.fitsIsoWeek, fits, fields, frontFields]
  have hordinal : c.fields.fitsOrdinal (dayNumber c.date) = true := by
    simp [Fields.fitsOrdinal, fits, fields, frontFields]
  have hfixed : c.fields.fixedDay (some c.date.year) none = .ok (dayNumber c.date, true) := by
    simp only [Fields.fixedDay, fields, frontFields] at hweek hordinal ⊢
    rw [hdate, if_pos c.date_isValid, hweek, hordinal]
    rfl
  show (c.fields.fixedDay (some c.date.year) none >>= _) = _
  rw [hfixed]
  rfl

theorem time_fields : c.fields.time = .ok (c.shown.second, c.shown.nanos) := by
  have hhour : (c.hour : Int) / 12 * 12 + (c.hour : Int) % 12 = c.hour := Int.ediv_mul_add_emod ..
  cases hs : c.second with
  | none =>
      simp only [Fields.time, fields, frontFields, shown, hs, hhour, Option.map_none]
      rfl
  | some s =>
      have hsecond := c.second_le s hs
      simp only [Fields.time, fields, frontFields, shown, hs, hhour, Option.map_some]
      by_cases hleap : s = 60
      · subst hleap
        rfl
      · have hne : (Int.ofNat s) ≠ 60 := by
          intro h
          exact hleap (Int.ofNat.inj h)
        have hmin : min s 59 = s := by omega
        split
        · rename_i heq
          exact absurd (Option.some.inj heq) hne
        · rename_i heq
          rw [← Option.some.inj heq, Option.getD_some, hmin, if_neg hleap]
          rfl
        · rename_i heq
          cases heq

/-- The parts make the time that the text writes. -/
theorem localTime_fields : c.fields.localTime 0 = .ok c.shown := by
  rw [Fields.localTime, c.date_fields, c.time_fields]
  rfl

/-- The local formats read the text back, each of them the form it is for. -/
theorem read_text :
    (localFormats.findSome? fun f => LocalTime.read? f c.text) = some c.shown := by
  have htext : c.text.toList = c.front ++ c.back := String.toList_ofList
  have hread : ∀ format, Fields.read? format c.text = some c.fields →
      LocalTime.read? format c.text = some c.shown := by
    intro format h
    rw [LocalTime.read?, h]
    show (c.fields.localTime 0).toOption = _
    rw [c.localTime_fields]
    rfl
  rw [localFormats_eq, List.findSome?_cons]
  cases hs : c.second with
  | none =>
      have hback : c.back = [] := by rw [back, hs]
      have hlong : LocalTime.read? (frontItems ++ [.literal [':'], .number .second]) c.text
          = none := by
        rw [LocalTime.read?, Fields.read?, htext, c.readItems?_front, hback]
        rfl
      have hshort : LocalTime.read? frontItems c.text = some c.shown := by
        apply hread
        have hitems := c.readItems?_front [] []
        rw [List.append_nil, List.append_nil] at hitems
        rw [Fields.read?, htext, hback, List.append_nil, hitems, fields, hs]
        rfl
      rw [hlong, List.findSome?_cons, hshort]
  | some s =>
      have hwidth := c.widths.2.2.2.2.2 s hs
      have hback : c.back = ':' :: ((padded 2 s).toList ++ []) := by
        rw [back, hs, List.append_nil]
      have hsecond := c.second_le s hs
      have hset : c.frontFields.setNumber? .second s = some c.fields := by
        rw [Fields.setNumber?, within?_eq (by omega) (by omega), fields, hs]
        rfl
      have hlong : LocalTime.read? (frontItems ++ [.literal [':'], .number .second]) c.text
          = some c.shown := by
        apply hread
        rw [Fields.read?, htext, c.readItems?_front, hback, Fields.readItems?_literal,
          Fields.readItems?_number rfl (by decide) hwidth (by decide) hset]
        rfl
      rw [hlong]

/-- An instant at which a clock shows the time is in range, as clocks are within a day of Universal
Time. -/
theorem inRange_of_shown {z : Zone} (hz : z.IsLawful) {i : Instant}
    (hi : z.localTime i = c.shown) : i.inRange = true := by
  have hoffset := hz.within_day i.seconds
  have hn := ((Zone.localTime_eq_iff c.second_shown_lt).1 hi).1
  have hdate := dayNumber_bounds c.date_isValid c.year_nonneg c.year_le
  have hday : c.shown.day = dayNumber c.date := rfl
  have hsecond := c.second_shown_lt
  rw [Instant.inRange_iff]
  unfold Zone.shownAt LocalTime.count at hn
  rw [hday] at hn
  omega

end CalendarTime

/-! ### The instant on a clock -/

section

variable [ZoneDatabase] {zone : Zone} {t : ZonedDateTime} {c : CalendarTime}

/-- A local time in writing is the first instant of the clock's answer, or refused if there is
none. -/
theorem ZonedDateTime.instant_eq (htext : trim t.dateTime = c.text)
    (hzone : readZone t.zone = .ok zone) :
    t.instant = match (zone.fromLocal c.shown).earliest? with
      | some i => .ok i
      | none => .error (.invalidDateTime c.text) := by
  unfold instant
  rw [htext]
  dsimp only
  rw [c.readRfc3339?_text, hzone, c.read_text]
  simp only [bind, Except.bind, Option.bind_some]
  cases (zone.fromLocal c.shown).earliest? <;> rfl

/-- **Local times are resolved.**  Let a text be a real date and time of day without an offset, and
let its zone resolve to a clock of a database that keeps its promises. Then the text is the earliest
instant at which the clock shows that date and time, if there is one; there is none only if the
clock is put forward over it, and the text is then refused. -/
theorem local_time_resolved (hlawful : ZoneDatabase.IsLawful) (htext : trim t.dateTime = c.text)
    (hzone : readZone t.zone = .ok zone) :
    (∀ i, t.instant = .ok i ↔ zone.IsEarliest c.shown i)
    ∧ (∀ j, zone.localTime j = c.shown → ∃ i, t.instant = .ok i)
    ∧ ((∀ j, zone.localTime j ≠ c.shown) →
      t.instant = .error (.invalidDateTime c.text) ∧ zone.IsPutForwardOver c.shown.count) := by
  have hz := readZone_isLawful hlawful hzone
  have hlt := c.second_shown_lt
  have hanswer := ZonedDateTime.instant_eq htext hzone
  refine ⟨fun i => ?_, fun j hj => ?_, fun hnever => ⟨?_, ?_⟩⟩
  · have hfound : t.instant = .ok i ↔ (zone.fromLocal c.shown).earliest? = some i := by
      rw [hanswer]
      cases (zone.fromLocal c.shown).earliest? <;> simp
    rw [hfound, hz.earliest?_eq_some_iff hlt]
    constructor
    · rintro ⟨⟨-, hi⟩, hearliest⟩
      exact ⟨hi, fun j hj => hearliest j ⟨c.inRange_of_shown hz hj, hj⟩⟩
    · rintro ⟨hi, hearliest⟩
      exact ⟨⟨c.inRange_of_shown hz hi, hi⟩, fun j hj => hearliest j hj.2⟩
  · rw [hanswer]
    cases hfirst : (zone.fromLocal c.shown).earliest? with
    | none => exact absurd hj ((hz.earliest?_eq_none_iff hlt).1 hfirst j (c.inRange_of_shown hz hj))
    | some i => exact ⟨i, rfl⟩
  · rw [hanswer, (hz.earliest?_eq_none_iff hlt).2 fun j _ => hnever j]
  · refine hz.isPutForwardOver fun n hn => ?_
    exact hnever ⟨n, c.shown.nanos⟩ ((Zone.localTime_eq_iff hlt).2 ⟨hn, rfl⟩)

end

/-! ### The clock of Paris -/

open scoped Time.ClockHistory

theorem readZone_paris : readZone "Europe/Paris" = .ok ClockHistory.paris.zone := by
  have htrim : trim "Europe/Paris" = "Europe/Paris" := by decide
  unfold readZone
  rw [htrim]
  rfl

/-- The clock of Paris is one hour ahead or two. -/
theorem paris_offsetAt_eq (n : Int) :
    ClockHistory.paris.offsetAt n = 3600 ∨ ClockHistory.paris.offsetAt n = 7200 := by
  rcases List.mem_cons.1 (ClockHistory.paris.offsetAt_mem_offsets n) with h | h
  · exact .inl h
  · obtain ⟨c, hc, h⟩ := List.mem_map.1 h
    rw [← h]
    exact ClockRule.forall_changes (p := fun offset => offset = 3600 ∨ offset = 7200)
      (by decide) c hc

/-- The database with the clock of Paris keeps its promises. -/
theorem parisian_isLawful : ZoneDatabase.IsLawful := by
  intro name zone hfound
  obtain ⟨h, hmem, rfl⟩ := Option.map_eq_some_iff.1 hfound
  obtain rfl := List.mem_singleton.1 (List.mem_of_find?_eq_some hmem)
  exact ClockHistory.isLawful_of_two_offsets (by decide) (by decide) (by decide) paris_offsetAt_eq

/-- Around the nights in which the clocks of Paris were changed in 2024. -/
theorem paris_offsetAt_nights :
    ClockHistory.paris.offsetAt 1711845000 = 3600 ∧ ClockHistory.paris.offsetAt 1711848600 = 7200
    ∧ ClockHistory.paris.offsetAt 1729989000 = 7200 := by
  rw [ClockHistory.paris, ClockRule.changes_eq]
  decide +kernel

/-- Half past two in the night in which the clocks were put back. -/
def autumnHour : CalendarTime :=
  ⟨⟨2024, 10, 27⟩, 2, 30, none, by decide, by decide, by decide, by decide, by decide, by simp⟩

/-- Half past two in the night in which they were put forward. -/
def springHour : CalendarTime :=
  ⟨⟨2024, 3, 31⟩, 2, 30, none, by decide, by decide, by decide, by decide, by decide, by simp⟩

/-- No instant shows half past two in the night in which the clocks were put forward. -/
theorem springHour_not_shown (j : Instant) :
    ClockHistory.paris.zone.localTime j ≠ springHour.shown := by
  intro hj
  have hcount := ((Zone.localTime_eq_iff springHour.second_shown_lt).1 hj).1
  have hshown : springHour.shown.count = 1711852200 := by decide
  rw [hshown] at hcount
  change j.seconds + ClockHistory.paris.offsetAt j.seconds = _ at hcount
  rcases paris_offsetAt_eq j.seconds with h | h
  · have hj' : j.seconds = 1711848600 := by omega
    rw [hj', paris_offsetAt_nights.2.1] at h
    cases h
  · have hj' : j.seconds = 1711845000 := by omega
    rw [hj', paris_offsetAt_nights.1] at h
    cases h

/-- In the night in which the clocks were put back they showed half past two twice, and the first
time is meant. -/
theorem local_time_resolved_autumn :
    ZoneDatabase.IsLawful
    ∧ trim " 2024-10-27 02:30" = autumnHour.text
    ∧ readZone "Europe/Paris" = .ok ClockHistory.paris.zone
    ∧ ClockHistory.paris.zone.localTime ⟨1729989000, 0⟩ = autumnHour.shown
    ∧ ZonedDateTime.instant ⟨" 2024-10-27 02:30", "Europe/Paris"⟩ = .ok ⟨1729989000, 0⟩ := by
  have htext : trim " 2024-10-27 02:30" = autumnHour.text := by decide
  have hautumn : autumnHour.shown.count = 1729996200 := by decide
  have hshown : ClockHistory.paris.zone.localTime ⟨1729989000, 0⟩ = autumnHour.shown := by
    rw [Zone.localTime_eq_iff autumnHour.second_shown_lt, hautumn]
    change 1729989000 + ClockHistory.paris.offsetAt 1729989000 = _ ∧ _
    rw [paris_offsetAt_nights.2.2]
    decide
  have hearliest : ClockHistory.paris.zone.IsEarliest autumnHour.shown ⟨1729989000, 0⟩ := by
    refine ⟨hshown, fun j hj => ?_⟩
    have hcount := ((Zone.localTime_eq_iff autumnHour.second_shown_lt).1 hj).1
    rw [hautumn] at hcount
    change j.seconds + ClockHistory.paris.offsetAt j.seconds = _ at hcount
    have hoffset := paris_offsetAt_eq j.seconds
    show (1729989000 : Int) ≤ j.seconds
    omega
  refine ⟨parisian_isLawful, htext, readZone_paris, hshown, ?_⟩
  exact ((local_time_resolved (t := ⟨" 2024-10-27 02:30", "Europe/Paris"⟩) parisian_isLawful htext
    readZone_paris).1 _).2 hearliest

/-- Not every real date and time of day is an instant, even if the database keeps its promises: the
clocks of Paris passed over half past two in the night in which they were put forward. -/
theorem local_time_skipped :
    ¬ ∀ [ZoneDatabase], ZoneDatabase.IsLawful →
      ∀ (c : CalendarTime) (t : ZonedDateTime) (zone : Zone), trim t.dateTime = c.text →
        readZone t.zone = .ok zone → ∃ i, t.instant = .ok i := by
  intro h
  have htext : trim "2024-03-31 02:30" = springHour.text := by decide
  obtain ⟨i, hi⟩ := h parisian_isLawful springHour ⟨"2024-03-31 02:30", "Europe/Paris"⟩ _ htext
    readZone_paris
  have hlaws := readZone_isLawful parisian_isLawful readZone_paris
  rw [ZonedDateTime.instant_eq (t := ⟨"2024-03-31 02:30", "Europe/Paris"⟩) htext readZone_paris,
    (hlaws.earliest?_eq_none_iff springHour.second_shown_lt).2 fun j _ =>
      springHour_not_shown j] at hi
  cases hi

end Slumber
