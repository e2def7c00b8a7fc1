import Relational.Calendar.Iso
import Relational.Proofs.Calendar.Date
import Relational.Proofs.Calendar.Digits
import Relational.Proofs.Token.Separation
import Relational.Proofs.Value.Comparison

/-!
# The order of stored moments

Stored moments are compared as texts.  In the years 0 to 9999 the canonical text has
seven fields, each with a width of its own, from the year down to the microsecond.
Texts of that form are ordered as the moments are, cut to microseconds, and such a
text is read back as its moment.
-/

namespace Relational

/-- Natural numbers are in the same order as integers. -/
theorem compare_natCast (m n : Nat) : compare (m : Int) (n : Int) = compare m n := by
  rcases Nat.lt_trichotomy m n with less | rfl | greater
  · rw [Nat.compare_eq_lt.mpr less, Int.compare_eq_lt.mpr (Int.ofNat_lt.mpr less)]
  · rw [Nat.compare_eq_eq.mpr rfl, Int.compare_eq_eq.mpr rfl]
  · rw [Nat.compare_eq_gt.mpr greater, Int.compare_eq_gt.mpr (Int.ofNat_lt.mpr greater)]

/-- The order of texts is the one that characters give from left to right. -/
theorem isLE_compareText (s t : String) : (compareText s t).isLE ↔ s ≤ t := by
  unfold compareText compareOfLessAndEq
  rw [le_iff_lt_or_eq]
  split
  · simp [*]
  · split <;> simp [*]

namespace DateTime

/-- A moment of the years 0 to 9999.  Only the last second of a minute may be followed
by a leap second. -/
structure Regular (moment : DateTime) : Prop where
  date : moment.date.Valid
  year_nonneg : 0 ≤ moment.date.year
  year_le : moment.date.year ≤ 9999
  hour_le : moment.hour ≤ 23
  minute_le : moment.minute ≤ 59
  second_le : moment.second ≤ 59
  nanosecond_lt : moment.nanosecond < 1000000000 ∨
    moment.second = 59 ∧ moment.nanosecond < 2000000000

/-- A moment cut to microseconds. -/
def truncated (moment : DateTime) : DateTime :=
  { moment with nanosecond := moment.nanosecond / 1000 * 1000 }

/-- The order of time: by the day, then by the second of the day, then by the nanosecond.
A leap second comes before the second after it. -/
def order (a b : DateTime) : Ordering :=
  (compare a.date.number b.date.number).then
    ((compare a.secondOfDay b.secondOfDay).then (compare a.nanosecond b.nanosecond))

/-- The second as it is written, in which a leap second is the second sixty. -/
def clockSecond (moment : DateTime) : Nat :=
  moment.second + moment.nanosecond / 1000000000

/-- The microseconds of the second that is written. -/
def microsecond (moment : DateTime) : Nat :=
  moment.nanosecond % 1000000000 / 1000

variable {a b moment : DateTime} {c : Char} {rest : List Char} {width n : Nat}

/-! ### The seven fields -/

/-- The text of a time of day. -/
def timeText (moment : DateTime) : List Char :=
  lastDigits 2 moment.hour ++ ':' :: (lastDigits 2 moment.minute ++
    ':' :: (lastDigits 2 moment.clockSecond ++ '.' :: lastDigits 6 moment.microsecond))

/-- The text of a date, in front of a rest. -/
def dateText (date : Date) (rest : List Char) : List Char :=
  lastDigits 4 date.year.natAbs ++ '-' :: (lastDigits 2 date.month ++
    '-' :: (lastDigits 2 date.day ++ rest))

theorem Regular.year_lt (regular : moment.Regular) : moment.date.year.natAbs < 10 ^ 4 := by
  have := regular.year_le
  have := regular.year_nonneg
  omega

theorem Regular.month_lt (regular : moment.Regular) : moment.date.month < 10 ^ 2 :=
  Nat.lt_of_le_of_lt regular.date.month_le (by decide)

/-- The day of a regular moment has two digits. -/
theorem Regular.day_lt (regular : moment.Regular) : moment.date.day < 10 ^ 2 := by
  have days : Date.daysInMonth moment.date.year moment.date.month ≤ 31 := by
    unfold Date.daysInMonth
    repeat' split
    all_goals decide
  exact Nat.lt_of_le_of_lt (regular.date.day_le.trans days) (by decide)

theorem Regular.hour_lt (regular : moment.Regular) : moment.hour < 10 ^ 2 :=
  Nat.lt_of_le_of_lt regular.hour_le (by decide)

theorem Regular.minute_lt (regular : moment.Regular) : moment.minute < 10 ^ 2 :=
  Nat.lt_of_le_of_lt regular.minute_le (by decide)

/-- The second that the clock shows is 60 at most, in a leap second. -/
theorem Regular.clockSecond_le (regular : moment.Regular) : moment.clockSecond ≤ 60 := by
  have := regular.second_le
  have := regular.nanosecond_lt
  unfold clockSecond
  omega

theorem Regular.clockSecond_lt (regular : moment.Regular) : moment.clockSecond < 10 ^ 2 :=
  Nat.lt_of_le_of_lt regular.clockSecond_le (by decide)

theorem microsecond_lt (moment : DateTime) : moment.microsecond < 10 ^ 6 := by
  unfold microsecond
  omega

/-- The text of a regular moment is the text of its date, a separator and the text of its
time. -/
theorem isoText_eq (regular : moment.Regular) :
    moment.isoText = dateText moment.date ('T' :: moment.timeText) := by
  have year : yearText moment.date.year = lastDigits 4 moment.date.year.natAbs := by
    rw [yearText, if_pos ⟨regular.year_nonneg, regular.year_le⟩,
      padded_eq (by decide) regular.year_lt]
  have second := padded_eq (by decide) regular.clockSecond_lt
  have micro := padded_eq (by decide) moment.microsecond_lt
  unfold clockSecond at second
  unfold microsecond at micro
  rw [isoText, year, padded_eq (by decide) regular.month_lt, padded_eq (by decide) regular.day_lt,
    padded_eq (by decide) regular.hour_lt, padded_eq (by decide) regular.minute_lt, second, micro]
  simp only [List.append_assoc, List.cons_append]
  rfl

/-- Every regular moment is written with as many characters. -/
theorem length_iso (regular : moment.Regular) : moment.iso.length = 26 := by
  rw [iso, String.length_ofList, isoText_eq regular, dateText, timeText]
  simp

/-! ### Order -/

/-- The second of a leap second is the one before it, with a billion nanoseconds more;
written, it is the second after it. -/
theorem compare_clockSecond (regular : a.Regular) (regular' : b.Regular) :
    (compare a.clockSecond b.clockSecond).then (compare a.microsecond b.microsecond) =
      (compare a.second b.second).then
        (compare (a.nanosecond / 1000 * 1000) (b.nanosecond / 1000 * 1000)) := by
  have whole (moment : DateTime) : 10 ^ 6 * moment.clockSecond + moment.microsecond =
      10 ^ 6 * moment.second + moment.nanosecond / 1000 := by
    unfold clockSecond microsecond
    omega
  have seconds := regular.second_le
  have seconds' := regular'.second_le
  have nanoseconds := regular.nanosecond_lt
  have nanoseconds' := regular'.nanosecond_lt
  rw [← compare_places a.microsecond_lt b.microsecond_lt, whole, whole]
  rcases Nat.lt_trichotomy a.second b.second with earlier | same | later
  · rw [Nat.compare_eq_lt.mpr earlier, Ordering.lt_then, Nat.compare_eq_lt]
    omega
  · rw [Nat.compare_eq_eq.mpr same, Ordering.eq_then, same]
    rcases Nat.lt_trichotomy (a.nanosecond / 1000) (b.nanosecond / 1000) with less | same' | greater
    · rw [Nat.compare_eq_lt.mpr (by omega), Nat.compare_eq_lt.mpr (by omega)]
    · rw [same', Nat.compare_eq_eq.mpr rfl, Nat.compare_eq_eq.mpr rfl]
    · rw [Nat.compare_eq_gt.mpr (by omega), Nat.compare_eq_gt.mpr (by omega)]
  · rw [Nat.compare_eq_gt.mpr later, Ordering.gt_then, Nat.compare_eq_gt]
    omega

/-- The order of time goes down the seven fields. -/
theorem order_truncated (regular : a.Regular) (regular' : b.Regular) :
    a.truncated.order b.truncated =
      (compare a.date.year.natAbs b.date.year.natAbs).then
        ((compare a.date.month b.date.month).then ((compare a.date.day b.date.day).then
          ((compare a.hour b.hour).then ((compare a.minute b.minute).then
            ((compare a.clockSecond b.clockSecond).then
              (compare a.microsecond b.microsecond)))))) := by
  have years : compare a.date.year b.date.year =
      compare a.date.year.natAbs b.date.year.natAbs := by
    rw [← compare_natCast, Int.natAbs_of_nonneg regular.year_nonneg,
      Int.natAbs_of_nonneg regular'.year_nonneg]
  have ofDay (moment : DateTime) :
      moment.secondOfDay = 60 * (60 * moment.hour + moment.minute) + moment.second := by
    unfold secondOfDay
    omega
  have minute {moment : DateTime} (regular : moment.Regular) : moment.minute < 60 :=
    Nat.lt_succ_of_le regular.minute_le
  have second {moment : DateTime} (regular : moment.Regular) : moment.second < 60 :=
    Nat.lt_succ_of_le regular.second_le
  have times : compare a.secondOfDay b.secondOfDay =
      ((compare a.hour b.hour).then (compare a.minute b.minute)).then
        (compare a.second b.second) := by
    rw [ofDay, ofDay, compare_places (second regular) (second regular'),
      compare_places (minute regular) (minute regular')]
  rw [compare_clockSecond regular regular']
  change (compare a.date.number b.date.number).then
    ((compare a.secondOfDay b.secondOfDay).then _) = _
  rw [times, Date.compare_number regular.date regular'.date, years]
  simp only [Ordering.then_assoc]
  rfl

/-- The texts of regular moments are in the order of the moments, as far as they are
written. -/
theorem compareText_iso (regular : a.Regular) (regular' : b.Regular) :
    compareText a.iso b.iso = a.truncated.order b.truncated := by
  have field (c : Char) : compareText (String.ofList (c :: a.timeText))
      (String.ofList (c :: b.timeText)) =
        compareText (String.ofList a.timeText) (String.ofList b.timeText) := by
    rw [compareText_cons, Nat.compare_eq_eq.mpr rfl, Ordering.eq_then]
  rw [iso, iso, isoText_eq regular, isoText_eq regular', dateText, dateText,
    compareText_field _ regular.year_lt regular'.year_lt,
    compareText_field _ regular.month_lt regular'.month_lt,
    compareText_field _ regular.day_lt regular'.day_lt, timeText, timeText,
    compareText_field _ regular.hour_lt regular'.hour_lt,
    compareText_field _ regular.minute_lt regular'.minute_lt,
    compareText_field _ regular.clockSecond_lt regular'.clockSecond_lt,
    compareText_lastDigits a.microsecond_lt b.microsecond_lt,
    order_truncated regular regular']

/-! ### Reading -/

/-- The digits at the front of a text are those of the number that was written there. -/
theorem takeWhile_lastDigits : ((lastDigits width n ++ rest).take width).takeWhile Char.isDigit =
    lastDigits width n := by
  rw [List.take_left' (length_lastDigits width n)]
  exact List.takeWhile_eq_self_iff.mpr isDigit_of_mem_lastDigits

/-- A number is read back from exactly its digits. -/
theorem exactDigits_lastDigits (fits : n < 10 ^ width) :
    exactDigits width (lastDigits width n ++ rest) = some (n, rest) := by
  unfold exactDigits
  simp only [takeWhile_lastDigits, length_lastDigits, if_pos, valueOf_lastDigits fits]
  rw [List.drop_left' (length_lastDigits width n)]

/-- A number is read back from its digits. -/
theorem digits_lastDigits (fits : n < 10 ^ (width + 1)) :
    digits (width + 1) (lastDigits (width + 1) n ++ rest) = some (n, rest) := by
  unfold digits
  simp only [takeWhile_lastDigits, isEmpty_lastDigits, Bool.false_eq_true, if_false, length_lastDigits,
    valueOf_lastDigits fits]
  rw [List.drop_left' (length_lastDigits (width + 1) n)]

/-- A field starts with a digit. -/
theorem exists_digit (width n : Nat) :
    ∃ d front, d.isDigit = true ∧ lastDigits (width + 1) n = d :: front := by
  obtain ⟨d, front, same⟩ := List.exists_cons_of_length_eq_add_one (length_lastDigits (width + 1) n)
  have member : d ∈ lastDigits (width + 1) n := same ▸ List.mem_cons_self
  exact ⟨d, front, isDigit_of_mem_lastDigits d member, same⟩

/-- No blank stands in front of a number. -/
theorem skipSpace_lastDigits : skipSpace (lastDigits (width + 1) n ++ rest) =
    lastDigits (width + 1) n ++ rest := by
  obtain ⟨d, front, digit, same⟩ := exists_digit width n
  rw [same, skipSpace, List.cons_append,
    List.dropWhile_cons_of_neg (by simp [Token.isSpace_of_isDigit digit])]

theorem shortField_lastDigits (fits : n < 10 ^ 2) :
    shortField (lastDigits 2 n ++ rest) = some (n, rest) := by
  rw [shortField, skipSpace_lastDigits, digits_lastDigits fits]

/-- A year of four digits is read back. -/
theorem year_lastDigits (fits : n < 10 ^ 4) :
    year (lastDigits 4 n ++ rest) = some ((n : Int), rest) := by
  obtain ⟨d, front, digit, same⟩ := exists_digit 3 n
  have read : digits 4 (lastDigits 4 n ++ rest) = some (n, rest) := digits_lastDigits fits
  unfold year
  rw [skipSpace_lastDigits]
  rw [same, List.cons_append] at read ⊢
  split
  · simp_all
  · simp_all
  · rw [read]
    rfl

/-- A fraction of six digits is read back as so many thousands of nanoseconds. -/
theorem fraction_lastDigits (fits : n < 10 ^ 6) :
    fraction ('.' :: lastDigits 6 n) = some (n * 1000, []) := by
  have run : (lastDigits 6 n).takeWhile Char.isDigit = lastDigits 6 n :=
    List.takeWhile_eq_self_iff.mpr isDigit_of_mem_lastDigits
  have kept : (lastDigits 6 n).take 9 = lastDigits 6 n := List.take_of_length_le (by simp)
  have nonempty : (lastDigits 6 n).isEmpty = false := isEmpty_lastDigits 5 n
  change fractionDigits (lastDigits 6 n) = _
  unfold fractionDigits
  simp only [run, nonempty, Bool.false_eq_true, if_false, kept, valueOf_lastDigits fits,
    length_lastDigits]
  rw [List.drop_of_length_le (by simp)]

theorem character_self : character c (c :: rest) = some ((), rest) :=
  if_pos rfl

/-- The text of a date is read back. -/
theorem dateFields_dateText (regular : moment.Regular) :
    dateFields (dateText moment.date rest) = some (some moment.date, rest) := by
  have known : Date.ofParts? moment.date.year moment.date.month moment.date.day =
      some moment.date := by
    have := regular.year_nonneg
    have := regular.year_le
    rw [Date.ofParts?, if_pos]
    refine ⟨?_, ?_, regular.date.month_pos, regular.date.month_le, regular.date.day_pos,
      regular.date.day_le⟩
    · unfold Date.firstYear
      omega
    · unfold Date.lastYear
      omega
  unfold dateFields dateText
  simp only [year_lastDigits regular.year_lt, shortField_lastDigits regular.month_lt,
    shortField_lastDigits regular.day_lt, character_self, Option.bind_eq_bind, Option.bind_some,
    Int.natAbs_of_nonneg regular.year_nonneg, known]

/-- The second sixty is the leap second. -/
theorem ofParts?_clock (regular : moment.Regular) :
    ofParts? moment.date moment.hour moment.minute moment.clockSecond
      (moment.microsecond * 1000) = some moment.truncated := by
  have second := regular.second_le
  have nanosecond := regular.nanosecond_lt
  rw [ofParts?, if_pos ⟨regular.hour_le, regular.minute_le, regular.clockSecond_le⟩]
  unfold clockSecond microsecond truncated
  split
  · have before : moment.second = 59 := by omega
    have cut : moment.nanosecond % 1000000000 / 1000 * 1000 + 1000000000 =
        moment.nanosecond / 1000 * 1000 := by omega
    rw [before, cut]
  · have within : moment.nanosecond < 1000000000 := by omega
    rw [Nat.mod_eq_of_lt within, Nat.div_eq_of_lt within, Nat.add_zero]

theorem bind_of_read {α β : Type} {reading : Option α} {found : α} {next : α → Option β}
    (read : reading = some found) : reading >>= next = next found := by
  rw [read]
  rfl

/-- A text without an offset is not of the first form. -/
theorem readZoned?_isoText (regular : moment.Regular) : readZoned? moment.isoText = none := by
  rw [isoText_eq regular, dateText, timeText, readZoned?]
  simp only [↓bind_of_read (exactDigits_lastDigits regular.year_lt),
    ↓bind_of_read (exactDigits_lastDigits regular.month_lt),
    ↓bind_of_read (exactDigits_lastDigits regular.day_lt), ↓bind_of_read character_self,
    ↓bind_of_read List.head?_cons]
  rw [if_neg (by decide), List.tail_cons]
  simp only [↓bind_of_read (exactDigits_lastDigits regular.hour_lt),
    ↓bind_of_read (exactDigits_lastDigits regular.minute_lt),
    ↓bind_of_read (exactDigits_lastDigits regular.clockSecond_lt),
    ↓bind_of_read (fraction_lastDigits moment.microsecond_lt), ↓bind_of_read character_self]
  rfl

/-- The text of a regular moment is read back as the moment, cut to microseconds. -/
theorem readLocal?_isoText (regular : moment.Regular) :
    readLocal? (character 'T') true moment.isoText = some moment.truncated := by
  rw [isoText_eq regular, readLocal?, dateFields_dateText regular, timeText]
  simp only [hourAndMinute, shortField_lastDigits regular.hour_lt,
    shortField_lastDigits regular.minute_lt, shortField_lastDigits regular.clockSecond_lt,
    fraction_lastDigits moment.microsecond_lt, character_self, Option.bind_eq_bind,
    Option.bind_some, if_true, List.isEmpty_nil, ofParts?_clock regular]

/-- The characters between the fields. -/
def separators : List Char :=
  ['-', 'T', ':', '.']

/-- The text of a moment holds digits and separators only. -/
theorem mem_isoText (regular : moment.Regular) (member : c ∈ moment.isoText) :
    c.isDigit = true ∨ c ∈ separators := by
  rw [isoText_eq regular, dateText, timeText] at member
  simp only [List.mem_append, List.mem_cons] at member
  have digit {width n : Nat} : c ∈ lastDigits width n → c.isDigit = true :=
    isDigit_of_mem_lastDigits c
  unfold separators
  grind

/-- Trimming the text of a moment changes nothing. -/
theorem trimmed_isoText (regular : moment.Regular) :
    Unicode.trimmed moment.isoText = moment.isoText := by
  refine Unicode.trimmed_of_solid fun c member => ?_
  rcases mem_isoText regular member with digit | separator
  · exact Token.isSpace_of_isDigit digit
  · have solid : separators.all (fun c => !Unicode.isSpace c) = true := by decide +kernel
    simpa using List.all_eq_true.mp solid c separator

/-- The text of a moment has no mark of universal time at its end. -/
theorem withoutZulu_isoText (regular : moment.Regular) :
    withoutZulu moment.isoText = moment.isoText := by
  refine if_neg fun last => ?_
  rcases mem_isoText regular (List.mem_of_getLast? last) with digit | separator
  · cases digit
  · revert separator
    decide

/-- A canonical text denotes its moment, cut to microseconds. -/
theorem ofIso?_iso (regular : moment.Regular) : ofIso? moment.iso = some moment.truncated := by
  have nonempty : moment.isoText.isEmpty = false := by
    rw [← Bool.not_eq_true, List.isEmpty_iff_length_eq_zero, ← String.length_ofList]
    exact Nat.ne_of_gt (Nat.lt_of_lt_of_eq (by decide) (length_iso regular).symm)
  rw [ofIso?, iso, String.toList_ofList, trimmed_isoText regular]
  simp only [nonempty, withoutZulu_isoText regular, readZoned?_isoText regular,
    readLocal?_isoText regular]
  rfl

/-- In the years 0 to 9999 canonical texts are ordered as moments are, to the microsecond,
have one length, and are read back. -/
theorem iso_faithful (a b : DateTime) (regular : a.Regular) (regular' : b.Regular) :
    compareText a.iso b.iso = a.truncated.order b.truncated ∧
      (a.iso ≤ b.iso ↔ (a.truncated.order b.truncated).isLE) ∧
      a.iso.length = 26 ∧ b.iso.length = 26 ∧
      ofIso? a.iso = some a.truncated := by
  have compared := compareText_iso regular regular'
  refine ⟨compared, ?_, length_iso regular, length_iso regular', ofIso?_iso regular⟩
  rw [← compared, isLE_compareText]

/-- In the leap second at the end of the year 2016. -/
def leapSecond : DateTime :=
  ⟨⟨2016, 12, 31⟩, 23, 59, 59, 1500000123⟩

/-- Less than a microsecond after the start of the year 2017. -/
def newYear : DateTime :=
  ⟨⟨2017, 1, 1⟩, 0, 0, 0, 999⟩

/-- The last leap second of a year is regular. -/
theorem leapSecond_regular : leapSecond.Regular :=
  ⟨⟨by decide, by decide, by decide, by decide⟩, by decide, by decide, by decide, by decide,
    by decide, by decide⟩

/-- The beginning of the next year is regular. -/
theorem newYear_regular : newYear.Regular :=
  ⟨⟨by decide, by decide, by decide, by decide⟩, by decide, by decide, by decide, by decide,
    by decide, by decide⟩

/-- A leap second comes before the year that it precedes, as a text and in time. -/
theorem iso_faithful_leapSecond :
    compareText leapSecond.iso newYear.iso = .lt ∧ leapSecond.iso ≤ newYear.iso ∧
      leapSecond.iso.length = 26 ∧ newYear.iso.length = 26 ∧
      ofIso? leapSecond.iso = some ⟨⟨2016, 12, 31⟩, 23, 59, 59, 1500000000⟩ := by
  obtain ⟨compared, ordered, length, length', read⟩ :=
    iso_faithful leapSecond newYear leapSecond_regular newYear_regular
  have earlier : leapSecond.truncated.order newYear.truncated = .lt := by decide
  refine ⟨compared.trans earlier, ordered.mpr ?_, length, length', read⟩
  rw [earlier]
  rfl

end DateTime

end Relational
