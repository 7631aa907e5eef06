import Mathlib.Algebra.Group.Nat.Defs
import Mathlib.Data.Bool.AllAny
import Mathlib.Data.Option.Basic
import RelativeDate.DateTime.Iso
import RelativeDate.DateTime.Text
import RelativeDate.Proofs.DateTime
import RelativeDate.Proofs.Token.Reading

/-! # Reading what was written as a date and time

Fields of a fixed width are read back one after the other, as each of them ends where the next one
starts. So the text of an instant in UTC is read as this instant, up to the digits of the fraction
that were not written. -/

namespace RelativeDate

open Text (padded)

/-! ## Fields with zeros in front -/

namespace Text

variable {width n : Nat}

theorem toList_padded (width n : Nat) :
    (padded width n).toList =
      List.replicate (width - (Nat.toDigits 10 n).length) '0' ++ Nat.toDigits 10 n := by
  rw [padded, String.toList_append, String.toList_ofList, ← String.length_toList, Nat.toList_repr]

theorem isDigit_of_mem_padded {c : Char} (h : c ∈ (padded width n).toList) : c.isDigit := by
  rw [toList_padded, List.mem_append] at h
  rcases h with hzero | hdigit
  · rw [List.eq_of_mem_replicate hzero]
    decide
  · exact Nat.isDigit_of_mem_toDigits (by decide) (by decide) hdigit

theorem length_padded (hwidth : 0 < width) (h : n < 10 ^ width) :
    (padded width n).toList.length = width := by
  have hdigits := (Nat.length_toDigits_le_iff (by decide) hwidth).mpr h
  rw [toList_padded, List.length_append, List.length_replicate]
  exact Nat.sub_add_cancel hdigits

/-- Zeros behind a number shift it. -/
theorem ofDigitChars_replicate_zero (k n : Nat) :
    Nat.ofDigitChars 10 (List.replicate k '0') n = n * 10 ^ k := by
  induction k generalizing n with
  | zero => rw [List.replicate_zero, Nat.ofDigitChars_nil, Nat.pow_zero, Nat.mul_one]
  | succ k ih =>
    rw [List.replicate_succ, Nat.ofDigitChars_cons, ih, Nat.sub_self, Nat.add_zero, Nat.pow_succ',
      Nat.mul_left_comm, Nat.mul_assoc]

theorem ofDigitChars_padded (width n : Nat) :
    Nat.ofDigitChars 10 (padded width n).toList 0 = n := by
  rw [toList_padded, Nat.ofDigitChars_append, ofDigitChars_replicate_zero, Nat.zero_mul,
    Nat.ofDigitChars_ten_toDigits]

end Text

/-! ## Fields of a date -/

open Calendar

namespace Calendar

/-- The fields of the date of a day of the calendar denote that day. -/
theorem dayOfFields_date (t : Instant) :
    dayOfFields t.date.year t.date.month t.date.day = .ok t.dayNumber := by
  have hyear : t.date.year = yearOf t.dayNumber + 1 := rfl
  have hmonth : t.date.month = monthOf t.dayNumber % 12 + 1 := rfl
  have hday : t.date.day = t.dayNumber - monthStart (monthOf t.dayNumber) + 1 := rfl
  have hlimit : t.date.year < yearLimit := t.year_lt
  have hdiv := monthOf_div t.dayNumber
  have hstart := monthStart_monthOf_le t.dayNumber
  have hend := lt_monthStart_monthOf_succ t.dayNumber
  have hk : 12 * ((t.date.year : Int).toNat - 1) + ((t.date.month : Int).toNat - 1) =
      monthOf t.dayNumber := by
    omega
  rw [dayOfFields, if_neg (by omega), if_neg (by omega)]
  simp only [hk]
  rw [if_neg (by omega)]
  refine congrArg Except.ok ?_
  omega

end Calendar

namespace Instant

/-- The fields of a date have four, two and two digits. -/
theorem date_lt (t : Instant) :
    t.date.year < 10 ^ 4 ∧ t.date.month < 10 ^ 2 ∧ t.date.day < 10 ^ 2 := by
  have hmonth : t.date.month = monthOf t.dayNumber % 12 + 1 := rfl
  have hday : t.date.day = t.dayNumber - monthStart (monthOf t.dayNumber) + 1 := rfl
  have hend := lt_monthStart_monthOf_succ t.dayNumber
  have hlength := monthLength_bounds (leapAt (monthOf t.dayNumber / 12)) (monthOf t.dayNumber % 12)
  rw [monthStart_succ] at hend
  exact ⟨t.year_lt, by omega, by omega⟩

/-- The fields of a time have two, two, two and six digits. -/
theorem time_lt (t : Instant) :
    t.hour < 24 ∧ t.minute < 10 ^ 2 ∧ t.second < 10 ^ 2 ∧ t.subsecond < 10 ^ 6 := by
  have hlt := t.timeOfDay_lt
  unfold microsPerDay at hlt
  unfold hour minute second subsecond microsPerHour microsPerMinute microsPerSecond
  omega

theorem timeOfFields_eq (t : Instant) :
    timeOfFields t.hour t.minute t.second t.subsecond = .ok t.timeOfDay := by
  have hlt := t.timeOfDay_lt
  have hhour : t.hour = t.timeOfDay / 3600000000 := rfl
  have hminute : t.minute = t.timeOfDay / 60000000 % 60 := rfl
  have hsecond : t.second = t.timeOfDay / 1000000 % 60 := rfl
  have hsubsecond : t.subsecond = t.timeOfDay % 1000000 := rfl
  unfold microsPerDay at hlt
  rw [timeOfFields, if_neg (by omega), if_neg (by omega), if_neg (by omega)]
  unfold microsPerHour microsPerMinute microsPerSecond
  refine congrArg Except.ok ?_
  omega

end Instant

/-- What of a part of a second is written. -/
def Fraction.kept : Fraction → Nat → Nat
  | .whenNeeded, n => n
  | .millis, n => n / microsPerMilli * 1000

namespace Iso

variable {width n : Nat}

theorem number_padded (hwidth : 0 < width) (hlimit : width ≤ Text.digitLimit)
    (h : n < 10 ^ width) (rest : List Char) :
    number width ((padded width n).toList ++ rest) = .ok (n : Int) := by
  have hlength := Text.length_padded hwidth h
  have hne : (padded width n).toList ≠ [] := List.ne_nil_of_length_pos (by omega)
  rw [number, List.take_left' hlength,
    Text.readInteger_of_isDigit hne (fun c hc => Text.isDigit_of_mem_padded hc), hlength,
    if_neg (by omega), Text.ofDigitChars_padded]
  rfl

theorem drop_padded (hwidth : 0 < width) (h : n < 10 ^ width) (rest : List Char) :
    ((padded width n).toList ++ rest).drop width = rest :=
  List.drop_left' (Text.length_padded hwidth h)

/-- A date that was written is read as its fields. -/
theorem calendarDate_text {date : Calendar.Date} (hyear : date.year < 10 ^ 4)
    (hmonth : date.month < 10 ^ 2) (hday : date.day < 10 ^ 2) (rest : List Char) :
    calendarDate (date.text.toList ++ rest) =
      some (.calendar date.year date.month date.day, rest) := by
  have htext : date.text.toList ++ rest = (padded 4 date.year).toList ++ '-' ::
      ((padded 2 date.month).toList ++ '-' :: ((padded 2 date.day).toList ++ rest)) := by
    simp [Calendar.Date.text]
  have hyears := Text.length_padded (by decide) hyear
  have hmonths := Text.length_padded (by decide) hmonth
  have hdays := Text.length_padded (by decide) hday
  rw [htext, calendarDate]
  simp [number_padded (by decide) (by decide) hyear, number_padded (by decide) (by decide) hmonth,
    number_padded (by decide) (by decide) hday, drop_padded (by decide) hyear,
    drop_padded (by decide) hmonth, drop_padded (by decide) hday, hyears, hmonths, hdays,
    Except.toOption]

/-! ## Times -/

theorem finishOr_of_not_startsOffset {s : List Char} (hne : s ≠ []) (h : startsOffset s = false)
    (time : TimeFields) (next : Except ReadError TimeFields) : finishOr time s next = next := by
  rw [finishOr, if_neg hne, if_neg (by simp [h])]

theorem startsOffset_padded (hwidth : 0 < width) (h : n < 10 ^ width) (rest : List Char) :
    startsOffset ((padded width n).toList ++ rest) = false := by
  have hlength := Text.length_padded hwidth h
  cases hdigits : (padded width n).toList with
  | nil => simp [hdigits] at hlength; omega
  | cons c digits =>
    have hc : c.isDigit := Text.isDigit_of_mem_padded (by rw [hdigits]; exact List.mem_cons_self)
    have hother (d : Char) (hd : d.isDigit = false) : decide (c = d) = false :=
      decide_eq_false (Text.ne_of_isDigit hc hd)
    rw [List.cons_append, startsOffset, hother '-' rfl, hother '+' rfl, hother 'Z' rfl,
      hother 'z' rfl]
    rfl

/-- A fraction of up to six digits is read as so many microseconds. -/
theorem fraction_padded (hwidth : 0 < width) (hsix : width ≤ 6) (h : n < 10 ^ width) {c : Char}
    (hc : ¬ c.isDigit) (rest : List Char) :
    fraction ('.' :: ((padded width n).toList ++ c :: rest)) =
      some (n * 10 ^ (6 - width), c :: rest) := by
  have hlength := Text.length_padded hwidth h
  have hdigits : ∀ d ∈ (padded width n).toList, d.isDigit :=
    fun d hd => Text.isDigit_of_mem_padded hd
  have hne : (padded width n).toList ≠ [] := List.ne_nil_of_length_pos (by omega)
  have htake := Text.takeWhile_append_stop hdigits hc rest
  have hdrop := Text.dropWhile_append_stop hdigits hc rest
  have hall : (padded width n).toList.take 6 = (padded width n).toList :=
    List.take_of_length_le (by omega)
  simp only [fraction, htake, hdrop, hall, hlength]
  rw [if_pos (by simp [hne]), Nat.ofDigitChars_append, Text.ofDigitChars_padded,
    Text.ofDigitChars_replicate_zero]

theorem afterSecond_text (f : Fraction) (h : n < 10 ^ 6) {time : TimeFields}
    (hzero : time.subsecond = 0) :
    afterSecond time ((f.text n).toList ++ "+00:00".toList) =
      .ok { time with subsecond := f.kept n, offset := some 0 } := by
  have hoffset : "+00:00".toList = '+' :: "00:00".toList := rfl
  have hdigits {width k : Nat} (hwidth : 0 < width) (hsix : width ≤ 6) (hk : k < 10 ^ width) :
      afterSecond time ('.' :: ((padded width k).toList ++ "+00:00".toList)) =
        .ok { time with subsecond := k * 10 ^ (6 - width), offset := some 0 } := by
    rw [hoffset, afterSecond, finishOr_of_not_startsOffset (by simp) rfl,
      fraction_padded hwidth hsix hk (by decide)]
    rfl
  cases f with
  | millis =>
    have hmillis : n / microsPerMilli < 10 ^ 3 := Nat.div_lt_of_lt_mul h
    simpa [Fraction.text, Fraction.kept] using hdigits (by decide) (by decide) hmillis
  | whenNeeded =>
    by_cases hn : n = 0
    · subst hn
      obtain ⟨hour, minute, second, subsecond, offset⟩ := time
      obtain rfl : subsecond = 0 := hzero
      rfl
    · simpa [Fraction.text, Fraction.kept, hn] using hdigits (by decide) (by decide) h

theorem afterMinute_text (h : n < 10 ^ 2) (time : TimeFields) (rest : List Char) :
    afterMinute true time (':' :: ((padded 2 n).toList ++ rest)) =
      afterSecond { time with second := n } rest := by
  rw [afterMinute, finishOr_of_not_startsOffset (by simp) rfl]
  simp [number_padded (by decide) (by decide) h, drop_padded (by decide) h]
  rfl

theorem afterHour_text (h : n < 10 ^ 2) (time : TimeFields) (rest : List Char) :
    afterHour time (':' :: ((padded 2 n).toList ++ rest)) =
      afterMinute true { time with minute := n } rest := by
  rw [afterHour, finishOr_of_not_startsOffset (by simp) rfl]
  simp [number_padded (by decide) (by decide) h, drop_padded (by decide) h]
  rfl

theorem time_text (t : Instant) (f : Fraction) :
    time ((t.timeText f).toList ++ "+00:00".toList) =
      .ok ⟨t.hour, t.minute, t.second, f.kept t.subsecond, some 0⟩ := by
  obtain ⟨hhour, hminute, hsecond, hsubsecond⟩ := t.time_lt
  have htext : (t.timeText f).toList ++ "+00:00".toList =
      (padded 2 t.hour).toList ++ ':' :: ((padded 2 t.minute).toList ++ ':' ::
        ((padded 2 t.second).toList ++ ((f.text t.subsecond).toList ++ "+00:00".toList))) := by
    simp [Instant.timeText]
  have hhours : t.hour < 10 ^ 2 := by omega
  have hlength := Text.length_padded (by decide) hhours
  rw [htext, time, if_neg (by rw [List.length_append]; omega),
    finishOr_of_not_startsOffset (by simp) (startsOffset_padded (by decide) hhours _),
    number_padded (by decide) (by decide) hhours, drop_padded (by decide) hhours]
  simp only [bind, Except.bind, afterHour_text hminute, afterMinute_text hsecond,
    afterSecond_text f hsubsecond]
  rw [if_neg (by omega)]
  rfl

/-! ## Whole texts -/

theorem toList_utcText (t : Instant) (f : Fraction) :
    (t.utcText f).toList =
      t.date.text.toList ++ 'T' :: ((t.timeText f).toList ++ "+00:00".toList) := by
  have hoffset : offsetText 0 = "+00:00" := by decide
  simp [Instant.utcText, DateTime.utc, DateTime.text, hoffset]

/-- The text of an instant starts with a digit of its year. -/
theorem isDigit_of_head?_utcText {t : Instant} {f : Fraction} {c : Char}
    (h : (t.utcText f).toList.head? = some c) : c.isDigit := by
  have hyear : (padded 4 t.date.year).toList ≠ [] := by
    rw [Text.toList_padded]
    exact List.append_ne_nil_of_right_ne_nil _ Nat.toDigits_ne_nil
  simp only [Instant.utcText, DateTime.text, DateTime.utc, Calendar.Date.text,
    String.toList_append, List.append_assoc, List.head?_append_of_ne_nil _ hyear] at h
  exact Text.isDigit_of_mem_padded (List.mem_of_head? h)

/-- A digit or one of the marks around the fields of a date and time. -/
def IsDateCharacter (c : Char) : Prop :=
  c.isDigit ∨ c ∈ ['-', 'T', ':', '.', '+']

instance (c : Char) : Decidable (IsDateCharacter c) :=
  inferInstanceAs (Decidable (_ ∨ _))

theorem IsDateCharacter.toNat_lt {c : Char} (h : IsDateCharacter c) : c.toNat < 0x80 := by
  rcases h with hdigit | hmark
  · have hrange : 48 ≤ c.toNat ∧ c.toNat ≤ 57 := Char.isDigit_iff_toNat.mp hdigit
    omega
  · simp only [List.mem_cons, List.not_mem_nil, or_false] at hmark
    rcases hmark with rfl | rfl | rfl | rfl | rfl <;> decide

theorem isDateCharacter_of_mem_padded (width n : Nat) :
    ∀ c ∈ (padded width n).toList, IsDateCharacter c :=
  fun _ hc => .inl (Text.isDigit_of_mem_padded hc)

theorem isDateCharacter_of_mem_date (date : Calendar.Date) :
    ∀ c ∈ date.text.toList, IsDateCharacter c := by
  have hdash : ∀ c ∈ "-".toList, IsDateCharacter c := List.all_iff_forall_prop.mp (by decide)
  simp only [Calendar.Date.text, String.toList_append, List.forall_mem_append]
  exact ⟨⟨⟨⟨isDateCharacter_of_mem_padded 4 _, hdash⟩, isDateCharacter_of_mem_padded 2 _⟩, hdash⟩,
    isDateCharacter_of_mem_padded 2 _⟩

theorem isDateCharacter_of_mem_fraction (f : Fraction) (n : Nat) :
    ∀ c ∈ (f.text n).toList, IsDateCharacter c := by
  have hdigits (width k : Nat) : ∀ c ∈ ("." ++ padded width k).toList, IsDateCharacter c := by
    rw [String.toList_append, List.forall_mem_append]
    exact ⟨List.all_iff_forall_prop.mp (by decide), isDateCharacter_of_mem_padded width k⟩
  cases f with
  | millis => exact hdigits _ _
  | whenNeeded =>
    rw [Fraction.text]
    split
    · exact List.forall_mem_nil _
    · exact hdigits _ _

theorem isDateCharacter_of_mem_time (t : Instant) (f : Fraction) :
    ∀ c ∈ (t.timeText f).toList, IsDateCharacter c := by
  have hcolon : ∀ c ∈ ":".toList, IsDateCharacter c := List.all_iff_forall_prop.mp (by decide)
  have hfield := isDateCharacter_of_mem_padded 2
  simp only [Instant.timeText, String.toList_append, List.forall_mem_append]
  exact ⟨⟨⟨⟨⟨hfield _, hcolon⟩, hfield _⟩, hcolon⟩, hfield _⟩, isDateCharacter_of_mem_fraction f _⟩

theorem isDateCharacter_of_mem_utcText (t : Instant) (f : Fraction) :
    ∀ c ∈ (t.utcText f).toList, IsDateCharacter c := by
  rw [toList_utcText, List.forall_mem_append, List.forall_mem_cons, List.forall_mem_append]
  exact ⟨isDateCharacter_of_mem_date _, by decide, isDateCharacter_of_mem_time t f,
    List.all_iff_forall_prop.mp (by decide)⟩

private theorem ok_bind {α β : Type} (a : α) (f : α → Except ReadError β) :
    (Except.ok a >>= f) = f a := rfl

/-- The fields of an instant denote it. -/
theorem instantOf_fields (t : Instant) (offset : Option Int) :
    instantOf (.calendar t.date.year t.date.month t.date.day)
      ⟨t.hour, t.minute, t.second, t.subsecond, offset⟩ = .ok t := by
  have hhour : (t.hour : Int) ≠ 24 := by
    have hlt := t.time_lt.1
    omega
  have hday : (DateFields.calendar t.date.year t.date.month t.date.day).toDay.mapError
      ReadError.field = .ok t.dayNumber := by
    rw [DateFields.toDay, Calendar.dayOfFields_date]
    rfl
  have hpast : (timeOfFields t.hour t.minute t.second t.subsecond).mapError ReadError.field =
      .ok t.timeOfDay := by
    rw [t.timeOfFields_eq]
    rfl
  have hmicros : Instant.ofMicros? ((t.dayNumber : Int) * microsPerDay + t.timeOfDay) = some t := by
    rw [Instant.ofMicros?_eq_some_iff, ← t.dayNumber_mul_add_timeOfDay, Int.natCast_add,
      Int.natCast_mul]
  simp only [instantOf, hhour, if_false, hday, hpast]
  rw [ok_bind, ok_bind, hmicros]
  rfl

/-- An instant is read back if all digits of its fraction were written. -/
theorem read_utcText_of_kept {t : Instant} {f : Fraction} (h : f.kept t.subsecond = t.subsecond) :
    read (t.utcText f) = .ok (.utc t) := by
  obtain ⟨hyear, hmonth, hday⟩ := t.date_lt
  have hascii : (t.utcText f).toList.any (fun c => 0x80 ≤ c.toNat) = false := by
    rw [List.any_eq_false]
    intro c hc
    have hlt := (isDateCharacter_of_mem_utcText t f c hc).toNat_lt
    rw [decide_eq_true_eq]
    omega
  have hdate : date (t.utcText f).toList =
      .ok (.calendar t.date.year t.date.month t.date.day,
        'T' :: ((t.timeText f).toList ++ "+00:00".toList)) := by
    rw [toList_utcText, date, calendarDate_text hyear hmonth hday]
    rfl
  have htime := time_text t f
  rw [h] at htime
  simp only [read, hascii, hdate, bind, Except.bind, Bool.false_eq_true, if_false,
    reduceCtorEq, List.drop_one, List.tail_cons, htime, instantOf_fields]
  rfl

/-- An instant of whole milliseconds that was written to the millisecond is read back. -/
theorem read_utcText {t : Instant} (h : t.IsWholeMilli) :
    read (t.utcText .millis) = .ok (.utc t) := by
  refine read_utcText_of_kept ?_
  rw [Fraction.kept]
  unfold Instant.IsWholeMilli microsPerMilli at h
  unfold Instant.subsecond Instant.timeOfDay microsPerMilli microsPerSecond microsPerDay
  omega

/-- With a fraction of six digits where one is needed, instants have different texts. -/
theorem utcText_whenNeeded_injective :
    Function.Injective fun t : Instant => t.utcText .whenNeeded := by
  intro t s h
  have hread := @read_utcText_of_kept t .whenNeeded rfl
  rw [show t.utcText .whenNeeded = s.utcText .whenNeeded from h,
    @read_utcText_of_kept s .whenNeeded rfl] at hread
  exact (congrArg DateTime.civil (Except.ok.inj hread)).symm

/-! ## The year in front -/

/-- What starts with a dash is no positive number. -/
theorem number_dash {n : Int} {s : List Char} (h : number (width + 1) ('-' :: s) = .ok n) :
    n ≤ 0 := by
  have hread : Text.readInteger ('-' :: s.take width) =
      (Text.readUnsigned ((s.take width).map Text.asciiSpelling)).map fun n => -(n : Int) := rfl
  rw [number, List.take_succ_cons, hread] at h
  cases hdigits : Text.readUnsigned ((s.take width).map Text.asciiSpelling) with
  | error cause =>
    rw [hdigits] at h
    cases h
  | ok m =>
    rw [hdigits] at h
    have hn : -(m : Int) = n := Except.ok.inj h
    omega

theorem bind_eq_ok_iff {α β : Type} {x : Except ReadError α} {f : α → Except ReadError β} {b : β} :
    (x >>= f) = .ok b ↔ ∃ a, x = .ok a ∧ f a = .ok b := by
  cases x with
  | error cause => simp [bind, Except.bind]
  | ok a => simp [bind, Except.bind]

theorem eq_ok_of_toOption {α : Type} {x : Except ReadError α} {a : α}
    (h : x.toOption = some a) : x = .ok a := by
  cases x with
  | error cause => cases h
  | ok b =>
    cases h
    rfl

/-- A date in the calendar form starts with its year. -/
theorem exists_of_calendarDate {s rest : List Char} {fields : DateFields}
    (h : calendarDate s = some (fields, rest)) :
    ∃ year month day, number 4 s = .ok year ∧ fields = .calendar year month day := by
  rw [calendarDate] at h
  obtain ⟨-, -, h⟩ := Option.bind_eq_some_iff.mp h
  obtain ⟨year, hyear, h⟩ := Option.bind_eq_some_iff.mp h
  have hnumber := eq_ok_of_toOption hyear
  by_cases hend : s.drop 4 = []
  · rw [if_pos hend] at h
    cases h
    exact ⟨year, 1, 1, hnumber, rfl⟩
  · rw [if_neg hend] at h
    dsimp only at h
    -- The year is the same with a dash behind it and without one.
    generalize (if ((s.drop 4).head? == some '-') = true then (s.drop 4).drop 1 else s.drop 4) =
      months at h
    obtain ⟨-, -, h⟩ := Option.bind_eq_some_iff.mp h
    obtain ⟨month, -, h⟩ := Option.bind_eq_some_iff.mp h
    by_cases hshort : months.drop 2 = []
    · rw [if_pos hshort] at h
      obtain ⟨-, -, h⟩ := Option.bind_eq_some_iff.mp h
      cases h
      exact ⟨year, month, 1, hnumber, rfl⟩
    · rw [if_neg hshort] at h
      obtain ⟨-, -, h⟩ := Option.bind_eq_some_iff.mp h
      obtain ⟨-, -, h⟩ := Option.bind_eq_some_iff.mp h
      obtain ⟨day, -, h⟩ := Option.bind_eq_some_iff.mp h
      cases h
      exact ⟨year, month, day, hnumber, rfl⟩

/-- A date in one of the other forms starts with its year, too. -/
theorem exists_of_otherDate {s rest : List Char} {fields : DateFields}
    (h : otherDate s = .ok (fields, rest)) :
    ∃ year day, number 4 s = .ok year ∧ fields = .numbered day ∧
      ((∃ week weekday, dayOfWeek year week weekday = .ok day) ∨
        ∃ ordinal, dayOfYear year ordinal = .ok day) := by
  rw [otherDate] at h
  split at h
  · cases h
  · obtain ⟨year, hyear, h⟩ := bind_eq_ok_iff.mp h
    refine ⟨year, ?_⟩
    dsimp only at h
    generalize (if ((s.drop 4).head? == some '-') = true then (s.drop 4).drop 1 else s.drop 4) =
      after at h
    split at h
    · obtain ⟨week, -, h⟩ := bind_eq_ok_iff.mp h
      obtain ⟨⟨weekday, after⟩, -, h⟩ := bind_eq_ok_iff.mp h
      obtain ⟨day, hday, h⟩ := bind_eq_ok_iff.mp h
      cases h
      exact ⟨day, hyear, rfl, .inl ⟨week, weekday, hday⟩⟩
    · split at h
      · cases h
      · obtain ⟨ordinal, -, h⟩ := bind_eq_ok_iff.mp h
        obtain ⟨day, hday, h⟩ := bind_eq_ok_iff.mp h
        cases h
        exact ⟨day, hyear, rfl, .inr ⟨ordinal, hday⟩⟩

theorem one_le_of_dayOfFields {year month day : Int} {n : Nat}
    (h : Calendar.dayOfFields year month day = .ok n) : 1 ≤ year := by
  rw [Calendar.dayOfFields] at h
  split at h
  · cases h
  · omega

theorem one_le_of_dayOfWeek {year week weekday : Int} {n : Nat}
    (h : dayOfWeek year week weekday = .ok n) : 1 ≤ year := by
  cases hfourth : Calendar.dayOfFields year 1 4 with
  | error cause =>
    simp only [dayOfWeek, hfourth] at h
    repeat' split at h
    all_goals cases h
  | ok fourth => exact one_le_of_dayOfFields hfourth

theorem one_le_of_dayOfYear {year ordinal : Int} {n : Nat}
    (h : dayOfYear year ordinal = .ok n) : 1 ≤ year := by
  cases hfirst : Calendar.dayOfFields year 1 1 with
  | error cause =>
    simp only [dayOfYear, hfirst, ite_eq_iff] at h
    simp at h
  | ok first => exact one_le_of_dayOfFields hfirst

/-- A date that exists starts with the number of its year. -/
theorem exists_number_of_date {s rest : List Char} {fields : DateFields} {n : Nat}
    (h : date s = .ok (fields, rest)) (hday : fields.toDay = .ok n) :
    ∃ year, number 4 s = .ok year ∧ 1 ≤ year := by
  cases hcalendar : calendarDate s with
  | some found =>
    rw [date, hcalendar] at h
    cases h
    obtain ⟨year, month, day, hyear, rfl⟩ := exists_of_calendarDate hcalendar
    exact ⟨year, hyear, one_le_of_dayOfFields hday⟩
  | none =>
    rw [date, hcalendar] at h
    obtain ⟨year, day, hyear, -, ⟨week, weekday, hweek⟩ | ⟨ordinal, hordinal⟩⟩ :=
      exists_of_otherDate h
    · exact ⟨year, hyear, one_le_of_dayOfWeek hweek⟩
    · exact ⟨year, hyear, one_le_of_dayOfYear hordinal⟩

/-- No text with a dash in front is a date and time. -/
theorem head?_ne_of_read {s : String} {d : DateTime} (h : read s = .ok d) :
    s.toList.head? ≠ some '-' := by
  intro hdash
  obtain ⟨rest, hs⟩ := List.head?_eq_some_iff.mp hdash
  rw [read] at h
  dsimp only at h
  split at h
  · cases h
  · obtain ⟨⟨fields, after⟩, hdate, h⟩ := bind_eq_ok_iff.mp h
    obtain ⟨time, t, ht⟩ : ∃ time t, instantOf fields time = .ok t := by
      split at h
      all_goals
        obtain ⟨time, -, h⟩ := bind_eq_ok_iff.mp h
        obtain ⟨t, ht, -⟩ := bind_eq_ok_iff.mp h
        exact ⟨time, t, ht⟩
    obtain ⟨day, hday, -⟩ := bind_eq_ok_iff.mp ht
    have hfields : fields.toDay = .ok day := by
      cases hto : fields.toDay with
      | error cause => simp [hto, Except.mapError] at hday
      | ok n => simpa [hto, Except.mapError] using hday
    -- The dash would be the sign of the year, and the calendar has no year before the first.
    obtain ⟨year, hyear, hpos⟩ := exists_number_of_date hdate hfields
    rw [hs] at hyear
    have hneg := number_dash hyear
    omega

end Iso
end RelativeDate
