import StorageAccess.Proofs.Text.ByteOrder
import StorageAccess.Proofs.Time.Calendar
import StorageAccess.Proofs.Time.Digits
import StorageAccess.Sas.Policy

/-! Times as they are signed. In years of four digits they are read back without their fraction of a second,
and they are compared as texts as they are compared in time. -/
namespace StorageAccess

theorem Rfc3339.expect_cons (c : Char) (rest : List Char) : expect c (c :: rest) = some rest := by
  simp [expect]

namespace Date

theorem month_lt {d : Date} (h : d.exists? = true) : d.month < 100 := by
  obtain ⟨-, hlast, -, -⟩ := exists?_iff.mp h
  omega

theorem day_lt {d : Date} (h : d.exists? = true) : d.day < 100 := by
  obtain ⟨-, -, -, hlast⟩ := exists?_iff.mp h
  unfold daysInMonth at hlast
  split at hlast
  · split at hlast <;> omega
  · split at hlast <;> omega

/-- The written form of a year, two digits at a time if it has four. -/
theorem yearChars_eq (year : Int) : yearChars year =
    if 0 ≤ year ∧ year ≤ 9999 then twoDigits (year / 100).toNat ++ twoDigits (year % 100).toNat
    else (if year < 0 then '-' else '+') :: zeroPadded 4 year.natAbs := by
  unfold yearChars
  split
  · have hcentury : year.toNat / 100 = (year / 100).toNat := by omega
    have hyear : year.toNat % 100 = (year % 100).toNat := by omega
    rw [zeroPadded_four (by omega), hcentury, hyear]
  · rfl

/-- A date with a year of four digits is read as it was written. -/
theorem date_chars {d : Date} (h : d.exists? = true) (hy : 0 ≤ d.year ∧ d.year ≤ 9999)
    (rest : List Char) : Rfc3339.date (d.chars ++ rest) = some (d, rest) := by
  have hyear (rest : List Char) : Rfc3339.number 4 (yearChars d.year ++ rest) =
      some (d.year.toNat, rest) := by
    rw [yearChars_eq, if_pos hy, Rfc3339.number_fourDigits (by omega) (by omega)]
    congr 2
    omega
  have hsame : (⟨(d.year.toNat : Int), d.month, d.day⟩ : Date) = d := by
    rw [Int.toNat_of_nonneg hy.1]
  rw [chars, zeroPadded_two (month_lt h), zeroPadded_two (day_lt h)]
  simp only [Rfc3339.date, List.append_assoc, List.cons_append, hyear, Rfc3339.expect_cons,
    Rfc3339.number_twoDigits (month_lt h), Rfc3339.number_twoDigits (day_lt h), Option.bind_eq_bind,
    Option.bind_some, hsame, h, if_pos]

end Date

namespace Instant

variable {t u : Instant}

theorem clock_range (t : Instant) : t.hour ≤ 23 ∧ t.minute ≤ 59 ∧ t.secondOfMinute ≤ 60 := by
  have hlt := t.valid.2.2
  unfold hour minute secondOfMinute secondOfDay
  omega

/-- Each part of the time of day takes two digits. -/
theorem clock_lt (t : Instant) : t.hour < 100 ∧ t.minute < 100 ∧ t.secondOfMinute < 100 := by
  have hrange := t.clock_range
  omega

/-- Whether the nanoseconds run on past a second that does not end its minute, as no leap second does. -/
def RunsOnMidMinute (t : Instant) : Prop := 1_000_000_000 ≤ t.nanosecond ∧ t.second % 60 ≠ 59

instance (t : Instant) : Decidable t.RunsOnMidMinute := by unfold RunsOnMidMinute; infer_instance

/-- The second of a point in time. Where it runs on it is the part past its end, as in a leap second. -/
def withoutFraction (t : Instant) : Instant where
  second := t.second
  nanosecond := t.nanosecond / 1_000_000_000 * 1_000_000_000
  valid := by
    obtain ⟨hfirst, hlast, hlt⟩ := t.valid
    exact ⟨hfirst, hlast, by omega⟩

theorem isInstant_next (h : t.RunsOnMidMinute) : IsInstant (t.second + 1) 0 := by
  obtain ⟨hfirst, hlast, -⟩ := t.valid
  have hmid := h.2
  -- the last second of all ends its minute, so it is not this one
  unfold lastSecond at hlast
  refine ⟨by omega, ?_, by decide⟩
  unfold lastSecond
  omega

/-- The second that a clock shows. One that runs on cannot be told from the next, unless the minute ends. -/
def shown (t : Instant) : Instant :=
  if h : t.RunsOnMidMinute then ⟨t.second + 1, 0, isInstant_next h⟩ else t.withoutFraction

theorem shown_of_runsOn (h : t.RunsOnMidMinute) :
    t.shown.second = t.second + 1 ∧ t.shown.nanosecond = 0 := by
  rw [shown, dif_pos h]
  exact ⟨rfl, rfl⟩

theorem shown_of_not_runsOn (h : ¬t.RunsOnMidMinute) : t.shown = t.withoutFraction :=
  dif_neg h

/-- Only a leap second is shown as the second after the last one of its minute. -/
theorem shown_of_leap (h : t.secondOfMinute = 60) :
    t.second % 60 = 59 ∧ t.shown.second = t.second ∧ t.shown.nanosecond = 1_000_000_000 := by
  have hlt := t.valid.2.2
  unfold secondOfMinute secondOfDay at h
  have hends : ¬t.RunsOnMidMinute := fun hmid => hmid.2 (by omega)
  rw [shown_of_not_runsOn hends]
  refine ⟨by omega, rfl, ?_⟩
  change t.nanosecond / 1_000_000_000 * 1_000_000_000 = 1_000_000_000
  omega

theorem shown_of_not_leap (h : t.secondOfMinute ≠ 60) :
    t.shown.second = t.second - t.second % 60 + t.secondOfMinute ∧ t.shown.nanosecond = 0 := by
  have hlt := t.valid.2.2
  unfold secondOfMinute secondOfDay at *
  by_cases hmid : t.RunsOnMidMinute
  · obtain ⟨hsecond, hnanosecond⟩ := shown_of_runsOn hmid
    have hlong := hmid.1
    exact ⟨by omega, hnanosecond⟩
  · rw [shown_of_not_runsOn hmid]
    unfold RunsOnMidMinute at hmid
    change t.second = _ ∧ t.nanosecond / 1_000_000_000 * 1_000_000_000 = 0
    omega

/-- What is shown is in the same minute. -/
theorem shown_minute (t : Instant) : t.shown.second / 60 = t.second / 60 := by
  have hrange := t.clock_range
  by_cases h : t.secondOfMinute = 60
  · rw [(shown_of_leap h).2.1]
  · have hsecond := (shown_of_not_leap h).1
    omega

theorem date_shown (t : Instant) : t.shown.date = t.date := by
  have hminute := t.shown_minute
  have hday : t.shown.second / 86400 = t.second / 86400 := by omega
  rw [date, date, hday]

theorem clock_shown (t : Instant) : (t.shown.secondOfDay, t.shown.nanosecond) =
    if t.secondOfMinute = 60 then (t.hour * 3600 + t.minute * 60 + 59, 1_000_000_000)
    else (t.hour * 3600 + t.minute * 60 + t.secondOfMinute, 0) := by
  by_cases h : t.secondOfMinute = 60
  · obtain ⟨hlast, hsecond, hnanosecond⟩ := shown_of_leap h
    rw [if_pos h, hnanosecond]
    congr 1
    unfold hour minute secondOfDay
    omega
  · obtain ⟨hsecond, hnanosecond⟩ := shown_of_not_leap h
    have hminute := t.shown_minute
    rw [if_neg h, hnanosecond]
    congr 1
    unfold hour minute secondOfDay
    omega

/-- A time of day is read as it was shown. -/
theorem clock_clockChars (t : Instant) (rest : List Char) : Rfc3339.clock (t.clockChars ++ rest) =
    some ((t.shown.secondOfDay, t.shown.nanosecond), rest) := by
  obtain ⟨hhour, hminute, hsecond⟩ := t.clock_lt
  rw [clockChars, zeroPadded_two hhour, zeroPadded_two hminute, zeroPadded_two hsecond, clock_shown]
  simp only [Rfc3339.clock, List.append_assoc, List.cons_append, Rfc3339.expect_cons,
    Rfc3339.number_twoDigits hhour, Rfc3339.number_twoDigits hminute,
    Rfc3339.number_twoDigits hsecond, Option.bind_eq_bind, Option.bind_some, if_pos t.clock_range]
  split <;> rfl

/-- Whether the year takes four digits and no sign. -/
def HasFourDigitYear (t : Instant) : Prop := 0 ≤ t.date.year ∧ t.date.year ≤ 9999

instance (t : Instant) : Decidable t.HasFourDigitYear := by unfold HasFourDigitYear; infer_instance

theorem exists?_date (t : Instant) : t.date.exists? = true := Date.exists?_ofDays _

theorem toDays_date (t : Instant) : t.date.toDays * 86400 + t.secondOfDay = t.second := by
  rw [date, Date.toDays_ofDays]
  unfold secondOfDay
  omega

/-- What is shown runs on at the end of a minute only. -/
theorem not_runsOnMidMinute_shown (t : Instant) : ¬t.shown.RunsOnMidMinute := by
  rintro ⟨hlong, hmid⟩
  by_cases h : t.secondOfMinute = 60
  · obtain ⟨hlast, hsecond, -⟩ := shown_of_leap h
    exact hmid (hsecond ▸ hlast)
  · rw [(shown_of_not_leap h).2] at hlong
    cases hlong

theorem ofUnix?_shown (t : Instant) : ofUnix? t.shown.second t.shown.nanosecond = some t.shown :=
  (if_neg t.not_runsOnMidMinute_shown).trans (dif_pos t.shown.valid)

/-- A written time is read as the second that it shows. -/
theorem ofText_iso8601 (h : t.HasFourDigitYear) : Rfc3339.ofText t.iso8601 = .ok t.shown := by
  have hseparator (rest : List Char) : Rfc3339.separator ('T' :: rest) = some rest := rfl
  have hfraction : Rfc3339.fraction ['Z'] = some (0, ['Z']) := rfl
  have hoffset : Rfc3339.offset ['Z'] = some (0, []) := rfl
  have hinstant : ofUnix? (t.date.toDays * 86400 + t.shown.secondOfDay - 0) (t.shown.nanosecond + 0) =
      some t.shown := by
    rw [← t.date_shown, toDays_date, Int.sub_zero, Nat.add_zero]
    exact t.ofUnix?_shown
  have hread : Rfc3339.ofChars? t.iso8601.toList = some t.shown := by
    rw [iso8601, String.toList_ofList]
    simp only [Rfc3339.ofChars?, Date.date_chars t.exists?_date h, hseparator, clock_clockChars,
      hfraction, hoffset, Option.bind_eq_bind, Option.bind_some, List.isEmpty_nil, if_true, hinstant]
  rw [Rfc3339.ofText, hread]

theorem rfc3339_eq (t : Instant) : t.rfc3339 = t.iso8601 := by
  obtain ⟨hhour, hminute, hsecond⟩ := t.clock_lt
  rw [rfc3339, iso8601, Date.chars, Date.yearChars_eq, clockChars,
    zeroPadded_two (Date.month_lt t.exists?_date), zeroPadded_two (Date.day_lt t.exists?_date),
    zeroPadded_two hhour, zeroPadded_two hminute, zeroPadded_two hsecond]
  simp

/-- Numbers of two digits, each with a mark after it. -/
def inPairs : List Nat → List (List Char) → List Char
  | n :: ns, mark :: marks => twoDigits n ++ (mark ++ inPairs ns marks)
  | _, _ => []

theorem inPairs_lt {ms ns : List Nat} {marks : List (List Char)} (h : ms < ns) (hn : ∀ n ∈ ns, n < 100)
    (hl : ns.length ≤ marks.length) : inPairs ms marks < inPairs ns marks := by
  induction h generalizing marks with
  | nil =>
    cases marks with
    | nil => cases hl
    | cons mark marks => exact List.nil_lt_cons _ _
  | rel hlt =>
    cases marks with
    | nil => cases hl
    | cons mark marks => exact twoDigits_append_lt hlt (List.forall_mem_cons.mp hn).1 _ _
  | cons h ih =>
    cases marks with
    | nil => cases hl
    | cons mark marks =>
      have hrest := ih (List.forall_mem_cons.mp hn).2 (Nat.le_of_succ_le_succ hl)
      exact List.append_left_lt (List.append_left_lt hrest)

/-- The numbers in a written point in time, from the century to the second. -/
def numbers (t : Instant) : List Nat :=
  [(t.date.year / 100).toNat, (t.date.year % 100).toNat, t.date.month, t.date.day, t.hour, t.minute,
    t.secondOfMinute]

theorem numbers_lt (h : t.HasFourDigitYear) : ∀ n ∈ t.numbers, n < 100 := by
  have hyear : (t.date.year / 100).toNat < 100 ∧ (t.date.year % 100).toNat < 100 := by
    unfold HasFourDigitYear at h
    omega
  obtain ⟨hhour, hminute, hsecond⟩ := t.clock_lt
  simp only [numbers, List.forall_mem_cons]
  exact ⟨hyear.1, hyear.2, Date.month_lt t.exists?_date, Date.day_lt t.exists?_date, hhour, hminute,
    hsecond, nofun⟩

theorem toList_iso8601 (h : t.HasFourDigitYear) : t.iso8601.toList =
    inPairs t.numbers [[], ['-'], ['-'], ['T'], [':'], [':'], ['Z']] := by
  unfold HasFourDigitYear at h
  rw [← rfc3339_eq, rfc3339, String.toList_ofList, if_pos h]
  simp [inPairs, numbers]

/-- A year is before another if its century is, or the year is in the same century. -/
theorem year_lt {m n : Int} (hm : 0 ≤ m) (h : m < n) : (m / 100).toNat < (n / 100).toNat ∨
    (m / 100).toNat = (n / 100).toNat ∧ (m % 100).toNat < (n % 100).toNat := by
  omega

theorem numbers_eq_or_lt (ht : t.HasFourDigitYear) (h : t ≤ u) :
    t.numbers = u.numbers ∨ t.numbers < u.numbers := by
  change t.second < u.second ∨ t.second = u.second ∧ t.nanosecond ≤ u.nanosecond at h
  simp only [numbers, List.cons_lt_cons_iff, List.cons.injEq]
  obtain hday | hday : t.second / 86400 < u.second / 86400 ∨ t.second / 86400 = u.second / 86400 := by
    omega
  · refine .inr ?_
    obtain hyear | ⟨hyear, hrest⟩ : t.date.IsBefore u.date := Date.isBefore_ofDays hday
    · exact (year_lt ht.1 hyear).imp id fun h => ⟨h.1, .inl h.2⟩
    · rw [hyear]
      exact .inr ⟨rfl, .inr ⟨rfl, hrest.imp id fun h => ⟨h.1, .inl h.2⟩⟩⟩
  · have hdate : t.date = u.date := congrArg Date.ofDays hday
    have hclock : t.hour < u.hour ∨ t.hour = u.hour ∧ (t.minute < u.minute ∨
        t.minute = u.minute ∧ t.secondOfMinute ≤ u.secondOfMinute) := by
      have hlt := t.valid.2.2
      unfold hour minute secondOfMinute secondOfDay
      omega
    simp only [hdate, true_and, Nat.lt_irrefl, false_or, List.not_lt_nil, and_false, or_false, and_true]
    omega

/-- Times of years of four digits are in the order of their texts. -/
theorem byteLe_iso8601 (ht : t.HasFourDigitYear) (hu : u.HasFourDigitYear) (h : t ≤ u) :
    Utf8.ByteLe t.iso8601 u.iso8601 := by
  rw [Utf8.byteLe_iff]
  change ¬u.iso8601.toList < t.iso8601.toList
  rw [toList_iso8601 ht, toList_iso8601 hu]
  obtain heq | hlt := numbers_eq_or_lt ht h
  · rw [heq]
    exact List.lt_irrefl _
  · exact List.lt_asymm (inPairs_lt hlt (numbers_lt hu) (Nat.le_refl 7))

/-- In years of four digits the signed form of a time is read as that time without its fraction of a second,
leap seconds included. Only a second that runs on before its minute ends is read as the next one. As texts such
times come where they come in time, so that the window of a policy is one of texts too. -/
theorem ofText_iso8601_and_order :
    (∀ t : Instant, t.HasFourDigitYear → t.rfc3339 = t.iso8601 ∧
      (¬t.RunsOnMidMinute → Rfc3339.ofText t.iso8601 = .ok t.withoutFraction) ∧
      (t.RunsOnMidMinute → ∃ next : Instant, next.second = t.second + 1 ∧ next.nanosecond = 0 ∧
        Rfc3339.ofText t.iso8601 = .ok next)) ∧
    (∀ t u : Instant, t.HasFourDigitYear → u.HasFourDigitYear → t ≤ u →
      Utf8.ByteLe t.iso8601 u.iso8601) ∧
    ∀ (p : Policy) (start expiry : Instant), p.start = some start → p.expiry = some expiry →
      start.HasFourDigitYear → expiry.HasFourDigitYear → p.checkWindow = .ok () →
        Utf8.ByteLe start.iso8601 expiry.iso8601 := by
  refine ⟨fun t h => ⟨rfc3339_eq t, fun hends => ?_, fun hmid => ?_⟩, fun t u => byteLe_iso8601, ?_⟩
  · rw [ofText_iso8601 h, shown_of_not_runsOn hends]
  · obtain ⟨hsecond, hnanosecond⟩ := shown_of_runsOn hmid
    exact ⟨t.shown, hsecond, hnanosecond, ofText_iso8601 h⟩
  · intro p start expiry hs he hstart hexpiry hwindow
    exact byteLe_iso8601 hstart hexpiry (Policy.checkWindow_eq_ok_iff.mp hwindow start expiry hs he)

/-- In the last second of 2016, which was one more than that minute should have. -/
def leapSecond : Instant := ⟨1_483_228_799, 1_500_000_000, by decide⟩

def newYear2017 : Instant := ⟨1_483_228_800, 0, by decide⟩

/-- Four seconds past 23:56 on that day, in a second that runs on. -/
def longSecond : Instant := ⟨1_483_228_564, 1_333_333_333, by decide⟩

theorem ofText_iso8601_leapSecond_longSecond :
    (leapSecond.HasFourDigitYear ∧ ¬leapSecond.RunsOnMidMinute ∧
      Rfc3339.ofText leapSecond.iso8601 = .ok ⟨1_483_228_799, 1_000_000_000, by decide⟩) ∧
    (longSecond.HasFourDigitYear ∧ longSecond.RunsOnMidMinute ∧
      ∃ next : Instant, next.second = 1_483_228_565 ∧ next.nanosecond = 0 ∧
        Rfc3339.ofText longSecond.iso8601 = .ok next) ∧
    newYear2017.HasFourDigitYear ∧ leapSecond ≤ newYear2017 ∧
      Utf8.ByteLe leapSecond.iso8601 newYear2017.iso8601 ∧
      Policy.checkWindow { start := some leapSecond, expiry := some newYear2017 } = .ok () := by
  have ht : leapSecond.HasFourDigitYear := by decide
  have hends : ¬leapSecond.RunsOnMidMinute := by decide
  have hl : longSecond.HasFourDigitYear := by decide
  have hmid : longSecond.RunsOnMidMinute := by decide
  have hu : newYear2017.HasFourDigitYear := by decide
  have hwindow : Policy.checkWindow { start := some leapSecond, expiry := some newYear2017 } =
      .ok () := by rfl
  obtain ⟨hread, -, horder⟩ := ofText_iso8601_and_order
  exact ⟨⟨ht, hends, (hread leapSecond ht).2.1 hends⟩, ⟨hl, hmid, (hread longSecond hl).2.2 hmid⟩,
    hu, .inl (by decide), horder _ _ _ rfl rfl ht hu hwindow, hwindow⟩

/-- What is read is not the second that was written. -/
theorem ofText_iso8601_ne_longSecond :
    longSecond.HasFourDigitYear ∧ longSecond.iso8601 = "2016-12-31T23:56:05Z" ∧
      Rfc3339.ofText longSecond.iso8601 = .ok ⟨1_483_228_565, 0, by decide⟩ ∧
      Rfc3339.ofText longSecond.iso8601 ≠ .ok longSecond.withoutFraction := by
  have hl : longSecond.HasFourDigitYear := by decide
  have hread := ofText_iso8601 hl
  have hshown : longSecond.shown = ⟨1_483_228_565, 0, by decide⟩ := by rfl
  rw [hshown] at hread
  refine ⟨hl, by rfl, hread, ?_⟩
  rw [hread, ne_eq, Except.ok.injEq]
  decide

end Instant

end StorageAccess
