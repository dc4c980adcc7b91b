import StorageAccess.Time.Civil

/-! The calendar counts every day once: the date of a day is one that exists and gives the day again, and
later days have later dates. Here too years begin in March. -/
namespace StorageAccess.Date

/-- Days before the first of March of a year. -/
def yearStart (year : Int) : Int := 365 * year + year / 4 - year / 100 + year / 400

/-- Days of a year before one of its months, which count from March. -/
def monthStart (month : Int) : Int := (153 * month + 2) / 5

/-- A month, counted from March. -/
def monthFromMarch (month : Nat) : Int := if month ≤ 2 then month + 9 else month - 3

def marchYear (d : Date) : Int := if d.month ≤ 2 then d.year - 1 else d.year

/-- The day of the year, from 1 for the first of March. -/
def dayFromMarch (d : Date) : Int := monthStart (monthFromMarch d.month) + d.day

/-- The date of a day of a year, from 0 for the first of March. -/
def ofDayOfYear (year dayOfYear : Int) : Date :=
  let month := (5 * dayOfYear + 2) / 153
  let civilMonth := if month < 10 then month + 3 else month - 9
  ⟨year + if civilMonth ≤ 2 then 1 else 0, civilMonth.toNat,
    (dayOfYear - monthStart month + 1).toNat⟩

theorem toDays_eq (d : Date) : d.toDays = yearStart d.marchYear + d.dayFromMarch - 719469 := by
  change d.marchYear / 400 * 146097 + dayOfEra (d.marchYear % 400) (d.dayFromMarch - 1) - 719468 = _
  unfold dayOfEra yearStart
  omega

theorem yearStart_of_era {year : Int} (h0 : 0 ≤ year) (h1 : year < 400) (era : Int) :
    yearStart (era * 400 + year) = era * 146097 + dayOfEra year 0 := by
  unfold yearStart dayOfEra
  omega

theorem isLeapYear_iff {year : Int} :
    isLeapYear year = true ↔ year % 4 = 0 ∧ (year % 100 ≠ 0 ∨ year % 400 = 0) := by
  simp [isLeapYear]

theorem exists?_iff {d : Date} : d.exists? = true ↔
    1 ≤ d.month ∧ d.month ≤ 12 ∧ 1 ≤ d.day ∧ d.day ≤ daysInMonth d.year d.month := by
  simp [exists?, and_assoc]

/-- A year that begins in March has its leap day in the year after it. -/
theorem yearStart_succ (year : Int) : yearStart (year + 1) =
    yearStart year + if isLeapYear (year + 1) then 366 else 365 := by
  unfold yearStart
  split
  · rename_i h
    rw [isLeapYear_iff] at h
    omega
  · rename_i h
    rw [isLeapYear_iff] at h
    omega

theorem lt_of_yearStart {year dayOfYear : Int} (h : dayOfYear < yearStart (year + 1) - yearStart year) :
    dayOfYear < 366 := by
  rw [yearStart_succ] at h
  split at h <;> omega

/-- A day of an era, as the centuries, leap cycles, years and days before it. Only the last year of a cycle
has a leap day, and in the last cycle of a century only if it is that of the era. -/
structure IsSplit (day century cycle year rest : Int) : Prop where
  sum : day = 36524 * century + 1461 * cycle + 365 * year + rest
  centuries : 0 ≤ century ∧ century ≤ 3
  cycles : 0 ≤ cycle ∧ cycle ≤ 24
  years : 0 ≤ year ∧ year ≤ 3
  days : 0 ≤ rest ∧ rest ≤ 365
  last : rest = 365 → year = 3 ∧ (cycle = 24 → century = 3)

theorem exists_isSplit {day : Int} (h0 : 0 ≤ day) (h1 : day < 146097) :
    ∃ century cycle year rest, IsSplit day century cycle year rest := by
  obtain ⟨century, hcentury⟩ : ∃ c, c = min (day / 36524) 3 := ⟨_, rfl⟩
  obtain ⟨cycle, hcycle⟩ : ∃ q, q = (day - 36524 * century) / 1461 := ⟨_, rfl⟩
  obtain ⟨year, hyear⟩ : ∃ y, y = min ((day - 36524 * century - 1461 * cycle) / 365) 3 := ⟨_, rfl⟩
  refine ⟨century, cycle, year, day - 36524 * century - 1461 * cycle - 365 * year, ?_⟩
  constructor <;> omega

namespace IsSplit

variable {day century cycle year rest : Int}

theorem dayOfEra_eq (h : IsSplit day century cycle year rest) :
    dayOfEra (100 * century + 4 * cycle + year) 0 = day - rest := by
  obtain ⟨hsum, hcentury, hcycle, hyear, -, -⟩ := h
  unfold dayOfEra
  omega

/-- Without the days that leap cycles and centuries have over, years have 365 days. -/
theorem yearOfEra_eq (h : IsSplit day century cycle year rest) :
    (day - day / 1460 + day / 36524 - day / 146096) / 365 =
      100 * century + 4 * cycle + year := by
  obtain ⟨hsum, hcentury, hcycle, hyear, hrest, hlast⟩ := h
  -- one cycle too many is taken off at the end of a last year, which has a day to spare
  obtain ⟨late, hlate⟩ : ∃ late : Int,
      late = if 1460 ≤ 24 * century + cycle + 365 * year + rest then 1 else 0 := ⟨_, rfl⟩
  have hcycles : day / 1460 = 25 * century + cycle + late := by
    split at hlate <;> omega
  have hcenturies : day / 36524 - day / 146096 = century := by
    have hera : day / 146096 = if day = 146096 then 1 else 0 := by
      split <;> omega
    rw [hera]
    split <;> omega
  have hyears : day - day / 1460 + day / 36524 - day / 146096 =
      365 * (100 * century + 4 * cycle + year) + (rest - late) := by omega
  rw [hyears]
  clear hyears hcenturies hcycles
  split at hlate <;> omega

theorem rest_lt (h : IsSplit day century cycle year rest) (era : Int) :
    rest < yearStart (era * 400 + (100 * century + 4 * cycle + year) + 1) -
      yearStart (era * 400 + (100 * century + 4 * cycle + year)) := by
  obtain ⟨-, hcentury, hcycle, hyear, hrest, hlast⟩ := h
  rw [yearStart_succ]
  split
  · omega
  · rename_i hleap
    rw [isLeapYear_iff] at hleap
    omega

end IsSplit

theorem exists_ofDays (days : Int) : ∃ year dayOfYear : Int,
    ofDays days = ofDayOfYear year dayOfYear ∧ days = yearStart year + dayOfYear - 719468 ∧
      0 ≤ dayOfYear ∧ dayOfYear < yearStart (year + 1) - yearStart year := by
  obtain ⟨era, hera⟩ : ∃ e, e = (days + 719468) / 146097 := ⟨_, rfl⟩
  obtain ⟨day, hday⟩ : ∃ d, d = (days + 719468) % 146097 := ⟨_, rfl⟩
  have h0 : 0 ≤ day := by omega
  have h1 : day < 146097 := by omega
  obtain ⟨century, cycle, year, rest, hsplit⟩ := exists_isSplit h0 h1
  have hstart := hsplit.dayOfEra_eq
  refine ⟨era * 400 + (100 * century + 4 * cycle + year), rest, ?_, ?_, hsplit.days.1,
    hsplit.rest_lt era⟩
  · have hrest : rest = day - dayOfEra (100 * century + 4 * cycle + year) 0 := by omega
    rw [hrest, ← hsplit.yearOfEra_eq, hday, hera]
    rfl
  · have hdays : days = era * 146097 + day - 719468 := by omega
    obtain ⟨-, hcenturies, hcycles, hyears, -, -⟩ := hsplit
    rw [hdays, yearStart_of_era (by omega) (by omega), hstart]
    omega

theorem daysInMonth_of_ne (year : Int) {month : Nat} (h1 : 1 ≤ month) (h12 : month ≤ 12)
    (hne : month ≠ 2) : (daysInMonth year month : Int) =
      monthStart (monthFromMarch month + 1) - monthStart (monthFromMarch month) := by
  unfold daysInMonth
  rw [if_neg hne]
  obtain hshort | hlong : (month = 4 ∨ month = 6 ∨ month = 9 ∨ month = 11) ∨
      (month = 1 ∨ month = 3 ∨ month = 5 ∨ month = 7 ∨ month = 8 ∨ month = 10 ∨ month = 12) := by
    omega
  · rw [if_pos hshort]
    obtain rfl | rfl | rfl | rfl := hshort <;> rfl
  · rw [if_neg (by omega)]
    obtain rfl | rfl | rfl | rfl | rfl | rfl | rfl := hlong <;> rfl

/-- February has what is left of the year that began in March. -/
theorem daysInMonth_february (year : Int) :
    (daysInMonth year 2 : Int) = yearStart year - yearStart (year - 1) - 337 := by
  have hstart := yearStart_succ (year - 1)
  rw [Int.sub_add_cancel] at hstart
  unfold daysInMonth
  rw [if_pos rfl, hstart]
  split <;> omega

/-- The days of a month come before the next month, and those of a year before the next year. -/
theorem dayFromMarch_le {d : Date} (h : d.exists? = true) :
    d.dayFromMarch ≤ monthStart (monthFromMarch d.month + 1) ∧
      d.dayFromMarch ≤ yearStart (d.marchYear + 1) - yearStart d.marchYear := by
  obtain ⟨hfirst, hlast, -, hday⟩ := exists?_iff.mp h
  by_cases hfebruary : d.month = 2
  · have hlength := daysInMonth_february d.year
    have hbefore := yearStart_succ (d.year - 1)
    rw [Int.sub_add_cancel] at hbefore
    rw [hfebruary] at hday
    simp only [dayFromMarch, marchYear, hfebruary, monthFromMarch, monthStart]
    split at hbefore <;> simp <;> omega
  · have hlength := daysInMonth_of_ne d.year hfirst hlast hfebruary
    have hyear := yearStart_succ d.marchYear
    have hmonth : monthFromMarch d.month ≤ 10 := by
      unfold monthFromMarch
      split <;> omega
    unfold dayFromMarch
    unfold monthStart at *
    split at hyear <;> omega

section ofDayOfYear

variable {dayOfYear : Int}

theorem month_ofDayOfYear (year : Int) (h0 : 0 ≤ dayOfYear) (h1 : dayOfYear < 366) :
    1 ≤ (ofDayOfYear year dayOfYear).month ∧ (ofDayOfYear year dayOfYear).month ≤ 12 ∧
      monthFromMarch (ofDayOfYear year dayOfYear).month = (5 * dayOfYear + 2) / 153 := by
  obtain ⟨month, hmonth⟩ : ∃ m, m = (5 * dayOfYear + 2) / 153 := ⟨_, rfl⟩
  unfold ofDayOfYear monthFromMarch
  simp only [← hmonth]
  split <;> omega

theorem marchYear_ofDayOfYear (year : Int) (h0 : 0 ≤ dayOfYear) (h1 : dayOfYear < 366) :
    (ofDayOfYear year dayOfYear).marchYear = year := by
  obtain ⟨month, hmonth⟩ : ∃ m, m = (5 * dayOfYear + 2) / 153 := ⟨_, rfl⟩
  unfold ofDayOfYear marchYear
  simp only [← hmonth]
  split <;> split <;> omega

theorem day_ofDayOfYear (year : Int) (h0 : 0 ≤ dayOfYear) (h1 : dayOfYear < 366) :
    1 ≤ (ofDayOfYear year dayOfYear).day ∧
      (ofDayOfYear year dayOfYear).dayFromMarch = dayOfYear + 1 := by
  obtain ⟨-, -, hmonth⟩ := month_ofDayOfYear year h0 h1
  have hday : (ofDayOfYear year dayOfYear).day =
      (dayOfYear - monthStart ((5 * dayOfYear + 2) / 153) + 1).toNat := rfl
  unfold dayFromMarch
  rw [hmonth, hday]
  unfold monthStart
  omega

theorem exists?_ofDayOfYear (year : Int) (h0 : 0 ≤ dayOfYear)
    (h1 : dayOfYear < yearStart (year + 1) - yearStart year) :
    (ofDayOfYear year dayOfYear).exists? = true := by
  have hlast := lt_of_yearStart h1
  obtain ⟨hm1, hm12, hmonth⟩ := month_ofDayOfYear year h0 hlast
  obtain ⟨hd1, hday⟩ := day_ofDayOfYear year h0 hlast
  have hyear := marchYear_ofDayOfYear year h0 hlast
  refine exists?_iff.mpr ⟨hm1, hm12, hd1, ?_⟩
  generalize ofDayOfYear year dayOfYear = d at *
  rw [dayFromMarch] at hday
  by_cases hfebruary : d.month = 2
  · have hnext : d.year = year + 1 := by
      rw [marchYear, if_pos (by omega)] at hyear
      omega
    have hlength := daysInMonth_february d.year
    rw [hfebruary] at hday ⊢
    rw [hnext] at hlength ⊢
    rw [Int.add_sub_cancel] at hlength
    change 337 + (d.day : Int) = _ at hday
    omega
  · have hlength := daysInMonth_of_ne d.year hm1 hm12 hfebruary
    rw [hmonth] at hlength hday
    unfold monthStart at hlength hday
    omega

end ofDayOfYear

theorem exists?_ofDays (days : Int) : (ofDays days).exists? = true := by
  obtain ⟨year, dayOfYear, hdate, -, h0, h1⟩ := exists_ofDays days
  rw [hdate]
  exact exists?_ofDayOfYear year h0 h1

theorem toDays_ofDays (days : Int) : (ofDays days).toDays = days := by
  obtain ⟨year, dayOfYear, hdate, hdays, h0, h1⟩ := exists_ofDays days
  have hlast := lt_of_yearStart h1
  rw [toDays_eq, hdate, marchYear_ofDayOfYear year h0 hlast, (day_ofDayOfYear year h0 hlast).2]
  omega

/-- Dates as they are compared: by year, then by month, then by day. -/
def IsBefore (d e : Date) : Prop :=
  d.year < e.year ∨ d.year = e.year ∧ (d.month < e.month ∨ d.month = e.month ∧ d.day < e.day)

theorem yearStart_le {year other : Int} (h : year < other) :
    yearStart (year + 1) ≤ yearStart other := by
  unfold yearStart
  omega

theorem monthStart_le {month other : Int} (h : month < other) :
    monthStart (month + 1) ≤ monthStart other := by
  unfold monthStart
  omega

theorem monthStart_nonneg {month : Nat} (h : 1 ≤ month) :
    0 ≤ monthStart (monthFromMarch month) := by
  unfold monthStart monthFromMarch
  split <;> omega

/-- January and February go to the end of the year before, which keeps the order. -/
theorem IsBefore.fromMarch {d e : Date} (h : d.IsBefore e) (hd : d.exists? = true)
    (he : e.exists? = true) : d.marchYear < e.marchYear ∨ d.marchYear = e.marchYear ∧
      (monthFromMarch d.month < monthFromMarch e.month ∨ d.month = e.month ∧ d.day < e.day) := by
  obtain ⟨hd1, hd12, -, -⟩ := exists?_iff.mp hd
  obtain ⟨he1, he12, -, -⟩ := exists?_iff.mp he
  unfold IsBefore at h
  unfold marchYear monthFromMarch
  split <;> split <;> omega

theorem toDays_lt {d e : Date} (hd : d.exists? = true) (he : e.exists? = true)
    (h : d.IsBefore e) : d.toDays < e.toDays := by
  obtain ⟨hmonth, hyear⟩ := dayFromMarch_le hd
  obtain ⟨hfirst, -, hday, -⟩ := exists?_iff.mp he
  have hstart := monthStart_nonneg hfirst
  rw [toDays_eq, toDays_eq]
  obtain hlt | ⟨heq, hlt | ⟨hsame, hlt⟩⟩ := h.fromMarch hd he
  · have hle := yearStart_le hlt
    unfold dayFromMarch at *
    omega
  · have hle := monthStart_le hlt
    rw [heq]
    unfold dayFromMarch at *
    omega
  · rw [heq]
    unfold dayFromMarch
    rw [hsame]
    omega

/-- Later days have later dates. -/
theorem isBefore_ofDays {a b : Int} (h : a < b) : (ofDays a).IsBefore (ofDays b) := by
  have hnot : ¬(ofDays b).IsBefore (ofDays a) := by
    intro hbefore
    have hlt := toDays_lt (exists?_ofDays b) (exists?_ofDays a) hbefore
    rw [toDays_ofDays, toDays_ofDays] at hlt
    omega
  have hne : ofDays a ≠ ofDays b := by
    intro heq
    have hsame := congrArg toDays heq
    rw [toDays_ofDays, toDays_ofDays] at hsame
    omega
  rw [Ne, Date.mk.injEq] at hne
  unfold IsBefore at *
  omega

end StorageAccess.Date
