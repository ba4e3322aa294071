import AeaiOs.Lib.CivilTime
import Mathlib.Data.Char
import Mathlib.Tactic.Linarith
import Mathlib.Tactic.Positivity

/-!
The texts that `isoformat` writes. They are ordered as the instants are: every field has a
fixed width, and the fraction that is left out would be followed by a smaller character.
-/
namespace CivilTime

/-! Digits. -/

theorem length_padded {width : Nat} {n : Int} (positive : 0 < width) (small : n < 10 ^ width) :
    (padded width n).length = width := by
  have fits : n.toNat < 10 ^ width := by
    have bound : ((10 ^ width : Nat) : Int) = 10 ^ width := by push_cast; rfl
    have some : 0 < 10 ^ width := Nat.pow_pos (by omega)
    omega
  have short := (Nat.length_toDigits_le_iff (b := 10) (by omega) positive).mpr fits
  simp only [padded, Nat.toString_eq_repr, Nat.toList_repr, List.length_append,
    List.length_replicate]
  omega

theorem digit_of_mem_padded {width : Nat} {n : Int} {c : Char} (member : c ∈ padded width n) :
    c.isDigit = true := by
  simp only [padded, Nat.toString_eq_repr, Nat.toList_repr, List.mem_append,
    List.mem_replicate] at member
  rcases member with ⟨-, rfl⟩ | digit
  · rfl
  · exact Nat.isDigit_of_mem_toDigits (by omega) (by omega) digit

theorem value_padded (width : Nat) (n : Int) : Nat.ofDigitChars 10 (padded width n) 0 = n.toNat := by
  simp [padded, Nat.ofDigitChars_append]

theorem value_cons (c : Char) (digits : List Char) :
    Nat.ofDigitChars 10 (c :: digits) 0 =
      10 ^ digits.length * (c.toNat - 48) + Nat.ofDigitChars 10 digits 0 := by
  rw [Nat.ofDigitChars_cons, Nat.ofDigitChars_eq_ofDigitChars_zero]
  simp

theorem value_lt {digits : List Char} (all : ∀ c ∈ digits, c.isDigit = true) :
    Nat.ofDigitChars 10 digits 0 < 10 ^ digits.length := by
  induction digits with
  | nil => simp
  | cons c rest ih =>
    have tail := ih fun d member => all d (List.mem_cons_of_mem _ member)
    have digit := all c List.mem_cons_self
    have head : c.toNat - 48 ≤ 9 := by
      simp only [Char.isDigit, Bool.and_eq_true, decide_eq_true_eq] at digit
      have : c.val.toNat ≤ 57 := digit.2
      change c.val.toNat - 48 ≤ 9
      omega
    have scaled := Nat.mul_le_mul_left (10 ^ rest.length) head
    rw [value_cons, List.length_cons, Nat.pow_succ]
    omega

/-- Digits of one length are in the order of the numbers that they spell. -/
theorem lt_of_value_lt {a b : List Char} (digits : ∀ c ∈ a, c.isDigit = true)
    (digits' : ∀ c ∈ b, c.isDigit = true) (sameLength : a.length = b.length)
    (less : Nat.ofDigitChars 10 a 0 < Nat.ofDigitChars 10 b 0) : a < b := by
  induction a generalizing b with
  | nil =>
    cases b with
    | nil => simp at less
    | cons => simp at sameLength
  | cons c a ih =>
    cases b with
    | nil => simp at sameLength
    | cons d b =>
      have lengths : a.length = b.length := by simpa using sameLength
      have tail := value_lt fun e member => digits' e (List.mem_cons_of_mem _ member)
      rw [value_cons, value_cons, lengths] at less
      rw [List.cons_lt_cons_iff]
      rcases lt_trichotomy c d with first | rfl | first
      · exact .inl first
      · refine .inr ⟨rfl, ih (fun e member => digits e (List.mem_cons_of_mem _ member))
          (fun e member => digits' e (List.mem_cons_of_mem _ member)) lengths ?_⟩
        omega
      · have larger : d.toNat - 48 + 1 ≤ c.toNat - 48 := by
          have : d.toNat < c.toNat := first
          have digit := digits' d List.mem_cons_self
          simp only [Char.isDigit, Bool.and_eq_true, decide_eq_true_eq] at digit
          have : 48 ≤ d.toNat := digit.1
          omega
        have scaled := Nat.mul_le_mul_left (10 ^ b.length) larger
        rw [Nat.mul_add] at scaled
        omega

theorem padded_lt {width : Nat} {m n : Int} (positive : 0 < width) (start : 0 ≤ m) (less : m < n)
    (small : n < 10 ^ width) : padded width m < padded width n := by
  apply lt_of_value_lt (fun _ => digit_of_mem_padded) fun _ => digit_of_mem_padded
  · rw [length_padded positive small, length_padded positive (lt_trans less small)]
  · rw [value_padded, value_padded]
    omega

/-! The calendar. -/

/-- The days before a year that begins in March, counted from March of the year 0. -/
def yearStart (year : Int) : Int := 365 * year + year / 4 - year / 100 + year / 400

/-- The year of an era is found century by century, four years by four years. -/
theorem yearOfEra_split {day century quad rest : Int} (h0 : 0 ≤ century) (h3 : century ≤ 3)
    (q0 : 0 ≤ quad) (q24 : quad ≤ 24) (r0 : 0 ≤ rest) (r1460 : rest ≤ 1460)
    (split : day = 36524 * century + 1461 * quad + rest)
    (inCentury : 1461 * quad + rest < 36524) :
    ∃ year, 0 ≤ year ∧ year ≤ 3 ∧ 365 * year ≤ rest ∧ (rest < 365 * (year + 1) ∨ year = 3) ∧
      (day - day / 1460 + day / 36524 - day / 146096) / 365 = 100 * century + 4 * quad + year := by
  have centuries : day / 36524 = century := by omega
  have eras : day / 146096 = 0 := by omega
  have leaps : day / 1460 = 25 * century + quad + (24 * century + quad + rest) / 1460 := by omega
  rw [centuries, eras, leaps]
  -- the estimate of the leap days is one too high only at the end of four years
  have carries : 0 ≤ (24 * century + quad + rest) / 1460 ∧
      (24 * century + quad + rest) / 1460 ≤ 1 := by omega
  obtain ⟨carry, same⟩ : ∃ carry, (24 * century + quad + rest) / 1460 = carry := ⟨_, rfl⟩
  rw [same] at carries ⊢
  have year : (day - (25 * century + quad + carry) + century - 0) / 365 =
      100 * century + 4 * quad + (rest - carry) / 365 := by omega
  refine ⟨(rest - carry) / 365, ?_, ?_, ?_, ?_, year⟩ <;> omega

theorem yearStart_split (century : Int) {quad year : Int} (q0 : 0 ≤ quad) (q24 : quad ≤ 24)
    (y0 : 0 ≤ year) (y3 : year ≤ 3) :
    yearStart (100 * century + 4 * quad + year) =
      36524 * century + century / 4 + 1461 * quad + 365 * year := by
  unfold yearStart
  omega

/-- The next year is in the same four years, in the next four, or in the next century. -/
theorem yearStart_next {century quad year : Int} (h0 : 0 ≤ century) (q0 : 0 ≤ quad)
    (q24 : quad ≤ 24) (y0 : 0 ≤ year) (y3 : year ≤ 3) :
    36524 * century + 1461 * quad + 365 * (year + 1) + (if year = 3 ∧ quad ≤ 23 then 1 else 0) ≤
      yearStart (100 * century + 4 * quad + year + 1) := by
  unfold yearStart
  split <;> omega

theorem yearOfEra_spec {day : Int} (start : 0 ≤ day) (inEra : day < 146097) :
    ∃ year, (day - day / 1460 + day / 36524 - day / 146096) / 365 = year ∧ 0 ≤ year ∧ year ≤ 399 ∧
      yearStart year ≤ day ∧ day - yearStart year ≤ 365 ∧ day < yearStart (year + 1) := by
  by_cases last : day = 146096
  · subst last
    exact ⟨399, by decide⟩
  · obtain ⟨century, c⟩ : ∃ century, day / 36524 = century := ⟨_, rfl⟩
    obtain ⟨quad, q⟩ : ∃ quad, day % 36524 / 1461 = quad := ⟨_, rfl⟩
    obtain ⟨rest, r⟩ : ∃ rest, day % 36524 % 1461 = rest := ⟨_, rfl⟩
    have century3 : 0 ≤ century ∧ century ≤ 3 := by omega
    have quad24 : 0 ≤ quad ∧ quad ≤ 24 := by omega
    have rest1460 : 0 ≤ rest ∧ rest ≤ 1460 := by omega
    have split : day = 36524 * century + 1461 * quad + rest := by omega
    have inCentury : 1461 * quad + rest < 36524 := by omega
    clear c q r
    obtain ⟨year, y0, y3, low, high, eq⟩ := yearOfEra_split century3.1 century3.2 quad24.1 quad24.2
      rest1460.1 rest1460.2 split inCentury
    have here := yearStart_split century quad24.1 quad24.2 y0 y3
    have quarter : century / 4 = 0 :=
      Int.ediv_eq_zero_of_lt century3.1 (lt_of_le_of_lt century3.2 (by decide))
    rw [quarter] at here
    have next := yearStart_next century3.1 quad24.1 quad24.2 y0 y3
    have counted : rest - 365 * year ≤ 365 := by
      clear next here eq start inEra last inCentury split quarter
      omega
    refine ⟨_, eq, ?_, ?_, ?_, ?_, ?_⟩
    · clear next here eq start inEra last low high inCentury split rest1460 quarter
      omega
    · clear next here eq start inEra last low high inCentury split rest1460 quarter
      omega
    · rw [here, split]
      linarith only [low]
    · rw [here, split]
      linarith only [counted]
    · apply lt_of_lt_of_le _ next
      clear next here eq start inEra last low y0 quarter counted
      rw [split]
      clear split century3
      by_cases ends : year = 3 ∧ quad ≤ 23
      · rw [if_pos ends, ends.1]
        linarith only [rest1460.2]
      · rw [if_neg ends]
        -- in the last year of a century there are no more days than in the others
        have short : rest < 365 * (year + 1) := by
          rcases high with before | third
          · exact before
          · have final : quad = 24 := by omega
            rw [final] at inCentury
            omega
        linarith only [short]

theorem yearStart_mono {a b : Int} (le : a ≤ b) : yearStart a ≤ yearStart b := by
  unfold yearStart
  omega

/-- The date of a day of a year that begins in March. -/
def fromMarch (year dayOfYear : Int) : Date :=
  let monthIndex := (5 * dayOfYear + 2) / 153
  let month := if monthIndex < 10 then monthIndex + 3 else monthIndex - 9
  { year := year + if month ≤ 2 then 1 else 0
    month := month
    day := dayOfYear - (153 * monthIndex + 2) / 5 + 1 }

theorem civilFromDays_spec (days : Int) :
    ∃ year dayOfYear, civilFromDays days = fromMarch year dayOfYear ∧
      days + 719468 = yearStart year + dayOfYear ∧ 0 ≤ dayOfYear ∧ dayOfYear ≤ 365 ∧
      yearStart year + dayOfYear < yearStart (year + 1) := by
  obtain ⟨era, e⟩ : ∃ era, (days + 719468) / 146097 = era := ⟨_, rfl⟩
  obtain ⟨dayOfEra, d⟩ : ∃ dayOfEra, (days + 719468) % 146097 = dayOfEra := ⟨_, rfl⟩
  have inEra : 0 ≤ dayOfEra ∧ dayOfEra < 146097 := by omega
  obtain ⟨year, found, y0, y399, low, within, high⟩ :=
    yearOfEra_spec inEra.1 inEra.2
  have eras : ∀ y, yearStart (y + 400 * era) = yearStart y + 146097 * era := by
    intro y
    unfold yearStart
    omega
  have next := eras (year + 1)
  rw [show year + 1 + 400 * era = year + 400 * era + 1 by omega] at next
  refine ⟨year + 400 * era, dayOfEra - yearStart year, ?_, ?_, ?_, within, ?_⟩
  · have start : 365 * year + year / 4 - year / 100 = yearStart year := by
      unfold yearStart
      omega
    simp only [civilFromDays, e, d, found, start, fromMarch, mul_comm era 400]
  · rw [eras]
    omega
  · omega
  · rw [eras, next]
    omega

/-! Dates in the order of their fields. -/

def Date.Before (a b : Date) : Prop :=
  a.year < b.year ∨ a.year = b.year ∧ (a.month < b.month ∨ a.month = b.month ∧ a.day < b.day)

theorem fromMarch_fields (year : Int) {dayOfYear : Int} (start : 0 ≤ dayOfYear)
    (within : dayOfYear ≤ 365) :
    let date := fromMarch year dayOfYear
    1 ≤ date.month ∧ date.month ≤ 12 ∧ 1 ≤ date.day ∧ date.day ≤ 31 := by
  simp only [fromMarch]
  split <;> omega

theorem fromMarch_before {year year' day day' : Int} (start : 0 ≤ day) (within : day ≤ 365)
    (start' : 0 ≤ day') (within' : day' ≤ 365) (less : year < year' ∨ year = year' ∧ day < day') :
    (fromMarch year day).Before (fromMarch year' day') := by
  simp only [fromMarch, Date.Before]
  split <;> split <;> (try split) <;> (try split) <;> omega

theorem civilFromDays_before {a b : Int} (less : a < b) :
    (civilFromDays a).Before (civilFromDays b) := by
  obtain ⟨year, day, eq, split, start, within, inYear⟩ := civilFromDays_spec a
  obtain ⟨year', day', eq', split', start', within', inYear'⟩ := civilFromDays_spec b
  rw [eq, eq']
  apply fromMarch_before start within start' within'
  rcases lt_trichotomy year year' with earlier | same | later
  · exact .inl earlier
  · subst same
    exact .inr ⟨rfl, by omega⟩
  · have := yearStart_mono (a := year' + 1) (b := year) (by omega)
    omega

/-! The texts. -/

def Representable (t : Time) : Prop := earliest ≤ t ∧ t ≤ latest

instance (t : Time) : Decidable (Representable t) := inferInstanceAs (Decidable (_ ∧ _))

def dateText (date : Date) : List Char :=
  padded 4 date.year ++ ('-' :: (padded 2 date.month ++ ('-' :: (padded 2 date.day ++ ['T']))))

def timeText (ofDay : Int) : List Char :=
  padded 2 (ofDay / 3600) ++
    (':' :: (padded 2 (ofDay / 60 % 60) ++ (':' :: padded 2 (ofDay % 60))))

def fractionText (micro : Int) : List Char :=
  (if micro = 0 then [] else '.' :: padded 6 micro) ++ "+00:00".toList

theorem isoformat_eq (t : Time) :
    (isoformat t).toList =
      dateText (civilFromDays (t / microsecondsPerSecond / secondsPerDay)) ++
        (timeText (t / microsecondsPerSecond % secondsPerDay) ++
          fractionText (t % microsecondsPerSecond)) := by
  unfold isoformat dateText timeText fractionText
  rw [String.toList_ofList]
  simp only [List.append_assoc, List.cons_append, List.nil_append]

theorem append_lt {a b : List Char} (sameLength : a.length = b.length) (less : a < b)
    (x y : List Char) : a ++ x < b ++ y := by
  induction a generalizing b with
  | nil =>
    cases b with
    | nil => simp at less
    | cons => simp at sameLength
  | cons c a ih =>
    cases b with
    | nil => simp at sameLength
    | cons d b =>
      rw [List.cons_append, List.cons_append, List.cons_lt_cons_iff]
      rcases List.cons_lt_cons_iff.mp less with first | ⟨rfl, rest⟩
      · exact .inl first
      · exact .inr ⟨rfl, ih (by simpa using sameLength) rest⟩

/-- A field of fixed width decides the order, or leaves it to what follows. -/
theorem field_lt {width : Nat} {m n : Int} (positive : 0 < width) (start : 0 ≤ m)
    (start' : 0 ≤ n) (small : m < 10 ^ width) (small' : n < 10 ^ width) {x y : List Char}
    (less : m < n ∨ m = n ∧ x < y) : padded width m ++ x < padded width n ++ y := by
  rcases less with first | ⟨rfl, rest⟩
  · apply append_lt _ (padded_lt positive start first small')
    rw [length_padded positive small, length_padded positive small']
  · exact List.append_left_lt rest

/-- What a calendar date is known to satisfy. -/
structure Date.Valid (date : Date) : Prop where
  year : 1 ≤ date.year ∧ date.year ≤ 9999
  month : 1 ≤ date.month ∧ date.month ≤ 12
  day : 1 ≤ date.day ∧ date.day ≤ 31

theorem civilFromDays_valid {days : Int} (start : -719162 ≤ days) (stop : days ≤ 2932896) :
    (civilFromDays days).Valid := by
  obtain ⟨year, day, eq, -, from0, within, -⟩ := civilFromDays_spec days
  obtain ⟨month1, month12, day1, day31⟩ := fromMarch_fields year from0 within
  rw [← eq] at month1 month12 day1 day31
  refine ⟨⟨?_, ?_⟩, ⟨month1, month12⟩, ⟨day1, day31⟩⟩
  · rcases start.lt_or_eq with later | rfl
    · have first : (civilFromDays (-719162)).year = 1 := by decide
      have before := civilFromDays_before later
      unfold Date.Before at before
      omega
    · decide
  · rcases stop.lt_or_eq with earlier | rfl
    · have last : (civilFromDays 2932896).year = 9999 := by decide
      have before := civilFromDays_before earlier
      unfold Date.Before at before
      omega
    · decide

theorem dateText_lt {a b : Date} (valid : a.Valid) (valid' : b.Valid) (before : a.Before b) :
    dateText a < dateText b := by
  obtain ⟨⟨y1, y9999⟩, ⟨m1, m12⟩, ⟨d1, d31⟩⟩ := valid
  obtain ⟨⟨y1', y9999'⟩, ⟨m1', m12'⟩, ⟨d1', d31'⟩⟩ := valid'
  apply field_lt (by omega) (by omega) (by omega) (by omega) (by omega)
  rcases before with first | ⟨same, rest⟩
  · exact .inl first
  refine .inr ⟨same, List.cons_lt_cons_iff.mpr (.inr ⟨rfl, ?_⟩)⟩
  apply field_lt (by omega) (by omega) (by omega) (by omega) (by omega)
  rcases rest with first | ⟨same, last⟩
  · exact .inl first
  refine .inr ⟨same, List.cons_lt_cons_iff.mpr (.inr ⟨rfl, ?_⟩)⟩
  exact field_lt (by omega) (by omega) (by omega) (by omega) (by omega) (.inl last)

theorem length_dateText {date : Date} (valid : date.Valid) : (dateText date).length = 11 := by
  obtain ⟨⟨y1, y9999⟩, ⟨m1, m12⟩, ⟨d1, d31⟩⟩ := valid
  simp only [dateText, List.length_append, List.length_cons, List.length_nil]
  rw [length_padded (by omega) (by omega), length_padded (by omega) (by omega),
    length_padded (by omega) (by omega)]

theorem length_timeText {ofDay : Int} (stop : ofDay < 86400) : (timeText ofDay).length = 8 := by
  simp only [timeText, List.length_append, List.length_cons]
  rw [length_padded (by omega) (by omega), length_padded (by omega) (by omega),
    length_padded (by omega) (by omega)]

theorem timeText_lt {m n : Int} (start : 0 ≤ m) (less : m < n) (stop : n < 86400) :
    timeText m < timeText n := by
  apply field_lt (by omega) (by omega) (by omega) (by omega) (by omega)
  by_cases hour : m / 3600 < n / 3600
  · exact .inl hour
  refine .inr ⟨by omega, List.cons_lt_cons_iff.mpr (.inr ⟨rfl, ?_⟩)⟩
  apply field_lt (by omega) (by omega) (by omega) (by omega) (by omega)
  by_cases minute : m / 60 % 60 < n / 60 % 60
  · exact .inl minute
  refine .inr ⟨by omega, List.cons_lt_cons_iff.mpr (.inr ⟨rfl, ?_⟩)⟩
  exact padded_lt (by omega) (by omega) (by omega) (by omega)

theorem fractionText_lt {m n : Int} (start : 0 ≤ m) (less : m < n) (stop : n < 1000000) :
    fractionText m < fractionText n := by
  unfold fractionText
  rw [if_neg (show n ≠ 0 by omega)]
  by_cases whole : m = 0
  · subst whole
    -- '+' comes before '.'
    exact List.cons_lt_cons_iff.mpr (.inl (by decide))
  · rw [if_neg whole]
    refine List.cons_lt_cons_iff.mpr (.inr ⟨rfl, ?_⟩)
    exact field_lt (by omega) (by omega) (by omega) (by omega) (by omega) (.inl less)

theorem valid_of_representable {t : Int} (fits : Representable t) :
    (civilFromDays (t / microsecondsPerSecond / secondsPerDay)).Valid := by
  have start : (-62135596800000000 : Int) ≤ t := fits.1
  have stop : t ≤ (253402300799999999 : Int) := fits.2
  unfold microsecondsPerSecond secondsPerDay
  apply civilFromDays_valid <;> omega

theorem isoformat_lt {s t : Int} (fits : Representable s) (fits' : Representable t)
    (less : s < t) : isoformat s < isoformat t := by
  have valid := valid_of_representable fits
  have valid' := valid_of_representable fits'
  rw [String.lt_iff, isoformat_eq, isoformat_eq]
  clear fits fits'
  unfold microsecondsPerSecond secondsPerDay at *
  by_cases days : s / 1000000 / 86400 < t / 1000000 / 86400
  · apply append_lt (by rw [length_dateText valid, length_dateText valid'])
    exact dateText_lt valid valid' (civilFromDays_before days)
  have sameDay : s / 1000000 / 86400 = t / 1000000 / 86400 := by omega
  clear valid valid'
  rw [sameDay]
  apply List.append_left_lt
  by_cases seconds : s / 1000000 % 86400 < t / 1000000 % 86400
  · apply append_lt (by rw [length_timeText (by omega), length_timeText (by omega)])
    exact timeText_lt (by omega) seconds (by omega)
  have sameSecond : s / 1000000 % 86400 = t / 1000000 % 86400 := by omega
  rw [sameSecond]
  apply List.append_left_lt
  exact fractionText_lt (by omega) (by omega) (by omega)

/-- The order of the texts is the order of the instants. -/
theorem isoformat_lt_iff {s t : Int} (fits : Representable s) (fits' : Representable t) :
    isoformat s < isoformat t ↔ s < t := by
  constructor
  · intro less
    rw [String.lt_iff] at less
    rcases lt_trichotomy s t with first | rfl | last
    · exact first
    · exact absurd less (List.lt_irrefl _)
    · exact absurd less (List.lt_asymm (String.lt_iff.mp (isoformat_lt fits' fits last)))
  · exact isoformat_lt fits fits'

/-! Reading the texts back. -/

def daysFromCivil (date : Date) : Int :=
  let year := if date.month ≤ 2 then date.year - 1 else date.year
  let monthIndex := if date.month ≤ 2 then date.month + 9 else date.month - 3
  yearStart year + (153 * monthIndex + 2) / 5 + date.day - 1 - 719468

/-- The number in a field of a text. -/
def fieldAt (text : List Char) (start width : Nat) : Int :=
  Nat.ofDigitChars 10 ((text.drop start).take width) 0

def decodeIso (text : List Char) : Int :=
  let days := daysFromCivil ⟨fieldAt text 0 4, fieldAt text 5 2, fieldAt text 8 2⟩
  let ofDay := fieldAt text 11 2 * 3600 + fieldAt text 14 2 * 60 + fieldAt text 17 2
  let micro := if (text.drop 19).head? = some '.' then fieldAt text 20 6 else 0
  (days * secondsPerDay + ofDay) * microsecondsPerSecond + micro

/-- `datetime.fromisoformat` on the texts that `isoformat` writes in UTC. -/
def fromisoformat (text : String) : Option Time :=
  let t := decodeIso text.toList
  if isoformat t = text then some t else none

theorem fromMarch_early {year day : Int} (start : 0 ≤ day) (early : (5 * day + 2) / 153 < 10) :
    fromMarch year day = ⟨year, (5 * day + 2) / 153 + 3,
      day - (153 * ((5 * day + 2) / 153) + 2) / 5 + 1⟩ := by
  unfold fromMarch
  simp only [early, if_true, Date.mk.injEq, and_true]
  split <;> omega

theorem fromMarch_late {year day : Int} (within : day ≤ 365) (late : ¬ (5 * day + 2) / 153 < 10) :
    fromMarch year day = ⟨year + 1, (5 * day + 2) / 153 - 9,
      day - (153 * ((5 * day + 2) / 153) + 2) / 5 + 1⟩ := by
  unfold fromMarch
  simp only [late, if_false, Date.mk.injEq, and_true]
  split <;> omega

theorem daysFromCivil_civilFromDays (days : Int) : daysFromCivil (civilFromDays days) = days := by
  obtain ⟨year, day, eq, split, start, within, -⟩ := civilFromDays_spec days
  rw [eq]
  by_cases early : (5 * day + 2) / 153 < 10
  · rw [fromMarch_early start early]
    simp only [daysFromCivil]
    rw [if_neg (by omega), if_neg (by omega)]
    omega
  · rw [fromMarch_late within early]
    simp only [daysFromCivil]
    rw [if_pos (by omega), if_pos (by omega), add_sub_cancel_right]
    omega

theorem fieldAt_padded {width : Nat} {n : Int} (positive : 0 < width) (start : 0 ≤ n)
    (small : n < 10 ^ width) (rest : List Char) : fieldAt (padded width n ++ rest) 0 width = n := by
  unfold fieldAt
  rw [List.drop_zero, List.take_left' (length_padded positive small), value_padded]
  omega

theorem fieldAt_next {before : List Char} {k : Nat} (length : before.length = k) (c : Char)
    (rest : List Char) (start width : Nat) :
    fieldAt (before ++ c :: rest) (k + 1 + start) width = fieldAt rest start width := by
  unfold fieldAt
  rw [Nat.add_assoc, ← List.drop_drop, List.drop_left' length, Nat.add_comm, List.drop_succ_cons]

/-- The fields of the text of a date and a time of day. -/
theorem decodeIso_parts {date : Date} (valid : date.Valid) {ofDay micro : Int}
    (day0 : 0 ≤ ofDay) (day1 : ofDay < 86400) (micro0 : 0 ≤ micro) (micro1 : micro < 1000000) :
    decodeIso (dateText date ++ (timeText ofDay ++ fractionText micro)) =
      (daysFromCivil date * secondsPerDay + ofDay) * microsecondsPerSecond + micro := by
  have fraction : ((dateText date ++ (timeText ofDay ++ fractionText micro)).drop 19) =
      fractionText micro := by
    rw [show 19 = 11 + 8 from rfl, ← List.drop_drop, List.drop_left' (length_dateText valid),
      List.drop_left' (length_timeText day1)]
  obtain ⟨⟨y1, y9999⟩, ⟨m1, m12⟩, ⟨d1, d31⟩⟩ := valid
  have year : (padded 4 date.year).length = 4 := length_padded (by omega) (by omega)
  have month : (padded 2 date.month).length = 2 := length_padded (by omega) (by omega)
  have dayOfMonth : (padded 2 date.day).length = 2 := length_padded (by omega) (by omega)
  have hour : (padded 2 (ofDay / 3600)).length = 2 := length_padded (by omega) (by omega)
  have minute : (padded 2 (ofDay / 60 % 60)).length = 2 := length_padded (by omega) (by omega)
  have second : (padded 2 (ofDay % 60)).length = 2 := length_padded (by omega) (by omega)
  have afterSecond : ∀ rest start width, fieldAt (padded 2 (ofDay % 60) ++ rest) (2 + start) width =
      fieldAt rest start width := by
    intro rest start width
    unfold fieldAt
    rw [← List.drop_drop, List.drop_left' second]
  have micros : (if (fractionText micro).head? = some '.' then fieldAt (fractionText micro) 1 6
      else 0) = micro := by
    unfold fractionText
    by_cases whole : micro = 0
    · simp [whole]
    · rw [if_neg whole]
      simp only [List.cons_append, List.head?_cons, if_true]
      have past : ([] : List Char).length = 0 := rfl
      exact (fieldAt_next past '.' (padded 6 micro ++ "+00:00".toList) 0 6).trans
        (fieldAt_padded (by omega) (by omega) (by omega) _)
  simp only [decodeIso, fraction]
  simp only [dateText, timeText, List.append_assoc, List.cons_append, List.nil_append]
  have field0 : ∀ rest, fieldAt (padded 4 date.year ++ rest) 0 4 = date.year :=
    fieldAt_padded (by omega) (by omega) (by omega)
  have field2 : ∀ n : Int, 0 ≤ n → n < 100 → ∀ rest, fieldAt (padded 2 n ++ rest) 0 2 = n :=
    fun n from0 to99 => fieldAt_padded (by omega) from0 to99
  rw [field0, show 5 = 4 + 1 + 0 from rfl, show 8 = 4 + 1 + (2 + 1 + 0) from rfl,
    show 11 = 4 + 1 + (2 + 1 + (2 + 1 + 0)) from rfl,
    show 14 = 4 + 1 + (2 + 1 + (2 + 1 + (2 + 1 + 0))) from rfl,
    show 17 = 4 + 1 + (2 + 1 + (2 + 1 + (2 + 1 + (2 + 1 + 0)))) from rfl,
    show 20 = 4 + 1 + (2 + 1 + (2 + 1 + (2 + 1 + (2 + 1 + (2 + 1))))) from rfl]
  simp only [fieldAt_next year, fieldAt_next month, fieldAt_next dayOfMonth, fieldAt_next hour,
    fieldAt_next minute, afterSecond, micros]
  rw [field2 _ (by omega) (by omega), field2 _ (by omega) (by omega), field2 _ (by omega) (by omega),
    field2 _ (by omega) (by omega), field2 _ (by omega) (by omega)]
  have same : (⟨date.year, date.month, date.day⟩ : Date) = date := rfl
  rw [same]
  unfold secondsPerDay microsecondsPerSecond
  omega

theorem fromisoformat_isoformat {t : Int} (fits : Representable t) :
    fromisoformat (isoformat t) = some t := by
  have valid := valid_of_representable fits
  have decoded : decodeIso (isoformat t).toList = t := by
    rw [isoformat_eq]
    unfold microsecondsPerSecond secondsPerDay at *
    rw [decodeIso_parts valid (by omega) (by omega) (by omega) (by omega),
      daysFromCivil_civilFromDays]
    unfold microsecondsPerSecond secondsPerDay
    omega
  unfold fromisoformat
  rw [decoded, if_pos rfl]

end CivilTime
