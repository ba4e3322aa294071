import AeaiOs.Forecast
import AeaiOs.Lib.IsoText

/-!
The forecast beside the least-squares line over the calendar: both agree if no month is missing
between the observed ones.
-/
namespace Analytics
open PyText OrderedDict RiskScan HalfEven GroupSums CivilTime LeastSquares

/-! Labels are ordered as the months are. -/

theorem monthLabel_lt {a b : Int} (first : CalendarMonth a) (second : CalendarMonth b) (less : a < b) :
    monthLabel a < monthLabel b := by
  obtain ⟨lowA, highA⟩ := first
  obtain ⟨lowB, highB⟩ := second
  unfold monthLabel
  rw [String.lt_iff, String.toList_ofList, String.toList_ofList]
  rcases lt_or_eq_of_le (Int.ediv_le_ediv (by omega) less.le : a / 12 ≤ b / 12) with years | years
  · have digits : padded 4 (a / 12) < padded 4 (b / 12) :=
      padded_lt (by omega) (by omega) years (by omega)
    apply append_lt _ digits
    rw [length_padded (by omega) (by omega), length_padded (by omega) (by omega)]
  · rw [years]
    have months : padded 2 (a % 12 + 1) < padded 2 (b % 12 + 1) :=
      padded_lt (by omega) (by omega) (by omega) (by omega)
    apply List.append_left_lt
    rw [List.cons_lt_cons_iff]
    exact .inr ⟨rfl, months⟩

theorem monthLabel_ne (index : Int) : monthLabel index ≠ "" := by
  intro empty
  have none := congrArg String.toList empty
  unfold monthLabel at none
  rw [String.toList_ofList] at none
  simp at none

/-! Gaps between increasing months. -/

/-- Each month is followed by the next one. -/
def Consecutive (months : List Int) : Prop := months.IsChain fun month next => next = month + 1

/-- The distances of the months to the last one. -/
def distances (last : Int) (months : List Int) : Int := (months.map fun month => last - month).sum

theorem last_far {first last : Int} {months : List Int} (increasing : (first :: months).IsChain (· < ·))
    (ends : (first :: months).getLast? = some last) :
    months.length ≤ last - first ∧ (last - first = months.length ↔ Consecutive (first :: months)) := by
  induction months generalizing first with
  | nil =>
    simp at ends
    simp [Consecutive, ends]
  | cons second months ih =>
    rw [List.isChain_cons_cons] at increasing
    rw [List.getLast?_cons_cons] at ends
    obtain ⟨far, exact⟩ := ih increasing.2 ends
    unfold Consecutive at exact ⊢
    rw [List.isChain_cons_cons, List.length_cons]
    push_cast
    constructor
    · omega
    · constructor
      · intro near
        exact ⟨by omega, exact.mp (by omega)⟩
      · rintro ⟨next, rest⟩
        have := exact.mpr rest
        omega

def triangle (n : Nat) : Int := ((List.range n).map fun i : Nat => (i : Int)).sum

theorem distances_triangle {last : Int} {months : List Int} (increasing : months.IsChain (· < ·))
    (ends : months.getLast? = some last) :
    triangle months.length ≤ distances last months ∧
      (distances last months = triangle months.length ↔ Consecutive months) := by
  induction months with
  | nil => cases ends
  | cons first months ih =>
    obtain ⟨far, exact⟩ := last_far increasing ends
    cases months with
    | nil =>
      simp at ends
      simp [distances, triangle, Consecutive, ends]
    | cons second months =>
      have rest := increasing
      rw [List.isChain_cons_cons] at rest
      rw [List.getLast?_cons_cons] at ends
      obtain ⟨least, even⟩ := ih rest.2 ends
      have sum : distances last (first :: second :: months) =
          (last - first) + distances last (second :: months) := by
        simp [distances]
      have next : triangle (first :: second :: months).length =
          triangle (second :: months).length + (second :: months).length := by
        unfold triangle
        rw [List.length_cons, List.range_succ, List.map_append, List.sum_append]
        simp
      rw [sum, next, ← exact]
      constructor
      · omega
      · constructor
        · omega
        · intro same
          have whole := exact.mp same
          unfold Consecutive at whole even
          rw [List.isChain_cons_cons] at whole
          have := even.mpr whole.2
          omega

theorem consecutive_range {first : Int} {months : List Int} (whole : Consecutive (first :: months)) :
    first :: months = (List.range (months.length + 1)).map fun i : Nat => first + i := by
  induction months generalizing first with
  | nil => simp
  | cons second months ih =>
    unfold Consecutive at whole ih
    rw [List.isChain_cons_cons] at whole
    rw [List.length_cons, List.range_succ_eq_map, ih whole.2, whole.1]
    simp only [List.map_cons, List.map_map, Nat.cast_zero, add_zero, List.cons.injEq, true_and]
    apply List.map_congr_left
    intro i _
    simp only [Function.comp_apply, Nat.cast_succ]
    omega

/-! The points of the positions and the points of the calendar. -/

def calendarPoints (months : List Int) (values : List Rat) : List (Rat × Rat) :=
  (months.zip values).map fun entry => ((entry.1 : Rat), entry.2)

theorem indexed_fst (values : List Rat) :
    (indexed values).map Prod.fst = (List.range values.length).map fun i : Nat => (i : Rat) := by
  unfold indexed
  have positions : values.zipIdx.map Prod.snd = List.range values.length := by
    rw [List.zipIdx_map_snd, List.range_eq_range']
  rw [← positions, List.map_map, List.map_map]
  rfl

theorem indexed_snd (values : List Rat) : (indexed values).map Prod.snd = values := by
  unfold indexed
  rw [List.map_map]
  exact List.zipIdx_map_fst 0 values

section points
variable {months : List Int} {values : List Rat} (lengths : months.length = values.length)
include lengths

theorem calendarPoints_fst :
    (calendarPoints months values).map Prod.fst = months.map fun month : Int => (month : Rat) := by
  unfold calendarPoints
  rw [List.map_map]
  have front : (months.zip values).map Prod.fst = months := List.map_fst_zip lengths.le
  conv_rhs => rw [← front, List.map_map]
  rfl

theorem calendarPoints_snd : (calendarPoints months values).map Prod.snd = values := by
  unfold calendarPoints
  rw [List.map_map]
  have back : (months.zip values).map Prod.snd = values := List.map_snd_zip lengths.ge
  conv_rhs => rw [← back]
  rfl

theorem calendarPoints_length : (calendarPoints months values).length = values.length := by
  unfold calendarPoints
  rw [List.length_map, List.length_zip, lengths, Nat.min_self]

theorem calendarPoints_yMean : yMean (calendarPoints months values) = yMean (indexed values) := by
  unfold yMean
  rw [calendarPoints_snd lengths, indexed_snd]

end points

theorem indexed_length (values : List Rat) : (indexed values).length = values.length := by
  unfold indexed
  rw [List.length_map, List.length_zipIdx]

theorem sum_distances (last : Int) (months : List Int) :
    ((distances last months : Int) : Rat) =
      months.length * (last : Rat) - (months.map fun month : Int => (month : Rat)).sum := by
  unfold distances
  induction months with
  | nil => simp
  | cons month months ih =>
    simp only [List.map_cons, List.sum_cons, List.length_cons, Int.cast_add, Int.cast_sub,
      Nat.cast_add, Nat.cast_one, ih]
    ring

/-- How far the last point stands behind the mean. -/
theorem behind_mean {points : List (Rat × Rat)} {months : List Int} (last : Int)
    (axis : points.map Prod.fst = months.map fun month : Int => (month : Rat))
    (some : (months.length : Rat) ≠ 0) :
    months.length * ((last : Rat) - xMean points) = (distances last months : Int) := by
  have size : points.length = months.length := by
    have lengths := congrArg List.length axis
    simpa using lengths
  have sum := sum_fst (show (points.length : Rat) ≠ 0 by rwa [size])
  rw [axis, size] at sum
  rw [sum_distances, sum]
  ring

/-- Positions count in steps of one. -/
theorem consecutive_positions (n : Nat) :
    Consecutive ((List.range n).map fun i : Nat => (i : Int)) := by
  unfold Consecutive
  rw [List.isChain_map, List.isChain_range]
  intro i _
  simp

theorem increasing_positions (n : Nat) :
    ((List.range n).map fun i : Nat => (i : Int)).IsChain (· < ·) := by
  rw [List.isChain_map, List.isChain_range]
  intro i _
  simp

theorem distances_positions {n : Nat} (some : n ≠ 0) :
    distances ((n : Int) - 1) ((List.range n).map fun i : Nat => (i : Int)) = triangle n := by
  have ends : ((List.range n).map fun i : Nat => (i : Int)).getLast? = Option.some ((n : Int) - 1) := by
    obtain ⟨k, rfl⟩ := Nat.exists_eq_succ_of_ne_zero some
    simp [List.range_succ]
  have even := (distances_triangle (increasing_positions n) ends).2.mpr (consecutive_positions n)
  simpa using even

section lines
variable {months : List Int} {values : List Rat} (lengths : months.length = values.length)
  (several : 2 ≤ values.length)

include several in
theorem spread_indexed : spread (indexed values) ≠ 0 := by
  match values with
  | [] => simp at several
  | [v] => simp at several
  | v :: w :: rest =>
    have first : ((0 : Rat), v) ∈ indexed (v :: w :: rest) := by simp [indexed]
    have second : ((1 : Rat), w) ∈ indexed (v :: w :: rest) := by simp [indexed]
    exact (spread_pos first second (by simp)).ne'

include lengths several in
theorem spread_calendar (increasing : months.IsChain (· < ·)) :
    spread (calendarPoints months values) ≠ 0 := by
  match months, values with
  | _, [] => simp at several
  | _, [v] => simp at several
  | [], v :: w :: rest => simp at lengths
  | [m], v :: w :: rest => simp at lengths
  | m :: k :: months, v :: w :: rest =>
    have first : ((m : Rat), v) ∈ calendarPoints (m :: k :: months) (v :: w :: rest) := by
      simp [calendarPoints]
    have second : ((k : Rat), w) ∈ calendarPoints (m :: k :: months) (v :: w :: rest) := by
      simp [calendarPoints]
    have apart : (m : Rat) ≠ k := by
      rw [List.isChain_cons_cons] at increasing
      exact_mod_cast increasing.1.ne
    exact (spread_pos first second apart).ne'

include several in
/-- The line of the code is the fit of the positions. -/
theorem line_fit (offset : Nat) :
    slope values = (fit (indexed values)).slope ∧
      prediction values offset = (fit (indexed values)).at (values.length - 1 + offset) := by
  have slopes : slope values = (fit (indexed values)).slope := by
    unfold slope
    rw [if_neg (spread_indexed several)]
    rfl
  refine ⟨slopes, ?_⟩
  unfold prediction intercept
  rw [slopes, fit_at]
  ring

include lengths in
/-- Without gaps the calendar only shifts the positions. -/
theorem calendarPoints_shift (increasing : months.IsChain (· < ·)) {last : Int}
    (ends : months.getLast? = some last) (whole : Consecutive months) :
    calendarPoints months values =
      (indexed values).map fun p => (p.1 + ((last : Rat) - (values.length - 1)), p.2) := by
  obtain ⟨first, rest, rfl⟩ : ∃ first rest, months = first :: rest :=
    List.exists_cons_of_ne_nil (by rintro rfl; cases ends)
  have range := consecutive_range whole
  have near := (last_far increasing ends).2.mpr whole
  rw [List.length_cons] at lengths
  apply List.ext_getElem
  · rw [calendarPoints_length (by simpa using lengths), List.length_map, indexed_length]
  intro i small small'
  have inside : i < rest.length + 1 := by
    rw [List.length_map, indexed_length] at small'
    omega
  have month : (first :: rest)[i] = first + i := by
    have same := congrArg (fun months : List Int => months[i]?) range
    simpa [inside] using same
  have size : (values.length : Rat) = (rest.length : Rat) + 1 := by exact_mod_cast lengths.symm
  have lastRat : (last : Rat) - first = rest.length := by exact_mod_cast near
  simp only [calendarPoints, indexed, List.getElem_map, List.getElem_zip, List.getElem_zipIdx,
    Nat.zero_add, month, Int.cast_add, Int.cast_natCast, Prod.mk.injEq, and_true]
  rw [size]
  linear_combination -lastRat

include lengths several in
/-- The line over the positions is the line over the calendar exactly if the months are
    consecutive or neither line has a slope. -/
theorem lines_agree_iff (increasing : months.IsChain (· < ·)) {last : Int}
    (ends : months.getLast? = some last) {periods : Nat} (some : 0 < periods) :
    (slope values = (fit (calendarPoints months values)).slope ∧
        ∀ offset, 1 ≤ offset → offset ≤ periods →
          prediction values offset = (fit (calendarPoints months values)).at (last + offset)) ↔
      Consecutive months ∨
        covariance (indexed values) = 0 ∧ covariance (calendarPoints months values) = 0 := by
  have size : (values.length : Rat) ≠ 0 := by
    have positive : values.length ≠ 0 := by omega
    exact_mod_cast positive
  have indexedSpread := spread_indexed several
  have calendarSpread := spread_calendar lengths several increasing
  have slopes := (line_fit several 0).1
  have means := calendarPoints_yMean lengths
  constructor
  · rintro ⟨sameSlope, samePoints⟩
    rw [slopes] at sameSlope
    have first := samePoints 1 le_rfl some
    rw [(line_fit several 1).2, fit_at, fit_at, means, sameSlope] at first
    by_cases flat : (fit (calendarPoints months values)).slope = 0
    · right
      rw [flat] at sameSlope
      unfold fit at flat sameSlope
      exact ⟨(div_eq_zero_iff.mp sameSlope).resolve_right indexedSpread,
        (div_eq_zero_iff.mp flat).resolve_right calendarSpread⟩
    · left
      have together : (values.length : Rat) - 1 + (1 : Nat) - xMean (indexed values) =
          last + (1 : Nat) - xMean (calendarPoints months values) :=
        mul_left_cancel₀ flat (add_left_cancel first)
      have calendar := behind_mean last (calendarPoints_fst lengths) (by rwa [lengths])
      have axis : (indexed values).map Prod.fst =
          ((List.range values.length).map fun i : Nat => (i : Int)).map fun i : Int => (i : Rat) := by
        rw [indexed_fst, List.map_map]
        rfl
      have positions := behind_mean ((values.length : Int) - 1) axis (by simpa using size)
      rw [distances_positions (by omega)] at positions
      rw [lengths] at calendar
      rw [List.length_map, List.length_range] at positions
      push_cast at positions together
      have equal : ((distances last months : Int) : Rat) = (triangle values.length : Int) := by
        rw [← calendar, ← positions]
        have behind : (last : Rat) - xMean (calendarPoints months values) =
            values.length - 1 - xMean (indexed values) := by linear_combination -together
        rw [behind]
      have exact := (distances_triangle increasing ends).2
      rw [lengths] at exact
      exact exact.mp (by exact_mod_cast equal)
  · rintro (whole | ⟨flatPositions, flatMonths⟩)
    · have shift := calendarPoints_shift lengths increasing ends whole
      have nonempty : ((indexed values).length : Rat) ≠ 0 := by rwa [indexed_length]
      have sameFit (x : Rat) := fit_shift nonempty ((last : Rat) - (values.length - 1)) x
      rw [← shift] at sameFit
      refine ⟨slopes.trans (sameFit 0).1.symm, ?_⟩
      intro offset _ _
      rw [(line_fit several offset).2, ← (sameFit _).2]
      congr 1
      ring
    · have noSlope : (fit (indexed values)).slope = 0 := by
        unfold fit
        rw [flatPositions, zero_div]
      have noTrend : (fit (calendarPoints months values)).slope = 0 := by
        unfold fit
        rw [flatMonths, zero_div]
      refine ⟨by rw [slopes, noSlope, noTrend], ?_⟩
      intro offset _ _
      rw [(line_fit several offset).2, fit_at, fit_at, noSlope, noTrend, means]
      ring

end lines

/-! The months of an analysis. -/

section calendar
variable [CalendarReader]

/-- A text that `strftime("%Y-%m")` writes. -/
def IsMonth (label : String) : Prop := ∃ index, CalendarMonth index ∧ label = monthLabel index

def monthsOf (trend : List (String × Rat)) : List Int :=
  trend.filterMap fun item => CalendarReader.monthIndex item.1

theorem parseMonth_isMonth {text : Option String} {label : String}
    (read : parseMonth text = some label) : IsMonth label := by
  unfold parseMonth at read
  obtain ⟨cell, rfl, found⟩ := Option.bind_eq_some_iff.mp read
  clear read
  split at found
  · cases found
  · rcases Option.or_eq_some_iff.mp found with iso | ⟨_, formatted⟩
    · exact CalendarReader.isoMonth_label cell label iso
    · obtain ⟨format, _, made⟩ := List.exists_of_findSome?_eq_some formatted
      exact CalendarReader.formattedMonth_label format cell label made

def MonthsWritten (aggregates : Aggregates) : Prop :=
  Dict.All (fun label _ => IsMonth label) aggregates.monthlyTotals

theorem analyzeRow_months {resolved : Role → Option String} {aggregates next : Aggregates}
    {rowNumber : Nat} {row : AdapterRow} (written : MonthsWritten aggregates)
    (made : analyzeRow resolved aggregates rowNumber row = .ok next) : MonthsWritten next := by
  unfold analyzeRow at made
  split at made
  · cases made
    exact written
  · rename_i amount _
    cases made
    unfold MonthsWritten Aggregates.addRow at *
    dsimp only
    cases month : (parsedRow resolved rowNumber row amount).month with
    | none => exact written
    | some label =>
      dsimp only
      split
      · exact written
      · exact Dict.all_set written (parseMonth_isMonth month)
  · cases made

theorem analyzeRows_months {resolved : Role → Option String} {rows : List AdapterRow}
    {aggregates last : Aggregates} {rowNumber : Nat} (written : MonthsWritten aggregates)
    (made : analyzeRows resolved aggregates rowNumber rows = .ok last) : MonthsWritten last := by
  induction rows generalizing aggregates rowNumber with
  | nil =>
    cases made
    exact written
  | cons row rows ih =>
    rw [analyzeRows] at made
    cases first : analyzeRow resolved aggregates rowNumber row with
    | error e =>
      rw [first] at made
      cases made
    | ok next =>
      rw [first] at made
      exact ih (analyzeRow_months written first) made

/-- A trend lists months of the calendar, each later one behind the earlier ones. -/
structure Chronological (trend : List (String × Rat)) : Prop where
  written : ∀ item ∈ trend, IsMonth item.1
  increasing : trend.IsChain fun item next => item.1 < next.1

theorem spendTrend_chronological {adapter : CsvDatasetAdapter} {analysis : ProcurementAnalysis}
    (analysed : analyzeProcurementDataset adapter = .ok analysis) :
    Chronological analysis.spendTrend := by
  unfold analyzeProcurementDataset at analysed
  dsimp only at analysed
  split at analysed
  · cases analysed
  · cases run : analyzeRows (resolveColumn adapter.fieldnames) {} 2 adapter.rows with
    | error e =>
      rw [run] at analysed
      cases analysed
    | ok aggregates =>
      rw [run] at analysed
      cases analysed
      have none : MonthsWritten {} := Dict.all_empty _
      have written := analyzeRows_months none run
      have sorted : (aggregates.monthlyTotals.entries.mergeSort fun a b => decide (a.1 ≤ b.1)).Pairwise
          fun a b => a.1 ≤ b.1 := by
        have pairwise := @List.pairwise_mergeSort _ (fun a b : String × Rat => decide (a.1 ≤ b.1))
          (fun a b c first second => by
            simp only [decide_eq_true_eq] at *
            exact le_trans first second)
          (fun a b => by simpa using le_total a.1 b.1) aggregates.monthlyTotals.entries
        exact pairwise.imp fun smaller => by simpa using smaller
      have distinct : (aggregates.monthlyTotals.entries.mergeSort
          fun a b => decide (a.1 ≤ b.1)).Pairwise fun a b => a.1 ≠ b.1 := by
        have keys := aggregates.monthlyTotals.keys_nodup
        rw [← ((List.mergeSort_perm _ _).map Prod.fst).nodup_iff, List.Nodup,
          List.pairwise_map] at keys
        exact keys
      constructor
      · intro item member
        obtain ⟨entry, inside, rfl⟩ := List.mem_map.mp member
        have stored := (List.mergeSort_perm _ _).mem_iff.mp inside
        exact written _ _ (Dict.get?_of_mem_entries stored)
      · apply List.Pairwise.isChain
        rw [figures, List.pairwise_map]
        exact (sorted.and distinct).imp fun both => lt_of_le_of_ne both.1 both.2

theorem monthsOf_cons {item : String × Rat} {index : Int} (isMonth : CalendarMonth index)
    (label : item.1 = monthLabel index) :
    CalendarReader.monthIndex item.1 = some index ∧
      ∀ trend, monthsOf (item :: trend) = index :: monthsOf trend := by
  have read : CalendarReader.monthIndex item.1 = some index := by
    rw [label, CalendarReader.monthIndex_label index isMonth]
  refine ⟨read, ?_⟩
  intro trend
  simp [monthsOf, read]

theorem months_of_chronological {trend : List (String × Rat)} (chronological : Chronological trend) :
    (monthsOf trend).length = trend.length ∧ (monthsOf trend).IsChain (· < ·) ∧
      (monthsOf trend).getLast? =
        trend.getLast?.bind fun item => CalendarReader.monthIndex item.1 := by
  obtain ⟨written, increasing⟩ := chronological
  induction trend with
  | nil => simp [monthsOf]
  | cons item trend ih =>
    obtain ⟨index, isMonth, label⟩ := written item List.mem_cons_self
    obtain ⟨read, months⟩ := monthsOf_cons isMonth label
    have tailWritten : ∀ next ∈ trend, IsMonth next.1 :=
      fun next member => written next (List.mem_cons_of_mem _ member)
    rw [months]
    cases trend with
    | nil => simp [monthsOf, read]
    | cons second trend =>
      rw [List.isChain_cons_cons] at increasing
      obtain ⟨size, chain, ends⟩ := ih tailWritten increasing.2
      obtain ⟨next, isNext, nextLabel⟩ := written second (by simp)
      obtain ⟨_, nextMonths⟩ := monthsOf_cons isNext nextLabel
      have later : index < next := by
        have labels := increasing.1
        rw [label, nextLabel] at labels
        by_contra early
        rcases lt_or_eq_of_le (not_lt.mp early) with before | same
        · exact absurd (monthLabel_lt isNext isMonth before) (lt_asymm labels)
        · rw [same] at labels
          exact lt_irrefl _ labels
      refine ⟨by rw [List.length_cons, size]; rfl, ?_, ?_⟩
      · rw [nextMonths] at chain ⊢
        rw [List.isChain_cons_cons]
        exact ⟨later, chain⟩
      · rw [List.getLast?_cons_cons, ← ends, nextMonths, List.getLast?_cons_cons]

/-- The slope and the predictions are those of the least-squares line of the spend over the
    calendar, at the months that the predictions are labelled by. -/
def FitsCalendar (trend : List (String × Rat)) (periods : Nat) : Prop :=
  ∀ line, IsFit (calendarPoints (monthsOf trend) (trend.map Prod.snd)) line →
    slope (trend.map Prod.snd) = line.slope ∧
      ∀ last, (monthsOf trend).getLast? = some last → ∀ offset, 1 ≤ offset → offset ≤ periods →
        prediction (trend.map Prod.snd) offset = line.at (last + offset)

/-- The spend has no slope, over the positions nor over the calendar. -/
def Trendless (trend : List (String × Rat)) : Prop :=
  covariance (indexed (trend.map Prod.snd)) = 0 ∧
    covariance (calendarPoints (monthsOf trend) (trend.map Prod.snd)) = 0

theorem fits_iff {trend : List (String × Rat)} (chronological : Chronological trend)
    (several : 3 ≤ trend.length) {periods : Nat} (some : 0 < periods) :
    FitsCalendar trend periods ↔ Consecutive (monthsOf trend) ∨ Trendless trend := by
  obtain ⟨size, increasing, _⟩ := months_of_chronological chronological
  have lengths : (monthsOf trend).length = (trend.map Prod.snd).length := by
    rw [size, List.length_map]
  have enough : 2 ≤ (trend.map Prod.snd).length := by
    rw [List.length_map]
    omega
  have nonempty : monthsOf trend ≠ [] := by
    apply List.ne_nil_of_length_pos
    omega
  have ends := List.getLast?_eq_getLast_of_ne_nil nonempty
  unfold Trendless
  rw [← lines_agree_iff lengths enough increasing ends some]
  unfold FitsCalendar
  constructor
  · intro fits
    obtain ⟨slopes, points⟩ := fits _ ((isFit_iff (spread_calendar lengths enough increasing) _).mpr rfl)
    exact ⟨slopes, points _ ends⟩
  · rintro ⟨slopes, points⟩ line best
    rw [(isFit_iff (spread_calendar lengths enough increasing) line).mp best]
    refine ⟨slopes, ?_⟩
    intro last is
    rw [ends] at is
    cases is
    exact points

end calendar

/-! Three months with and without a gap. -/

def indexOfLabel (text : String) : Option Int :=
  let index := 12 * (Nat.ofDigitChars 10 (text.toList.take 4) 0 : Int) +
    Nat.ofDigitChars 10 (text.toList.drop 5) 0 - 1
  if CalendarMonth index ∧ monthLabel index = text then some index else none

theorem indexOfLabel_label {index : Int} (isMonth : CalendarMonth index) :
    indexOfLabel (monthLabel index) = some index := by
  obtain ⟨low, high⟩ := isMonth
  have year : (padded 4 (index / 12)).length = 4 := length_padded (by omega) (by omega)
  have front : (monthLabel index).toList.take 4 = padded 4 (index / 12) := by
    rw [monthLabel, String.toList_ofList, List.take_left' year]
  have back : (monthLabel index).toList.drop 5 = padded 2 (index % 12 + 1) := by
    rw [monthLabel, String.toList_ofList, List.drop_append, year]
    rw [List.drop_of_length_le (by omega)]
    rfl
  have whole : 12 * (Nat.ofDigitChars 10 ((monthLabel index).toList.take 4) 0 : Int) +
      Nat.ofDigitChars 10 ((monthLabel index).toList.drop 5) 0 - 1 = index := by
    rw [front, back, value_padded, value_padded]
    omega
  unfold indexOfLabel
  dsimp only
  rw [whole, if_pos ⟨⟨low, high⟩, rfl⟩]

/-- Dates in the ISO format. -/
abbrev isoCalendar : CalendarReader where
  toUnicodeDatabase := asciiDatabase
  isoMonth text := (indexOfLabel (String.ofList (text.toList.take 7))).map monthLabel
  formattedMonth _ _ := none
  monthIndex := indexOfLabel
  monthIndex_label _ isMonth := indexOfLabel_label isMonth
  isoMonth_label text label made := by
    obtain ⟨index, read, rfl⟩ := Option.map_eq_some_iff.mp made
    refine ⟨index, ?_, rfl⟩
    unfold indexOfLabel at read
    dsimp only at read
    split at read
    · rename_i valid
      cases read
      exact valid.1
    · cases read
  formattedMonth_label _ _ _ made := by cases made

def purchases (dates : List (String × String)) : CsvDatasetAdapter where
  fieldnames := ["supplier", "category", "amount", "date"]
  rows := dates.map fun purchase =>
    [("supplier", "Acme"), ("category", "IT"), ("amount", purchase.2), ("date", purchase.1)]

theorem purchases_trend {dates : List (String × String)} {totals : List (String × Rat)} :
    let _ := isoCalendar
    ((analyzeRows (resolveColumn ["supplier", "category", "amount", "date"]) {} 2
        (purchases dates).rows).toOption.map fun last => last.monthlyTotals.entries) =
      some totals → totals.Pairwise (fun a b => decide (a.1 ≤ b.1) = true) →
    ∃ analysis, analyzeProcurementDataset (purchases dates) = .ok analysis ∧
      analysis.spendTrend = totals.map fun entry => (entry.1, roundTo 4 entry.2) := by
  intro _ booked sorted
  have present : ([("amount", Role.amount), ("category", .category), ("supplier", .supplier)].filter
      fun role => (resolveColumn ["supplier", "category", "amount", "date"] role.2).isNone) = [] := by
    decide
  cases run : analyzeRows (resolveColumn ["supplier", "category", "amount", "date"]) {} 2
      (purchases dates).rows with
  | error e =>
    rw [run] at booked
    cases booked
  | ok last =>
    rw [run] at booked
    have entries : last.monthlyTotals.entries = totals := Option.some.inj booked
    refine ⟨figures (purchases dates)
      (resolveColumn ["supplier", "category", "amount", "date"]) last, ?_, ?_⟩
    · unfold analyzeProcurementDataset
      have fields : (purchases dates).fieldnames = ["supplier", "category", "amount", "date"] := rfl
      rw [fields]
      dsimp only
      rw [present, run]
      rfl
    · unfold figures
      dsimp only
      rw [entries, List.mergeSort_of_pairwise sorted]

end Analytics
