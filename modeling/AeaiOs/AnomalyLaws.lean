import AeaiOs.Anomalies

/-!
Laws of the anomalies: how their scores stand to their signals, that the gate takes them, and that
they do not depend on the order of the rows.
-/
namespace Anomalies
open PyText RunValues OrderedDict HalfEven Analytics OrderStatistics

/-! Scores. -/

/-- A signal as the gate wants it, with a weight in percent. -/
structure Explained (signal : Signal) : Prop where
  code : signal.code ≠ ""
  evidence : signal.evidence ≠ ""
  positive : 0 < signal.weight
  percent : signal.weight ≤ 100

theorem foldl_remaining (signals : List Signal) (start : Rat) :
    signals.foldl (fun rest signal => rest * (1 - (signal.weight : Rat) / 100)) start =
      start * remainingProbability signals := by
  unfold remainingProbability
  induction signals generalizing start with
  | nil => simp
  | cons signal signals ih =>
    simp only [List.foldl_cons, one_mul]
    rw [ih (start * _), ih (1 - _), mul_assoc]

theorem remainingProbability_cons (signal : Signal) (signals : List Signal) :
    remainingProbability (signal :: signals) =
      (1 - (signal.weight : Rat) / 100) * remainingProbability signals := by
  rw [← foldl_remaining, remainingProbability, List.foldl_cons, one_mul]

theorem remaining_factor {signal : Signal} (percent : signal.weight ≤ 100) :
    0 ≤ 1 - (signal.weight : Rat) / 100 ∧ 1 - (signal.weight : Rat) / 100 ≤ 1 := by
  have bound : (signal.weight : Rat) ≤ 100 := by exact_mod_cast percent
  have nonneg : (0 : Rat) ≤ signal.weight := Nat.cast_nonneg _
  constructor <;> linarith

theorem remainingProbability_bounds {signals : List Signal}
    (percent : ∀ signal ∈ signals, signal.weight ≤ 100) :
    0 ≤ remainingProbability signals ∧ remainingProbability signals ≤ 1 := by
  induction signals with
  | nil => simp [remainingProbability]
  | cons signal signals ih =>
    have factor := remaining_factor (percent signal List.mem_cons_self)
    have rest := ih fun other member => percent other (List.mem_cons_of_mem _ member)
    rw [remainingProbability_cons]
    constructor
    · exact mul_nonneg factor.1 rest.1
    · exact mul_le_one₀ factor.2 rest.1 rest.2

/-- What remains is at most what any one of the signals leaves. -/
theorem remainingProbability_le {signals : List Signal}
    (percent : ∀ signal ∈ signals, signal.weight ≤ 100) {signal : Signal}
    (member : signal ∈ signals) :
    remainingProbability signals ≤ 1 - (signal.weight : Rat) / 100 := by
  induction signals with
  | nil => simp at member
  | cons first signals ih =>
    have factor := remaining_factor (percent first List.mem_cons_self)
    have later := fun other member => percent other (List.mem_cons_of_mem first member)
    have rest := remainingProbability_bounds later
    rw [remainingProbability_cons]
    rcases List.mem_cons.mp member with same | behind
    · rw [same]
      exact mul_le_of_le_one_right factor.1 rest.2
    · exact (mul_le_of_le_one_left rest.1 factor.2).trans (ih later behind)

theorem combinedScore_le (signals : List Signal) : combinedScore signals ≤ 100 :=
  min_le_left _ _

theorem weight_le_combinedScore {signals : List Signal}
    (percent : ∀ signal ∈ signals, signal.weight ≤ 100) {signal : Signal}
    (member : signal ∈ signals) : (signal.weight : Int) ≤ combinedScore signals := by
  have remaining := remainingProbability_le percent member
  have reached : ((signal.weight : Int) : Rat) ≤ (1 - remainingProbability signals) * 100 := by
    push_cast
    linarith
  have rounded := nearestInteger_mono reached
  rw [nearestInteger_cast] at rounded
  have bound := percent signal member
  unfold combinedScore
  omega

theorem combinedScore_nil : combinedScore [] = 0 := by
  simp [combinedScore, remainingProbability, nearestInteger]

/-! Signals. -/

theorem signal_explained {fires : Bool} {code label evidence : String} {weight : Nat}
    (named : code ≠ "") (positive : 0 < weight) (percent : weight ≤ 100) (shown : evidence ≠ "") :
    ∀ found ∈ signal fires code label weight evidence, Explained found := by
  intro found member
  cases fires with
  | false => simp [signal] at member
  | true =>
    rw [signal, if_pos rfl, List.mem_singleton] at member
    subst found
    constructor <;> assumption

/-! The ranking. -/

theorem ranksBefore_iff (a b : Anomaly) : ranksBefore a b = true ↔
    b.riskScore < a.riskScore ∨ a.riskScore = b.riskScore ∧
      (b.row.amount < a.row.amount ∨ a.row.amount = b.row.amount ∧
        a.row.rowNumber ≤ b.row.rowNumber) := by
  simp [ranksBefore]

theorem ranksBefore_trans (a b c : Anomaly) (first : ranksBefore a b = true)
    (second : ranksBefore b c = true) : ranksBefore a c = true := by
  rw [ranksBefore_iff] at first second ⊢
  rcases first with score | ⟨score, amount | ⟨amount, number⟩⟩ <;>
    rcases second with score' | ⟨score', amount' | ⟨amount', number'⟩⟩ <;>
    first
    | exact .inl (by omega)
    | exact .inr ⟨by omega, .inl (by linarith)⟩
    | exact .inr ⟨by omega, .inr ⟨by linarith, by omega⟩⟩

theorem ranksBefore_total (a b : Anomaly) : (ranksBefore a b || ranksBefore b a) = true := by
  rw [Bool.or_eq_true, ranksBefore_iff, ranksBefore_iff]
  rcases lt_trichotomy a.riskScore b.riskScore with less | same | more
  · exact .inr (.inl less)
  · rcases lt_trichotomy a.row.amount b.row.amount with less | level | more
    · exact .inr (.inr ⟨same.symm, .inl less⟩)
    · rcases Nat.le_total a.row.rowNumber b.row.rowNumber with before | after
      · exact .inl (.inr ⟨same, .inr ⟨level, before⟩⟩)
      · exact .inr (.inr ⟨same.symm, .inr ⟨level.symm, after⟩⟩)
    · exact .inl (.inr ⟨same, .inl more⟩)
  · exact .inl (.inl more)

/-- Two anomalies that stand level are of rows with one number. -/
theorem ranksBefore_antisymm {a b : Anomaly} (first : ranksBefore a b = true)
    (second : ranksBefore b a = true) : a.row.rowNumber = b.row.rowNumber := by
  rw [ranksBefore_iff] at first second
  rcases first with score | ⟨score, amount | ⟨amount, number⟩⟩ <;>
    rcases second with score' | ⟨score', amount' | ⟨amount', number'⟩⟩ <;>
    first | omega | (exfalso; linarith)

section detection
variable [DateReader]

theorem signalsOf_explained (rows : List ParsedRow) (row : ParsedRow) :
    ∀ found ∈ signalsOf rows row, Explained found := by
  intro found member
  unfold signalsOf at member
  simp only [List.mem_append] at member
  rcases member with (((((outlier | invoice) | copy) | spike) | split) | weekend) | single
  · exact signal_explained (by simp) (by simp) (by simp) (by simp) found outlier
  · exact signal_explained (by simp) (by simp) (by simp) (by simp) found invoice
  · exact signal_explained (by simp) (by simp) (by simp) (by simp) found copy
  · exact signal_explained (by simp) (by simp) (by simp) (by simp) found spike
  · exact signal_explained (by simp) (by simp) (by simp) (by simp) found split
  · exact signal_explained (by simp) (by simp) (by simp) (by simp) found weekend
  · exact signal_explained (by simp) (by simp) (by simp) (by simp) found single

/-! The anomalies that are found. -/

/-- The anomalies of the rows, before they are ranked. -/
def unranked (rows : List ParsedRow) : List Anomaly :=
  (rows.map (anomalyOf rows)).filter fun anomaly => decide (minAnomalyScore ≤ anomaly.riskScore)

theorem detected_eq (rows : List ParsedRow) :
    (detectProcurementAnomalies rows).anomalies = (unranked rows).mergeSort ranksBefore := by
  cases rows with
  | nil => simp [detectProcurementAnomalies, resultOf, unranked]
  | cons row rows => rfl

theorem detected_ranked (rows : List ParsedRow) :
    (detectProcurementAnomalies rows).anomalies.Pairwise fun a b => b.riskScore ≤ a.riskScore := by
  rw [detected_eq]
  apply (List.pairwise_mergeSort ranksBefore_trans ranksBefore_total _).imp
  intro a b before
  rw [ranksBefore_iff] at before
  omega

theorem mem_detected {rows : List ParsedRow} {anomaly : Anomaly}
    (member : anomaly ∈ (detectProcurementAnomalies rows).anomalies) :
    ∃ row ∈ rows, anomaly = anomalyOf rows row ∧ 20 ≤ anomaly.riskScore := by
  rw [detected_eq, (List.mergeSort_perm _ _).mem_iff] at member
  obtain ⟨found, score⟩ := List.mem_filter.mp member
  obtain ⟨row, inside, rfl⟩ := List.mem_map.mp found
  exact ⟨row, inside, rfl, of_decide_eq_true score⟩

/-- What the detection promises of every anomaly. -/
structure Sound (anomaly : Anomaly) : Prop where
  least : 20 ≤ anomaly.riskScore
  greatest : anomaly.riskScore ≤ 100
  weights : ∀ signal ∈ anomaly.signals, (signal.weight : Int) ≤ anomaly.riskScore
  signals : anomaly.signals ≠ []
  explained : ∀ signal ∈ anomaly.signals, Explained signal

theorem detected_sound {rows : List ParsedRow} {anomaly : Anomaly}
    (member : anomaly ∈ (detectProcurementAnomalies rows).anomalies) : Sound anomaly := by
  obtain ⟨row, _, rfl, least⟩ := mem_detected member
  have explained := signalsOf_explained rows row
  constructor
  · exact least
  · exact combinedScore_le _
  · intro signal inside
    exact weight_le_combinedScore (fun other found => (explained other found).percent) inside
  · intro none
    have score : (anomalyOf rows row).riskScore = combinedScore (anomalyOf rows row).signals := rfl
    rw [score, none, combinedScore_nil] at least
    omega
  · exact explained

end detection

/-! The gate. -/

theorem validSignal_entries {signal : Signal} (explained : Explained signal) :
    validSignal (.dict signal.entries) = .ok true := by
  have weight : signal.weight ≠ 0 := by
    have positive := explained.positive
    omega
  simp [validSignal, entry, Signal.entries, lookupEntries, PyValue.truthy, explained.code,
    explained.evidence, weight]

theorem allValid_entries {signals : List Signal}
    (explained : ∀ signal ∈ signals, Explained signal) :
    allValid (signals.map fun signal => .dict signal.entries) = .ok true := by
  induction signals with
  | nil => rfl
  | cons signal signals ih =>
    have first := validSignal_entries (explained signal List.mem_cons_self)
    have rest := ih fun other member => explained other (List.mem_cons_of_mem _ member)
    rw [List.map_cons, allValid, first]
    exact rest

theorem validSignals_entries {anomaly : Anomaly} (sound : Sound anomaly) :
    validSignals (entry anomaly.entries "signals") = .ok true := by
  have read : entry anomaly.entries "signals" =
      .list (anomaly.signals.map fun signal => .dict signal.entries) := rfl
  have some : (PyValue.list (anomaly.signals.map fun signal => .dict signal.entries)).truthy := by
    simp [PyValue.truthy, sound.signals]
  rw [read, validSignals, if_pos some]
  exact allValid_entries sound.explained

section gate
variable [GateRuntime]

theorem malformed_detected (index : Nat) {previous : Rat} {anomalies : List Anomaly}
    (sound : ∀ anomaly ∈ anomalies, Sound anomaly)
    (below : ∀ anomaly ∈ anomalies, (anomaly.riskScore : Rat) ≤ previous)
    (ranked : anomalies.Pairwise fun a b => b.riskScore ≤ a.riskScore) :
    malformed index previous (anomalies.map fun anomaly => .dict anomaly.entries) = .ok [] := by
  induction anomalies generalizing index previous with
  | nil => rfl
  | cons anomaly anomalies ih =>
    obtain ⟨first, others⟩ := List.pairwise_cons.mp ranked
    have rest : malformed (index + 1) anomaly.riskScore
        (anomalies.map fun anomaly => .dict anomaly.entries) = .ok [] := by
      apply ih
      · exact fun other member => sound other (List.mem_cons_of_mem _ member)
      · intro other member
        exact_mod_cast first other member
      · exact others
    have score : number (entry anomaly.entries "risk_score") = anomaly.riskScore := rfl
    have valid := validSignals_entries (sound anomaly List.mem_cons_self)
    have fields : (requiredFields.any fun field =>
        (lookupEntries anomaly.entries field).isNone) = false := rfl
    have least : (0 : Rat) ≤ anomaly.riskScore := by
      have bound := (sound anomaly List.mem_cons_self).least
      exact_mod_cast (by omega : 0 ≤ anomaly.riskScore)
    have greatest : (anomaly.riskScore : Rat) ≤ 100 := by
      exact_mod_cast (sound anomaly List.mem_cons_self).greatest
    have ordered : ¬ previous < anomaly.riskScore :=
      not_lt.mpr (below anomaly List.mem_cons_self)
    simp only [List.map_cons, malformed, fields, valid, score, rest, least, greatest, ordered]
    rfl

/-- The gate takes every result, whose scores reach the weights of their signals. -/
theorem detection_passes_gate (rows : List ParsedRow) :
    let anomalies := (detectProcurementAnomalies rows).anomalies
    (∃ check, anomalyExplainabilityCheck (anomalies.map fun anomaly => .dict anomaly.entries) =
      .ok check ∧ check.passed = true) ∧
    (anomalies.Pairwise fun a b => b.riskScore ≤ a.riskScore) ∧
    ∀ anomaly ∈ anomalies, Sound anomaly := by
  intro anomalies
  have sound : ∀ anomaly ∈ anomalies, Sound anomaly := fun anomaly => detected_sound
  have ranked := detected_ranked rows
  have below : ∀ anomaly ∈ anomalies, (anomaly.riskScore : Rat) ≤ 101 := by
    intro anomaly member
    have bound := (sound anomaly member).greatest
    exact_mod_cast (by omega : anomaly.riskScore ≤ 101)
  have clean := malformed_detected 0 sound below ranked
  refine ⟨?_, ranked, sound⟩
  unfold anomalyExplainabilityCheck
  rw [clean]
  exact ⟨_, rfl, rfl⟩

end gate

/-! The order of the rows. -/

theorem percentile_eq_of_perm {values others : List Rat} (perm : values.Perm others)
    (quarters : Nat) :
    percentile (ascending values) quarters = percentile (ascending others) quarters := by
  unfold ascending
  rw [ascending_eq_of_perm perm]

theorem median_eq_of_perm {values others : List Rat} (perm : values.Perm others) :
    median values = median others := by
  unfold median ascending
  rw [ascending_eq_of_perm perm]

theorem looksLikeSplitPurchase_eq_of_perm {rows others : List ParsedRow} (perm : rows.Perm others)
    (upperQuartile : Rat) :
    looksLikeSplitPurchase rows upperQuartile = looksLikeSplitPurchase others upperQuartile := by
  have positive : ((rows.map ParsedRow.amount).filter fun amount => decide (0 < amount)).Perm
      ((others.map ParsedRow.amount).filter fun amount => decide (0 < amount)) :=
    (perm.map _).filter _
  unfold looksLikeSplitPurchase
  rw [perm.length_eq]
  simp only [min?_eq_of_perm positive, max?_eq_of_perm positive, positive.length_eq,
    median_eq_of_perm positive, positive.sum_eq]

section order
variable [DateReader] {rows others : List ParsedRow}

omit [DateReader] in
theorem quartiles_eq_of_perm (perm : rows.Perm others) :
    lowerQuartile rows = lowerQuartile others ∧ upperQuartile rows = upperQuartile others := by
  constructor
  · exact percentile_eq_of_perm (perm.map _) 1
  · exact percentile_eq_of_perm (perm.map _) 3

omit [DateReader] in
theorem amountThreshold_eq_of_perm (perm : rows.Perm others) :
    amountThreshold rows = amountThreshold others := by
  obtain ⟨lower, upper⟩ := quartiles_eq_of_perm perm
  unfold amountThreshold
  rw [perm.length_eq, lower, upper]

theorem splitGroup_perm (perm : rows.Perm others) (key : String × String × String) :
    (splitGroup rows key).Perm (splitGroup others key) :=
  (perm.filter _).filter _

theorem mem_splitRows (rows : List ParsedRow) (rowNumber : Nat) :
    rowNumber ∈ splitRows rows ↔ ∃ key,
      looksLikeSplitPurchase (splitGroup rows key) (upperQuartile rows) = true ∧
      rowNumber ∈ (splitGroup rows key).map ParsedRow.rowNumber := by
  unfold splitRows
  simp only [List.mem_flatMap, List.mem_dedup]
  apply exists_congr
  intro key
  constructor
  · intro ⟨_, member⟩
    split at member
    · next split => exact ⟨split, member⟩
    · simp at member
  · intro ⟨split, member⟩
    rw [if_pos split]
    refine ⟨?_, member⟩
    obtain ⟨row, inside, _⟩ := List.mem_map.mp member
    obtain ⟨dated, same⟩ := List.mem_filter.mp inside
    exact List.mem_map.mpr ⟨row, dated, of_decide_eq_true same⟩

theorem splitRows_eq_of_perm (perm : rows.Perm others) (rowNumber : Nat) :
    (splitRows rows).contains rowNumber = (splitRows others).contains rowNumber := by
  rw [Bool.eq_iff_iff, List.contains_iff_mem, List.contains_iff_mem, mem_splitRows, mem_splitRows]
  apply exists_congr
  intro key
  have group := splitGroup_perm perm key
  rw [looksLikeSplitPurchase_eq_of_perm group, (quartiles_eq_of_perm perm).2,
    (group.map ParsedRow.rowNumber).mem_iff]

theorem signalsOf_eq_of_perm (perm : rows.Perm others) (row : ParsedRow) :
    signalsOf rows row = signalsOf others row := by
  have supplier : ∀ supplier,
      (supplierAmounts rows supplier).Perm (supplierAmounts others supplier) :=
    fun supplier => (perm.filter _).map _
  have invoices : invoiceCount rows = invoiceCount others := by
    funext invoiceId
    exact perm.countP_eq _
  have copies : fingerprintCount rows row = fingerprintCount others row := perm.countP_eq _
  unfold signalsOf
  simp only [amountThreshold_eq_of_perm perm, invoices, copies, (quartiles_eq_of_perm perm).2,
    (supplier _).length_eq, median_eq_of_perm (supplier _), splitRows_eq_of_perm perm,
    perm.length_eq]

theorem anomalyOf_eq_of_perm (perm : rows.Perm others) : anomalyOf rows = anomalyOf others := by
  funext row
  unfold anomalyOf
  rw [signalsOf_eq_of_perm perm, perm.length_eq]

theorem unranked_perm (perm : rows.Perm others) : (unranked rows).Perm (unranked others) := by
  unfold unranked
  rw [anomalyOf_eq_of_perm perm]
  exact (perm.map _).filter _

/-- Of rows with distinct numbers no two anomalies stand level. -/
theorem unranked_distinct (distinct : (rows.map ParsedRow.rowNumber).Nodup) {a b : Anomaly}
    (first : a ∈ unranked rows) (second : b ∈ unranked rows) (before : ranksBefore a b = true)
    (after : ranksBefore b a = true) : a = b := by
  obtain ⟨row, inside, rfl⟩ := List.mem_map.mp (List.mem_filter.mp first).1
  obtain ⟨other, inside', rfl⟩ := List.mem_map.mp (List.mem_filter.mp second).1
  have number : row.rowNumber = other.rowNumber := ranksBefore_antisymm before after
  rw [List.inj_on_of_nodup_map distinct inside inside' number]

/-- Where the rows stand in another order the result is the same. -/
theorem detection_ignores_order (rows others : List ParsedRow)
    (distinct : (rows.map ParsedRow.rowNumber).Nodup) (perm : rows.Perm others) :
    detectProcurementAnomalies rows = detectProcurementAnomalies others := by
  have ranked : (unranked rows).mergeSort ranksBefore = (unranked others).mergeSort ranksBefore :=
    mergeSort_eq_of_perm ranksBefore_trans ranksBefore_total
      (fun a first b second => unranked_distinct distinct first second) (unranked_perm perm)
  unfold detectProcurementAnomalies
  have empty : rows.isEmpty = others.isEmpty := by
    rw [Bool.eq_iff_iff, List.isEmpty_iff_length_eq_zero, List.isEmpty_iff_length_eq_zero,
      perm.length_eq]
  rw [empty, amountThreshold_eq_of_perm perm]
  split
  · rfl
  · exact congrArg (resultOf · _) ranked

end order

/-- A reader of one Saturday -/
abbrev saturdayReader : DateReader where
  toUnicodeDatabase := asciiDatabase
  isoDay text := if text = "2024-06-01" then some ⟨5, "2024-06-01"⟩ else none
  formattedDay _ _ := none

def purchase (rowNumber : Nat) (amount : Rat) : ParsedRow where
  rowNumber := rowNumber
  supplier := "Acme"
  category := "Parts"
  amount := amount
  month := some "2024-06"
  date := some "2024-06-01"
  invoiceId := some "INV-7"
  department := none
  approver := none

theorem purchases_unordered :
    let _ := saturdayReader
    detectProcurementAnomalies [purchase 1 500, purchase 2 500, purchase 3 510] =
      detectProcurementAnomalies [purchase 3 510, purchase 1 500, purchase 2 500] := by
  intro _
  apply detection_ignores_order
  · decide
  · exact @List.perm_append_comm _ [purchase 1 500, purchase 2 500] [purchase 3 510]

end Anomalies
