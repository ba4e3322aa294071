import AeaiOs.AnalystTools

/-!
What the points of a calculation stand for: the groups of the transactions by the values of the
tool's dimensions.
-/
namespace AnalystTools
open PyText RunValues OrderedDict Analytics HalfEven GroupSums OrderStatistics LabelledGroups

/-! The reference. -/

/-- The values of the tool's dimensions. -/
def dimensionValues (tool : Tool) (row : Dimensions) : List String :=
  let month := row.month.getD ""
  match tool with
  | .supplierTotals => [row.supplier]
  | .categoryTotals => [row.category]
  | .departmentTotals => [row.department]
  | .monthlyTrend => [month]
  | .supplierMonthlyTrend => [month]
  | .periodComparison => [month]
  | .supplierCategoryBreakdown => [row.supplier, row.category]
  | .categoryMonthlyBreakdown => [month, row.category]
  | .departmentMonthlyBreakdown => [month, row.department]

/-- The row has the values, and its month is compared where months are. -/
def counts (tool : Tool) (first last : Option String) (row : Dimensions) : Bool :=
  (decide (tool ≠ .periodComparison) || decide (row.month = first ∨ row.month = last)) &&
    (dimensionValues tool row).all fun value => decide (value ≠ "")

/-- The row passes the filters of the plan. -/
def passes (plan : Plan) (months : List String) (row : Dimensions) : Bool :=
  (!given plan.supplier || decide (some (shorten 90 row.supplier) = plan.supplier)) &&
    counts plan.tool (plan.first months) (plan.last months) row

/-- The values of a row's dimensions, of which the supplier is one where the plan filters by it. -/
def groupValues (plan : Plan) (row : Dimensions) : List String :=
  dimensionValues plan.tool row ++ if given plan.supplier then [row.supplier] else []

/-- The transactions that pass, under the values of their dimensions. -/
def passingRows (plan : Plan) (months : List String) (transactions : List (Dimensions × Rat)) :
    List (List String × Rat) :=
  transactions.filterMap fun row =>
    if passes plan months row.1 then some (groupValues plan row.1, row.2) else none

/-- The label of a group. -/
def groupLabel (tool : Tool) (values : List String) : String :=
  let value := values.headD ""
  let other := values.getD 1 ""
  match tool with
  | .supplierTotals => shorten 90 value
  | .categoryTotals => shorten 90 value
  | .departmentTotals => shorten 90 value
  | .monthlyTrend => value
  | .supplierMonthlyTrend => value
  | .periodComparison => value
  | .supplierCategoryBreakdown => shorten 38 value ++ " / " ++ shorten 38 other
  | .categoryMonthlyBreakdown => value ++ " / " ++ shorten 38 other
  | .departmentMonthlyBreakdown => value ++ " / " ++ shorten 38 other

/-- The points are of groups of the rows, of two rows and more each: of the twelve that lead. -/
def ReferencePoints (tool : Tool) (rows : List (List String × Rat)) (points : List Point) : Prop :=
  ∃ groups, Leading (keyRank (groupLabel tool) (ranksBefore tool) rows) 12 (groupsOf 2 rows) groups ∧
    points = groups.map fun values => pointOf (groupLabel tool values, weightOf rows values)

/-! The keys are the labels of the groups. -/

theorem shorten_shorten {m n : Nat} (le : m ≤ n) (text : String) :
    shorten m (shorten n text) = shorten m text := by
  simp [shorten, List.take_take, le]

theorem shorten_eq_empty {n : Nat} (positive : 0 < n) (text : String) :
    shorten n text = "" ↔ text = "" := by
  unfold shorten
  constructor
  · intro empty
    have characters := congrArg String.toList empty
    rw [String.toList_ofList] at characters
    rcases List.take_eq_nil_iff.mp characters with zero | none
    · omega
    · exact String.toList_inj.mp none
  · rintro rfl
    simp

theorem filter_text {text full : String} (same : text = "" ↔ full = "") :
    (some text).filter (fun key => !decide (key = "")) =
      if full = "" then none else some text := by
  by_cases none : full = ""
  · simp [same.mpr none, none]
  · simp [mt same.mp none, none]

theorem filter_month (month : Option String) :
    month.filter (fun key => !decide (key = "")) =
      if month.getD "" = "" then none else some (month.getD "") := by
  cases month with
  | none => rfl
  | some month =>
    by_cases none : month = "" <;> simp [none]

theorem filter_pair (condition : Prop) [Decidable condition] (value other : String) :
    (if condition then some (value ++ " / " ++ other) else none).filter
        (fun key => !decide (key = "")) =
      if condition then some (value ++ " / " ++ other) else none := by
  by_cases holds : condition <;> simp [holds]

theorem keyOf_shortened (tool : Tool) (first last : Option String) (row : Dimensions) :
    ((keyOf tool first last row.shortened).filter fun key => decide (key ≠ "")) =
      if counts tool first last row then some (groupLabel tool (dimensionValues tool row))
      else none := by
  have texts : ∀ text, shorten 90 text = "" ↔ text = "" := shorten_eq_empty (by omega)
  have short : ∀ text, shorten 38 (shorten 90 text) = shorten 38 text :=
    shorten_shorten (by omega)
  cases tool with
  | periodComparison =>
    by_cases compared : row.month = first ∨ row.month = last
    · by_cases none : row.month.getD "" = "" <;>
        simp [keyOf, counts, dimensionValues, groupLabel, Dimensions.shortened, compared,
          filter_month row.month, none]
    · simp [keyOf, counts, dimensionValues, Dimensions.shortened, compared]
  | _ =>
    simp [keyOf, counts, dimensionValues, groupLabel, Dimensions.shortened, texts, short,
      filter_text (texts _), filter_month row.month, filter_pair]

theorem groupLabel_groupValues (plan : Plan) (row : Dimensions) :
    groupLabel plan.tool (groupValues plan row) =
      groupLabel plan.tool (dimensionValues plan.tool row) := by
  unfold groupValues
  cases plan.tool <;> rfl

/-- What the code keys are the rows that pass, under the labels of their groups. -/
theorem keyedRows_eq {plan : Plan} {dataset : Dataset} {transactions : List (Dimensions × Rat)}
    (rows : dataset.rows = transactions.map fun row => (row.1.shortened, row.2)) :
    keyedRows plan dataset =
      relabel (groupLabel plan.tool) (passingRows plan dataset.months transactions) := by
  unfold keyedRows relabel passingRows
  rw [rows, List.filterMap_map, List.map_filterMap]
  apply List.filterMap_congr
  intro row _
  have key := keyOf_shortened plan.tool (plan.first dataset.months) (plan.last dataset.months) row.1
  dsimp only [Function.comp_apply]
  rw [key, ← groupLabel_groupValues plan]
  unfold passes
  have supplier : row.1.shortened.supplier = shorten 90 row.1.supplier := rfl
  rw [supplier]
  by_cases given : given plan.supplier = true <;>
    by_cases named : some (shorten 90 row.1.supplier) = plan.supplier <;>
    by_cases counted : counts plan.tool (plan.first dataset.months) (plan.last dataset.months) row.1 <;>
    simp [given, named, counted]

/-! The groups that are selected. -/

theorem mem_eligibleGroups (plan : Plan) (dataset : Dataset) (item : String × Rat × Nat) :
    item ∈ eligibleGroups plan dataset ↔ item.1 ∈ groupsOf 2 (keyedRows plan dataset) ∧
      item.2 = weightOf (keyedRows plan dataset) item.1 := by
  have keys : (weighed (keyedRows plan dataset)).map Prod.fst =
      (keyedRows plan dataset).map Prod.fst := by
    rw [weighed, List.map_map]
    rfl
  have found := get?_groupSums (weighed (keyedRows plan dataset)) item.1
  rw [keys] at found
  unfold eligibleGroups
  rw [List.mem_filter, decide_eq_true_eq, mem_groupsOf]
  constructor
  · intro ⟨stored, two⟩
    have value := Dict.get?_of_mem_entries stored
    rw [found] at value
    by_cases there : item.1 ∈ (keyedRows plan dataset).map Prod.fst
    · rw [if_pos there, Option.some.injEq] at value
      have weight : weightOf (keyedRows plan dataset) item.1 = item.2 := value
      exact ⟨⟨there, weight ▸ two⟩, weight.symm⟩
    · simp [there] at value
  · intro ⟨⟨there, two⟩, weight⟩
    rw [if_pos there] at found
    have stored := Dict.mem_entries_of_get? found
    have same : (item.1, sumOf (weighed (keyedRows plan dataset)) item.1) = item :=
      Prod.ext rfl weight.symm
    exact ⟨same ▸ stored, weight ▸ two⟩

theorem eligibleGroups_nodup (plan : Plan) (dataset : Dataset) :
    (eligibleGroups plan dataset).Nodup :=
  (List.Nodup.of_map Prod.fst (groupSums (weighed (keyedRows plan dataset))).keys_nodup).filter _

theorem ranking (tool : Tool) : Ranking (ranksBefore tool) := by
  unfold ranksBefore
  constructor
  · intro a b c first second
    split at first
    · rename_i byLabel
      rw [if_pos byLabel] at second ⊢
      rw [decide_eq_true_eq] at first second ⊢
      exact first.trans second
    · rename_i bySum
      rw [if_neg bySum] at second ⊢
      simp only [Bool.or_eq_true, Bool.and_eq_true, decide_eq_true_eq] at first second ⊢
      rcases first with more | ⟨same, before⟩ <;> rcases second with more' | ⟨same', before'⟩
      · exact .inl (more'.trans more)
      · exact .inl (same' ▸ more)
      · exact .inl (same.symm ▸ more')
      · exact .inr ⟨same.trans same', before.trans before'⟩
  · intro a b
    split
    · simpa using le_total a.1 b.1
    · simp only [Bool.or_eq_true, Bool.and_eq_true, decide_eq_true_eq]
      rcases lt_trichotomy a.2.1 b.2.1 with less | same | more
      · exact .inr (.inl less)
      · rcases le_total a.1 b.1 with before | after
        · exact .inl (.inr ⟨same, before⟩)
        · exact .inr (.inr ⟨same.symm, after⟩)
      · exact .inl (.inl more)
  · intro a b first second
    split at first
    · rename_i byLabel
      rw [if_pos byLabel] at second
      exact le_antisymm (of_decide_eq_true first) (of_decide_eq_true second)
    · rename_i bySum
      rw [if_neg bySum] at second
      simp only [Bool.or_eq_true, Bool.and_eq_true, decide_eq_true_eq] at first second
      rcases first with more | ⟨same, before⟩ <;> rcases second with more' | ⟨same', before'⟩
      · exact absurd (more.trans more') (lt_irrefl _)
      · exact absurd (same' ▸ more) (lt_irrefl _)
      · exact absurd (same ▸ more') (lt_irrefl _)
      · exact le_antisymm before before'

theorem selected_leading (plan : Plan) (dataset : Dataset) :
    Leading (labelRank (ranksBefore plan.tool) (keyedRows plan dataset)) 12
      (groupsOf 2 (keyedRows plan dataset)) ((selectedGroups plan dataset).map Prod.fst) := by
  apply leading_labels (mem_eligibleGroups plan dataset)
  exact leading_take (ranking plan.tool).trans (ranking plan.tool).total 12
    (eligibleGroups_nodup plan dataset)

theorem points_of_run {plan : Plan} {dataset : Dataset} {currency : String}
    {calculation : Calculation} (ran : runApprovedTool plan dataset currency = .ok calculation) :
    calculation.points = ((selectedGroups plan dataset).map Prod.fst).map fun key =>
      pointOf (key, weightOf (keyedRows plan dataset) key) := by
  have points : calculation.points = (selectedGroups plan dataset).map pointOf := by
    unfold runApprovedTool at ran
    dsimp only at ran
    split at ran
    · cases ran
    · split at ran
      · cases ran
      · cases ran
        rfl
  rw [points, List.map_map]
  apply List.map_congr_left
  intro item member
  have stored := (mem_eligibleGroups plan dataset item).mp
    ((List.mergeSort_perm _ _).mem_iff.mp (List.mem_of_mem_take member))
  rw [Function.comp_apply, ← stored.2]

/-! The answer. -/

section answer
variable [MonthReader]

def transactionsOf (file : LocalCsv) (analysis : PyDict) : List (Dimensions × Rat) :=
  match readTransactions file analysis with
  | .ok read => read.1
  | .error _ => []

/-- A dataset is loaded, a plan for it accepted and calculated. -/
structure Answered (file : LocalCsv) (analysis : PyDict) (raw : PyValue) (currency : String)
    (dataset : Dataset) (plan : Plan) (calculation : Calculation) : Prop where
  loaded : loadRunAggregates file analysis = .ok dataset
  accepted : eligiblePlan raw dataset = .ok plan
  ran : runApprovedTool plan dataset currency = .ok calculation

theorem loaded_rows {file : LocalCsv} {analysis : PyDict} {dataset : Dataset}
    (loaded : loadRunAggregates file analysis = .ok dataset) :
    dataset.rows =
      (transactionsOf file analysis).map fun row => (row.1.shortened, row.2) := by
  unfold loadRunAggregates at loaded
  unfold transactionsOf
  cases read : readTransactions file analysis with
  | error e =>
    rw [read] at loaded
    cases loaded
  | ok found =>
    rw [read] at loaded
    dsimp only [bind, Except.bind] at loaded
    cases original : sectionOf analysis "dataset" with
    | error e =>
      rw [original] at loaded
      cases loaded
    | ok entries =>
      rw [original] at loaded
      dsimp only at loaded
      split at loaded
      · cases loaded
      · cases saved : sectionOf analysis "kpis" with
        | error e =>
          rw [saved] at loaded
          cases loaded
        | ok kpis =>
          rw [saved] at loaded
          dsimp only at loaded
          split at loaded
          · cases loaded
          · cases loaded
            rfl

/-- The points are those of the reference if and only if the labels that two groups share are
    outranked by twelve others. -/
theorem points_reference_iff {file : LocalCsv} {analysis : PyDict} {raw : PyValue}
    {currency : String} {dataset : Dataset} {plan : Plan} {calculation : Calculation}
    (answered : Answered file analysis raw currency dataset plan calculation) :
    let rows := passingRows plan dataset.months (transactionsOf file analysis)
    ReferencePoints plan.tool rows calculation.points ↔
      SharedOutranked (groupLabel plan.tool) (ranksBefore plan.tool) 12 2 rows := by
  intro rows
  have keyed : keyedRows plan dataset = relabel (groupLabel plan.tool) rows :=
    keyedRows_eq (loaded_rows answered.loaded)
  have leading := selected_leading plan dataset
  have points := points_of_run answered.ran
  rw [keyed] at leading points
  have faithful : ∀ a b, pointOf a = pointOf b → a.1 = b.1 ∧ a.2.2 = b.2.2 := by
    intro a b same
    exact ⟨congrArg Point.label same, congrArg Point.transactions same⟩
  unfold ReferencePoints
  rw [points]
  exact shown_iff (ranking plan.tool) leading faithful

end answer

/-! Two purchases. -/

def twoPurchases (first second : String) : LocalCsv where
  suffix := ".csv"
  isSymlink := false
  isFile := true
  isAllowed := true
  sizeBytes := 300
  csv := { headers := .ok ["Supplier", "Amount"], records := [[first, "10"], [second, "20"]]
           failure := none }

def twoPurchasesAnalysis : PyDict :=
  [("dataset", .dict [("row_count", .int 2),
    ("resolved_columns", .dict [("supplier", .str "Supplier"), ("amount", .str "Amount")])]),
    ("kpis", .dict [("total_spend", .float 30)])]

def bySupplier : PyValue :=
  .dict [("tool", .str "supplier_totals"), ("supplier", .none), ("first_month", .none),
    ("last_month", .none), ("rationale", .str "Who is paid?")]

def suppliersPlan : Plan where
  tool := .supplierTotals
  supplier := none
  firstMonth := none
  lastMonth := none
  rationale := "Who is paid?"

abbrev noMonthReader : MonthReader where
  toUnicodeDatabase := asciiDatabase
  isoMonth _ := none
  formattedMonth _ _ := none

def supplierRow (name : String) : Dimensions := ⟨name, "", "", none⟩

theorem twoPurchases_read (first second : String) :
    let _ := noMonthReader
    readTransactions (twoPurchases first second) twoPurchasesAnalysis =
      .ok ([(supplierRow (strip first), 10), (supplierRow (strip second), 20)], 2) := by
  intro _
  have ten : parseAmountExactly (some "10") = some (.finite 10) := by decide +kernel
  have twenty : parseAmountExactly (some "20") = some (.finite 20) := by decide +kernel
  have suffix : UnicodeDatabase.lower ['.', 'c', 's', 'v'] = ['.', 'c', 's', 'v'] := by decide
  have cell : ∀ name amount : String,
      rowGet ["Supplier", "Amount"] [name, amount] "Amount" = some amount := fun _ _ => rfl
  have dimensions : ∀ name amount : String, dimensionsOf
      [("supplier", .str "Supplier"), ("amount", .str "Amount")] ["Supplier", "Amount"]
      [name, amount] = supplierRow (strip name) := fun _ _ => rfl
  have mapping : semanticMapping twoPurchasesAnalysis =
      .ok [("supplier", .str "Supplier"), ("amount", .str "Amount")] := rfl
  simp [readTransactions, twoPurchases, suffix, mapping, measureOf, lookupEntries, columnChanged,
    finiteAmount, cell, ten, twenty, dimensions, bind, Except.bind, Except.mapError, pure, Except.pure]

/-- What is loaded where both names are cut to one. -/
def oneSupplier (name : String) : Dataset where
  months := []
  suppliers := [name]
  categories := []
  departments := []
  rows := [(supplierRow name, 10), (supplierRow name, 20)]
  observedRows := 2

theorem oneSupplier_loaded {first second name : String} (named : name ≠ "")
    (front : shorten 90 (strip first) = name) (back : shorten 90 (strip second) = name) :
    let _ := noMonthReader
    loadRunAggregates (twoPurchases first second) twoPurchasesAnalysis = .ok (oneSupplier name) := by
  intro _
  have read := twoPurchases_read first second
  have cut : ∀ supplier, (supplierRow supplier).shortened = supplierRow (shorten 90 supplier) :=
    fun _ => rfl
  have names : ordered [name, name] = [name] := by
    simp [ordered, named]
  have blank : ordered ["", ""] = [] := by
    simp [ordered]
  have none : ordered [] = [] := by
    simp [ordered]
  have summary : summaryOf [(supplierRow name, 10), (supplierRow name, 20)] 2 = oneSupplier name := by
    simp [summaryOf, supplierRow, oneSupplier, names, blank, none]
  have close : isClose (10 + 20) 30 = true := by decide +kernel
  unfold loadRunAggregates
  rw [read]
  simp [bind, Except.bind, cut, front, back, summary, sectionOf, twoPurchasesAnalysis,
    lookupEntries, PyValue.truthy, countChanged, totalChanged, close, pure, Except.pure]

/-- Names that are cut to one label make one point. -/
theorem oneSupplier_answered (first second name : String) (named : name ≠ "")
    (front : shorten 90 (strip first) = name) (back : shorten 90 (strip second) = name) :
    let _ := noMonthReader
    ∃ calculation,
      Answered (twoPurchases first second) twoPurchasesAnalysis bySupplier "USD" (oneSupplier name)
        suppliersPlan calculation ∧ calculation.points = [⟨name, 30, 2⟩] := by
  intro _
  have loaded := oneSupplier_loaded named front back
  have accepted : eligiblePlan bySupplier (oneSupplier name) = .ok suppliersPlan := rfl
  have keyed : keyedRows suppliersPlan (oneSupplier name) = [(name, 10), (name, 20)] := by
    simp [keyedRows, suppliersPlan, given, keyOf, supplierRow, oneSupplier, named]
  have eligible : eligibleGroups suppliersPlan (oneSupplier name) = [(name, 30, 2)] := by
    unfold eligibleGroups
    rw [keyed]
    have sums : ((10 : Rat), 1) + (20, 1) = (30, 2) := by decide +kernel
    simp [groupSums, weighed, addAll, addTo, Dict.set, Dict.get?, Dict.empty, storeEntries,
      lookupEntries, sums]
  have selected : (selectedGroups suppliersPlan (oneSupplier name)).map pointOf =
      [⟨name, 30, 2⟩] := by
    have value : roundPlaces 4 (30 : Rat) = 30 := by decide +kernel
    unfold selectedGroups
    rw [eligible]
    simp [pointOf, value]
  have ran : ∃ calculation, runApprovedTool suppliersPlan (oneSupplier name) "USD" =
      .ok calculation ∧ calculation.points = [⟨name, 30, 2⟩] := by
    unfold runApprovedTool
    dsimp only
    rw [selected, if_neg (by simp [suppliersPlan]), if_neg (by simp)]
    exact ⟨_, rfl, rfl⟩
  obtain ⟨calculation, ran, points⟩ := ran
  exact ⟨calculation, ⟨loaded, accepted, ran⟩, points⟩

theorem passingRows_two (first second : String) (named : strip first ≠ "" ∧ strip second ≠ "") :
    let _ := noMonthReader
    passingRows suppliersPlan [] (transactionsOf (twoPurchases first second) twoPurchasesAnalysis) =
      [([strip first], 10), ([strip second], 20)] := by
  intro _
  have read := twoPurchases_read first second
  unfold transactionsOf
  rw [read]
  simp [passingRows, passes, suppliersPlan, given, counts, dimensionValues, supplierRow, groupValues,
    named.1, named.2]

def longName (last : Char) : String := String.ofList (List.replicate 90 'A' ++ [last])

/-- Two suppliers of one purchase each are shown as one of two, where their names agree in ninety
    characters. -/
theorem single_purchases_shown :
    let _ := noMonthReader
    ¬ ∀ (file : LocalCsv) (analysis : PyDict) (raw : PyValue) (currency : String)
      (dataset : Dataset) (plan : Plan) (calculation : Calculation),
      Answered file analysis raw currency dataset plan calculation →
      ReferencePoints plan.tool
        (passingRows plan dataset.months (transactionsOf file analysis)) calculation.points := by
  intro _ always
  obtain ⟨calculation, answered, points⟩ :=
    oneSupplier_answered (longName '1') (longName '2') (String.ofList (List.replicate 90 'A'))
      (by decide +kernel) (by decide +kernel) (by decide +kernel)
  obtain ⟨groups, leading, shown⟩ := always _ _ _ _ _ _ _ answered
  have rows := passingRows_two (longName '1') (longName '2') (by decide +kernel)
  have single : groupsOf 2 [([strip (longName '1')], (10 : Rat)), ([strip (longName '2')], 20)] =
      [] := by
    decide +kernel
  rw [points] at shown
  cases groups with
  | nil => cases shown
  | cons group groups =>
    have member := leading.inside group List.mem_cons_self
    have months : (oneSupplier (String.ofList (List.replicate 90 'A'))).months = [] := rfl
    rw [months, rows, single] at member
    cases member

/-- Two purchases of one supplier are shown as they are. -/
theorem one_supplier_shown :
    let _ := noMonthReader
    ∃ dataset plan calculation, Answered (twoPurchases "Acme" "Acme") twoPurchasesAnalysis
      bySupplier "USD" dataset plan calculation ∧ calculation.points = [⟨"Acme", 30, 2⟩] ∧
      ReferencePoints plan.tool (passingRows plan dataset.months
        (transactionsOf (twoPurchases "Acme" "Acme") twoPurchasesAnalysis)) calculation.points := by
  intro _
  obtain ⟨calculation, answered, points⟩ :=
    oneSupplier_answered "Acme" "Acme" "Acme" (by decide) (by decide) (by decide)
  refine ⟨_, _, _, answered, points, (points_reference_iff answered).mpr ?_⟩
  have rows := passingRows_two "Acme" "Acme" (by decide)
  have months : (oneSupplier "Acme").months = [] := rfl
  rw [months, rows]
  intro name _ ⟨a, inA, b, inB, apart, _⟩
  simp only [List.map_cons, List.map_nil, List.mem_cons, List.not_mem_nil, or_false, or_self]
    at inA inB
  exact absurd (inA.trans inB.symm) apart

end AnalystTools
