import AeaiOs.ProcurementAnalysis
import AeaiOs.Reconciliation

/-!
What the in-memory analysis finds in a file, told by the raw rows of the file.
-/
namespace Analytics
open PyText OrderedDict RiskScan HalfEven GroupSums

/-! The rows with an amount. -/

section parsed
variable [MonthReader]

def parsedOf (resolved : Role → Option String) (rowNumber : Nat) (row : AdapterRow) :
    Option ParsedRow :=
  match parseAmountExactly (valueOf row (resolved .amount)) with
  | some (.finite amount) => some (parsedRow resolved rowNumber row amount)
  | _ => none

def parsedRows (resolved : Role → Option String) : Nat → List AdapterRow → List ParsedRow
  | _, [] => []
  | rowNumber, row :: rows =>
      (parsedOf resolved rowNumber row).toList ++ parsedRows resolved (rowNumber + 1) rows

end parsed

def ParsedRow.bySupplier (row : ParsedRow) : String × Rat := (row.supplier, row.amount)

def ParsedRow.byCategory (row : ParsedRow) : String × Rat := (row.category, row.amount)

/-- A truthy month with the amount. -/
def monthPair (month : Option String) (amount : Rat) : Option (String × Rat) :=
  (month.filter (· ≠ "")).map fun month => (month, amount)

def ParsedRow.byMonth (row : ParsedRow) : Option (String × Rat) := monthPair row.month row.amount

/-- The totals are the sums of the parsed rows. -/
structure Aggregates.Sums (aggregates : Aggregates) (parsed : List ParsedRow) (rowCount : Nat) :
    Prop where
  suppliers : aggregates.supplierTotals = groupSums (parsed.map ParsedRow.bySupplier)
  categories : aggregates.categoryTotals = groupSums (parsed.map ParsedRow.byCategory)
  months : aggregates.monthlyTotals = groupSums (parsed.filterMap ParsedRow.byMonth)
  rows : aggregates.parsedRows = parsed
  invalid : aggregates.invalidAmountRows + parsed.length = rowCount

theorem Aggregates.sums_empty : ({} : Aggregates).Sums [] 0 := ⟨rfl, rfl, rfl, rfl, rfl⟩

theorem Aggregates.Sums.addRow {aggregates : Aggregates} {parsed : List ParsedRow} {rowCount : Nat}
    (sums : aggregates.Sums parsed rowCount) (row : ParsedRow) :
    (aggregates.addRow row).Sums (parsed ++ [row]) (rowCount + 1) := by
  constructor
  · simp only [Aggregates.addRow, sums.suppliers, List.map_append, List.map_singleton]
    exact (groupSums_append _ _ _).symm
  · simp only [Aggregates.addRow, sums.categories, List.map_append, List.map_singleton]
    exact (groupSums_append _ _ _).symm
  · simp only [Aggregates.addRow, sums.months, List.filterMap_append]
    cases month : row.month with
    | none => simp [ParsedRow.byMonth, monthPair, month]
    | some text =>
      by_cases blank : text = ""
      · simp [ParsedRow.byMonth, monthPair, month, blank]
      · simp only [ParsedRow.byMonth, monthPair, month, blank, if_false, List.filterMap_cons,
          List.filterMap_nil, Option.filter_some, ne_eq, not_false_eq_true, decide_true, if_true,
          Option.map_some]
        exact (groupSums_append _ _ _).symm
  · simp only [Aggregates.addRow, sums.rows]
  · have counted := sums.invalid
    simp only [Aggregates.addRow, List.length_append, List.length_singleton]
    omega

section runs
variable [MonthReader]

/-- Every amount of the row is finite. -/
def FiniteAmount (resolved : Role → Option String) (row : AdapterRow) : Prop :=
  ∀ x, parseAmountExactly (valueOf row (resolved .amount)) = some x → ∃ q, x = .finite q

theorem analyzeRow_sums {resolved : Role → Option String} {aggregates : Aggregates}
    {parsed : List ParsedRow} {rowCount : Nat} {row : AdapterRow} (rowNumber : Nat)
    (sums : aggregates.Sums parsed rowCount) (finite : FiniteAmount resolved row) :
    ∃ next, analyzeRow resolved aggregates rowNumber row = .ok next ∧
      next.Sums (parsed ++ (parsedOf resolved rowNumber row).toList) (rowCount + 1) := by
  unfold analyzeRow parsedOf
  have counted : ({ aggregates with
      missingCounts := addAll aggregates.missingCounts (missingIn row resolved) } : Aggregates).Sums
        parsed rowCount := ⟨sums.suppliers, sums.categories, sums.months, sums.rows, sums.invalid⟩
  cases read : parseAmountExactly (valueOf row (resolved .amount)) with
  | none =>
    refine ⟨_, rfl, ?_⟩
    rw [Option.toList_none, List.append_nil]
    refine ⟨sums.suppliers, sums.categories, sums.months, sums.rows, ?_⟩
    have invalid := sums.invalid
    simp only
    omega
  | some x =>
    obtain ⟨amount, rfl⟩ := finite x read
    exact ⟨_, rfl, counted.addRow _⟩

/-- The loop over all the rows. -/
theorem analyzeRows_sums {resolved : Role → Option String} {rows : List AdapterRow}
    {aggregates : Aggregates} {parsed : List ParsedRow} {rowCount : Nat} (rowNumber : Nat)
    (sums : aggregates.Sums parsed rowCount) (finite : ∀ row ∈ rows, FiniteAmount resolved row) :
    ∃ last, analyzeRows resolved aggregates rowNumber rows = .ok last ∧
      last.Sums (parsed ++ parsedRows resolved rowNumber rows) (rowCount + rows.length) := by
  induction rows generalizing aggregates parsed rowCount rowNumber with
  | nil => exact ⟨aggregates, rfl, by simpa [parsedRows] using sums⟩
  | cons row rows ih =>
    rw [List.forall_mem_cons] at finite
    obtain ⟨next, made, sums⟩ := analyzeRow_sums rowNumber sums finite.1
    obtain ⟨last, run, ends⟩ := ih (rowNumber + 1) sums finite.2
    refine ⟨last, ?_, ?_⟩
    · simp only [analyzeRows, made, bind, Except.bind]
      exact run
    · rw [parsedRows, ← List.append_assoc, List.length_cons, Nat.add_comm rows.length, ← Nat.add_assoc]
      exact ends

end runs

/-! The header. -/

/-- What the adapter accepts. -/
structure Loaded [UnicodeDatabase] (source : Source) (headers : List String)
    (adapter : CsvDatasetAdapter) : Prop where
  csv : UnicodeDatabase.lower source.suffix.toList = ".csv".toList
  present : source.fileExists = true
  header : source.csv.headers = .ok headers
  nonempty : headers ≠ []
  named : "" ∉ headers.map strip
  distinct : (headers.map strip).Nodup
  complete : source.csv.failure = none
  adapter_is : adapter =
    { fieldnames := headers.map strip, rows := source.csv.records.map (adapterRow headers) }

theorem fromPath_ok [UnicodeDatabase] {source : Source} {adapter : CsvDatasetAdapter}
    (loaded : fromPath source = .ok adapter) : ∃ headers, Loaded source headers adapter := by
  unfold fromPath at loaded
  split at loaded
  · cases loaded
  rename_i csv
  split at loaded
  · cases loaded
  rename_i present
  split at loaded
  · cases loaded
  rename_i headers header
  simp only at loaded
  split at loaded
  · cases loaded
  rename_i nonempty
  split at loaded
  · cases loaded
  rename_i named
  split at loaded
  · cases loaded
  rename_i distinct
  split at loaded
  · cases loaded
  rename_i complete
  cases loaded
  exact ⟨headers, by simpa using csv, by simpa using present, header, nonempty, named,
    by simpa using distinct, complete, rfl⟩

theorem lookupEntries_of_mem {α : Type} {entries : List (String × α)}
    (distinct : (entries.map Prod.fst).Nodup) {key : String} {value : α}
    (member : (key, value) ∈ entries) : lookupEntries entries key = some value :=
  @Dict.get?_of_mem_entries _ _ _ ⟨entries, distinct⟩ _ _ member

theorem adapterRow_lookup {headers record : List String} (distinct : (headers.map strip).Nodup)
    {raw : String} (member : raw ∈ headers) :
    lookupEntries (adapterRow headers record) (strip raw) =
      some (strip ((rowGet headers record raw).getD "")) := by
  apply lookupEntries_of_mem
  · unfold adapterRow
    rw [List.map_map]
    exact distinct
  · exact List.mem_map_of_mem (f := fun raw =>
      (strip raw, strip ((rowGet headers record raw).getD ""))) member

theorem rawField {headers : List String} (distinct : (headers.map strip).Nodup) {raw : String}
    (member : raw ∈ headers) :
    (Dict.ofPairs (headers.map fun raw => (strip raw, raw))).get? (strip raw) = some raw := by
  apply (Dict.get?_ofPairs_iff _).mpr
  · exact List.mem_map_of_mem (f := fun raw => (strip raw, raw)) member
  · rw [List.map_map]
    exact distinct

/-- The column of a role is one of the columns. -/
theorem resolveColumn_mem [UnicodeDatabase] {columns : List String} {role : Role} {column : String}
    (found : resolveColumn columns role = some column) : column ∈ columns := by
  unfold resolveColumn at found
  obtain ⟨name, -, hit⟩ := List.exists_of_findSome?_eq_some found
  exact List.mem_reverse.mp (List.mem_of_find?_eq_some hit)

/-! Cells. -/

section cells
variable [UnicodeDatabase]

theorem isMissing_strip (cell : String) : isMissing (strip cell) = isMissing cell := by
  unfold isMissing strip
  rw [String.toList_ofList, stripText_idem]

theorem isMissing_empty : isMissing "" = true := by
  have lowered : UnicodeDatabase.lower (stripText "".toList) = [] :=
    UnicodeDatabase.lower_ascii [] (by simp)
  unfold isMissing
  rw [lowered]
  decide

theorem parseAmountAs_strip (rounded : Rat → PyFloat) (cell : String) :
    parseAmountAs rounded (some (strip cell)) = parseAmountAs rounded (some cell) := by
  have commas : stripText ((strip cell).toList.filter (· ≠ ',')) =
      stripText (cell.toList.filter (· ≠ ',')) := by
    unfold strip
    rw [String.toList_ofList]
    exact trim_filter isSpace _ _
  simp only [parseAmountAs, isMissing_strip, commas]

omit [UnicodeDatabase] in
theorem strip_empty : strip "" = "" := by decide

omit [UnicodeDatabase] in
theorem valueOf_adapterRow {headers record : List String} (distinct : (headers.map strip).Nodup)
    {raw : String} (member : raw ∈ headers) :
    valueOf (adapterRow headers record) (some (strip raw)) =
      let text := strip ((rowGet headers record raw).getD "")
      if text = "" then none else some text := by
  simp only [valueOf, Option.bind_some, adapterRow_lookup distinct member, Option.getD_some,
    strip_idem]

theorem parseAmountAs_value (rounded : Rat → PyFloat) {headers record : List String}
    (distinct : (headers.map strip).Nodup) {raw : String} (member : raw ∈ headers) :
    parseAmountAs rounded (valueOf (adapterRow headers record) (some (strip raw))) =
      parseAmountAs rounded (rowGet headers record raw) := by
  rw [valueOf_adapterRow distinct member]
  have blank : parseAmountAs rounded (some "") = none := by
    simp [parseAmountAs, isMissing_empty]
  cases rowGet headers record raw with
  | none => simp [strip_empty, parseAmountAs]
  | some cell =>
    simp only [Option.getD_some]
    split
    · rename_i empty
      rw [← parseAmountAs_strip rounded cell, empty, blank]
      rfl
    · exact parseAmountAs_strip rounded cell

omit [UnicodeDatabase] in
theorem labelled_value {headers record : List String} (distinct : (headers.map strip).Nodup)
    {raw : String} (member : raw ∈ headers) :
    labelled (valueOf (adapterRow headers record) (some (strip raw))) =
      groupLabel (rowGet headers record raw) := by
  rw [valueOf_adapterRow distinct member]
  unfold labelled groupLabel
  simp only
  split
  · rename_i empty
    simp [empty]
  · rename_i text
    simp [text]

/-- The two readings of an amount cell in exact arithmetic. -/
def AmountAlike (cell : Option String) : Prop :=
  parseAmountExactly cell = (amount cell).map fun x => .finite (Decimal.value x)

end cells

/-- The columns that the analysis resolves are those of a layout. -/
structure Layout.Reads (layout : Layout) (resolved : Role → Option String) : Prop where
  distinct : (layout.headers.map strip).Nodup
  amount_mem : layout.amount ∈ layout.headers
  supplier_mem : layout.supplier ∈ layout.headers
  category_mem : layout.category ∈ layout.headers
  amount : resolved .amount = some (strip layout.amount)
  supplier : resolved .supplier = some (strip layout.supplier)
  category : resolved .category = some (strip layout.category)

def ParsedRow.spending (row : ParsedRow) : Spending := ⟨row.supplier, row.category, row.amount⟩

section agreement
variable [MonthReader]

theorem parsedOf_spending {layout : Layout} {resolved : Role → Option String}
    (reads : layout.Reads resolved) {record : List String}
    (alike : AmountAlike (rowGet layout.headers record layout.amount)) (rowNumber : Nat) :
    (parsedOf resolved rowNumber (adapterRow layout.headers record)).map ParsedRow.spending =
      spendingOf layout record := by
  have read : parseAmountExactly (valueOf (adapterRow layout.headers record) (resolved .amount)) =
      (amount (rowGet layout.headers record layout.amount)).map fun x =>
        .finite (Decimal.value x) := by
    rw [reads.amount]
    exact (parseAmountAs_value .finite reads.distinct reads.amount_mem).trans alike
  unfold parsedOf spendingOf
  rw [read]
  cases amount (rowGet layout.headers record layout.amount) with
  | none => rfl
  | some x =>
    simp only [Option.map_some, parsedRow, ParsedRow.spending, reads.supplier, reads.category,
      labelled_value reads.distinct reads.supplier_mem,
      labelled_value reads.distinct reads.category_mem]

theorem finiteAmount {layout : Layout} {resolved : Role → Option String}
    (reads : layout.Reads resolved) {record : List String}
    (alike : AmountAlike (rowGet layout.headers record layout.amount)) :
    FiniteAmount resolved (adapterRow layout.headers record) := by
  intro x read
  rw [reads.amount] at read
  have same := (parseAmountAs_value .finite reads.distinct reads.amount_mem).symm.trans read
  rw [← parseAmountExactly, alike, Option.map_eq_some_iff] at same
  obtain ⟨value, -, rfl⟩ := same
  exact ⟨_, rfl⟩

/-- The rows that the analysis parses are the spendings that the scans find. -/
theorem parsedRows_spendings {layout : Layout} {resolved : Role → Option String}
    (reads : layout.Reads resolved) {records : List (List String)}
    (alike : ∀ record ∈ records, AmountAlike (rowGet layout.headers record layout.amount))
    (rowNumber : Nat) :
    (parsedRows resolved rowNumber (records.map (adapterRow layout.headers))).map
      ParsedRow.spending = spendings layout records := by
  induction records generalizing rowNumber with
  | nil => rfl
  | cons record records ih =>
    rw [List.forall_mem_cons] at alike
    have first := parsedOf_spending reads alike.1 rowNumber
    have later := ih alike.2 (rowNumber + 1)
    simp only [List.map_cons, parsedRows, List.map_append, later, spendings, List.filterMap_cons]
    rw [← first]
    cases parsedOf resolved rowNumber (adapterRow layout.headers record) <;> rfl

end agreement

/-- The required columns of a file that is loaded. -/
theorem layout_found [UnicodeDatabase] {headers : List String}
    (distinct : (headers.map strip).Nodup)
    (required : ∀ role ∈ [Role.amount, .category, .supplier],
      (resolveColumn (headers.map strip) role).isSome) :
    ∃ layout : Layout, layout.headers = headers ∧
      layout.Reads (resolveColumn (headers.map strip)) := by
  have column : ∀ role ∈ [Role.amount, .category, .supplier], ∃ raw ∈ headers,
      resolveColumn (headers.map strip) role = some (strip raw) := by
    intro role member
    obtain ⟨name, found⟩ := Option.isSome_iff_exists.mp (required role member)
    obtain ⟨raw, inside, rfl⟩ := List.mem_map.mp (resolveColumn_mem found)
    exact ⟨raw, inside, found⟩
  obtain ⟨amount, amount_mem, has_amount⟩ := column .amount (by simp)
  obtain ⟨category, category_mem, has_category⟩ := column .category (by simp)
  obtain ⟨supplier, supplier_mem, has_supplier⟩ := column .supplier (by simp)
  exact ⟨⟨headers, amount, supplier, category⟩, rfl, distinct, amount_mem, supplier_mem,
    category_mem, has_amount, has_supplier, has_category⟩

/-- The amounts of a file are read alike in exact arithmetic. -/
def AmountsAlike [UnicodeDatabase] (layout : Layout) (records : List (List String)) : Prop :=
  ∀ record ∈ records, AmountAlike (rowGet layout.headers record layout.amount)

/-- A file with the required columns is analysed. -/
theorem analysis_of_file [MonthReader] {layout : Layout} {records : List (List String)}
    (reads : layout.Reads (resolveColumn (layout.headers.map strip)))
    (alike : AmountsAlike layout records) {adapter : CsvDatasetAdapter}
    (adapter_is : adapter =
      { fieldnames := layout.headers.map strip, rows := records.map (adapterRow layout.headers) }) :
    ∃ last, analyzeProcurementDataset adapter =
        .ok (figures adapter (resolveColumn adapter.fieldnames) last) ∧
      last.Sums (parsedRows (resolveColumn adapter.fieldnames) 2 adapter.rows)
        adapter.rows.length := by
  subst adapter_is
  have finite : ∀ row ∈ records.map (adapterRow layout.headers),
      FiniteAmount (resolveColumn (layout.headers.map strip)) row :=
    List.forall_mem_map.mpr fun record member => finiteAmount reads (alike record member)
  obtain ⟨last, run, sums⟩ := analyzeRows_sums 2 Aggregates.sums_empty finite
  rw [List.nil_append, Nat.zero_add] at sums
  refine ⟨last, ?_, sums⟩
  simp [analyzeProcurementDataset, reads.amount, reads.category, reads.supplier, run, Except.map]

end Analytics
