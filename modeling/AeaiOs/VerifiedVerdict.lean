import AeaiOs.Lib.ExceptLists
import AeaiOs.Reconciliation

/-!
What a verified reconciliation says about the saved figures.
-/
namespace Analytics
open PyText OrderedDict ExceptLists HalfEven GroupSums

section verdict
variable [UnicodeDatabase]

/-! Close figures. -/

/-- Within the tolerance of the comparison, without rounding. -/
def Within (actual : Rat) (reported : Saved) : Prop :=
  ∃ figure, stated reported = some figure ∧
    |actual - figure| ≤ max (1 / 100) (|actual| * (1 / 100000000))

/-- The digits of a context are enough for the comparison. -/
def CloseExact (context : DecimalContext) (actual : Rat) (reported : Saved) : Prop :=
  ∀ figure, stated reported = some figure →
    ∀ q ∈ [actual - figure, |actual - figure|, |actual|, |actual| * (1 / 100000000)],
      context q = .ok q

theorem close_iff {context : DecimalContext} {actual : Rat} {reported : Saved}
    (precise : CloseExact context actual reported) :
    close context actual reported = .ok true ↔ Within actual reported := by
  unfold close Within
  cases read : stated reported with
  | none => simp
  | some figure =>
    have kept := precise figure read
    simp only [List.forall_mem_cons] at kept
    obtain ⟨difference, distance, magnitude, relative, -⟩ := kept
    simp only [difference, distance, magnitude, relative, bind, Except.bind, pure, Except.pure]
    simp

theorem allClose_iff {context : DecimalContext} {reported : Dict Saved.Key Saved}
    {totals : List (String × Rat)} :
    allClose context reported totals = .ok true ↔ ∀ total ∈ totals, ∃ figure,
      reported.get? (.str total.1) = some figure ∧ close context total.2 figure = .ok true := by
  induction totals with
  | nil => simp [allClose]
  | cons total rest ih =>
    obtain ⟨name, actual⟩ := total
    unfold allClose
    rw [List.forall_mem_cons, ← ih]
    cases found : reported.get? (.str name) with
    | none => simp
    | some figure =>
      cases near : close context actual figure with
      | error e => simp [near, bind, Except.bind]
      | ok answer => cases answer <;> simp [near, bind, Except.bind, pure, Except.pure]

theorem breakdownCheck_iff {context : DecimalContext} {field : String} {totals : Dict String Rat}
    {saved : Saved} :
    breakdownCheck context field totals saved = .ok true ↔ ∃ items reported,
      listed saved = some items ∧ reportedBy field items = .ok reported ∧
        reported.entries.length = totals.entries.length ∧ ∀ total ∈ totals.entries, ∃ figure,
          reported.get? (.str total.1) = some figure ∧ close context total.2 figure = .ok true := by
  unfold breakdownCheck
  cases present : listed saved with
  | none => simp
  | some items =>
    cases made : reportedBy field items with
    | error e => simp [made, bind, Except.bind]
    | ok reported =>
      by_cases same : reported.entries.length = totals.entries.length
      · simp [made, same, allClose_iff, bind, Except.bind]
      · simp [made, same, bind, Except.bind, pure, Except.pure]

/-! Breakdowns. -/

/-- The name that an entry of a breakdown is read under. -/
def nameOf (field : String) (entries : SavedDict) : Option String :=
  match Saved.get entries field with
  | .str name => some name
  | _ => none

def entryName (field : String) (item : Saved) : Option String := (dictItem item).bind (nameOf field)

/-- One entry for each group and no other, each within the tolerance of the sum of its group. -/
def BreakdownSound (field : String) (pairs : List (String × Rat)) (saved : Saved) : Prop :=
  ∃ items, listed saved = some items ∧
    (items.map (entryName field)).Perm ((pairs.map Prod.fst).dedup.map some) ∧
      ∀ entries, .dict entries ∈ items → ∀ name, nameOf field entries = some name →
        Within (sumOf pairs name) (Saved.get entries "spend")

/-- Every item is a dictionary, and no two of them have one name. -/
def ListedOnce (field : String) (saved : Saved) : Prop :=
  ∀ items, listed saved = some items →
    (∀ item ∈ items, ∃ entries, item = .dict entries) ∧ (items.map (entryName field)).Nodup

/-- The digits of a context are enough for the entries of a breakdown. -/
def BreakdownExact (context : DecimalContext) (field : String) (pairs : List (String × Rat))
    (saved : Saved) : Prop :=
  ∀ items, listed saved = some items → ∀ entries, .dict entries ∈ items →
    ∀ name, nameOf field entries = some name →
      CloseExact context (sumOf pairs name) (Saved.get entries "spend")

def keyName : Saved.Key → Option String
  | .str name => some name
  | _ => none

omit [UnicodeDatabase] in
theorem namedSpend_ok {field : String} {entries : SavedDict} {pair : Saved.Key × Saved}
    (made : namedSpend field entries = .ok pair) :
    keyName pair.1 = nameOf field entries ∧ pair.2 = Saved.get entries "spend" := by
  obtain ⟨key, hashed, rfl⟩ := except_map_ok made
  constructor
  · unfold nameOf
    generalize Saved.get entries field = value at hashed ⊢
    cases value <;> cases hashed <;> rfl
  · rfl

omit [UnicodeDatabase] in
theorem names_of {field : String} {dicts : List SavedDict} {pairs : List (Saved.Key × Saved)}
    (made : dicts.mapM (namedSpend field) = .ok pairs) :
    (pairs.map Prod.fst).map keyName = dicts.map (nameOf field) := by
  have related := mapM_ok_iff.mp made
  clear made
  induction related with
  | nil => rfl
  | cons first _ ih => simp only [List.map_cons, (namedSpend_ok first).1, ih]

omit [UnicodeDatabase] in
/-- As many reported names as groups, and every group among them. -/
theorem keys_reported {reported : Dict Saved.Key Saved} {totals : Dict String Rat}
    (same : reported.entries.length = totals.entries.length)
    (present : ∀ name ∈ totals.keys, ∃ figure, reported.get? (.str name) = some figure) :
    reported.keys.Perm (totals.keys.map .str) := by
  have injective : Function.Injective Saved.Key.str := by
    intro a b equal
    cases equal
    rfl
  have inside : totals.keys.map Saved.Key.str ⊆ reported.keys := by
    intro key member
    obtain ⟨name, listed, rfl⟩ := List.mem_map.mp member
    exact Dict.mem_keys_iff.mpr (present name listed)
  have subperm := List.subperm_of_subset (totals.keys_nodup.map injective) inside
  apply (subperm.perm_of_length_le _).symm
  simp [Dict.keys, same]

omit [UnicodeDatabase] in
theorem keys_groupSums (pairs : List (String × Rat)) :
    (groupSums pairs).keys.Perm (pairs.map Prod.fst).dedup := by
  apply (List.perm_ext_iff_of_nodup (groupSums pairs).keys_nodup (List.nodup_dedup _)).mpr
  intro name
  rw [List.mem_dedup]
  exact mem_keys_groupSums

omit [UnicodeDatabase] in
theorem dicts_only {items : List Saved} (only : ∀ item ∈ items, ∃ entries, item = .dict entries) :
    items = (items.filterMap dictItem).map Saved.dict := by
  induction items with
  | nil => rfl
  | cons item rest ih =>
    rw [List.forall_mem_cons] at only
    obtain ⟨⟨entries, rfl⟩, later⟩ := only
    simp only [dictItem, List.filterMap_cons, List.map_cons]
    rw [← ih later]

/-- Entries of different names are found under them. -/
theorem sound_of_once {context : DecimalContext} {field : String} {pairs : List (String × Rat)}
    {dicts : List SavedDict} {reported : Dict Saved.Key Saved}
    (made : (dicts.mapM (namedSpend field)).map Dict.ofPairs = .ok reported)
    (distinct : (dicts.map (nameOf field)).Nodup)
    (same : reported.entries.length = (groupSums pairs).entries.length)
    (near : ∀ total ∈ (groupSums pairs).entries, ∃ figure,
      reported.get? (.str total.1) = some figure ∧ close context total.2 figure = .ok true)
    (precise : ∀ entries ∈ dicts, ∀ name, nameOf field entries = some name →
      CloseExact context (sumOf pairs name) (Saved.get entries "spend")) :
    (dicts.map (nameOf field)).Perm ((pairs.map Prod.fst).dedup.map some) ∧
      ∀ entries ∈ dicts, ∀ name, nameOf field entries = some name →
        Within (sumOf pairs name) (Saved.get entries "spend") := by
  obtain ⟨saved, read, rfl⟩ := except_map_ok made
  have names := names_of read
  have nodup : (saved.map Prod.fst).Nodup := by
    apply List.Nodup.of_map keyName
    rw [names]
    exact distinct
  have keys : (saved.map Prod.fst).Perm ((groupSums pairs).keys.map .str) := by
    have found := keys_reported same fun name member => by
      obtain ⟨sum, stored⟩ := Dict.mem_keys_iff.mp member
      obtain ⟨figure, there, -⟩ := near _ (Dict.mem_entries_of_get? stored)
      exact ⟨figure, there⟩
    unfold Dict.keys at found
    rw [Dict.entries_ofPairs nodup] at found
    exact found
  have perm : (dicts.map (nameOf field)).Perm ((pairs.map Prod.fst).dedup.map some) := by
    rw [← names]
    have renamed := keys.map keyName
    have back : ((groupSums pairs).keys.map Saved.Key.str).map keyName =
        (groupSums pairs).keys.map some := by
      rw [List.map_map]
      rfl
    rw [back] at renamed
    exact renamed.trans ((keys_groupSums pairs).map some)
  refine ⟨perm, ?_⟩
  intro entries member name named
  obtain ⟨pair, inside, spent⟩ := mapM_target read entries member
  obtain ⟨is_name, is_spend⟩ := namedSpend_ok spent
  have group : name ∈ pairs.map Prod.fst := by
    have listed := perm.subset (List.mem_map_of_mem (f := nameOf field) member)
    rw [named, List.mem_map] at listed
    obtain ⟨other, there, same⟩ := listed
    rw [← Option.some.inj same]
    exact List.mem_dedup.mp there
  have stored : (groupSums pairs).get? name = some (sumOf pairs name) := by
    rw [get?_groupSums, if_pos group]
  obtain ⟨figure, found, close⟩ := near _ (Dict.mem_entries_of_get? stored)
  have key : pair.1 = .str name := by
    rw [named] at is_name
    generalize pair.1 = key at is_name
    cases key <;> cases is_name
    rfl
  have there : (Dict.ofPairs saved).get? (.str name) = some pair.2 := by
    rw [Dict.get?_ofPairs_iff nodup, ← key]
    exact inside
  rw [found, is_spend, Option.some.injEq] at there
  rw [there] at close
  exact (close_iff (precise entries member name named)).mp close

theorem once_of_sound {field : String} {pairs : List (String × Rat)} {saved : Saved}
    (sound : BreakdownSound field pairs saved) : ListedOnce field saved := by
  obtain ⟨items, present, names, -⟩ := sound
  intro others again
  obtain rfl : items = others := Option.some.inj (present.symm.trans again)
  constructor
  · intro item member
    have named := names.subset (List.mem_map_of_mem member)
    obtain ⟨name, -, is_name⟩ := List.mem_map.mp named
    cases item with
    | dict entries => exact ⟨entries, rfl⟩
    | _ => cases is_name
  · exact names.nodup_iff.mpr ((List.nodup_dedup _).map (Option.some_injective _))

theorem breakdown_sound_iff {context : DecimalContext} {field : String}
    {pairs : List (String × Rat)} {saved : Saved}
    (checked : breakdownCheck context field (groupSums pairs) saved = .ok true)
    (precise : BreakdownExact context field pairs saved) :
    BreakdownSound field pairs saved ↔ ListedOnce field saved := by
  obtain ⟨items, reported, present, made, same, near⟩ := breakdownCheck_iff.mp checked
  constructor
  · exact once_of_sound
  · intro once
    obtain ⟨only, distinct⟩ := once items present
    have shape := dicts_only only
    unfold reportedBy at made
    generalize items.filterMap dictItem = dicts at made shape
    subst shape
    have names : (dicts.map Saved.dict).map (entryName field) = dicts.map (nameOf field) := by
      rw [List.map_map]
      rfl
    rw [names] at distinct
    obtain ⟨perm, within⟩ := sound_of_once made distinct same near fun entries member =>
      precise _ present entries (List.mem_map_of_mem member)
    refine ⟨_, present, names ▸ perm, ?_⟩
    intro entries member
    obtain ⟨other, inside, is_dict⟩ := List.mem_map.mp member
    cases is_dict
    exact within entries inside

/-! The verdict. -/

/-- A count of a section of the saved analysis is the one that was found. -/
def CountHolds (analysis : SavedDict) (name key : String) (count : Nat) : Prop :=
  ∃ entries, Saved.section? analysis name = .ok entries ∧
    Saved.equalsCount count (Saved.get entries key) = true

/-- What a verified analysis says about the rows with an amount that the file has. -/
structure FiguresSound (analysis : SavedDict) (rowCount : Nat) (found : List Spending) : Prop where
  row_count : CountHolds analysis "dataset" "row_count" rowCount
  valid_amount_rows : CountHolds analysis "dataset" "valid_amount_rows" found.length
  supplier_count : CountHolds analysis "kpis" "supplier_count"
    (found.map Spending.supplier).dedup.length
  category_count : CountHolds analysis "kpis" "category_count"
    (found.map Spending.category).dedup.length
  total : ∃ kpis, Saved.section? analysis "kpis" = .ok kpis ∧
    Within (totalSpending found) (Saved.get kpis "total_spend")
  suppliers : BreakdownSound "supplier" (found.map Spending.bySupplier)
    (Saved.get analysis "spend_by_supplier")
  categories : BreakdownSound "category" (found.map Spending.byCategory)
    (Saved.get analysis "spend_by_category")

/-- The columns of the file that the saved analysis names. -/
def fileLayout (source : Source) (analysis : SavedDict) : Option Layout :=
  match columnNames analysis, source.csv.headers with
  | .ok (some names), .ok headers => layoutFor headers names
  | _, _ => none

def VerdictSound (source : Source) (analysis : SavedDict) : Prop :=
  ∃ layout, fileLayout source analysis = some layout ∧
    FiguresSound analysis source.csv.records.length (spendings layout source.csv.records)

/-- The digits of a context are enough for all the sums and comparisons of a reconciliation. -/
structure DigitsSuffice (context : DecimalContext) (source : Source) (analysis : SavedDict)
    (layout : Layout) : Prop where
  sums : SumsExact context (spendings layout source.csv.records)
  total : ∀ kpis, Saved.section? analysis "kpis" = .ok kpis →
    CloseExact context (totalSpending (spendings layout source.csv.records))
      (Saved.get kpis "total_spend")
  suppliers : BreakdownExact context "supplier"
    ((spendings layout source.csv.records).map Spending.bySupplier)
    (Saved.get analysis "spend_by_supplier")
  categories : BreakdownExact context "category"
    ((spendings layout source.csv.records).map Spending.byCategory)
    (Saved.get analysis "spend_by_category")

/-- What a verified status comes from. -/
theorem verified_cases {context : DecimalContext} {source : Source} {changed : Bool}
    {analysis : SavedDict} {maxRows : Int} {summary : ReconcileSummary}
    (answered : streamReconcile context source changed analysis maxRows = .ok summary)
    (verified : summary.status = .verified) :
    ∃ layout tally checks, fileLayout source analysis = some layout ∧
      tallyRows context layout maxRows.toNat {} source.csv.records = .ok (some tally) ∧
        checksOf context tally analysis = .ok checks ∧ checks.all Prod.snd = true := by
  unfold streamReconcile at answered
  split at answered
  · cases answered
  split at answered
  · cases answered
  split at answered
  · cases answered
    cases verified
  unfold fileLayout
  split at answered
  · cases answered
  · cases answered
    cases verified
  · cases answered
  · rename_i names headers named read
    rw [named, read]
    split at answered
    · cases answered
      cases verified
    · rename_i layout found
      refine ⟨layout, ?_⟩
      unfold scanRows at answered
      split at answered
      · cases answered
      · cases answered
        cases verified
      · rename_i tally scanned
        split at answered
        · cases answered
        · unfold compareTally at answered
          split at answered
          · cases answered
            cases verified
          · simp only [bind_eq_ok, pure_eq_ok] at answered
            obtain ⟨checks, compared, kpis, -, rfl⟩ := answered
            refine ⟨tally, checks, found, scanned, compared, ?_⟩
            by_contra failed
            simp only [failed] at verified
            cases verified

/-- What the checks are when they all hold. -/
structure ChecksHold (context : DecimalContext) (tally : Tally) (analysis : SavedDict) : Prop where
  row_count : CountHolds analysis "dataset" "row_count" tally.rowCount
  valid_amount_rows : CountHolds analysis "dataset" "valid_amount_rows" tally.validAmounts
  total_spending : ∃ kpis, Saved.section? analysis "kpis" = .ok kpis ∧
    close context tally.exactTotal (Saved.get kpis "total_spend") = .ok true
  supplier_count : CountHolds analysis "kpis" "supplier_count" tally.supplierTotals.entries.length
  category_count : CountHolds analysis "kpis" "category_count" tally.categoryTotals.entries.length
  supplier_breakdown : breakdownCheck context "supplier" tally.supplierTotals
    (Saved.get analysis "spend_by_supplier") = .ok true
  category_breakdown : breakdownCheck context "category" tally.categoryTotals
    (Saved.get analysis "spend_by_category") = .ok true

theorem checks_hold_iff {context : DecimalContext} {tally : Tally} {analysis : SavedDict} :
    (∃ checks, checksOf context tally analysis = .ok checks ∧ checks.all Prod.snd = true) ↔
      ChecksHold context tally analysis := by
  unfold checksOf
  simp only [bind_eq_ok, pure_eq_ok]
  constructor
  · rintro ⟨_, ⟨dataset, has_dataset, kpis, has_kpis, total, near, suppliers, by_supplier,
      categories, by_category, rfl⟩, all⟩
    simp only [List.all_cons, List.all_nil, Bool.and_true, Bool.and_eq_true] at all
    obtain ⟨rows, valid, rfl, supplier_count, category_count, rfl, rfl⟩ := all
    exact ⟨⟨dataset, has_dataset, rows⟩, ⟨dataset, has_dataset, valid⟩, ⟨kpis, has_kpis, near⟩,
      ⟨kpis, has_kpis, supplier_count⟩, ⟨kpis, has_kpis, category_count⟩, by_supplier, by_category⟩
  · rintro ⟨⟨dataset, has_dataset, rows⟩, ⟨_, again, valid⟩, ⟨kpis, has_kpis, near⟩,
      ⟨_, kpis_again, supplier_count⟩, ⟨_, kpis_third, category_count⟩, by_supplier, by_category⟩
    rw [has_dataset, Except.ok.injEq] at again
    rw [has_kpis, Except.ok.injEq] at kpis_again kpis_third
    subst again kpis_again kpis_third
    refine ⟨_, ⟨_, has_dataset, _, has_kpis, _, near, _, by_supplier, _, by_category, rfl⟩, ?_⟩
    simp [rows, valid, supplier_count, category_count]

omit [UnicodeDatabase] in
theorem groups_length (pairs : List (String × Rat)) :
    (groupSums pairs).entries.length = (pairs.map Prod.fst).dedup.length := by
  have keys := (keys_groupSums pairs).length_eq
  unfold Dict.keys at keys
  rw [List.length_map] at keys
  exact keys

/-- Where the digits suffice, a verified analysis is sound if and only if its breakdowns are lists
    of dictionaries of different names. -/
theorem verified_sound_iff {source : Source} {changed : Bool} {analysis : SavedDict}
    {maxRows : Int} {summary : ReconcileSummary}
    (answered : streamReconcile defaultContext source changed analysis maxRows = .ok summary)
    (verified : summary.status = .verified)
    (digits : ∀ layout, fileLayout source analysis = some layout →
      DigitsSuffice defaultContext source analysis layout) :
    VerdictSound source analysis ↔
      ListedOnce "supplier" (Saved.get analysis "spend_by_supplier") ∧
        ListedOnce "category" (Saved.get analysis "spend_by_category") := by
  obtain ⟨layout, tally, checks, found, scanned, compared, all⟩ := verified_cases answered verified
  obtain ⟨sums, total_exact, suppliers_exact, categories_exact⟩ := digits layout found
  have scan := @tallyRows_of _ defaultContext layout maxRows.toNat 0 [] source.csv.records
    sums (Nat.zero_le _)
  have start : Tally.of 0 [] = {} := rfl
  rw [start, scanned, Except.ok.injEq] at scan
  split at scan
  case isFalse => cases scan
  rw [Option.some.injEq, Nat.zero_add, List.nil_append] at scan
  subst scan
  obtain ⟨rows, valid, ⟨kpis, has_kpis, near⟩, supplier_count, category_count, by_supplier,
    by_category⟩ := checks_hold_iff.mp ⟨checks, compared, all⟩
  rw [← breakdown_sound_iff by_supplier suppliers_exact,
    ← breakdown_sound_iff by_category categories_exact]
  have total := (close_iff (total_exact kpis has_kpis)).mp near
  simp only [Tally.of, groups_length, List.map_map] at supplier_count category_count
  constructor
  · rintro ⟨layout', found', sound⟩
    obtain rfl : layout = layout' := Option.some.inj (found.symm.trans found')
    exact ⟨sound.suppliers, sound.categories⟩
  · rintro ⟨suppliers, categories⟩
    exact ⟨layout, found, rows, valid, supplier_count, category_count, ⟨kpis, has_kpis, total⟩,
      suppliers, categories⟩

end verdict

/-! One purchase, and analyses of it. -/

def onePurchase : Source where
  path := "spend.csv"
  suffix := ".csv"
  fileExists := true
  isFile := true
  sizeBytes := 40
  modifiedNs := 0
  csv := { headers := .ok ["supplier", "category", "amount"], records := [["Acme", "IT", "40"]]
           failure := none }

/-- An analysis of it that is right but for the suppliers. -/
def analysisWith (suppliers : List Saved) : SavedDict :=
  [("dataset", .dict [("row_count", .int 1), ("valid_amount_rows", .int 1),
    ("resolved_columns", .dict [("amount", .str "amount"), ("supplier", .str "supplier"),
      ("category", .str "category")])]),
    ("kpis", .dict [("total_spend", .float (.finite 40)), ("supplier_count", .int 1),
      ("category_count", .int 1)]),
    ("spend_by_supplier", .list suppliers),
    ("spend_by_category", .list [.dict [("category", .str "IT"), ("spend", .float (.finite 40))]])]

def acme (spend : Rat) : Saved := .dict [("supplier", .str "Acme"), ("spend", .float (.finite spend))]

/-- The status of a run that is evaluated. -/
theorem run_of_status [UnicodeDatabase] {run : Except AnalysisError ReconcileSummary}
    {status : ReconcileStatus}
    (evaluated : run.toOption.map ReconcileSummary.status = some status) :
    ∃ summary, run = .ok summary ∧ summary.status = status := by
  cases run with
  | error e => cases evaluated
  | ok summary => exact ⟨summary, rfl, Option.some.inj evaluated⟩

theorem only_prefix {α : Type} {earlier : List α} {next only : α}
    (first : earlier ++ [next] <+: [only]) : earlier = [] ∧ next = only := by
  cases earlier with
  | nil =>
    rw [List.nil_append, List.cons_prefix_cons] at first
    exact ⟨rfl, first.1⟩
  | cons front rest =>
    have length := first.length_le
    simp at length

theorem forty_close [UnicodeDatabase] :
    CloseExact defaultContext 40 (.float (.finite 40)) := by
  intro figure read q member
  obtain rfl : (40 : Rat) = figure := Option.some.inj read
  have magnitude : |(40 : Rat)| = 40 := abs_of_pos (by norm_num)
  simp only [sub_self, abs_zero, magnitude, List.mem_cons, List.not_mem_nil, or_false] at member
  have zero : defaultContext 0 = .ok 0 := by decide +kernel
  have forty : defaultContext 40 = .ok 40 := by decide +kernel
  have relative : defaultContext (40 * (1 / 100000000)) = .ok (40 * (1 / 100000000)) := by
    decide +kernel
  rcases member with rfl | rfl | rfl | rfl
  · exact zero
  · exact zero
  · exact forty
  · exact relative

theorem forty_sums : SumsExact defaultContext [⟨"Acme", "IT", 40⟩] := by
  have forty : defaultContext 40 = .ok 40 := by decide +kernel
  constructor
  · intro earlier next first
    obtain ⟨rfl, rfl⟩ := only_prefix first
    simpa using forty
  · intro earlier next first
    obtain ⟨rfl, rfl⟩ := only_prefix first
    simpa [sumOf, Spending.bySupplier] using forty
  · intro earlier next first
    obtain ⟨rfl, rfl⟩ := only_prefix first
    simpa [sumOf, Spending.byCategory] using forty

theorem honest_entry_verified_sound :
    let _ := asciiDatabase
    VerdictSound onePurchase (analysisWith [acme 40]) := by
  intro _
  obtain ⟨summary, answered, verified⟩ := @run_of_status _
    (streamReconcile defaultContext onePurchase false (analysisWith [acme 40]) 10) .verified
    (by decide +kernel)
  have layout_is : fileLayout onePurchase (analysisWith [acme 40]) =
      some ⟨["supplier", "category", "amount"], "amount", "supplier", "category"⟩ := by
    decide
  have found : spendings ⟨["supplier", "category", "amount"], "amount", "supplier", "category"⟩
      onePurchase.csv.records = [⟨"Acme", "IT", 40⟩] := by decide +kernel
  apply (verified_sound_iff answered verified _).mpr
  · constructor
    · intro items listed
      obtain rfl : [acme 40] = items := Option.some.inj listed
      exact ⟨fun item member => ⟨_, List.mem_singleton.mp member⟩, List.nodup_singleton _⟩
    · intro items listed
      obtain rfl := Option.some.inj listed
      exact ⟨fun item member => ⟨_, List.mem_singleton.mp member⟩, List.nodup_singleton _⟩
  · intro layout is_layout
    obtain rfl := Option.some.inj (layout_is.symm.trans is_layout)
    constructor
    · rw [found]
      exact forty_sums
    · intro kpis has_kpis
      cases has_kpis
      rw [found]
      have total : totalSpending [⟨"Acme", "IT", 40⟩] = 40 := by simp [totalSpending]
      rw [total]
      exact forty_close
    · intro items listed entries member name named
      obtain rfl : [acme 40] = items := Option.some.inj listed
      cases List.mem_singleton.mp member
      cases named
      have sum : sumOf ([(⟨"Acme", "IT", 40⟩ : Spending)].map Spending.bySupplier) "Acme" = 40 := by
        simp [sumOf, Spending.bySupplier]
      rw [found, sum]
      exact forty_close
    · intro items listed entries member name named
      obtain rfl := Option.some.inj listed
      cases List.mem_singleton.mp member
      cases named
      have sum : sumOf ([(⟨"Acme", "IT", 40⟩ : Spending)].map Spending.byCategory) "IT" = 40 := by
        simp [sumOf, Spending.byCategory]
      rw [found, sum]
      exact forty_close

/-- A supplier that is listed twice is compared once. -/
theorem wrong_entry_is_verified :
    let _ := asciiDatabase
    ¬ ∀ source changed analysis maxRows summary,
      streamReconcile defaultContext source changed analysis maxRows = .ok summary →
        summary.status = .verified → VerdictSound source analysis := by
  intro _ sound
  have run : (streamReconcile defaultContext onePurchase false
      (analysisWith [acme 999, acme 40]) 10).toOption.map ReconcileSummary.status =
        some .verified := by decide +kernel
  cases answered : streamReconcile defaultContext onePurchase false
      (analysisWith [acme 999, acme 40]) 10 with
  | error e =>
    rw [answered] at run
    cases run
  | ok summary =>
    rw [answered] at run
    obtain ⟨layout, -, figures⟩ := sound _ _ _ _ summary answered (Option.some.inj run)
    have twice := (once_of_sound figures.suppliers [acme 999, acme 40] rfl).2
    exact absurd twice (by decide)

end Analytics
