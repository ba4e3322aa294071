import AeaiOs.RiskRules

/-!
The plan for the analysis of a dataset. It looks for the columns of a procurement dataset in a
table of aliases of its own, while the analysis reads the columns that `COLUMN_ALIASES` names.
-/
namespace Analytics
open PyText OrderedDict RiskScan

/-- How a set of texts is iterated; the order depends on the seed of the hashes. -/
structure SetOrder where
  iterate : List String → List String
  perm : ∀ texts, (iterate texts).Perm texts

inductive ColumnType where
  | unknown
  | integer
  | number
  | boolean
  | date
  | string
  deriving DecidableEq, Repr

/-- What a plan reads of `CsvColumnProfile`. -/
structure ColumnProfile where
  name : String
  inferredType : ColumnType
  uniqueCount : Nat
  deriving DecidableEq, Repr

/-- What a plan reads of `CsvDatasetProfile`. -/
structure DatasetProfile where
  rowCount : Nat
  columnCount : Nat
  columns : List ColumnProfile
  warnings : List String
  deriving DecidableEq, Repr

def DatasetProfile.names (profile : DatasetProfile) : List String :=
  profile.columns.map ColumnProfile.name

inductive AnalysisRecipe where
  | procurement
  | generic
  deriving DecidableEq, Repr

structure DatasetAnalysisPlan where
  recipe : AnalysisRecipe
  domain : String
  confidence : Rat
  measures : List String
  dimensions : List String
  timeColumns : List String
  identifiers : List String
  semanticMappings : Dict Role String
  goals : List String
  warnings : List String
  requiresClarification : Bool

/-- The score of a generic plan, which is computed in floating point. -/
class PlanRuntime extends UnicodeDatabase where
  score : (typed columnCount : Nat) → (measured : Bool) → Rat

section plans
variable [PlanRuntime]

/-! The roles of the columns. -/

def mappedRoles : List Role := [.supplier, .category, .amount, .date]

def requiredRoles : List Role := [.supplier, .category, .amount]

/-- `PROCUREMENT_ALIASES` -/
def procurementAliases : Role → List String
  | .supplier => ["supplier", "supplier_name", "vendor", "vendor_name"]
  | .category => ["category", "spend_category", "commodity", "procurement_category", "expense_type"]
  | .amount =>
      ["amount", "amount_gbp", "amount_usd", "amount_eur", "amount_inr", "spend_amount",
        "invoice_amount", "net_amount", "total_amount", "transaction_amount", "cost", "spend"]
  | .date =>
      ["date", "invoice_date", "transaction_date", "purchase_date", "payment_date", "posting_date"]
  | _ => []

/-- `normalized[alias].name`: of two columns with one normalized name the last is taken. -/
def namedColumn (names : List String) (name : String) : Option String :=
  names.reverse.find? fun column => normalizeColumnName column = name

def semanticPairs (order : SetOrder) (names : List String) : List (Role × String) :=
  mappedRoles.flatMap fun role =>
    (order.iterate (procurementAliases role)).filterMap fun name =>
      (namedColumn names name).map fun column => (role, column)

/-- The mappings; of two aliases that name a column the later in the order of the set wins. -/
def semanticMappings (order : SetOrder) (names : List String) : Dict Role String :=
  Dict.ofPairs (semanticPairs order names)

def procurementReady (mappings : Dict Role String) : Bool :=
  requiredRoles.all fun role => (mappings.get? role).isSome

def mentions (terms : List String) (lowered : Text) : Bool :=
  terms.any fun term => contains lowered term.toList

def procurementIntent (userTask : String) : Bool :=
  mentions ["procurement", "supplier", "vendor", "invoice", "spend"]
    (UnicodeDatabase.lower userTask.toList)

/-! The other columns. -/

def isIdentifier (column : ColumnProfile) (rowCount : Nat) : Bool :=
  let normalized := (normalizeColumnName column.name).toList
  let explicit := normalized == "id".toList || "_id".toList.isSuffixOf normalized ||
    contains normalized "identifier".toList
  let unique := decide (5 < rowCount) && decide (98 * rowCount ≤ 100 * column.uniqueCount)
  explicit || (unique && mentions ["code", "number", "key"] normalized)

def looksTemporal (name : String) : Bool :=
  mentions ["date", "time", "timestamp", "month", "year"] (normalizeColumnName name).toList

def analysisGoals (task : String) : List String :=
  let lowered := UnicodeDatabase.lower task.toList
  let candidates : List (String × List String) :=
    [ ("quality", ["quality", "missing", "clean"]),
      ("summary", ["analyze", "analysis", "summary", "kpi", "dashboard", "report"]),
      ("trend", ["trend", "over time", "forecast", "growth"]),
      ("segments", ["segment", "group", "breakdown", "compare"]),
      ("outliers", ["outlier", "anomaly", "unusual", "risk"]),
      ("relationships", ["correlation", "relationship", "driver"])]
  let goals := (candidates.filter fun candidate => mentions candidate.2 lowered).map Prod.fst
  if goals.isEmpty then ["quality", "summary", "segments", "outliers"] else goals

def genericConfidence (profile : DatasetProfile) (measures : List String) : Rat :=
  if profile.rowCount = 0 then 1 / 5
  else
    PlanRuntime.score (profile.columns.countP fun column => column.inferredType ≠ .unknown)
      (max profile.columnCount 1) !measures.isEmpty

def chosenRecipe (preferredRecipe : Option AnalysisRecipe) (ready : Bool) (userTask : String) :
    AnalysisRecipe :=
  if preferredRecipe = some .procurement ∨ (ready && procurementIntent userTask) = true then
    .procurement
  else .generic

def missingColumns (mappings : Dict Role String) : String :=
  let roles := [("amount", Role.amount), ("category", .category), ("supplier", .supplier)]
  "Procurement analysis requires semantic columns for: " ++ ", ".intercalate
    ((roles.filter fun role => (mappings.get? role.2).isNone).map Prod.fst)

def planOf (profile : DatasetProfile) (userTask : String) (recipe : AnalysisRecipe)
    (mappings : Dict Role String) : DatasetAnalysisPlan :=
  let columns := profile.columns
  let identifiers := (columns.filter fun column => isIdentifier column profile.rowCount).map
    ColumnProfile.name
  let timeColumns := (columns.filter fun column =>
    decide (column.inferredType = .date) || looksTemporal column.name).map ColumnProfile.name
  let measures := (columns.filter fun column =>
    decide (column.inferredType ∈ [.integer, .number]) && !identifiers.contains column.name &&
      !timeColumns.contains column.name).map ColumnProfile.name
  let dimensions := (columns.filter fun column =>
    !identifiers.contains column.name && !timeColumns.contains column.name &&
      !measures.contains column.name &&
        decide (column.uniqueCount ≤ max 20 (min (profile.rowCount / 2) 500))).map
    ColumnProfile.name
  let unmeasured := if measures.isEmpty then
    ["No numeric measures were detected; analysis will focus on counts and quality."] else []
  let untimed := if timeColumns.isEmpty then
    ["No time column was detected; trend analysis will be omitted."] else []
  { recipe
    domain := if recipe = .procurement then "procurement" else "general"
    confidence := if recipe = .procurement then 19 / 20 else genericConfidence profile measures
    measures := measures.take 20
    dimensions := dimensions.take 20
    timeColumns := timeColumns.take 10
    identifiers := identifiers.take 20
    semanticMappings := if recipe = .procurement then mappings else .empty
    goals := analysisGoals userTask
    warnings := profile.warnings ++ unmeasured ++ untimed
    requiresClarification := decide (profile.rowCount = 0) }

/-- `build_dataset_analysis_plan` -/
def buildDatasetAnalysisPlan (order : SetOrder) (profile : DatasetProfile) (userTask : String)
    (preferredRecipe : Option AnalysisRecipe) : Except String DatasetAnalysisPlan :=
  let mappings := semanticMappings order profile.names
  let ready := procurementReady mappings
  if preferredRecipe = some .procurement ∧ ready = false then .error (missingColumns mappings)
  else .ok (planOf profile userTask (chosenRecipe preferredRecipe ready userTask) mappings)

/-! What a plan maps. -/

theorem namedColumn_normalized {names : List String} {name column : String}
    (found : namedColumn names name = some column) : normalizeColumnName column = name := by
  have hit := List.find?_some found
  simpa using hit

omit [PlanRuntime] in
theorem find_tagged (tag role : Role) (columns : List String) :
    ((columns.map fun column => (tag, column)).reverse.find? fun pair => decide (pair.1 = role)) =
      if tag = role then columns.getLast?.map fun column => (tag, column) else none := by
  induction columns with
  | nil => simp
  | cons column rest ih =>
    rw [List.map_cons, List.reverse_cons, List.find?_append, ih]
    by_cases same : tag = role
    · simp only [same, if_true, List.getLast?_cons]
      cases rest.getLast? <;> simp
    · simp [same]

omit [PlanRuntime] in
theorem getLast?_filterMap {f : String → Option String} (texts : List String) :
    (texts.filterMap f).getLast? = texts.reverse.findSome? f := by
  induction texts with
  | nil => rfl
  | cons text rest ih =>
    rw [List.reverse_cons, List.findSome?_append, ← ih]
    cases read : f text with
    | none => simp [List.filterMap_cons_none read, read]
    | some value =>
      rw [List.filterMap_cons_some read, List.getLast?_cons]
      cases (rest.filterMap f).getLast? <;> simp [read]

/-- The plan takes the last alias of the set that names a column. -/
theorem get?_semanticMappings {order : SetOrder} {names : List String} {role : Role}
    (mapped : role ∈ mappedRoles) :
    (semanticMappings order names).get? role =
      (order.iterate (procurementAliases role)).reverse.findSome? (namedColumn names) := by
  have tagged : ∀ tag : Role, ((order.iterate (procurementAliases tag)).filterMap fun name =>
      (namedColumn names name).map fun column => (tag, column)) =
        ((order.iterate (procurementAliases tag)).filterMap (namedColumn names)).map fun column =>
          (tag, column) := fun tag => List.map_filterMap.symm
  unfold semanticMappings semanticPairs Dict.ofPairs
  rw [Dict.get?_foldl_set, Dict.get?_empty, Option.or_none]
  simp only [tagged, mappedRoles, List.flatMap_cons, List.flatMap_nil, List.append_nil,
    List.reverse_append, List.find?_append, find_tagged, getLast?_filterMap]
  simp only [mappedRoles, List.mem_cons, List.not_mem_nil, or_false] at mapped
  rcases mapped with rfl | rfl | rfl | rfl <;> simp [Function.comp_def]

theorem get?_unmapped {order : SetOrder} {names : List String} {role : Role} {column : String}
    (found : (semanticMappings order names).get? role = some column) : role ∈ mappedRoles := by
  have member := Dict.mem_of_get?_ofPairs found
  simp only [semanticPairs, List.mem_flatMap, List.mem_filterMap, Option.map_eq_some_iff] at member
  obtain ⟨tag, mapped, name, -, other, -, same⟩ := member
  rw [← (Prod.mk.inj same).1]
  exact mapped

/-- The aliases of a role by which a plan can find its column. -/
def matched (names : List String) (role : Role) : List String :=
  (procurementAliases role).filter fun name => (namedColumn names name).isSome

theorem mem_matched {names : List String} {role : Role} {name : String} :
    name ∈ matched names role ↔
      name ∈ procurementAliases role ∧ ∃ column, namedColumn names name = some column := by
  simp [matched, Option.isSome_iff_exists]

/-- Whatever the order of the set, a mapped column is that of a matched alias. -/
theorem matched_of_mapped {order : SetOrder} {names : List String} {role : Role} {column : String}
    (found : (semanticMappings order names).get? role = some column) :
    ∃ name ∈ matched names role, namedColumn names name = some column := by
  rw [get?_semanticMappings (get?_unmapped found)] at found
  obtain ⟨name, member, named⟩ := List.exists_of_findSome?_eq_some found
  rw [List.mem_reverse, (order.perm _).mem_iff] at member
  exact ⟨name, mem_matched.mpr ⟨member, column, named⟩, named⟩

theorem mapped_of_matched {names : List String} {role : Role} (mapped : role ∈ mappedRoles)
    {name : String} (member : name ∈ matched names role) (order : SetOrder) :
    ((semanticMappings order names).get? role).isSome := by
  obtain ⟨inside, column, named⟩ := mem_matched.mp member
  rw [get?_semanticMappings mapped, List.findSome?_isSome_iff]
  refine ⟨name, ?_, by simp [named]⟩
  rw [List.mem_reverse, (order.perm _).mem_iff]
  exact inside

/-- A set that is iterated with one text at the end. -/
def lastly (name : String) : SetOrder where
  iterate texts := if name ∈ texts then texts.erase name ++ [name] else texts
  perm texts := by
    by_cases member : name ∈ texts
    · rw [if_pos member]
      exact (List.perm_append_singleton name _).trans (List.perm_cons_erase member).symm
    · rw [if_neg member]

theorem lastly_mapped {names : List String} {role : Role} (mapped : role ∈ mappedRoles)
    {name column : String} (inside : name ∈ procurementAliases role)
    (named : namedColumn names name = some column) :
    (semanticMappings (lastly name) names).get? role = some column := by
  rw [get?_semanticMappings mapped]
  simp [lastly, inside, named]

/-! When both choose the same columns. -/

/-- An analysis of the dataset finds its columns, and they are those of the plan. -/
def RoutesAlike (order : SetOrder) (profile : DatasetProfile) (userTask : String)
    (preferredRecipe : Option AnalysisRecipe) : Prop :=
  ∀ plan, buildDatasetAnalysisPlan order profile userTask preferredRecipe = .ok plan →
    plan.recipe = .procurement →
      (∀ role ∈ requiredRoles, (resolveColumn profile.names role).isSome) ∧
        ∀ role column, plan.semanticMappings.get? role = some column →
          resolveColumn profile.names role = some column

/-- The procurement recipe is wanted, and its columns are there. -/
def ChoosesProcurement (profile : DatasetProfile) (userTask : String)
    (preferredRecipe : Option AnalysisRecipe) : Prop :=
  (∀ role ∈ requiredRoles, matched profile.names role ≠ []) ∧
    (preferredRecipe = some .procurement ∨ procurementIntent userTask = true)

/-- No role has two matched aliases, or one that the analysis does not know. -/
def Unambiguous (names : List String) : Prop :=
  ∀ role ∈ mappedRoles, ∀ name ∈ matched names role,
    name ∈ role.aliases ∧ ∀ other ∈ matched names role, other = name

omit [PlanRuntime] in
theorem requiredRoles_mapped : ∀ role ∈ requiredRoles, role ∈ mappedRoles := by decide

theorem ready_iff {order : SetOrder} {names : List String} :
    procurementReady (semanticMappings order names) = true ↔
      ∀ role ∈ requiredRoles, matched names role ≠ [] := by
  unfold procurementReady
  rw [List.all_eq_true]
  constructor
  · intro ready role required
    obtain ⟨column, found⟩ := Option.isSome_iff_exists.mp (ready role required)
    obtain ⟨name, member, -⟩ := matched_of_mapped found
    exact List.ne_nil_of_mem member
  · intro present role required
    obtain ⟨name, member⟩ := List.exists_mem_of_ne_nil _ (present role required)
    exact mapped_of_matched (requiredRoles_mapped role required) member order

theorem chosen_of_built {order : SetOrder} {profile : DatasetProfile} {userTask : String}
    {preferredRecipe : Option AnalysisRecipe} {plan : DatasetAnalysisPlan}
    (built : buildDatasetAnalysisPlan order profile userTask preferredRecipe = .ok plan)
    (chosen : plan.recipe = .procurement) :
    ChoosesProcurement profile userTask preferredRecipe ∧
      plan.semanticMappings = semanticMappings order profile.names := by
  simp only [buildDatasetAnalysisPlan] at built
  split at built
  · cases built
  · rename_i possible
    rw [← Except.ok.inj built] at chosen ⊢
    have recipe : chosenRecipe preferredRecipe
        (procurementReady (semanticMappings order profile.names)) userTask = .procurement := chosen
    have wanted : preferredRecipe = some .procurement ∨
        (procurementReady (semanticMappings order profile.names) &&
          procurementIntent userTask) = true := by
      by_contra unwanted
      rw [chosenRecipe, if_neg unwanted] at recipe
      cases recipe
    refine ⟨?_, by simp [planOf, recipe]⟩
    rw [Bool.and_eq_true] at wanted
    have ready : procurementReady (semanticMappings order profile.names) = true := by
      rcases wanted with preferred | both
      · by_contra unready
        exact possible ⟨preferred, Bool.not_eq_true _ ▸ unready⟩
      · exact both.1
    exact ⟨ready_iff.mp ready, wanted.imp_right And.right⟩

theorem built_of_chosen {profile : DatasetProfile} {userTask : String}
    {preferredRecipe : Option AnalysisRecipe}
    (chooses : ChoosesProcurement profile userTask preferredRecipe) (order : SetOrder) :
    ∃ plan, buildDatasetAnalysisPlan order profile userTask preferredRecipe = .ok plan ∧
      plan.recipe = .procurement ∧
        plan.semanticMappings = semanticMappings order profile.names := by
  have ready := (@ready_iff _ order profile.names).mpr chooses.1
  have wanted : chosenRecipe preferredRecipe true userTask = .procurement := by
    rw [chosenRecipe, Bool.true_and, if_pos chooses.2]
  simp only [buildDatasetAnalysisPlan, ready, wanted, reduceCtorEq, and_false, if_false]
  exact ⟨_, rfl, rfl, by simp [planOf]⟩

omit [PlanRuntime] in
/-- The analysis knows the aliases of the plan first. -/
theorem aliases_split (role : Role) :
    ∀ name ∈ role.aliases.dropWhile fun name => decide (name ∈ procurementAliases role),
      name ∉ procurementAliases role := by
  cases role <;> decide

/-- A role with one matched alias is resolved to the column of that alias. -/
theorem resolved_of_unambiguous {names : List String} {role : Role} {name column : String}
    (member : name ∈ matched names role) (known : name ∈ role.aliases)
    (alone : ∀ other ∈ matched names role, other = name)
    (named : namedColumn names name = some column) : resolveColumn names role = some column := by
  have inside := (mem_matched.mp member).1
  have first : name ∈ role.aliases.takeWhile fun name => decide (name ∈ procurementAliases role) := by
    rw [← List.takeWhile_append_dropWhile (p := fun name => decide (name ∈ procurementAliases role))
      (l := role.aliases), List.mem_append] at known
    rcases known with before | after
    · exact before
    · exact absurd inside (aliases_split role name after)
  have whole : resolveColumn names role = role.aliases.findSome? (namedColumn names) := rfl
  rw [whole, ← List.takeWhile_append_dropWhile
    (p := fun name => decide (name ∈ procurementAliases role)) (l := role.aliases),
    List.findSome?_append]
  cases search : (role.aliases.takeWhile fun name =>
      decide (name ∈ procurementAliases role)).findSome? (namedColumn names) with
  | none =>
    have absent := List.findSome?_eq_none_iff.mp search name first
    rw [named] at absent
    cases absent
  | some other =>
    obtain ⟨hit, listed, read⟩ := List.exists_of_findSome?_eq_some search
    have accepted := List.mem_takeWhile_imp listed
    have same := alone hit (mem_matched.mpr ⟨by simpa using accepted, other, read⟩)
    rw [same, named] at read
    rw [read, Option.some_or]

theorem resolved_normalized {names : List String} {role : Role} {column : String}
    (resolved : resolveColumn names role = some column) :
    normalizeColumnName column ∈ role.aliases := by
  obtain ⟨name, member, named⟩ := List.exists_of_findSome?_eq_some resolved
  rw [namedColumn_normalized named]
  exact member

/-- In every order of the sets of aliases, the plan and the analysis choose the same columns,
    exactly if a plan that is of the procurement recipe has for no role two matched aliases, or
    one that the analysis does not know. -/
theorem routes_alike_iff (profile : DatasetProfile) (userTask : String)
    (preferredRecipe : Option AnalysisRecipe) :
    (∀ order, RoutesAlike order profile userTask preferredRecipe) ↔
      (ChoosesProcurement profile userTask preferredRecipe → Unambiguous profile.names) := by
  constructor
  · intro alike chooses role mapped name member
    -- whichever matched alias is iterated last, its column is the one resolved
    have resolved : ∀ other ∈ matched profile.names role, ∃ column,
        normalizeColumnName column = other ∧ resolveColumn profile.names role = some column := by
      intro other listed
      obtain ⟨inside, column, named⟩ := mem_matched.mp listed
      obtain ⟨plan, built, recipe, mappings⟩ := built_of_chosen chooses (lastly other)
      have found := lastly_mapped mapped inside named
      rw [← mappings] at found
      exact ⟨column, namedColumn_normalized named, (alike _ plan built recipe).2 role column found⟩
    obtain ⟨column, normalized, found⟩ := resolved name member
    constructor
    · rw [← normalized]
      exact resolved_normalized found
    · intro other listed
      obtain ⟨column', normalized', found'⟩ := resolved other listed
      rw [found, Option.some.injEq] at found'
      rw [← normalized', ← found', normalized]
  · intro unambiguous order plan built recipe
    obtain ⟨chooses, mappings⟩ := chosen_of_built built recipe
    have same : ∀ role column, plan.semanticMappings.get? role = some column →
        resolveColumn profile.names role = some column := by
      intro role column found
      rw [mappings] at found
      obtain ⟨name, member, named⟩ := matched_of_mapped found
      obtain ⟨known, alone⟩ := unambiguous chooses role (get?_unmapped found) name member
      exact resolved_of_unambiguous member known alone named
    refine ⟨?_, same⟩
    intro role required
    obtain ⟨name, member⟩ := List.exists_mem_of_ne_nil _ (chooses.1 role required)
    have mapped := mapped_of_matched (requiredRoles_mapped role required) member order
    obtain ⟨column, found⟩ := Option.isSome_iff_exists.mp mapped
    rw [same role column (mappings ▸ found)]
    rfl

end plans

abbrev asciiRuntime : PlanRuntime where
  toUnicodeDatabase := asciiDatabase
  score _ _ := 17 / 20

/-- A dataset whose amounts are in dollars. -/
def dollarProfile : DatasetProfile where
  rowCount := 1
  columnCount := 3
  columns := [⟨"Supplier", .string, 1⟩, ⟨"Category", .string, 1⟩, ⟨"Amount USD", .number, 1⟩]
  warnings := []

/-- Amounts in dollars are planned for, and then missed by the analysis. -/
theorem dollars_are_missed :
    let _ := asciiRuntime
    ¬ ∀ order, RoutesAlike order dollarProfile "Review procurement spend" none := by
  intro _ alike
  have chooses : ChoosesProcurement dollarProfile "Review procurement spend" none := by
    constructor
    · decide
    · right
      decide
  obtain ⟨plan, built, recipe, -⟩ := built_of_chosen chooses (lastly "")
  have found := (alike _ plan built recipe).1 .amount (by decide)
  have missed : resolveColumn dollarProfile.names .amount = none := by decide
  rw [missed] at found
  cases found

end Analytics
