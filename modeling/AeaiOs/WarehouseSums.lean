import AeaiOs.Lib.GroupSums
import AeaiOs.MoneyParsers

/-!
Sums by group of a table, as the CSV adapter computes them from its texts and as SQLite does
from the same texts in its columns.
-/
namespace Warehouse
open PyText OrderedDict GroupSums HalfEven RiskScan Analytics

/-! Sums of floats in exact arithmetic. -/

def plus : PyFloat → PyFloat → PyFloat
  | .finite a, .finite b => .finite (a + b)
  | .finite _, .infinite n => .infinite n
  | .infinite n, .finite _ => .infinite n
  | .infinite n, .infinite m => if n = m then .infinite n else .nan
  | .nan, _ => .nan
  | _, .nan => .nan

instance : Add PyFloat := ⟨plus⟩

instance : Zero PyFloat := ⟨.finite 0⟩

theorem plus_comm (a b : PyFloat) : a + b = b + a := by
  change plus a b = plus b a
  cases a with
  | finite a =>
    cases b with
    | finite b => simp [plus, add_comm]
    | infinite m => rfl
    | nan => rfl
  | infinite n =>
    cases b with
    | finite b => rfl
    | infinite m => cases n <;> cases m <;> rfl
    | nan => rfl
  | nan => cases b <;> rfl

theorem plus_assoc (a b c : PyFloat) : a + b + c = a + (b + c) := by
  change plus (plus a b) c = plus a (plus b c)
  rcases a with a | n | _ <;> rcases b with b | m | _ <;> rcases c with c | k | _
  case finite.finite.finite => simp [plus, add_assoc]
  all_goals first
    | rfl
    | (cases n <;> cases m <;> cases k <;> rfl)
    | (cases m <;> cases k <;> rfl)
    | (cases n <;> cases m <;> rfl)

theorem zero_plus (a : PyFloat) : 0 + a = a := by
  change plus (.finite 0) a = a
  cases a <;> simp [plus]

instance : AddCommMonoid PyFloat where
  add_assoc := plus_assoc
  zero_add := zero_plus
  add_zero a := (plus_comm a 0).trans (zero_plus a)
  add_comm := plus_comm
  nsmul := nsmulRec

def finiteHom : Rat →+ PyFloat where
  toFun := .finite
  map_zero' := rfl
  map_add' _ _ := rfl

/-! The two queries. -/

/-- The cells of the group column and of the value column, as they are stored. -/
structure StoredRow where
  group : Option String
  value : Option String

def missingLabel : String := "<missing>"

/-- What the CSV adapter has for a cell: a missing one is an empty text. -/
def csvText (cell : Option String) : String := cell.getD ""

section csv
variable [UnicodeDatabase]

/-- `float(value.replace(",", ""))`, where the loop does not skip the row -/
def csvAmount (cell : Option String) : Option PyFloat :=
  if isMissing (csvText cell) then none
  else floatOf .finite ((csvText cell).toList.filter (· ≠ ','))

def csvLabel (cell : Option String) : String :=
  if isMissing (csvText cell) then missingLabel else csvText cell

def csvPairs (rows : List StoredRow) : List (String × PyFloat) :=
  rows.filterMap fun row => (csvAmount row.value).map fun amount => (csvLabel row.group, amount)

/-- `CsvDatasetAdapter.aggregate_sum_by`, up to the order of its keys -/
def csvAggregate (rows : List StoredRow) : Dict String PyFloat := groupSums (csvPairs rows)

end csv

/-- The digits at the front of a text. -/
def frontDigits (s : Text) : List Nat × Text :=
  ((s.takeWhile Char.isDigit).map fun c => c.toNat - '0'.toNat, s.dropWhile Char.isDigit)

/-- The exponent at the front of a text; a letter without digits after it is none. -/
def frontExponent : Text → Int
  | c :: rest =>
      if c = 'e' ∨ c = 'E' then
        let (negative, s) := takeSign rest
        let magnitude : Int := natOf (frontDigits s).1
        if negative then -magnitude else magnitude
      else 0
  | [] => 0

/-- `CAST(text AS REAL)`: the longest numeric prefix after white space, and zero without one -/
def castReal (text : String) : Rat :=
  let s := text.toList.dropWhile fun c => c = ' ' ∨ (9 ≤ c.toNat ∧ c.toNat ≤ 13)
  let (negative, s) := takeSign s
  let (whole, s) := frontDigits s
  let (fraction, s) :=
    match s with
    | '.' :: rest => frontDigits rest
    | _ => ([], s)
  if whole.isEmpty && fraction.isEmpty then 0
  else
    let magnitude : Int := natOf (whole ++ fraction)
    Decimal.value ⟨if negative then -magnitude else magnitude, frontExponent s - fraction.length⟩

/-- The rows with a value, by their groups. -/
def castPairs (rows : List StoredRow) : List (Option String × Rat) :=
  rows.filterMap fun row => row.value.map fun value => (row.group, castReal value)

/-- `COALESCE(CAST(group AS TEXT), '<missing>')` -/
def sqlLabel (group : Option String) : String := group.getD missingLabel

def labelled (entry : Option String × Rat) : String × Rat := (sqlLabel entry.1, entry.2)

/-- The rows that the statement may return: a group for each value of the column, NULL among
    them, in the order of the labels. -/
structure StatementRows (rows : List StoredRow) (result : List (String × Rat)) : Prop where
  groups : result.Perm ((groupSums (castPairs rows)).entries.map labelled)
  ordered : result.Pairwise fun first second => first.1 ≤ second.1

/-- `SqliteWarehouseConnector.aggregate_sum_by` of the rows of its statement -/
def sqliteAggregate (result : List (String × Rat)) : Dict String Rat := Dict.ofPairs result

section agreement
variable [UnicodeDatabase]

/-- Both engines give every label the same sum. -/
def EnginesAgree (rows : List StoredRow) : Prop :=
  ∀ result, StatementRows rows result → ∀ label,
    (csvAggregate rows).get? label = ((sqliteAggregate result).get? label).map .finite

/-- A row whose value is stored has a number that both read alike, and a group that is NULL or
    not a text for a missing one. -/
def StoredRow.ReadAlike (row : StoredRow) : Prop :=
  ∀ value, row.value = some value →
    csvAmount (some value) = some (.finite (castReal value)) ∧
      ∀ group, row.group = some group → isMissing group = false

/-- Two groups of one label have no amounts but zeros. -/
def LabelsApart (rows : List StoredRow) : Prop :=
  ∀ row ∈ rows, ∀ other ∈ rows, row.group ≠ other.group →
    sqlLabel row.group = sqlLabel other.group → other.value ≠ none →
    ∀ value, row.value = some value → castReal value = 0

structure CellsAlike (rows : List StoredRow) : Prop where
  cells : ∀ row ∈ rows, row.ReadAlike
  labels : LabelsApart rows

omit [UnicodeDatabase] in
theorem sumOf_hom {κ : Type} [DecidableEq κ] (pairs : List (κ × Rat)) (key : κ) :
    sumOf (pairs.map fun pair => (pair.1, PyFloat.finite pair.2)) key =
      .finite (sumOf pairs key) := by
  induction pairs with
  | nil => rfl
  | cons pair rest ih =>
    rw [List.map_cons, sumOf_cons, sumOf_cons, ih]
    by_cases same : pair.1 = key
    · simp only [same, if_true]
      exact (finiteHom.map_add _ _).symm
    · simp [same]

omit [UnicodeDatabase] in
/-- Merging the groups of one label keeps a sum if what joins it is zero. -/
theorem sumOf_labelled {pairs : List (Option String × Rat)} {key : Option String}
    (others : ∀ pair ∈ pairs, sqlLabel pair.1 = sqlLabel key → pair.1 ≠ key → pair.2 = 0) :
    sumOf (pairs.map labelled) (sqlLabel key) = sumOf pairs key := by
  induction pairs with
  | nil => rfl
  | cons pair rest ih =>
    have later := ih fun other member => others other (List.mem_cons_of_mem _ member)
    rw [List.map_cons, sumOf_cons, sumOf_cons, later]
    by_cases same : pair.1 = key
    · simp [labelled, same]
    · by_cases joined : sqlLabel pair.1 = sqlLabel key
      · simp [labelled, same, joined, others pair (by simp) joined same]
      · simp [labelled, same, joined]

theorem isMissing_empty : isMissing "" = true := by
  have blank : UnicodeDatabase.lower (stripText "".toList) = [] :=
    UnicodeDatabase.lower_ascii [] (by simp)
  unfold isMissing
  rw [blank]
  decide

theorem isMissing_missingLabel : isMissing missingLabel = false := by
  have stripped : stripText missingLabel.toList = missingLabel.toList := by decide
  have ascii : ∀ c ∈ missingLabel.toList, isAscii c = true := by
    exact List.all_eq_true.mp (by decide)
  have lowered : UnicodeDatabase.lower missingLabel.toList = missingLabel.toList := by
    rw [UnicodeDatabase.lower_ascii _ ascii]
    decide
  unfold isMissing
  rw [stripped, lowered]
  decide

theorem csvAmount_none : csvAmount none = none := by
  simp [csvAmount, csvText, isMissing_empty]

theorem csvLabel_eq_iff (group : Option String) :
    csvLabel group = sqlLabel group ↔ ∀ text, group = some text → isMissing text = false := by
  cases group with
  | none => simp [csvLabel, csvText, isMissing_empty, sqlLabel]
  | some text =>
    simp only [csvLabel, csvText, sqlLabel, Option.getD_some, Option.some.injEq, forall_eq']
    by_cases missing : isMissing text = true
    · simp only [missing, if_true, Bool.true_eq_false, iff_false]
      intro same
      rw [← same, isMissing_missingLabel] at missing
      cases missing
    · simp [missing]

theorem csvPairs_alike {rows : List StoredRow} (alike : ∀ row ∈ rows, row.ReadAlike) :
    csvPairs rows = ((castPairs rows).map labelled).map fun pair =>
      (pair.1, PyFloat.finite pair.2) := by
  induction rows with
  | nil => rfl
  | cons row rest ih =>
    have later := ih fun other member => alike other (List.mem_cons_of_mem _ member)
    have here := alike row (by simp)
    unfold csvPairs castPairs at later ⊢
    cases stored : row.value with
    | none => simpa [List.filterMap_cons, stored, csvAmount_none] using later
    | some value =>
      obtain ⟨amount, named⟩ := here value stored
      have label := (csvLabel_eq_iff row.group).mpr named
      simpa [List.filterMap_cons, stored, amount, label, labelled] using later

omit [UnicodeDatabase] in
theorem mem_castPairs {rows : List StoredRow} {pair : Option String × Rat} :
    pair ∈ castPairs rows ↔
      ∃ row ∈ rows, ∃ value, row.value = some value ∧ pair = (row.group, castReal value) := by
  simp only [castPairs, List.mem_filterMap, Option.map_eq_some_iff]
  constructor
  · intro ⟨row, member, value, stored, same⟩
    exact ⟨row, member, value, stored, same.symm⟩
  · intro ⟨row, member, value, stored, same⟩
    exact ⟨row, member, value, stored, same.symm⟩

omit [UnicodeDatabase] in
/-- What the statement returns for a label is the sum of all rows with that label. -/
theorem result_sum {rows : List StoredRow} {result : List (String × Rat)}
    (apart : LabelsApart rows) (permitted : StatementRows rows result) {pair : String × Rat}
    (member : pair ∈ result) : pair.2 = sumOf ((castPairs rows).map labelled) pair.1 := by
  obtain ⟨⟨key, total⟩, entry, rfl⟩ := List.mem_map.mp (permitted.groups.mem_iff.mp member)
  have stored := Dict.get?_of_mem_entries entry
  rw [get?_groupSums] at stored
  split at stored
  · rename_i present
    obtain ⟨first, inside, named⟩ := List.mem_map.mp present
    obtain ⟨other, known, value, has, rfl⟩ := mem_castPairs.mp inside
    cases named
    have zeros : ∀ pair ∈ castPairs rows, sqlLabel pair.1 = sqlLabel other.group →
        pair.1 ≠ other.group → pair.2 = 0 := by
      intro pair listed same different
      obtain ⟨row, here, text, holds, rfl⟩ := mem_castPairs.mp listed
      exact apart row here other known different same (by simp [has]) text holds
    have merged := sumOf_labelled zeros
    simp only [labelled]
    rw [merged]
    exact (Option.some.inj stored).symm
  · cases stored

omit [UnicodeDatabase] in
theorem result_labels {rows : List StoredRow} {result : List (String × Rat)}
    (permitted : StatementRows rows result) (label : String) :
    label ∈ ((castPairs rows).map labelled).map Prod.fst ↔ ∃ total, (label, total) ∈ result := by
  have keys : ∀ key, key ∈ (castPairs rows).map Prod.fst ↔
      ∃ total, (key, total) ∈ (groupSums (castPairs rows)).entries := by
    intro key
    rw [← mem_keys_groupSums]
    simp [Dict.keys]
  simp only [permitted.groups.mem_iff, List.mem_map, Prod.exists]
  constructor
  · intro found
    obtain ⟨name, amount, ⟨key, value, member, same⟩, is⟩ := found
    obtain ⟨total, entry⟩ := (keys key).mp (List.mem_map_of_mem member)
    cases same
    exact ⟨total, key, total, entry, by rw [← is]; rfl⟩
  · intro found
    obtain ⟨total, key, sum, entry, same⟩ := found
    obtain ⟨⟨_, value⟩, member, rfl⟩ := List.mem_map.mp ((keys key).mpr ⟨sum, entry⟩)
    cases same
    exact ⟨_, value, ⟨_, value, member, rfl⟩, rfl⟩

theorem agree_of_alike {rows : List StoredRow} (alike : CellsAlike rows) : EnginesAgree rows := by
  intro result permitted label
  have sums : ∀ pair ∈ result, pair.2 = sumOf ((castPairs rows).map labelled) pair.1 :=
    fun pair => result_sum alike.labels permitted
  have labels := result_labels permitted label
  unfold csvAggregate sqliteAggregate
  rw [csvPairs_alike alike.cells, get?_groupSums, sumOf_hom]
  have names : (((castPairs rows).map labelled).map fun pair =>
      (pair.1, PyFloat.finite pair.2)).map Prod.fst =
        ((castPairs rows).map labelled).map Prod.fst := by
    simp [Function.comp_def]
  rw [names]
  split
  · rename_i present
    obtain ⟨total, member⟩ := labels.mp present
    obtain ⟨found, answer⟩ := Dict.get?_ofPairs_of_mem member
    have same := sums (label, found) (Dict.mem_of_get?_ofPairs answer)
    rw [answer, ← same]
    rfl
  · rename_i absent
    cases answer : (Dict.ofPairs result).get? label with
    | none => rfl
    | some found =>
      exact absurd (labels.mpr ⟨found, Dict.mem_of_get?_ofPairs answer⟩) absent

/-- One row with a value tells whether it is read alike. -/
theorem alike_of_single {row : StoredRow} (agree : EnginesAgree [row]) : row.ReadAlike := by
  intro value stored
  have groups : (groupSums (castPairs [row])).entries = [(row.group, castReal value)] := by
    simp [castPairs, stored, groupSums, addAll, addTo, Dict.set, Dict.empty, Dict.get?,
      storeEntries, lookupEntries]
  have permitted : StatementRows [row] [(sqlLabel row.group, castReal value)] := by
    constructor
    · rw [groups]
      exact List.Perm.refl _
    · simp
  have answer := agree _ permitted (sqlLabel row.group)
  have sql : (sqliteAggregate [(sqlLabel row.group, castReal value)]).get? (sqlLabel row.group) =
      some (castReal value) := by
    simp [sqliteAggregate, Dict.ofPairs]
  rw [sql, csvAggregate, get?_groupSums] at answer
  cases read : csvAmount row.value with
  | none => simp [csvPairs, read] at answer
  | some amount =>
    have pairs : csvPairs [row] = [(csvLabel row.group, amount)] := by simp [csvPairs, read]
    rw [pairs] at answer
    by_cases label : csvLabel row.group = sqlLabel row.group
    · simp only [List.map_cons, List.map_nil, label, List.mem_singleton, if_true, Option.map_some,
        Option.some.injEq, sumOf_cons] at answer
      have alone : sumOf ([] : List (String × PyFloat)) (sqlLabel row.group) = 0 := rfl
      rw [alone, add_zero] at answer
      rw [← stored, read, answer]
      exact ⟨rfl, (csvLabel_eq_iff row.group).mp label⟩
    · simp [Ne.symm label] at answer

/-- Two rows of one label and different groups tell whether the first has no amount. -/
theorem zero_of_pair {row other : StoredRow} {value text : String}
    (agree : EnginesAgree [row, other]) (first : row.ReadAlike) (second : other.ReadAlike)
    (stored : row.value = some value) (alsoStored : other.value = some text)
    (different : row.group ≠ other.group) (same : sqlLabel row.group = sqlLabel other.group) :
    castReal value = 0 ∧ castReal text = 0 := by
  have groups : (groupSums (castPairs [row, other])).entries =
      [(row.group, castReal value), (other.group, castReal text)] := by
    simp [castPairs, stored, alsoStored, groupSums, addAll, addTo, Dict.set, Dict.empty, Dict.get?,
      storeEntries, lookupEntries, different]
  have pairs : castPairs [row, other] =
      [(row.group, castReal value), (other.group, castReal text)] := by
    simp [castPairs, stored, alsoStored]
  have sum : (csvAggregate [row, other]).get? (sqlLabel other.group) =
      some (.finite (castReal value + castReal text)) := by
    have alike : ∀ r ∈ [row, other], r.ReadAlike := by
      simpa using And.intro first second
    unfold csvAggregate
    rw [csvPairs_alike alike, get?_groupSums, sumOf_hom, pairs]
    simp [labelled, same, sumOf]
  have late : StatementRows [row, other] [(sqlLabel other.group, castReal value),
      (sqlLabel other.group, castReal text)] := by
    constructor
    · rw [groups]
      simp [labelled, same]
    · simp
  have early : StatementRows [row, other] [(sqlLabel other.group, castReal text),
      (sqlLabel other.group, castReal value)] := by
    constructor
    · rw [groups]
      simp only [List.map_cons, List.map_nil, labelled, same]
      exact List.Perm.swap _ _ _
    · simp
  have last := agree _ late (sqlLabel other.group)
  have front := agree _ early (sqlLabel other.group)
  rw [sum] at last front
  simp only [sqliteAggregate, Dict.ofPairs, List.foldl_cons, List.foldl_nil, Dict.get?_set_self,
    Option.map_some, Option.some.injEq, PyFloat.finite.injEq] at last front
  constructor
  · linarith
  · linarith

omit [UnicodeDatabase] in
theorem pair_sublist {α : Type} {l : List α} {a b : α} (first : a ∈ l) (second : b ∈ l)
    (different : a ≠ b) : [a, b].Sublist l ∨ [b, a].Sublist l := by
  obtain ⟨before, after, rfl⟩ := List.mem_iff_append.mp first
  rcases List.mem_append.mp second with early | late
  · refine .inr ?_
    have tail : [a].Sublist (a :: after) := List.singleton_sublist.mpr (by simp)
    exact (List.singleton_sublist.mpr early).append tail
  · have behind : b ∈ after := (List.mem_cons.mp late).resolve_left different.symm
    have pair : [a, b].Sublist (a :: after) := (List.singleton_sublist.mpr behind).cons_cons a
    exact .inl (pair.trans (List.sublist_append_right before _))

theorem alike_of_agree {rows : List StoredRow}
    (agree : ∀ sub : List StoredRow, sub.Sublist rows → EnginesAgree sub) : CellsAlike rows := by
  have cells : ∀ row ∈ rows, row.ReadAlike := by
    intro row member
    exact alike_of_single (agree [row] (List.singleton_sublist.mpr member))
  refine ⟨cells, ?_⟩
  intro row here other there different same has value stored
  obtain ⟨text, alsoStored⟩ := Option.ne_none_iff_exists'.mp has
  have apart : row ≠ other := fun equal => different (by rw [equal])
  rcases pair_sublist here there apart with inOrder | swapped
  · exact (zero_of_pair (agree _ inOrder) (cells row here) (cells other there) stored alsoStored
      different same).1
  · exact (zero_of_pair (agree _ swapped) (cells other there) (cells row here) alsoStored stored
      different.symm same.symm).2

theorem CellsAlike.sublist {rows sub : List StoredRow} (alike : CellsAlike rows)
    (inside : sub.Sublist rows) : CellsAlike sub := by
  constructor
  · intro row member
    exact alike.cells row (inside.subset member)
  · intro row here other there
    exact alike.labels row (inside.subset here) other (inside.subset there)

end agreement

def thousands : List StoredRow := [⟨some "East", some "1,200"⟩]

end Warehouse
