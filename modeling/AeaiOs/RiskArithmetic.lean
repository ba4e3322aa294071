import AeaiOs.RiskProgress
import AeaiOs.Lib.Checked64
import AeaiOs.Lib.ExceptLists

/-! The numbers of a risk scan: all of them, and all sums of them, have 64 bits. -/
namespace RiskScan
open PyText OrderedDict RunValues Checked64

/-! One amount. -/

theorem digitCount_ten {n : Int} (some : n ≠ 0) : digitCount (n * 10) = digitCount n + 1 := by
  have positive : 0 < n.natAbs := by omega
  have digits := Nat.toDigits_append_toDigits (b := 10) (d := 0) (by omega) positive (by omega)
  have length := congrArg List.length digits
  have same : (n * 10).natAbs = 10 * n.natAbs + 0 := by omega
  unfold digitCount
  rw [same, ← length, List.length_append]
  rfl

theorem digitCount_scale {n : Int} (some : n ≠ 0) : digitCount (n * 10000) = digitCount n + 4 := by
  have split : n * 10000 = n * 10 * 10 * 10 * 10 := by omega
  rw [split, digitCount_ten (by omega), digitCount_ten (by omega), digitCount_ten (by omega),
    digitCount_ten some]

theorem divideHalfEven_bound {n : Int} {d : Nat} {bound : Int} (positive : 0 < d)
    (small : |n| ≤ bound * d) : |divideHalfEven n d| ≤ bound := by
  have bounds := abs_le.mp small
  have parts := Int.mul_ediv_add_emod n d
  have rest := Int.emod_nonneg n (by omega : (d : Int) ≠ 0)
  have less := Int.emod_lt_of_pos n (by omega : (0 : Int) < d)
  unfold divideHalfEven
  dsimp only
  generalize n / (d : Int) = q at parts
  generalize n % (d : Int) = r at parts rest less
  have low : -bound ≤ q := by
    by_contra lower
    have next : q + 1 ≤ -bound := by omega
    have scaled := mul_le_mul_of_nonneg_left next (by omega : (0 : Int) ≤ d)
    nlinarith
  have high : q ≤ bound := by
    by_contra higher
    have next : bound + 1 ≤ q := by omega
    have scaled := mul_le_mul_of_nonneg_left next (by omega : (0 : Int) ≤ d)
    nlinarith
  have top : 0 < r → q + 1 ≤ bound := by
    intro some
    by_contra higher
    have same : q = bound := by omega
    rw [same] at parts
    nlinarith
  rw [abs_le]
  split
  · omega
  split
  · have more := top (by omega)
    omega
  split
  · omega
  · have more := top (by omega)
    omega

theorem divideHalfEven_scale (n : Int) {d k : Nat} (positive : 0 < k) :
    divideHalfEven (n * k) (d * k) = divideHalfEven n d := by
  have some : (k : Int) ≠ 0 := by omega
  have quotient : n * k / ((d * k : Nat) : Int) = n / d := by
    rw [Nat.cast_mul, Int.mul_ediv_mul_of_pos_left _ _ (by omega)]
  have rest : n * k % ((d * k : Nat) : Int) = n % d * k := by
    rw [Nat.cast_mul, mul_comm n, mul_comm (d : Int), Int.mul_emod_mul_of_pos _ _ (by omega), mul_comm]
  unfold divideHalfEven
  dsimp only
  rw [quotient, rest]
  have half : 2 * (n % (d : Int) * k) < ((d * k : Nat) : Int) ↔ 2 * (n % (d : Int)) < d := by
    rw [Nat.cast_mul, ← mul_assoc]
    exact mul_lt_mul_iff_left₀ (by omega)
  have over_half : ((d * k : Nat) : Int) < 2 * (n % (d : Int) * k) ↔ (d : Int) < 2 * (n % (d : Int)) := by
    rw [Nat.cast_mul, ← mul_assoc]
    exact mul_lt_mul_iff_left₀ (by omega)
  simp only [half, over_half]

theorem divideHalfEven_exact (n : Int) {d : Nat} (positive : 0 < d) :
    divideHalfEven (n * d) d = n := by
  unfold divideHalfEven
  rw [Int.mul_ediv_cancel _ (by omega), Int.mul_emod_left]
  simp [positive]

/-- Scaling by ten thousand shifts the rounded amount: its digits are the same, or the amount is
    short enough to keep them all. -/
theorem rounded_scale (x : Decimal) :
    ∃ j i : Nat, j + i = 4 ∧ Decimal.rounded ⟨x.coefficient * 10000, x.exponent⟩ =
      ⟨x.rounded.coefficient * 10 ^ j, x.rounded.exponent + i⟩ := by
  obtain ⟨c, e⟩ := x
  by_cases zero : c = 0
  · subst zero
    have digits : digitCount 0 - 28 = 0 := by decide
    refine ⟨4, 0, rfl, ?_⟩
    unfold Decimal.rounded
    simp [digits]
  have digits := digitCount_scale zero
  unfold Decimal.rounded
  dsimp only
  rw [digits]
  by_cases long : digitCount c - 28 = 0
  · rw [if_pos long]
    by_cases short : digitCount c + 4 - 28 = 0
    · rw [if_pos short]
      refine ⟨4, 0, rfl, ?_⟩
      simp
    · -- the digits that are rounded away are zeros
      rw [if_neg short]
      obtain ⟨k, split⟩ : ∃ k, digitCount c + 4 - 28 = k := ⟨_, rfl⟩
      have small : k ≤ 4 := by omega
      have parts : c * 10000 = c * 10 ^ (4 - k) * ((10 ^ k : Nat) : Int) := by
        have power : (10 : Int) ^ (4 - k) * 10 ^ k = 10000 := by
          rw [← pow_add, Nat.sub_add_cancel small]
          rfl
        rw [mul_assoc, Nat.cast_pow]
        push_cast
        rw [power]
      rw [split, parts, divideHalfEven_exact _ (by positivity)]
      exact ⟨4 - k, k, by omega, rfl⟩
  · have both : digitCount c + 4 - 28 ≠ 0 := by omega
    have more : digitCount c + 4 - 28 = digitCount c - 28 + 4 := by omega
    have same : divideHalfEven (c * 10000) (10 ^ (digitCount c - 28 + 4)) =
        divideHalfEven c (10 ^ (digitCount c - 28)) := by
      rw [pow_add]
      exact divideHalfEven_scale c (by omega : 0 < 10 ^ 4)
    rw [if_neg long, if_neg both, more, same]
    refine ⟨0, 4, rfl, ?_⟩
    simp [add_assoc]

def unitLimit : Int := 100000000000

/-- An amount that is not too large has units up to the limit. -/
theorem units_bound {x : Decimal} (small : x.tooLarge = false) : |x.units| ≤ unitLimit := by
  obtain ⟨j, i, sum, scaled⟩ := rounded_scale x
  unfold Decimal.units
  rw [scaled]
  unfold Decimal.tooLarge at small
  dsimp only at small ⊢
  generalize x.rounded.coefficient = m at small
  generalize x.rounded.exponent = f at small
  have powers : (10 : Int) ^ j * 10 ^ i = 10000 := by
    rw [← pow_add, sum]
    rfl
  by_cases whole : 0 ≤ f
  · obtain ⟨n, rfl⟩ := Int.eq_ofNat_of_zero_le whole
    have bound : |m| * 10 ^ n ≤ 10000000 := by
      rw [if_pos whole] at small
      by_cases zero : m = 0
      · simp [zero]
      · have both : 10000000 ≥ m.natAbs * 10 ^ n := by
          simp only [Bool.and_eq_false_iff, Bool.or_eq_false_iff, decide_eq_false_iff_not,
            Int.natAbs_eq_zero, zero, not_false_eq_true, not_true_eq_false, false_or,
            Int.toNat_natCast, not_lt, ne_eq] at small
          exact small.2
        rw [Int.abs_eq_natAbs]
        exact_mod_cast both
    have up : (0 : Int) ≤ n + i := by omega
    have exponent : ((n : Int) + i).toNat = n + i := by omega
    rw [if_pos up, exponent, abs_mul, abs_mul, abs_of_nonneg (by positivity : (0 : Int) ≤ 10 ^ j),
      abs_of_nonneg (by positivity : (0 : Int) ≤ 10 ^ (n + i)), pow_add]
    have same : |m| * 10 ^ j * (10 ^ n * 10 ^ i) = |m| * 10 ^ n * 10000 := by
      rw [← powers]
      ring
    rw [same]
    unfold unitLimit
    omega
  · obtain ⟨n, exponent⟩ : ∃ n : Nat, f = -n := ⟨(-f).toNat, by omega⟩
    subst exponent
    have bound : |m| ≤ 10000000 * 10 ^ n := by
      rw [if_neg whole] at small
      have fits : m.natAbs ≤ 10000000 * 10 ^ n := by simpa using small
      rw [Int.abs_eq_natAbs]
      exact_mod_cast fits
    by_cases up : (0 : Int) ≤ -n + i
    · obtain ⟨k, split⟩ : ∃ k, i = n + k := ⟨i - n, by omega⟩
      have exponent : (-(n : Int) + i).toNat = k := by omega
      rw [if_pos up, exponent, abs_mul, abs_mul, abs_of_nonneg (by positivity : (0 : Int) ≤ 10 ^ j),
        abs_of_nonneg (by positivity : (0 : Int) ≤ 10 ^ k)]
      rw [split, pow_add] at powers
      have scaled : |m| * (10 ^ j * 10 ^ k) ≤ 10000000 * 10 ^ n * (10 ^ j * 10 ^ k) :=
        mul_le_mul_of_nonneg_right bound (by positivity)
      have same : 10000000 * 10 ^ n * (10 ^ j * 10 ^ k) = (10000000 : Int) * 10000 := by
        rw [← powers]
        ring
      rw [same] at scaled
      rw [mul_assoc]
      exact scaled
    · obtain ⟨k, split⟩ : ∃ k, n = i + k := ⟨n - i, by omega⟩
      have exponent : (-(-(n : Int) + i)).toNat = k := by omega
      rw [if_neg up, exponent]
      apply divideHalfEven_bound (by positivity)
      rw [abs_mul, abs_of_nonneg (by positivity : (0 : Int) ≤ 10 ^ j)]
      have scaled : |m| * 10 ^ j ≤ 10000000 * 10 ^ n * 10 ^ j :=
        mul_le_mul_of_nonneg_right bound (by positivity)
      have same : 10000000 * 10 ^ n * 10 ^ j = unitLimit * ((10 ^ k : Nat) : Int) := by
        have limit : unitLimit = 10000000 * (10 ^ j * 10 ^ i) := by
          rw [powers]
          rfl
        rw [limit, split, pow_add]
        push_cast
        ring
      rw [← same]
      exact scaled

theorem amountUnits_bound [UnicodeDatabase] {raw : Option String} {units : Int}
    (found : amountUnits raw = some units) : |units| ≤ unitLimit := by
  unfold amountUnits at found
  obtain ⟨amount, _, answered⟩ := Option.bind_eq_some_iff.mp found
  split at answered
  · cases answered
  · rename_i small
    cases answered
    exact units_bound (by simpa using small)

/-! The bounds of a run. -/

/-- The greatest `AEAI_RISK_MAX_ROWS`. -/
def rowLimit : Nat := 10000000

structure Tally.Bounded (tally : Tally) : Prop where
  scanned : tally.scanned ≤ rowLimit
  sum : |tally.sumUnits| ≤ unitLimit * tally.scanned

structure RiskRow.Bounded (row : RiskRow) : Prop where
  first : 1 ≤ row.ordinal
  last : row.ordinal ≤ rowLimit
  amount : |row.amountUnits| ≤ unitLimit

/-- The rows differ in their primary key. -/
def Apart (a b : RiskRow) : Prop := ¬ (a.scanId = b.scanId ∧ a.ordinal = b.ordinal)

structure Locals.Bounded (locals : Locals) : Prop where
  tally : locals.tally.Bounded
  rows : ∀ row ∈ locals.batch, row.Bounded ∧ row.ordinal ≤ locals.tally.scanned
  ordered : locals.batch.Pairwise fun a b => a.ordinal < b.ordinal

/-- The rows of one scan. -/
structure BoundedRows (rows : List RiskRow) : Prop where
  each : ∀ row ∈ rows, |row.amountUnits| ≤ unitLimit
  length : rows.length ≤ rowLimit

def Phase.Bounded : Phase → Prop
  | .opening job => job.scan.tally.Bounded
  | .reading _ sheet locals _ => sheet.maxRows ≤ rowLimit ∧ locals.Bounded
  | .committing _ sheet locals _ _ => sheet.maxRows ≤ rowLimit ∧ locals.Bounded
  | .querying _ _ views _ => ∀ view ∈ views, BoundedRows view.2
  | _ => True

structure Db.Bounded (db : Db) : Prop where
  rows : ∀ row ∈ db.riskRows, row.Bounded
  keys : db.riskRows.Pairwise Apart
  scans : ∀ id scan, db.scans.get? id = some scan → scan.tally.Bounded

structure System.Bounded (s : System) : Prop where
  db : s.db.Bounded
  phases : ∀ worker, (s.phase worker).Bounded

/-- A scan has at most one row for each of its ordinals. -/
theorem Db.Bounded.rowsOf {db : Db} (bounded : db.Bounded) (id : String) :
    BoundedRows (db.rowsOf id) := by
  constructor
  · intro row member
    exact (bounded.rows row (List.mem_of_mem_filter member)).amount
  · have distinct : ((db.rowsOf id).map RiskRow.ordinal).Nodup := by
      rw [List.Nodup, List.pairwise_map]
      apply (bounded.keys.filter _).imp_of_mem
      intro a b left right apart same
      have first := of_decide_eq_true (List.mem_filter.mp left).2
      have second := of_decide_eq_true (List.mem_filter.mp right).2
      exact apart ⟨first.trans second.symm, same⟩
    have inside : (db.rowsOf id).map RiskRow.ordinal ⊆ List.range' 1 rowLimit := by
      intro ordinal member
      obtain ⟨row, found, rfl⟩ := List.mem_map.mp member
      have row := bounded.rows row (List.mem_of_mem_filter found)
      rw [List.mem_range'_1]
      have first := row.first
      have last := row.last
      omega
    have count := (List.subperm_of_subset distinct inside).length_le
    rw [List.length_map, List.length_range'] at count
    exact count

/-! Reading on. -/

section bounds
variable [ScanRuntime]

theorem riskRow_amount {id : String} {headers record : List String} {columns : Columns} {n : Nat}
    {row : RiskRow} (valid : riskRow id headers columns n record = some row) :
    |row.amountUnits| ≤ unitLimit := by
  unfold riskRow at valid
  obtain ⟨amount, found, rfl⟩ := Option.map_eq_some_iff.mp valid
  exact amountUnits_bound found

omit [ScanRuntime] in
theorem Tally.Bounded.count {tally : Tally} (bounded : tally.Bounded)
    (room : tally.scanned + 1 ≤ rowLimit) {entry : Option RiskRow}
    (small : ∀ row, entry = some row → |row.amountUnits| ≤ unitLimit) :
    (tally.count entry).Bounded := by
  have sum := bounded.sum
  have more : unitLimit * ((tally.scanned + 1 : Nat) : Int) = unitLimit * tally.scanned + unitLimit := by
    push_cast
    ring
  cases entry with
  | none =>
    constructor
    · exact room
    · have positive : 0 ≤ unitLimit := by decide
      change |tally.sumUnits| ≤ unitLimit * ((tally.scanned + 1 : Nat) : Int)
      rw [more]
      omega
  | some row =>
    constructor
    · exact room
    · have amount := small row rfl
      have total := abs_add_le tally.sumUnits row.amountUnits
      change |tally.sumUnits + row.amountUnits| ≤ unitLimit * ((tally.scanned + 1 : Nat) : Int)
      rw [more]
      omega

theorem Locals.Bounded.record {locals : Locals} (bounded : locals.Bounded)
    (room : locals.tally.scanned + 1 ≤ rowLimit) (id : String) (headers : List String)
    (columns : Columns) (cells : List String) :
    (locals.record (riskRow id headers columns (locals.tally.scanned + 1) cells)).Bounded := by
  have tally : (locals.record (riskRow id headers columns (locals.tally.scanned + 1)
      cells)).tally.Bounded := bounded.tally.count room fun row valid => riskRow_amount valid
  have scanned := record_scanned locals (riskRow id headers columns (locals.tally.scanned + 1) cells)
  refine ⟨tally, ?_, ?_⟩
  · rw [scanned]
    intro row member
    rcases List.mem_append.mp member with old | new
    · obtain ⟨row, before⟩ := bounded.rows row old
      exact ⟨row, by omega⟩
    · have valid := Option.mem_toList.mp new
      have ordinal := riskRow_ordinal valid
      have amount := riskRow_amount valid
      exact ⟨⟨by omega, by omega, amount⟩, by omega⟩
  · unfold Locals.record
    dsimp only
    rw [List.pairwise_append]
    refine ⟨bounded.ordered, ?_, ?_⟩
    · cases riskRow id headers columns (locals.tally.scanned + 1) cells with
      | none => exact .nil
      | some row => exact List.pairwise_singleton _ _
    · intro old member row new
      have before := (bounded.rows old member).2
      have ordinal := riskRow_ordinal (Option.mem_toList.mp new)
      omega

/-! The steps. -/

theorem openSource_bounded {env : Env} {job : Job} (limit : env.maxRows ≤ rowLimit)
    (bounded : job.scan.tally.Bounded) : (openSource env job).Bounded := by
  unfold openSource
  split
  · trivial
  split
  · trivial
  split
  · trivial
  split
  · trivial
  split
  · trivial
  · exact ⟨limit, bounded, nofun, .nil⟩

theorem readRecord_bounded {env : Env} {job : Job} {sheet : Sheet} {locals : Locals}
    {record : List String} {rest : List (List String)} (limit : sheet.maxRows ≤ rowLimit)
    (bounded : locals.Bounded) : (readRecord env job sheet locals record rest).Bounded := by
  unfold readRecord
  dsimp only
  split
  · trivial
  · rename_i room
    have next := bounded.record (by omega) job.id sheet.headers sheet.columns record
    split
    · exact ⟨limit, next.tally, next.rows, next.ordered⟩
    · exact ⟨limit, next⟩

theorem read_bounded {env : Env} {job : Job} {sheet : Sheet} {locals : Locals}
    {rest : List (List String)} {db : Db} (limit : sheet.maxRows ≤ rowLimit)
    (bounded : locals.Bounded) : (read env job sheet locals rest db).Bounded := by
  unfold read
  cases rest with
  | nil =>
    dsimp only
    split
    · trivial
    split
    · trivial
    · exact ⟨limit, bounded.tally, bounded.rows, bounded.ordered⟩
  | cons record after =>
    have next : (readRecord env job sheet locals record after).Bounded :=
      readRecord_bounded limit bounded
    dsimp only
    split
    · exact ⟨limit, bounded⟩
    split
    · split
      · trivial
      split
      · exact ⟨limit, bounded⟩
      split
      · exact ⟨limit, bounded⟩
      · exact next
    · exact next

/-- The next phase of a worker. -/
theorem work_phase_bounded {env : Env} {worker : String} {phase : Phase} {db : Db}
    (limit : env.maxRows ≤ rowLimit) (bounded : phase.Bounded) (store : db.Bounded) :
    (work env worker phase db).1.Bounded := by
  cases phase with
  | idle => trivial
  | opening job => exact openSource_bounded limit bounded
  | reading job sheet locals rest => exact read_bounded bounded.1 bounded.2
  | committing job sheet locals rest next =>
    unfold work
    dsimp only
    split
    · cases next with
      | leave exit => trivial
      | finish => trivial
      | checkpoint =>
        unfold afterCommit
        dsimp only
        split
        · trivial
        · exact ⟨bounded.1, bounded.2.tally, by simp, .nil⟩
    · trivial
  | leaving => trivial
  | checking job =>
    unfold work checkSource
    dsimp only
    split
    · trivial
    split
    · trivial
    split <;> trivial
  | reconciling job current =>
    unfold work reconcile
    dsimp only
    split
    · intro view member
      cases member
    · trivial
  | querying job current views pending =>
    cases pending with
    | nil =>
      unfold work conclude
      dsimp only
      split <;> trivial
    | cons query pending =>
      intro view member
      rcases List.mem_append.mp member with old | new
      · exact bounded view old
      · rw [List.mem_singleton.mp new]
        exact store.rowsOf job.id
  | publishing => trivial
  | failing => trivial

/-- Only a commit adds rows, and their keys are new. -/
theorem work_rows_bounded {env : Env} {worker : String} {phase : Phase} {db : Db}
    (bounded : phase.Bounded) (store : db.Bounded) :
    (∀ row ∈ (work env worker phase db).2.riskRows, row.Bounded) ∧
      (work env worker phase db).2.riskRows.Pairwise Apart := by
  have unchanged : (∀ row ∈ db.riskRows, row.Bounded) ∧ db.riskRows.Pairwise Apart :=
    ⟨store.rows, store.keys⟩
  cases phase with
  | committing job sheet locals rest next =>
    unfold work
    dsimp only
    split
    · rename_i db' committed
      obtain ⟨_, file, _, _, _, fresh, rfl⟩ := commitBatch_spec committed
      change (∀ row ∈ db.riskRows ++ locals.batch, row.Bounded) ∧
        (db.riskRows ++ locals.batch).Pairwise Apart
      constructor
      · intro row member
        rcases List.mem_append.mp member with old | new
        · exact store.rows row old
        · exact (bounded.2.rows row new).1
      · rw [List.pairwise_append]
        refine ⟨store.keys, ?_, fun old there row member => fresh row member old there⟩
        apply bounded.2.ordered.imp
        intro a b less same
        omega
    · exact unchanged
  | querying job current views pending =>
    cases pending with
    | nil => exact unchanged
    | cons query pending => exact unchanged
  | idle => exact unchanged
  | opening => exact unchanged
  | reading => exact unchanged
  | leaving => exact unchanged
  | checking => exact unchanged
  | reconciling => exact unchanged
  | publishing => exact unchanged
  | failing => exact unchanged

theorem scans_bounded {s : System} (bounded : s.Bounded) {e : Event} {id : String} {scan : Scan}
    (stored : (step s e).db.scans.get? id = some scan) : scan.tally.Bounded := by
  cases step_progress stored with
  | inserted env file _ _ _ _ tally =>
    rw [tally]
    exact ⟨Nat.zero_le _, by decide⟩
  | kept before found same tally =>
    rw [tally]
    exact bounded.db.scans id before found
  | committed env worker job sheet locals rest next before file is phase own found held disk same
      tally =>
    have reader := bounded.phases worker
    rw [phase] at reader
    rw [tally]
    exact reader.2.tally
  | published env worker job result before is phase own found same tally =>
    rw [tally]
    exact bounded.db.scans id before found

omit [ScanRuntime] in
theorem claimEvent_bounded {s : System} (bounded : s.Bounded) (env : Env) (worker : String) :
    ((claimEvent env worker s).phase worker).Bounded := by
  unfold claimEvent
  dsimp only
  rw [goTo_phase]
  rcases claim_cases env.now env.later worker s.db with none | ⟨id, scan, stored, queued, taken⟩
  · rw [none]
    trivial
  · rw [taken]
    unfold swept at stored
    rw [Dict.get?_mapValues, Option.map_eq_some_iff] at stored
    obtain ⟨before, found, rfl⟩ := stored
    have same := (takeLease_counters worker env.later (sweep env.now before)).2.1
    rw [(sweep_counters env.now before).2.1] at same
    change (takeLease worker env.later (sweep env.now before)).tally.Bounded
    rw [same]
    exact bounded.db.scans id before found

theorem bounded_step {s : System} (bounded : s.Bounded) (e : Event)
    (limit : ∀ env, e.env = some env → env.maxRows ≤ rowLimit) : (step s e).Bounded := by
  have scans : ∀ id scan, (step s e).db.scans.get? id = some scan → scan.tally.Bounded :=
    fun id scan stored => scans_bounded bounded stored
  have others : ∀ worker, e.worker ≠ some worker → ((step s e).phase worker).Bounded := by
    intro worker other
    rw [phase_others other]
    exact bounded.phases worker
  have quiet : (step s e).db.riskRows = s.db.riskRows →
      (∀ worker, e.worker = some worker → ((step s e).phase worker).Bounded) →
      (step s e).Bounded := by
    intro rows own
    refine ⟨⟨?_, ?_, scans⟩, ?_⟩
    · rw [rows]
      exact bounded.db.rows
    · rw [rows]
      exact bounded.db.keys
    · intro worker
      by_cases mine : e.worker = some worker
      · exact own worker mine
      · exact others worker mine
  cases e with
  | start env key runId path org workspace =>
    apply quiet
    · rcases startEvent_cases env key runId path org workspace s.db with
        same | ⟨_, _, _, _, started⟩
      · simp [step, same]
      · simp [step, started]
    · intro worker mine
      cases mine
  | act env action runId scanId org workspace =>
    apply quiet
    · rcases actEvent_cases env action runId scanId org workspace s.db with
        same | ⟨_, _, _, _, _, written⟩
      · simp [step, same]
      · simp [step, written, Db.update]
    · intro worker mine
      cases mine
  | claim env actor =>
    apply quiet
    · unfold step
      dsimp only
      split
      · simp [claimEvent, System.goTo, claim_rows]
      · rfl
    · intro worker mine
      cases mine
      unfold step
      dsimp only
      split
      · exact claimEvent_bounded bounded env actor
      · exact bounded.phases actor
  | work env actor =>
    have rows : (∀ row ∈ (step s (.work env actor)).db.riskRows, row.Bounded) ∧
        (step s (.work env actor)).db.riskRows.Pairwise Apart :=
      work_rows_bounded (bounded.phases actor) bounded.db
    refine ⟨⟨rows.1, rows.2, scans⟩, ?_⟩
    intro worker
    by_cases mine : Event.worker (.work env actor) = some worker
    · cases mine
      simp only [step, workEvent, goTo_phase]
      exact work_phase_bounded (limit env rfl) (bounded.phases actor) bounded.db
    · exact others worker mine
  | raises actor message =>
    rcases raises_cases s actor message with same | ⟨job, raised⟩
    · rw [same]
      exact bounded
    · apply quiet
      · rw [raised]
        rfl
      · intro worker mine
        cases mine
        rw [raised, goTo_phase]
        trivial
  | dies actor =>
    apply quiet
    · rfl
    · intro worker mine
      cases mine
      rw [step, goTo_phase]
      trivial

/-- The row limit of each event is one that can be configured. -/
def Configured (events : List Event) : Prop :=
  ∀ e ∈ events, ∀ env, e.env = some env → env.maxRows ≤ rowLimit

theorem run_bounded (events : List Event) (configured : Configured events) :
    (run {} events).Bounded := by
  induction events using List.reverseRecOn with
  | nil =>
    refine ⟨⟨?_, .nil, ?_⟩, ?_⟩
    · exact nofun
    · exact fun _ _ stored => nomatch stored
    · exact fun _ => trivial
  | append_singleton before e ih =>
    rw [run_append]
    apply bounded_step (ih fun x member => configured x (List.mem_append_left _ member))
    exact configured e (by simp)

end bounds

/-! The statements of `_finalize` in integers of 64 bits. -/

/-- The first statement. -/
def reconciles64 (tally : Tally) (rows : List RiskRow) : Option Bool := do
  let total ← sum64 (rows.map RiskRow.amountUnits)
  return decide (rows.length = tally.valid) && decide (total = tally.sumUnits)

/-- `HAVING n>=3 AND hi*100<=lo*115 AND total>=?` -/
def isSplit64 (least : Int) (group : List RiskRow) : Option Bool := do
  let amounts := group.map RiskRow.amountUnits
  let total ← sum64 amounts
  let high ← checked (amounts.foldl max (amounts.headD 0) * 100)
  let low ← checked (amounts.foldl min (amounts.headD 0) * 115)
  return decide (3 ≤ group.length) && decide (high ≤ low) && decide (least ≤ total)

/-- `COUNT(*), COALESCE(SUM(n),0)` of the groups. -/
def countGroups64 (groups : List (List RiskRow)) : Option (Nat × Nat) := do
  let total ← sum64 (groups.map fun group => (group.length : Int))
  return (groups.length, total.toNat)

def splitGroups64 (least : Int) (rows : List RiskRow) : Option (List (List RiskRow)) := do
  let groups := groupRows (fun row => (row.supplierHash, row.categoryHash, row.day))
    ((dated rows).filter fun row => decide (0 < row.amountUnits))
  let passed ← groups.mapM (isSplit64 least)
  return ((groups.zip passed).filter Prod.snd).map Prod.fst

/-- The queries, with the parameters that are bound to them. -/
def screen64 (n : Nat) (invoiceColumn : Bool) (view : Query → List RiskRow) :
    Except Failure (Option Signals) := do
  let q ← quartiles n view
  let limit := q.map fun q => upperLimit q.1 q.2
  let high :=
    match limit with
    | some limit => (checked limit).map fun limit =>
        (view .high).countP fun row => decide (limit < row.amountUnits)
    | none => some 0
  let invoice := if invoiceColumn then invoiceGroups (view .invoice) else []
  let least : Int := max 0 (((q.map Prod.snd).getD 0) * 2)
  return do
    let unusuallyHigh ← high
    let repeatedPatterns ← countGroups64 (duplicateGroups (view .duplicate))
    let repeatedInvoices ← countGroups64 invoice
    let least ← checked least
    let split ← splitGroups64 least (view .split)
    let possibleSplits ← countGroups64 split
    return { unusuallyHigh, repeatedPatterns, repeatedInvoices, possibleSplits, limit }

theorem mapM_exact {α β : Type} {f : α → Option β} {g : α → β} {xs : List α}
    (exact_value : ∀ x ∈ xs, f x = some (g x)) : xs.mapM f = some (xs.map g) := by
  induction xs with
  | nil => rfl
  | cons x xs ih =>
    rw [List.mapM_cons, exact_value x List.mem_cons_self,
      ih fun y member => exact_value y (List.mem_cons_of_mem x member)]
    rfl

theorem filter_zip {α : Type} (p : α → Bool) (xs : List α) :
    ((xs.zip (xs.map p)).filter Prod.snd).map Prod.fst = xs.filter p := by
  induction xs with
  | nil => rfl
  | cons x xs ih =>
    rw [List.map_cons, List.zip_cons_cons, List.filter_cons, List.filter_cons]
    by_cases kept : p x = true
    · simp only [kept, if_true, List.map_cons, ih]
    · simp only [kept, Bool.false_eq_true, if_false, ih]

/-- A choice among bounded numbers is bounded. -/
theorem foldl_choice {f : Int → Int → Int} (choice : ∀ a b, f a b = a ∨ f a b = b) {bound : Int}
    {amounts : List Int} (each : ∀ amount ∈ amounts, |amount| ≤ bound) {first : Int}
    (start : |first| ≤ bound) : |amounts.foldl f first| ≤ bound := by
  induction amounts generalizing first with
  | nil => exact start
  | cons amount amounts ih =>
    apply ih (fun later member => each later (List.mem_cons_of_mem amount member))
    rcases choice first amount with same | same
    · rw [same]
      exact start
    · rw [same]
      exact each amount List.mem_cons_self

theorem sumUnits_eq (rows : List RiskRow) : sumUnits rows = (rows.map RiskRow.amountUnits).sum :=
  List.sum_eq_foldl.symm

/-- The rows of a group, or of any other part of the ledger of a scan. -/
theorem BoundedRows.part {rows part : List RiskRow} (bounded : BoundedRows rows)
    (inside : part.Subperm rows) : BoundedRows part := by
  constructor
  · exact fun row member => bounded.each row (inside.subset member)
  · exact inside.length_le.trans bounded.length

theorem BoundedRows.sum {rows : List RiskRow} (bounded : BoundedRows rows) :
    sum64 (rows.map RiskRow.amountUnits) = some (sumUnits rows) := by
  have each : ∀ amount ∈ rows.map RiskRow.amountUnits, |amount| ≤ unitLimit := by
    intro amount member
    obtain ⟨row, found, rfl⟩ := List.mem_map.mp member
    exact bounded.each row found
  rw [sumUnits_eq]
  have length := bounded.length
  apply sum64_eq each
  rw [List.length_map]
  unfold rowLimit at length
  unfold unitLimit
  omega

theorem reconciles64_eq {rows : List RiskRow} (bounded : BoundedRows rows) (tally : Tally) :
    reconciles64 tally rows = some (reconciles tally rows) := by
  unfold reconciles64
  rw [bounded.sum]
  rfl

theorem product_fits {x factor : Int} (small : |x| ≤ unitLimit) (positive : 0 ≤ factor)
    (limit : factor ≤ 115) : |x * factor| ≤ 9223372036854775807 := by
  have scaled : |x| * factor ≤ 100000000000 * 115 :=
    mul_le_mul small limit positive (by decide)
  rw [abs_mul, abs_of_nonneg positive]
  omega

theorem isSplit64_eq {group : List RiskRow} (bounded : BoundedRows group) (least : Int) :
    isSplit64 least group = some (isSplit least group) := by
  have each : ∀ amount ∈ group.map RiskRow.amountUnits, |amount| ≤ unitLimit := by
    intro amount member
    obtain ⟨row, found, rfl⟩ := List.mem_map.mp member
    exact bounded.each row found
  have first : |(group.map RiskRow.amountUnits).headD 0| ≤ unitLimit := by
    cases group with
    | nil => decide
    | cons row rest => exact each row.amountUnits List.mem_cons_self
  have high := foldl_choice max_choice each first
  have low := foldl_choice min_choice each first
  have hundred := product_fits high (by decide : (0 : Int) ≤ 100) (by decide)
  have more := product_fits low (by decide : (0 : Int) ≤ 115) (by decide)
  unfold isSplit64
  dsimp only
  rw [bounded.sum, checked_of_abs hundred, checked_of_abs more]
  rfl

/-- The groups of a ledger: no more than its rows, and each a part of it. -/
structure BoundedGroups (groups : List (List RiskRow)) : Prop where
  each : ∀ group ∈ groups, BoundedRows group
  length : groups.length ≤ rowLimit

theorem groupRows_bounded {κ : Type} [DecidableEq κ] (key : RiskRow → κ) {rows : List RiskRow}
    (bounded : BoundedRows rows) : BoundedGroups (groupRows key rows) := by
  unfold groupRows
  constructor
  · intro group member
    obtain ⟨k, _, rfl⟩ := List.mem_map.mp member
    exact bounded.part List.filter_sublist.subperm
  · rw [List.length_map]
    have fewer := (List.dedup_sublist (rows.map key)).length_le
    rw [List.length_map] at fewer
    exact fewer.trans bounded.length

theorem BoundedGroups.filter {groups : List (List RiskRow)} (bounded : BoundedGroups groups)
    (p : List RiskRow → Bool) : BoundedGroups (groups.filter p) := by
  constructor
  · exact fun group member => bounded.each group (List.mem_of_mem_filter member)
  · exact (List.length_filter_le p groups).trans bounded.length

theorem countGroups64_eq {groups : List (List RiskRow)} (bounded : BoundedGroups groups) :
    countGroups64 groups = some (countGroups groups) := by
  have sum : sum64 (groups.map fun group => (group.length : Int)) =
      some (groups.map fun group => (group.length : Int)).sum := by
    have each : ∀ amount ∈ groups.map fun group => (group.length : Int), |amount| ≤ rowLimit := by
      intro amount member
      obtain ⟨group, found, rfl⟩ := List.mem_map.mp member
      have length := (bounded.each group found).length
      rw [abs_of_nonneg (by omega)]
      exact_mod_cast length
    have length := bounded.length
    apply sum64_eq each
    rw [List.length_map]
    unfold rowLimit at length ⊢
    omega
  have cast : (groups.map fun group => (group.length : Int)).sum =
      ((groups.map List.length).sum : Nat) := by
    rw [Nat.cast_list_sum, List.map_map]
    rfl
  unfold countGroups64 countGroups
  rw [sum, cast, ← List.sum_eq_foldl]
  rfl

theorem splitGroups64_eq {rows : List RiskRow} (bounded : BoundedRows rows) (least : Int) :
    splitGroups64 least rows = some (splitGroups least rows) := by
  have part : BoundedRows ((dated rows).filter fun row => decide (0 < row.amountUnits)) :=
    bounded.part (List.filter_sublist.trans List.filter_sublist).subperm
  have groups := groupRows_bounded (fun row => (row.supplierHash, row.categoryHash, row.day)) part
  unfold splitGroups64 splitGroups
  dsimp only
  rw [mapM_exact fun group member => isSplit64_eq (groups.each group member) least]
  simp only [Option.bind_eq_bind, Option.bind_some, filter_zip]
  rfl

/-! The parameters. -/

theorem amountAt_bound {rows : List RiskRow} (bounded : BoundedRows rows) {k : Nat} {amount : Int}
    (found : amountAt rows k = .ok amount) : |amount| ≤ unitLimit := by
  unfold amountAt at found
  split at found
  · rename_i known
    cases found
    have member := List.mem_of_getElem? known
    rw [List.mem_mergeSort] at member
    obtain ⟨row, there, rfl⟩ := List.mem_map.mp member
    exact bounded.each row there
  · cases found

/-- A value between two amounts. -/
theorem percentile_bound {first second : List RiskRow} (low : BoundedRows first)
    (high : BoundedRows second) {n quarters : Nat} {amount : Int}
    (found : percentile first second n quarters = .ok amount) : |amount| ≤ unitLimit := by
  unfold percentile at found
  dsimp only at found
  obtain ⟨a, lower, found⟩ := ExceptLists.bind_eq_ok.mp found
  have small := amountAt_bound low lower
  split at found
  · cases found
    exact small
  · obtain ⟨b, upper, found⟩ := ExceptLists.bind_eq_ok.mp found
    have large := amountAt_bound high upper
    cases found
    have less : (n - 1) * quarters % 4 < 4 := Nat.mod_lt _ (by omega)
    generalize (n - 1) * quarters % 4 = r at less
    apply divideHalfEven_bound (by omega)
    have mixed : 4 * a + (b - a) * (r : Int) = a * ((4 - r : Nat) : Int) + b * (r : Int) := by
      rw [Nat.cast_sub (by omega)]
      push_cast
      ring
    have left : |a| * ((4 - r : Nat) : Int) ≤ unitLimit * ((4 - r : Nat) : Int) :=
      mul_le_mul_of_nonneg_right small (by omega)
    have right : |b| * (r : Int) ≤ unitLimit * (r : Int) :=
      mul_le_mul_of_nonneg_right large (by omega)
    have total := abs_add_le (a * ((4 - r : Nat) : Int)) (b * (r : Int))
    rw [abs_mul, abs_mul, abs_of_nonneg (by omega : (0 : Int) ≤ ((4 - r : Nat) : Int)),
      abs_of_nonneg (by omega : (0 : Int) ≤ (r : Int))] at total
    have whole : unitLimit * ((4 - r : Nat) : Int) + unitLimit * (r : Int) = unitLimit * 4 := by
      rw [Nat.cast_sub (by omega)]
      push_cast
      ring
    rw [mixed]
    push_cast
    omega

theorem quartiles_bound {n : Nat} {view : Query → List RiskRow}
    (bounded : ∀ query, BoundedRows (view query)) {q1 q3 : Int}
    (found : quartiles n view = .ok (some (q1, q3))) :
    |q1| ≤ unitLimit ∧ |q3| ≤ unitLimit := by
  unfold quartiles at found
  split at found
  · obtain ⟨a, first, found⟩ := ExceptLists.bind_eq_ok.mp found
    obtain ⟨b, third, found⟩ := ExceptLists.bind_eq_ok.mp found
    cases found
    exact ⟨percentile_bound (bounded _) (bounded _) first,
      percentile_bound (bounded _) (bounded _) third⟩
  · cases found

theorem upperLimit_fits {q1 q3 : Int} (first : |q1| ≤ unitLimit) (third : |q3| ≤ unitLimit) :
    |upperLimit q1 q3| ≤ 9223372036854775807 := by
  unfold unitLimit at first third
  have low := abs_le.mp first
  have high := abs_le.mp third
  have half : (upperLimit q1 q3).natAbs = (2 * q3 + 3 * (q3 - q1)).natAbs / 2 :=
    Int.natAbs_tdiv _ _
  rw [Int.abs_eq_natAbs, half]
  omega

theorem screen64_eq {n : Nat} (invoiceColumn : Bool) {view : Query → List RiskRow}
    (bounded : ∀ query, BoundedRows (view query)) :
    screen64 n invoiceColumn view = (screen n invoiceColumn view).map Option.some := by
  have duplicates : countGroups64 (duplicateGroups (view .duplicate)) =
      some (countGroups (duplicateGroups (view .duplicate))) :=
    countGroups64_eq ((groupRows_bounded _
      ((bounded .duplicate).part List.filter_sublist.subperm)).filter _)
  have invoices : countGroups64 (if invoiceColumn then invoiceGroups (view .invoice) else []) =
      some (countGroups (if invoiceColumn then invoiceGroups (view .invoice) else [])) := by
    apply countGroups64_eq
    split
    · exact (groupRows_bounded _ ((bounded .invoice).part List.filter_sublist.subperm)).filter _
    · exact ⟨nofun, Nat.zero_le _⟩
  have splits : ∀ least, splitGroups64 least (view .split) =
      some (splitGroups least (view .split)) := splitGroups64_eq (bounded .split)
  have counted : ∀ least, countGroups64 (splitGroups least (view .split)) =
      some (countGroups (splitGroups least (view .split))) := by
    intro least
    apply countGroups64_eq
    exact (groupRows_bounded _ ((bounded .split).part
      (List.filter_sublist.trans List.filter_sublist).subperm)).filter _
  unfold screen64 screen
  cases found : quartiles n view with
  | error failure => rfl
  | ok q =>
    cases q with
    | none =>
      have zero : checked (max 0 ((((none : Option (Int × Int)).map Prod.snd).getD 0) * 2)) =
          some (max 0 ((((none : Option (Int × Int)).map Prod.snd).getD 0) * 2)) := rfl
      dsimp only [bind, Except.bind]
      simp only [duplicates, invoices, splits, counted, zero, Option.bind_some]
      rfl
    | some q =>
      obtain ⟨q1, q3⟩ := q
      obtain ⟨first, third⟩ := quartiles_bound bounded found
      have limit := checked_of_abs (upperLimit_fits first third)
      have least : checked (max 0 (q3 * 2)) = some (max 0 (q3 * 2)) := by
        apply checked_of_abs
        unfold unitLimit at third
        have high := abs_le.mp third
        rw [abs_le]
        omega
      dsimp only [bind, Except.bind]
      simp only [duplicates, invoices, splits, counted, Option.map_some, Option.getD_some, limit,
        least, Option.bind_some]
      rfl

/-- The local variables of a worker that reads. -/
def Phase.locals : Phase → Option Locals
  | .reading _ _ locals _ => some locals
  | .committing _ _ locals _ _ => some locals
  | _ => none

theorem Tally.Bounded.fits {tally : Tally} (bounded : tally.Bounded) :
    Checked64.Fits tally.sumUnits := by
  have sum := bounded.sum
  have scanned := bounded.scanned
  unfold unitLimit at sum
  unfold rowLimit at scanned
  exact fits_of_abs (by omega)

/-- In every run with a row limit that can be configured, the sums of the scans have 64 bits, and so
    have the sums and products of all statements over the ledger of a scan: computed in 64 bits, they
    are the exact ones. -/
theorem arithmetic_fits [ScanRuntime] (events : List Event) (configured : Configured events) :
    (∀ id scan, (run {} events).db.scans.get? id = some scan →
      Checked64.Fits scan.tally.sumUnits) ∧
      (∀ worker locals, ((run {} events).phase worker).locals = some locals →
        Checked64.Fits locals.tally.sumUnits) ∧
      (∀ id rows, rows.Subperm ((run {} events).db.rowsOf id) →
        sum64 (rows.map RiskRow.amountUnits) = some (sumUnits rows) ∧
          ∀ row ∈ rows, Checked64.Fits (row.amountUnits * 100) ∧
            Checked64.Fits (row.amountUnits * 115)) ∧
      (∀ id tally, reconciles64 tally ((run {} events).db.rowsOf id) =
        some (reconciles tally ((run {} events).db.rowsOf id))) ∧
      ∀ worker job current views pending,
        (run {} events).phase worker = .querying job current views pending →
          screen64 current.tally.valid current.invoiceColumn (viewOf views) =
            (screen current.tally.valid current.invoiceColumn (viewOf views)).map Option.some := by
  have bounded := run_bounded events configured
  refine ⟨?_, ?_, ?_, ?_, ?_⟩
  · intro id scan stored
    exact (bounded.db.scans id scan stored).fits
  · intro worker locals is
    have reader := bounded.phases worker
    cases phase : (run {} events).phase worker with
    | reading job sheet own rest =>
      rw [phase] at is reader
      cases is
      exact reader.2.tally.fits
    | committing job sheet own rest next =>
      rw [phase] at is reader
      cases is
      exact reader.2.tally.fits
    | _ =>
      rw [phase] at is
      cases is
  · intro id rows inside
    have part := (bounded.db.rowsOf id).part inside
    refine ⟨part.sum, ?_⟩
    intro row member
    have amount := part.each row member
    constructor
    · exact fits_of_abs (product_fits amount (by decide) (by decide))
    · exact fits_of_abs (product_fits amount (by decide) (by decide))
  · intro id tally
    exact reconciles64_eq (bounded.db.rowsOf id) tally
  · intro worker job current views pending phase
    have found := bounded.phases worker
    rw [phase] at found
    apply screen64_eq
    intro query
    unfold viewOf
    cases answer : lookupEntries views query with
    | none => exact ⟨nofun, Nat.zero_le _⟩
    | some rows => exact found (query, rows) (mem_of_lookupEntries answer)

/-- The scan of two workers, with an amount of five units and one that is no amount. -/
theorem relay_fits :
    let _ := plainScans
    reconciles64 { scanned := 2, valid := 1, invalid := 1, sumUnits := 50000 }
        ((run {} relay).db.rowsOf "risk_1") = some true := by
  intro _
  have configured : Configured relay := by
    intro e member env is
    simp only [relay, List.mem_append, List.mem_cons, List.not_mem_nil, or_false,
      List.mem_replicate] at member
    rcases member with (rfl | rfl | rfl | rfl | rfl | rfl | rfl | rfl | rfl) | ⟨-, rfl⟩ <;>
      (cases is; decide)
  rw [(arithmetic_fits relay configured).2.2.2.1 "risk_1"]
  decide +kernel

end RiskScan
