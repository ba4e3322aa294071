import AeaiOs.Lib.OrderedDict
import Mathlib.Algebra.BigOperators.Group.List.Basic

/-!
Sums by key. The keys of a table of sums stand in the order in which they first came.
-/
namespace GroupSums
open OrderedDict
variable {κ N : Type} [DecidableEq κ] [AddCommMonoid N]

/-- `totals[key] = totals.get(key, 0) + amount` -/
def addTo (totals : Dict κ N) (key : κ) (amount : N) : Dict κ N :=
  totals.set key ((totals.get? key).getD 0 + amount)

def addAll (totals : Dict κ N) (pairs : List (κ × N)) : Dict κ N :=
  pairs.foldl (fun totals pair => addTo totals pair.1 pair.2) totals

def groupSums (pairs : List (κ × N)) : Dict κ N := addAll .empty pairs

def sumOf (pairs : List (κ × N)) (key : κ) : N :=
  ((pairs.filter fun pair => decide (pair.1 = key)).map Prod.snd).sum

theorem sumOf_cons (pair : κ × N) (pairs : List (κ × N)) (key : κ) :
    sumOf (pair :: pairs) key = (if pair.1 = key then pair.2 else 0) + sumOf pairs key := by
  unfold sumOf
  by_cases same : pair.1 = key <;> simp [same]

theorem sumOf_append (pairs others : List (κ × N)) (key : κ) :
    sumOf (pairs ++ others) key = sumOf pairs key + sumOf others key := by
  simp [sumOf]

theorem sumOf_absent {pairs : List (κ × N)} {key : κ} (absent : key ∉ pairs.map Prod.fst) :
    sumOf pairs key = 0 := by
  have none : pairs.filter (fun pair => decide (pair.1 = key)) = [] := by
    apply List.filter_eq_nil_iff.mpr
    intro pair member
    rw [decide_eq_true_eq]
    rintro rfl
    exact absent (List.mem_map_of_mem member)
  simp [sumOf, none]

theorem addAll_cons (totals : Dict κ N) (pair : κ × N) (pairs : List (κ × N)) :
    addAll totals (pair :: pairs) = addAll (addTo totals pair.1 pair.2) pairs := rfl

theorem addAll_append (totals : Dict κ N) (pairs others : List (κ × N)) :
    addAll totals (pairs ++ others) = addAll (addAll totals pairs) others := by
  unfold addAll
  rw [List.foldl_append]

theorem groupSums_append (pairs : List (κ × N)) (key : κ) (amount : N) :
    groupSums (pairs ++ [(key, amount)]) = addTo (groupSums pairs) key amount :=
  addAll_append _ _ _

theorem get?_addAll (totals : Dict κ N) (pairs : List (κ × N)) (key : κ) :
    (addAll totals pairs).get? key =
      if key ∈ pairs.map Prod.fst then some ((totals.get? key).getD 0 + sumOf pairs key)
      else totals.get? key := by
  induction pairs generalizing totals with
  | nil => simp [addAll]
  | cons pair pairs ih =>
    rw [addAll_cons, ih, addTo, Dict.get?_set]
    by_cases same : pair.1 = key
    · subst same
      by_cases later : pair.1 ∈ pairs.map Prod.fst
      · rw [if_pos later, if_pos rfl, if_pos (by simp), sumOf_cons, if_pos rfl, Option.getD_some,
          add_assoc]
      · rw [if_neg later, if_pos rfl, if_pos (by simp), sumOf_cons, if_pos rfl, sumOf_absent later,
          add_zero]
    · have elsewhere : key ∈ (pair :: pairs).map Prod.fst ↔ key ∈ pairs.map Prod.fst := by
        simp [Ne.symm same]
      simp only [elsewhere, sumOf_cons, if_neg same, zero_add]

/-- A key has the sum of its amounts. -/
theorem get?_groupSums (pairs : List (κ × N)) (key : κ) :
    (groupSums pairs).get? key =
      if key ∈ pairs.map Prod.fst then some (sumOf pairs key) else none := by
  unfold groupSums
  rw [get?_addAll, Dict.get?_empty, Option.getD_none, zero_add]

theorem mem_keys_groupSums {pairs : List (κ × N)} {key : κ} :
    key ∈ (groupSums pairs).keys ↔ key ∈ pairs.map Prod.fst := by
  rw [Dict.mem_keys_iff, get?_groupSums]
  split <;> simp [*]

theorem sum_storeEntries (entries : List (κ × N)) (key : κ) (amount : N) :
    ((storeEntries entries key ((lookupEntries entries key).getD 0 + amount)).map Prod.snd).sum =
      (entries.map Prod.snd).sum + amount := by
  induction entries with
  | nil => simp [storeEntries, lookupEntries]
  | cons entry rest ih =>
    by_cases same : entry.1 = key
    · simp only [storeEntries, lookupEntries, same, if_true, List.map_cons, List.sum_cons,
        Option.getD_some]
      rw [add_right_comm]
    · simp only [storeEntries, lookupEntries, same, if_false, List.map_cons, List.sum_cons, ih,
        add_assoc]

theorem sum_values_addAll (totals : Dict κ N) (pairs : List (κ × N)) :
    (addAll totals pairs).values.sum = totals.values.sum + (pairs.map Prod.snd).sum := by
  induction pairs generalizing totals with
  | nil => simp [addAll]
  | cons pair pairs ih =>
    have stored : (addTo totals pair.1 pair.2).values.sum = totals.values.sum + pair.2 :=
      sum_storeEntries totals.entries pair.1 pair.2
    rw [addAll_cons, ih, stored, List.map_cons, List.sum_cons, add_assoc]

/-- The sums of the groups make up the whole. -/
theorem sum_values_groupSums (pairs : List (κ × N)) :
    (groupSums pairs).values.sum = (pairs.map Prod.snd).sum := by
  have empty : (Dict.empty : Dict κ N).values.sum = 0 := rfl
  unfold groupSums
  rw [sum_values_addAll, empty, zero_add]

/-! Sums that are rounded after every addition, where the rounding may raise. -/

section rounded
variable {ε : Type} (round : N → Except ε N)

/-- `totals[key] += amount`, rounded. -/
def addIn (totals : Dict κ N) (key : κ) (amount : N) : Except ε (Dict κ N) :=
  (round ((totals.get? key).getD 0 + amount)).map (totals.set key)

/-- No sum of an initial segment is rounded. -/
def TotalsKept (amounts : List N) : Prop :=
  ∀ earlier next, earlier ++ [next] <+: amounts →
    round (earlier ++ [next]).sum = .ok (earlier ++ [next]).sum

/-- The same of the sums of the groups, each where a pair joins its group. -/
def SumsKept (pairs : List (κ × N)) : Prop :=
  ∀ earlier next, earlier ++ [next] <+: pairs →
    round (sumOf (earlier ++ [next]) next.1) = .ok (sumOf (earlier ++ [next]) next.1)

variable {round}

theorem TotalsKept.of_prefix {amounts earlier : List N} (kept : TotalsKept round amounts)
    (front : earlier <+: amounts) : TotalsKept round earlier :=
  fun first next inside => kept first next (inside.trans front)

theorem SumsKept.of_prefix {pairs earlier : List (κ × N)} (kept : SumsKept round pairs)
    (front : earlier <+: pairs) : SumsKept round earlier :=
  fun first next inside => kept first next (inside.trans front)

theorem getD_sumOf (pairs : List (κ × N)) (key : κ) :
    ((groupSums pairs).get? key).getD 0 = sumOf pairs key := by
  rw [get?_groupSums]
  split
  · rfl
  · rename_i absent
    rw [sumOf_absent absent, Option.getD_none]

theorem sumOf_snoc (pairs : List (κ × N)) (next : κ × N) :
    sumOf (pairs ++ [next]) next.1 = sumOf pairs next.1 + next.2 := by
  have last : sumOf ([] : List (κ × N)) next.1 = 0 := rfl
  rw [sumOf_append, sumOf_cons, if_pos rfl, last, add_zero]

/-- The next addition is exact if and only if it is not rounded. -/
theorem addIn_groupSums {pairs : List (κ × N)} {next : κ × N} :
    addIn round (groupSums pairs) next.1 next.2 = .ok (groupSums (pairs ++ [next])) ↔
      round (sumOf (pairs ++ [next]) next.1) = .ok (sumOf (pairs ++ [next]) next.1) := by
  have stored := groupSums_append pairs next.1 next.2
  unfold addIn
  rw [getD_sumOf, ← sumOf_snoc, stored, addTo, getD_sumOf, ← sumOf_snoc]
  cases rounded : round (sumOf (pairs ++ [next]) next.1) with
  | error e => simp [Except.map]
  | ok sum =>
    simp only [Except.map, Except.ok.injEq]
    constructor
    · intro same
      have read := congrArg (fun totals => totals.get? next.1) same
      simpa using read
    · intro same
      rw [same]

end rounded

end GroupSums
