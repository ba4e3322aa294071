import AeaiOs.Lib.OrderedDict

/-!
Tables shared by owners: a table by the keys of its rows, a table of lists by their
owners, and an index of keys over a table. A change is confined to one owner if the
other owners read what they read before and everything added belongs to that owner.
-/
namespace OwnedTables
open OrderedDict

variable {κ δ ο : Type} [DecidableEq κ] [DecidableEq ο]

section rows

def rowsOf (owner : δ → ο) (name : ο) (table : Dict κ δ) : List (κ × δ) :=
  table.entries.filter fun entry => owner entry.2 = name

structure RowsConfined (owner : δ → ο) (name : ο) (before after : Dict κ δ) : Prop where
  others : ∀ other, other ≠ name → rowsOf owner other after = rowsOf owner other before
  added : ∀ entry ∈ after.entries, entry ∈ before.entries ∨ owner entry.2 = name

omit [DecidableEq κ] in
theorem rowsOf_retain (owner : δ → ο) {name other : ο} (different : other ≠ name)
    (table : Dict κ δ) :
    rowsOf owner other (table.retain fun _ row => owner row ≠ name) = rowsOf owner other table := by
  unfold rowsOf Dict.retain
  rw [List.filter_filter]
  apply List.filter_congr
  intro entry _
  by_cases own : owner entry.2 = other
  · simp [own, different]
  · simp [own]

omit [DecidableEq κ] in
/-- Rows put in place of those of an owner leave the other owners alone if and only
    if they all belong to that owner. -/
theorem rowsConfined_iff {owner : δ → ο} {name : ο} {before after : Dict κ δ} {rows : List (κ × δ)}
    (appended : after.entries = (before.retain fun _ row => owner row ≠ name).entries ++ rows) :
    RowsConfined owner name before after ↔ ∀ entry ∈ rows, owner entry.2 = name := by
  have split : ∀ other, other ≠ name → rowsOf owner other after =
      rowsOf owner other before ++ rows.filter fun entry => owner entry.2 = other := by
    intro other different
    have kept := rowsOf_retain owner different before
    unfold rowsOf at kept ⊢
    rw [appended, List.filter_append, kept]
  constructor
  · intro confined entry member
    by_contra foreign
    have same := confined.others (owner entry.2) foreign
    rw [split _ foreign] at same
    have none := List.append_right_eq_self.mp same
    rw [List.filter_eq_nil_iff] at none
    exact none entry member (by simp)
  · intro own
    constructor
    · intro other different
      have none : (rows.filter fun entry => owner entry.2 = other) = [] := by
        rw [List.filter_eq_nil_iff]
        intro entry member
        rw [own entry member]
        simpa using Ne.symm different
      rw [split other different, none, List.append_nil]
    · intro entry member
      rw [appended, List.mem_append] at member
      rcases member with kept | row
      · exact .inl (List.mem_of_mem_filter kept)
      · exact .inr (own entry row)

end rows

/-! Lists by their owners. -/

structure ListsConfined (owner : δ → ο) (name : ο) (before after : Dict ο (List δ)) : Prop where
  others : ∀ other, other ≠ name → after.get? other = before.get? other
  added : ∀ rows, after.get? name = some rows → ∀ row ∈ rows, owner row = name

theorem listsConfined_iff (owner : δ → ο) (name : ο) (before : Dict ο (List δ)) (rows : List δ) :
    ListsConfined owner name before (before.set name rows) ↔ ∀ row ∈ rows, owner row = name := by
  constructor
  · intro confined
    exact confined.added rows (Dict.get?_set_self _ _ _)
  · intro own
    constructor
    · intro other different
      exact Dict.get?_set_other _ _ (Ne.symm different)
    · intro stored found
      rw [Dict.get?_set_self, Option.some.injEq] at found
      exact found ▸ own

/-! An index of keys over a table. -/

section indexed

/-- The rows of an owner in the order of an index. -/
def listed (owner : δ → ο) (name : ο) (order : List κ) (table : Dict κ δ) : List δ :=
  (order.filterMap table.get?).filter fun row => owner row = name

structure IndexConfined (owner : δ → ο) (name : ο) (order : List κ) (before : Dict κ δ)
    (order' : List κ) (after : Dict κ δ) : Prop where
  stored : ∀ key row, before.get? key = some row → owner row ≠ name → after.get? key = some row
  added : ∀ key row, after.get? key = some row → before.get? key = some row ∨ owner row = name
  listings : ∀ other, other ≠ name →
    listed owner other order' after = listed owner other order before

/-- The index and the table without the rows of an owner, and with rows appended. -/
def reindexed (owner : δ → ο) (name : ο) (order : List κ) (before : Dict κ δ)
    (rows : List (κ × δ)) : List κ :=
  (order.filter fun key => (before.get? key).all fun row => owner row ≠ name) ++ rows.map Prod.fst

def refilled (owner : δ → ο) (name : ο) (before : Dict κ δ) (rows : List (κ × δ)) : Dict κ δ :=
  rows.foldl (fun table row => table.set row.1 row.2) (before.retain fun _ row => owner row ≠ name)

theorem get?_refilled (owner : δ → ο) (name : ο) (before : Dict κ δ) (rows : List (κ × δ))
    (key : κ) :
    (refilled owner name before rows).get? key =
      ((Dict.ofPairs rows).get? key).or ((before.get? key).filter fun row => owner row ≠ name) := by
  unfold refilled Dict.ofPairs
  rw [Dict.get?_foldl_set, Dict.get?_foldl_set, Dict.get?_empty, Option.or_none, Dict.get?_retain]

/-- Every row that the pairs store belongs to the owner, and takes the key of no row
    of another. -/
def TakesOwn (owner : δ → ο) (name : ο) (before : Dict κ δ) (rows : List (κ × δ)) : Prop :=
  ∀ key row, (Dict.ofPairs rows).get? key = some row →
    owner row = name ∧ ∀ old, before.get? key = some old → owner old = name

theorem get?_refilled_written {owner : δ → ο} {name : ο} {before : Dict κ δ}
    {rows : List (κ × δ)} {key : κ} {row : δ} (written : (Dict.ofPairs rows).get? key = some row) :
    (refilled owner name before rows).get? key = some row := by
  rw [get?_refilled, written, Option.some_or]

theorem get?_refilled_kept {owner : δ → ο} {name : ο} {before : Dict κ δ}
    {rows : List (κ × δ)} {key : κ} (unwritten : (Dict.ofPairs rows).get? key = none) :
    (refilled owner name before rows).get? key =
      (before.get? key).filter fun row => owner row ≠ name := by
  rw [get?_refilled, unwritten, Option.none_or]

omit [DecidableEq κ] in
/-- A selection that finds all that another finds is not shorter. -/
theorem length_filterMap_mono {f g : κ → Option δ} {order : List κ}
    (finds : ∀ key row, f key = some row → g key = some row) :
    (order.filterMap f).length ≤ (order.filterMap g).length := by
  induction order with
  | nil => simp
  | cons key rest ih =>
    cases found : f key with
    | none =>
      have longer := List.length_filterMap_le g [key]
      simp only [List.filterMap_cons, found]
      cases g key with
      | none => exact ih
      | some row =>
        simp only [List.length_cons]
        omega
    | some row =>
      simp only [List.filterMap_cons, found, finds key row found, List.length_cons]
      omega

/-- The row under a key, if it belongs to an owner. -/
def ownedAt (owner : δ → ο) (name : ο) (table : Dict κ δ) (key : κ) : Option δ :=
  (table.get? key).filter fun row => owner row = name

theorem ownedAt_some {owner : δ → ο} {name : ο} {table : Dict κ δ} {key : κ} {row : δ} :
    ownedAt owner name table key = some row ↔ table.get? key = some row ∧ owner row = name := by
  unfold ownedAt
  rw [Option.filter_eq_some_iff, decide_eq_true_iff]

theorem listed_owned (owner : δ → ο) (name : ο) (order : List κ) (table : Dict κ δ) :
    listed owner name order table = order.filterMap (ownedAt owner name table) :=
  List.filter_filterMap

/-- What an owner still reads through the keys that were kept. -/
def keptAt (owner : δ → ο) (name other : ο) (before after : Dict κ δ) (key : κ) : Option δ :=
  if (before.get? key).all fun row => owner row ≠ name then ownedAt owner other after key else none

theorem listed_reindexed (owner : δ → ο) (name other : ο) (order : List κ) (before : Dict κ δ)
    (rows : List (κ × δ)) (after : Dict κ δ) :
    listed owner other (reindexed owner name order before rows) after =
      order.filterMap (keptAt owner name other before after) ++
        (rows.map Prod.fst).filterMap (ownedAt owner other after) := by
  rw [listed_owned]
  unfold reindexed
  rw [List.filterMap_append, List.filterMap_filter]
  rfl

theorem keptAt_stored {owner : δ → ο} {name other : ο} (different : other ≠ name)
    {before after : Dict κ δ}
    (stored : ∀ key row, before.get? key = some row → owner row ≠ name →
      after.get? key = some row) (key : κ) (row : δ)
    (found : ownedAt owner other before key = some row) :
    keptAt owner name other before after key = some row := by
  obtain ⟨here, own⟩ := ownedAt_some.mp found
  have foreign : owner row ≠ name := own ▸ different
  unfold keptAt
  rw [here, if_pos (by simp [foreign])]
  exact ownedAt_some.mpr ⟨stored key row here foreign, own⟩

theorem indexConfined_iff (owner : δ → ο) (name : ο) (order : List κ) (before : Dict κ δ)
    (rows : List (κ × δ)) :
    IndexConfined owner name order before (reindexed owner name order before rows)
        (refilled owner name before rows) ↔ TakesOwn owner name before rows := by
  constructor
  · intro confined key row written
    have after : (refilled owner name before rows).get? key = some row :=
      get?_refilled_written written
    have own : owner row = name := by
      by_contra foreign
      have same := congrArg List.length (confined.listings (owner row) foreign)
      rw [listed_reindexed, listed_owned, List.length_append] at same
      have kept : (order.filterMap (ownedAt owner (owner row) before)).length ≤
          (order.filterMap
            (keptAt owner name (owner row) before (refilled owner name before rows))).length :=
        length_filterMap_mono (keptAt_stored foreign confined.stored)
      have gained : row ∈ (rows.map Prod.fst).filterMap
          (ownedAt owner (owner row) (refilled owner name before rows)) := by
        rw [List.mem_filterMap]
        exact ⟨key, List.mem_map_of_mem (Dict.mem_of_get?_ofPairs written),
          ownedAt_some.mpr ⟨after, rfl⟩⟩
      have longer := List.length_pos_of_mem gained
      omega
    refine ⟨own, ?_⟩
    intro old found
    by_contra foreign
    have survived := confined.stored key old found foreign
    rw [after, Option.some.injEq] at survived
    exact foreign (survived ▸ own)
  · intro takes
    have stored : ∀ key row, before.get? key = some row → owner row ≠ name →
        (refilled owner name before rows).get? key = some row := by
      intro key row found foreign
      cases written : (Dict.ofPairs rows).get? key with
      | none =>
        rw [get?_refilled_kept written, found]
        simp [foreign]
      | some new => exact absurd ((takes key new written).2 row found) foreign
    have added : ∀ key row, (refilled owner name before rows).get? key = some row →
        before.get? key = some row ∨ owner row = name := by
      intro key row found
      cases written : (Dict.ofPairs rows).get? key with
      | none =>
        rw [get?_refilled_kept written, Option.filter_eq_some_iff] at found
        exact .inl found.1
      | some new =>
        rw [get?_refilled_written written, Option.some.injEq] at found
        exact .inr (found ▸ (takes key new written).1)
    refine ⟨stored, added, ?_⟩
    intro other different
    have kept : order.filterMap (keptAt owner name other before (refilled owner name before rows)) =
        order.filterMap (ownedAt owner other before) := by
      refine List.filterMap_congr ?_
      intro key _
      cases found : ownedAt owner other before key with
      | some row => exact keptAt_stored different stored key row found
      | none =>
        unfold keptAt
        split
        · cases still : ownedAt owner other (refilled owner name before rows) key with
          | none => rfl
          | some row =>
            obtain ⟨here, own⟩ := ownedAt_some.mp still
            rcases added key row here with old | mine
            · rw [ownedAt_some.mpr ⟨old, own⟩] at found
              cases found
            · exact absurd (own.symm.trans mine) different
        · rfl
    have none : (rows.map Prod.fst).filterMap
        (ownedAt owner other (refilled owner name before rows)) = [] := by
      rw [List.filterMap_eq_nil_iff]
      intro key member
      obtain ⟨entry, inside, same⟩ := List.mem_map.mp member
      subst same
      obtain ⟨row, written⟩ := Dict.get?_ofPairs_of_mem inside
      cases mine : ownedAt owner other (refilled owner name before rows) entry.1 with
      | none => rfl
      | some found =>
        obtain ⟨here, own⟩ := ownedAt_some.mp mine
        rw [get?_refilled_written written, Option.some.injEq] at here
        subst here
        exact absurd (own.symm.trans (takes entry.1 row written).1) different
    rw [listed_reindexed, listed_owned, kept, none, List.append_nil]

end indexed
end OwnedTables
