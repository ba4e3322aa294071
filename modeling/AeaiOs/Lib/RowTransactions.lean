import AeaiOs.Lib.OrderedDict

/-!
Transactions that read first and write when they commit, over a table of rows.
A transaction may hold locks on rows it has read; a row that another transaction
has locked is not read for update and not written. A commit writes through
patches, so a patch of a row that was not locked meets whatever the row has
become since it was read.
-/
namespace RowTransactions
open OrderedDict

variable {κ ρ τ : Type} [DecidableEq κ]

structure Write (κ ρ : Type) where
  key : κ
  patch : ρ → ρ

structure Txn (κ ρ τ : Type) where
  purpose : τ
  seen : List (κ × ρ)
  locked : List κ
  writes : List (Write κ ρ)
  readAt : Nat

structure Store (κ ρ τ : Type) where
  rows : Dict κ ρ
  live : Dict Nat (Txn κ ρ τ)
  committed : List (Txn κ ρ τ)

def applyWrites : List (Write κ ρ) → Dict κ ρ → Dict κ ρ
  | [], rows => rows
  | write :: rest, rows =>
      match rows.get? write.key with
      | some row => applyWrites rest (rows.set write.key (write.patch row))
      | none => applyWrites rest rows

namespace Store

def lockedByOther (s : Store κ ρ τ) (tid : Nat) (key : κ) : Bool :=
  s.live.entries.any fun entry => decide (entry.1 ≠ tid) && decide (key ∈ entry.2.locked)

/-- The read step of a transaction, which counts the commits before it. -/
def opened (s : Store κ ρ τ) (tid : Nat) (txn : Txn κ ρ τ) : Store κ ρ τ :=
  { s with live := s.live.set tid { txn with readAt := s.committed.length } }

def canCommit (s : Store κ ρ τ) (tid : Nat) (txn : Txn κ ρ τ) : Bool :=
  txn.writes.all fun write => !s.lockedByOther tid write.key

def committing (s : Store κ ρ τ) (tid : Nat) (txn : Txn κ ρ τ) : Store κ ρ τ :=
  { rows := applyWrites txn.writes s.rows
    live := s.live.erase tid
    committed := s.committed ++ [txn] }

/-- The commit step; it waits while another transaction locks a row it writes. -/
def commit (s : Store κ ρ τ) (tid : Nat) : Store κ ρ τ :=
  match s.live.get? tid with
  | some txn => if s.canCommit tid txn then s.committing tid txn else s
  | none => s

/-- What a transaction may be opened with: a new number, rows as they stand, locks
    that nobody else has, and one write a row. -/
structure CanOpen (s : Store κ ρ τ) (tid : Nat) (txn : Txn κ ρ τ) : Prop where
  unused : s.live.get? tid = none
  current : ∀ key row, (key, row) ∈ txn.seen → s.rows.get? key = some row
  unlocked : ∀ key ∈ txn.locked, s.lockedByOther tid key = false
  writes_nodup : (txn.writes.map Write.key).Nodup

/-- Locks exclude each other, and a locked row is as it was read. -/
structure Isolated (s : Store κ ρ τ) : Prop where
  exclusive : ∀ tid txn tid' txn', s.live.get? tid = some txn → s.live.get? tid' = some txn' →
    tid ≠ tid' → ∀ key ∈ txn.locked, key ∉ txn'.locked
  stable : ∀ tid txn, s.live.get? tid = some txn → ∀ key row, (key, row) ∈ txn.seen →
    key ∈ txn.locked → s.rows.get? key = some row
  one_write : ∀ tid txn, s.live.get? tid = some txn → (txn.writes.map Write.key).Nodup

end Store

theorem applyWrites_other {writes : List (Write κ ρ)} {rows : Dict κ ρ} {key : κ}
    (untouched : key ∉ writes.map Write.key) : (applyWrites writes rows).get? key = rows.get? key := by
  induction writes generalizing rows with
  | nil => rfl
  | cons write rest ih =>
    simp only [List.map_cons, List.mem_cons, not_or] at untouched
    simp only [applyWrites]
    split
    · rw [ih untouched.2, Dict.get?_set_other _ _ (Ne.symm untouched.1)]
    · exact ih untouched.2

theorem applyWrites_written {writes : List (Write κ ρ)} {rows : Dict κ ρ} {write : Write κ ρ}
    {row : ρ} (nodup : (writes.map Write.key).Nodup) (member : write ∈ writes)
    (stored : rows.get? write.key = some row) :
    (applyWrites writes rows).get? write.key = some (write.patch row) := by
  induction writes generalizing rows with
  | nil => simp at member
  | cons head rest ih =>
    simp only [List.map_cons, List.nodup_cons] at nodup
    simp only [applyWrites]
    rcases List.mem_cons.mp member with same | old
    · subst same
      rw [stored]
      simp only
      rw [applyWrites_other nodup.1, Dict.get?_set_self]
    · have other : head.key ≠ write.key := by
        intro same
        exact nodup.1 (same ▸ List.mem_map_of_mem old)
      split
      · exact ih nodup.2 old (by rw [Dict.get?_set_other _ _ other, stored])
      · exact ih nodup.2 old stored

namespace Store

theorem not_locked_elsewhere {s : Store κ ρ τ} {tid tid' : Nat}
    {txn' : Txn κ ρ τ} {key : κ} (free : s.lockedByOther tid key = false)
    (live : s.live.get? tid' = some txn') (other : tid' ≠ tid) : key ∉ txn'.locked := by
  intro member
  simp only [lockedByOther, List.any_eq_false, Bool.and_eq_true, decide_eq_true_eq, not_and] at free
  exact free (tid', txn') (Dict.mem_entries_of_get? live) other member

theorem opened_isolated {s : Store κ ρ τ} (isolated : s.Isolated) {tid : Nat} {txn : Txn κ ρ τ}
    (can : s.CanOpen tid txn) : (s.opened tid txn).Isolated := by
  constructor
  · intro a txnA b txnB liveA liveB differ key member
    simp only [opened, Dict.get?_set] at liveA liveB
    split at liveA
    · rename_i hitA
      simp only [Option.some.injEq] at liveA
      subst hitA liveA
      rw [if_neg differ] at liveB
      exact not_locked_elsewhere (can.unlocked key member) liveB (Ne.symm differ)
    · split at liveB
      · rename_i missA hitB
        simp only [Option.some.injEq] at liveB
        subst hitB liveB
        intro mine
        exact not_locked_elsewhere (can.unlocked key mine) liveA differ member
      · exact isolated.exclusive a txnA b txnB liveA liveB differ key member
  · intro a txnA liveA key row member locked
    simp only [opened, Dict.get?_set] at liveA
    split at liveA
    · simp only [Option.some.injEq] at liveA
      subst liveA
      exact can.current key row member
    · exact isolated.stable a txnA liveA key row member locked
  · intro a txnA liveA
    simp only [opened, Dict.get?_set] at liveA
    split at liveA
    · simp only [Option.some.injEq] at liveA
      subst liveA
      exact can.writes_nodup
    · exact isolated.one_write a txnA liveA

theorem committing_isolated {s : Store κ ρ τ} (isolated : s.Isolated) {tid : Nat}
    {txn : Txn κ ρ τ} (can : s.canCommit tid txn = true) : (s.committing tid txn).Isolated := by
  constructor
  · intro a txnA b txnB liveA liveB differ
    simp only [committing, Dict.get?_erase] at liveA liveB
    split at liveA
    · simp at liveA
    · split at liveB
      · simp at liveB
      · exact isolated.exclusive a txnA b txnB liveA liveB differ
  · intro a txnA liveA key row member locked
    simp only [committing, Dict.get?_erase] at liveA
    split at liveA
    · simp at liveA
    · rename_i other
      have untouched : key ∉ txn.writes.map Write.key := by
        intro written
        obtain ⟨write, inside, same⟩ := List.mem_map.mp written
        simp only [canCommit, List.all_eq_true, Bool.not_eq_true'] at can
        exact not_locked_elsewhere (can write inside) liveA other (same ▸ locked)
      exact (applyWrites_other untouched).trans (isolated.stable a txnA liveA key row member locked)
  · intro a txnA liveA
    simp only [committing, Dict.get?_erase] at liveA
    split at liveA
    · simp at liveA
    · exact isolated.one_write a txnA liveA

end Store
end RowTransactions
