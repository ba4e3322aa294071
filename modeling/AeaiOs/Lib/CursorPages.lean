import Mathlib.Order.Lattice
import Mathlib.Data.List.Basic
import Mathlib.Logic.Relation

/-!
Reading a growing list page by page, each page after the key of the last item read. As long
as the list grows at its end, by larger keys, what has been read is always a first part of it.
-/
namespace CursorPages

variable {α K : Type} [LinearOrder K]

def Increasing (key : α → K) (xs : List α) : Prop := xs.Pairwise fun a b => key a < key b

/-- The items after the cursor; without a cursor all of them. -/
def beyond (key : α → K) (cursor : Option K) (xs : List α) : List α :=
  xs.filter fun x => cursor.all fun c => decide (c < key x)

def cursorOf (key : α → K) (read : List α) : Option K := read.getLast?.map key

/-- What a reader has read of a source, in how many pages. -/
structure Reading (α : Type) where
  source : List α
  read : List α
  pages : Nat

inductive Move (key : α → K) (limit : Nat) : Reading α → Reading α → Prop where
  | grow (r : Reading α) (new : List α) (increasing : Increasing key (r.source ++ new)) :
      Move key limit r { r with source := r.source ++ new }
  | page (r : Reading α) :
      Move key limit r { r with
        read := r.read ++ (beyond key (cursorOf key r.read) r.source).take limit
        pages := r.pages + 1 }

structure Faithful (key : α → K) (r : Reading α) : Prop where
  increasing : Increasing key r.source
  read : r.read <+: r.source

variable {key : α → K} {limit : Nat}

omit [LinearOrder K] in
theorem cursorOf_append (key : α → K) (read page : List α) :
    cursorOf key (read ++ page) = (page.getLast?.map key).or (cursorOf key read) := by
  unfold cursorOf
  rw [List.getLast?_append]
  cases page.getLast? with
  | none => rfl
  | some last => rfl

/-- Beyond the last item read is exactly what has not been read. -/
theorem beyond_read {read rest : List α} (increasing : Increasing key (read ++ rest)) :
    beyond key (cursorOf key read) (read ++ rest) = rest := by
  obtain ⟨first, -, before⟩ := List.pairwise_append.mp increasing
  unfold beyond
  rw [List.filter_append]
  cases ends : read.getLast? with
  | none =>
    have empty := List.getLast?_eq_none_iff.mp ends
    subst empty
    apply List.filter_eq_self.mpr
    intro x member
    rfl
  | some last =>
    obtain ⟨front, whole⟩ := List.getLast?_eq_some_iff.mp ends
    have cursor : cursorOf key read = some (key last) := by
      unfold cursorOf
      rw [ends]
      rfl
    rw [cursor]
    have none : read.filter (fun x => (some (key last)).all fun c => decide (c < key x)) = [] := by
      apply List.filter_eq_nil_iff.mpr
      intro x member
      simp only [Option.all_some, decide_eq_true_eq, not_lt]
      rw [whole] at member first
      rcases List.mem_append.mp member with earlier | same
      · exact ((List.pairwise_append.mp first).2.2 x earlier last (List.mem_singleton_self last)).le
      · rw [List.mem_singleton.mp same]
    have all : rest.filter (fun x => (some (key last)).all fun c => decide (c < key x)) = rest := by
      apply List.filter_eq_self.mpr
      intro x member
      exact decide_eq_true (before last (List.mem_of_getLast? ends) x member)
    rw [none, all, List.nil_append]

/-- The next page continues what has been read. -/
theorem Faithful.page {r : Reading α} (faithful : Faithful key r) (limit : Nat) :
    ∃ rest, r.source = r.read ++ rest ∧
      (beyond key (cursorOf key r.read) r.source).take limit = rest.take limit := by
  obtain ⟨rest, whole⟩ := faithful.read
  refine ⟨rest, whole.symm, ?_⟩
  have increasing := faithful.increasing
  rw [← whole] at increasing ⊢
  rw [beyond_read increasing]

theorem Faithful.move {r r' : Reading α} (faithful : Faithful key r) (move : Move key limit r r') :
    Faithful key r' := by
  cases move with
  | grow new increasing =>
    exact ⟨increasing, faithful.read.trans (List.prefix_append r.source new)⟩
  | page =>
    obtain ⟨rest, whole, next⟩ := faithful.page limit
    refine ⟨faithful.increasing, ?_⟩
    dsimp only
    rw [next, whole]
    exact (List.prefix_append_right_inj r.read).mpr (List.take_prefix limit rest)

/-- How far a reader has come since it was at `r`. -/
structure Since (limit : Nat) (r r' : Reading α) : Prop where
  source : r.source <+: r'.source
  pages : r.pages ≤ r'.pages
  read : min r.source.length (limit * (r'.pages - r.pages)) ≤ r'.read.length

theorem Since.move {r r' r'' : Reading α} (since : Since limit r r') (faithful : Faithful key r')
    (move : Move key limit r' r'') : Since limit r r'' := by
  cases move with
  | grow new increasing =>
    exact ⟨since.source.trans (List.prefix_append r'.source new), since.pages, since.read⟩
  | page =>
    obtain ⟨rest, whole, next⟩ := faithful.page limit
    refine ⟨since.source, Nat.le_succ_of_le since.pages, ?_⟩
    dsimp only
    have read := since.read
    have longer := since.source.length_le
    have pages := since.pages
    have count : limit * (r'.pages + 1 - r.pages) = limit * (r'.pages - r.pages) + limit := by
      rw [Nat.succ_sub pages, Nat.mul_succ]
    rw [next, List.length_append, List.length_take, count]
    rw [whole, List.length_append] at longer
    omega

/-- After any moves: with `k` pages more, the first `limit * k` items that the source had before
    have been read. -/
theorem reads_on {r r' : Reading α} (faithful : Faithful key r)
    (moves : Relation.ReflTransGen (Move key limit) r r') :
    Faithful key r' ∧ r.source.take (limit * (r'.pages - r.pages)) <+: r'.read := by
  have run : Faithful key r' ∧ Since limit r r' := by
    induction moves with
    | refl =>
      refine ⟨faithful, List.prefix_rfl, Nat.le_refl _, ?_⟩
      rw [Nat.sub_self, Nat.mul_zero, Nat.min_zero]
      exact Nat.zero_le _
    | tail _ move ih => exact ⟨ih.1.move move, ih.2.move ih.1 move⟩
  obtain ⟨faithful', since⟩ := run
  refine ⟨faithful', ?_⟩
  apply List.prefix_of_prefix_length_le
    ((List.take_prefix _ _).trans since.source) faithful'.read
  rw [List.length_take, Nat.min_comm]
  exact since.read

end CursorPages
