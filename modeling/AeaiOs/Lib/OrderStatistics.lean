import Mathlib.Data.List.Sort
import Mathlib.Order.MinMax

/-!
What is read from a list without its order: its sorted form, its least, its greatest and its
leading members.
-/
namespace OrderStatistics
universe u
variable {α : Type u}

/-- Two lists with the same members sort to the same list, where no two members stand level. -/
theorem mergeSort_eq_of_perm {precedes : α → α → Bool}
    (trans : ∀ a b c, precedes a b = true → precedes b c = true → precedes a c = true)
    (total : ∀ a b, (precedes a b || precedes b a) = true) {values others : List α}
    (antisymm : ∀ a ∈ values, ∀ b ∈ values, precedes a b = true → precedes b a = true → a = b)
    (perm : values.Perm others) : values.mergeSort precedes = others.mergeSort precedes := by
  have sorted := (List.mergeSort_perm values precedes).trans
    (perm.trans (List.mergeSort_perm others precedes).symm)
  apply sorted.eq_of_pairwise _ (List.pairwise_mergeSort trans total values)
    (List.pairwise_mergeSort trans total others)
  intro a b first second
  apply antisymm
  · exact (List.mergeSort_perm values precedes).mem_iff.mp first
  · exact perm.mem_iff.mpr ((List.mergeSort_perm others precedes).mem_iff.mp second)

section linear
variable [LinearOrder α] {values others : List α}

theorem ascending_eq_of_perm (perm : values.Perm others) :
    values.mergeSort (fun a b => decide (a ≤ b)) = others.mergeSort fun a b => decide (a ≤ b) := by
  apply mergeSort_eq_of_perm _ _ _ perm
  · intro a b c first second
    exact decide_eq_true ((of_decide_eq_true first).trans (of_decide_eq_true second))
  · intro a b
    simpa using le_total a b
  · intro a _ b _ first second
    exact le_antisymm (of_decide_eq_true first) (of_decide_eq_true second)

instance lawfulOrderMin : Std.LawfulOrderMin α where
  min_eq_or := min_choice
  le_min_iff _ _ _ := le_min_iff

instance lawfulOrderMax : Std.LawfulOrderMax α where
  max_eq_or := max_choice
  max_le_iff _ _ _ := max_le_iff

theorem min?_eq_of_perm (perm : values.Perm others) : values.min? = others.min? := by
  cases least : others.min? with
  | none =>
    rw [List.min?_eq_none_iff] at least ⊢
    exact List.perm_nil.mp (least ▸ perm)
  | some value =>
    rw [List.min?_eq_some_iff] at least ⊢
    constructor
    · exact perm.mem_iff.mpr least.1
    · intro other member
      exact least.2 other (perm.mem_iff.mp member)

theorem max?_eq_of_perm (perm : values.Perm others) : values.max? = others.max? := by
  cases greatest : others.max? with
  | none =>
    rw [List.max?_eq_none_iff] at greatest ⊢
    exact List.perm_nil.mp (greatest ▸ perm)
  | some value =>
    rw [List.max?_eq_some_iff] at greatest ⊢
    constructor
    · exact perm.mem_iff.mpr greatest.1
    · intro other member
      exact greatest.2 other (perm.mem_iff.mp member)

end linear

/-! The leading members. -/

/-- So many of the values, in their order, that none of the others is ahead of any of them. -/
structure Leading (precedes : α → α → Bool) (limit : Nat) (values chosen : List α) : Prop where
  nodup : chosen.Nodup
  inside : ∀ a ∈ chosen, a ∈ values
  short : chosen.length ≤ limit
  ranked : chosen.Pairwise fun a b => precedes a b = true
  ahead : ∀ b ∈ values, b ∉ chosen →
    chosen.length = limit ∧ ∀ a ∈ chosen, precedes a b = true

section leading
variable {precedes : α → α → Bool} {limit : Nat} {values chosen : List α}

theorem leading_take (trans : ∀ a b c, precedes a b = true → precedes b c = true →
      precedes a c = true) (total : ∀ a b, (precedes a b || precedes b a) = true)
    (limit : Nat) (nodup : values.Nodup) :
    Leading precedes limit values ((values.mergeSort precedes).take limit) := by
  have perm := List.mergeSort_perm values precedes
  have ranked := List.pairwise_mergeSort trans total values
  have front := List.take_sublist limit (values.mergeSort precedes)
  constructor
  · exact (perm.nodup_iff.mpr nodup).sublist front
  · intro a member
    exact perm.mem_iff.mp (front.subset member)
  · exact List.length_take_le _ _
  · exact ranked.sublist front
  · intro b member out
    have split := List.take_append_drop limit (values.mergeSort precedes)
    rw [← split] at ranked
    have behind : b ∈ (values.mergeSort precedes).drop limit := by
      rw [← perm.mem_iff, ← split] at member
      exact (List.mem_append.mp member).resolve_left out
    constructor
    · have long := List.length_pos_of_mem behind
      rw [List.length_drop] at long
      rw [List.length_take]
      omega
    · intro a first
      exact (List.pairwise_append.mp ranked).2.2 a first b behind

theorem Leading.le_countP (leading : Leading precedes limit values chosen) {property : α → Bool}
    (full : chosen.length = limit) (all : ∀ a ∈ chosen, property a = true) :
    limit ≤ values.countP property := by
  rw [List.countP_eq_length_filter, ← full]
  apply (List.subperm_of_subset leading.nodup _).length_le
  intro a member
  exact List.mem_filter.mpr ⟨leading.inside a member, all a member⟩

/-- Where one member that has a property gives it to all that precede it, the leading ones all
    have it, and are as many as they may be, if and only if so many members have it. -/
theorem Leading.all_iff (leading : Leading precedes limit values chosen) (distinct : values.Nodup)
    {property : α → Bool}
    (closed : ∀ a b, precedes a b = true → property b = true → property a = true) :
    (chosen.length = limit ∧ ∀ a ∈ chosen, property a = true) ↔
      limit ≤ values.countP property := by
  constructor
  · intro ⟨full, all⟩
    exact leading.le_countP full all
  · intro enough
    rw [List.countP_eq_length_filter] at enough
    by_cases out : ∃ b ∈ values, property b = true ∧ b ∉ chosen
    · obtain ⟨b, member, has, out⟩ := out
      have behind := leading.ahead b member out
      exact ⟨behind.1, fun a first => closed a b (behind.2 a first) has⟩
    · -- all that have the property are leading, and there is no room for another
      have covered : values.filter property ⊆ chosen := by
        intro b member
        obtain ⟨inside, has⟩ := List.mem_filter.mp member
        by_contra missing
        exact out ⟨b, inside, has, missing⟩
      have subperm := List.subperm_of_subset (distinct.filter property) covered
      have short := leading.short
      have least := subperm.length_le
      have perm := subperm.perm_of_length_le (by omega)
      refine ⟨by omega, ?_⟩
      intro a first
      exact (List.mem_filter.mp (perm.mem_iff.mpr first)).2

/-- A member is not among the leading ones if and only if as many others are ahead of it. -/
theorem Leading.not_mem_iff (leading : Leading precedes limit values chosen)
    (distinct : values.Nodup) [DecidableEq α]
    (trans : ∀ a b c, precedes a b = true → precedes b c = true → precedes a c = true)
    (antisymm : ∀ a b, precedes a b = true → precedes b a = true → a = b) {b : α}
    (member : b ∈ values) :
    b ∉ chosen ↔ limit ≤ values.countP fun a => decide (a ≠ b) && precedes a b := by
  have closed : ∀ a c, precedes a c = true → (decide (c ≠ b) && precedes c b) = true →
      (decide (a ≠ b) && precedes a b) = true := by
    intro a c first second
    rw [Bool.and_eq_true, decide_eq_true_eq] at second ⊢
    refine ⟨?_, trans a c b first second.2⟩
    intro same
    subst same
    exact second.1 (antisymm c a second.2 first)
  rw [← leading.all_iff distinct closed]
  constructor
  · intro out
    obtain ⟨full, before⟩ := leading.ahead b member out
    refine ⟨full, ?_⟩
    intro a first
    rw [Bool.and_eq_true, decide_eq_true_eq]
    refine ⟨?_, before a first⟩
    intro same
    exact out (same ▸ first)
  · intro ⟨_, all⟩ first
    have apart := all b first
    simp at apart

end leading

end OrderStatistics
