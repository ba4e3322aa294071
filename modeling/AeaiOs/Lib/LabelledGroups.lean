import AeaiOs.Lib.GroupSums
import AeaiOs.Lib.OrderStatistics
import Mathlib.Algebra.Group.Prod
import Mathlib.Algebra.GroupWithZero.Nat
import Mathlib.Algebra.Order.Group.Nat
import Mathlib.Data.List.Dedup

/-!
Groups of rows by key, and the groups that appear where a label stands for the key and two keys
may have one label.
-/
namespace LabelledGroups
open GroupSums OrderStatistics
variable {τ κ N : Type} [DecidableEq τ] [DecidableEq κ] [AddCommMonoid N]

def weighed (rows : List (τ × N)) : List (τ × N × Nat) := rows.map fun row => (row.1, row.2, 1)

/-- The sum of a group and the number of its rows. -/
def weightOf (rows : List (τ × N)) (key : τ) : N × Nat := sumOf (weighed rows) key

/-- The keys of the groups of so many rows. -/
def groupsOf (least : Nat) (rows : List (τ × N)) : List τ :=
  (rows.map Prod.fst).dedup.filter fun key => decide (least ≤ (weightOf rows key).2)

/-- The rows under the labels of their keys. -/
def relabel (label : τ → κ) (rows : List (τ × N)) : List (κ × N) :=
  rows.map fun row => (label row.1, row.2)

theorem mem_groupsOf {least : Nat} {rows : List (τ × N)} {key : τ} :
    key ∈ groupsOf least rows ↔ key ∈ rows.map Prod.fst ∧ least ≤ (weightOf rows key).2 := by
  rw [groupsOf, List.mem_filter, List.mem_dedup, decide_eq_true_eq]

theorem groupsOf_nodup (least : Nat) (rows : List (τ × N)) : (groupsOf least rows).Nodup :=
  (List.nodup_dedup _).filter _

theorem weightOf_cons (row : τ × N) (rows : List (τ × N)) (key : τ) :
    weightOf (row :: rows) key =
      (if row.1 = key then (row.2, 1) else 0) + weightOf rows key := by
  unfold weightOf weighed
  rw [List.map_cons, sumOf_cons]

theorem count_weightOf (rows : List (τ × N)) (key : τ) :
    (weightOf rows key).2 = rows.countP fun row => decide (row.1 = key) := by
  induction rows with
  | nil => rfl
  | cons row rows ih =>
    rw [weightOf_cons, Prod.snd_add, ih, List.countP_cons]
    by_cases same : row.1 = key <;> simp [same, Nat.add_comm]

variable {label : τ → κ} {rows : List (τ × N)}

/-- A label of one key weighs what the key does. -/
theorem weightOf_alone {key : τ}
    (alone : ∀ other ∈ rows.map Prod.fst, label other = label key → other = key) :
    weightOf (relabel label rows) (label key) = weightOf rows key := by
  induction rows with
  | nil => rfl
  | cons row rows ih =>
    have rest := ih fun other member => alone other (List.mem_cons_of_mem _ member)
    unfold relabel at rest ⊢
    rw [List.map_cons, weightOf_cons, weightOf_cons, rest]
    by_cases same : row.1 = key
    · rw [if_pos same, if_pos (congrArg label same)]
    · have other : label row.1 ≠ label key := fun equal =>
        same (alone row.1 List.mem_cons_self equal)
      rw [if_neg same, if_neg other]

theorem count_relabel (key : τ) :
    (weightOf (relabel label rows) (label key)).2 = (weightOf rows key).2 +
      rows.countP fun row => decide (label row.1 = label key) && decide (row.1 ≠ key) := by
  rw [count_weightOf, count_weightOf, relabel, List.countP_map]
  induction rows with
  | nil => rfl
  | cons row rows ih =>
    simp only [List.countP_cons, ih]
    by_cases same : row.1 = key
    · simp [same]
      omega
    · by_cases equal : label row.1 = label key
      · simp [same, equal]
        omega
      · simp [same, equal]

/-- A label of another key, too, counts more rows. -/
theorem count_lt_of_other {key other : τ} (member : other ∈ rows.map Prod.fst)
    (apart : other ≠ key) (equal : label other = label key) :
    (weightOf rows key).2 < (weightOf (relabel label rows) (label key)).2 := by
  obtain ⟨row, inside, rfl⟩ := List.mem_map.mp member
  have positive : 0 < rows.countP fun row =>
      decide (label row.1 = label key) && decide (row.1 ≠ key) := by
    apply List.countP_pos_iff.mpr
    exact ⟨row, inside, by simp [apart, equal]⟩
  rw [count_relabel]
  omega

theorem count_le_label (key : τ) :
    (weightOf rows key).2 ≤ (weightOf (relabel label rows) (label key)).2 := by
  rw [count_relabel]
  omega

omit [DecidableEq τ] [DecidableEq κ] [AddCommMonoid N] in
theorem label_mem_relabel {key : τ} (member : key ∈ rows.map Prod.fst) :
    label key ∈ (relabel label rows).map Prod.fst := by
  obtain ⟨row, inside, rfl⟩ := List.mem_map.mp member
  exact List.mem_map.mpr ⟨_, List.mem_map_of_mem inside, rfl⟩

omit [DecidableEq τ] [DecidableEq κ] [AddCommMonoid N] in
theorem key_of_label {name : κ} (member : name ∈ (relabel label rows).map Prod.fst) :
    ∃ key ∈ rows.map Prod.fst, label key = name := by
  obtain ⟨pair, inside, rfl⟩ := List.mem_map.mp member
  obtain ⟨row, stored, rfl⟩ := List.mem_map.mp inside
  exact ⟨row.1, List.mem_map_of_mem stored, rfl⟩

theorem label_mem_groupsOf {least : Nat} {key : τ} (member : key ∈ groupsOf least rows) :
    label key ∈ groupsOf least (relabel label rows) := by
  rw [mem_groupsOf] at member ⊢
  exact ⟨label_mem_relabel member.1, member.2.trans (count_le_label key)⟩

/-! The leading groups. -/

/-- An order of labels with their weights, in which no two labels stand level. -/
structure Ranking (before : κ × N × Nat → κ × N × Nat → Bool) : Prop where
  trans : ∀ a b c, before a b = true → before b c = true → before a c = true
  total : ∀ a b, (before a b || before b a) = true
  antisymm : ∀ a b, before a b = true → before b a = true → a.1 = b.1

section ranked
variable (before : κ × N × Nat → κ × N × Nat → Bool) (label) (limit least : Nat)
  (rows : List (τ × N))

/-- The order of the groups that appear. -/
def labelRank (rows : List (κ × N)) (a b : κ) : Bool :=
  before (a, weightOf rows a) (b, weightOf rows b)

/-- The order of the groups. -/
def keyRank (a b : τ) : Bool := before (label a, weightOf rows a) (label b, weightOf rows b)

/-- Two keys of the rows have the label. -/
def Shared (name : κ) : Prop :=
  ∃ a ∈ rows.map Prod.fst, ∃ b ∈ rows.map Prod.fst, a ≠ b ∧ label a = name ∧ label b = name

/-- As many other labels are ahead of the label with this weight. -/
def Outranked (name : κ) (weight : N × Nat) : Prop :=
  let labelled := relabel label rows
  limit ≤ (groupsOf least labelled).countP fun other =>
    decide (other ≠ name) && before (other, weightOf labelled other) (name, weight)

/-- A shared label is outranked with the rows of all its keys and with those of each. -/
def SharedOutranked : Prop :=
  ∀ name ∈ groupsOf least (relabel label rows), Shared label rows name →
    Outranked label before limit least rows name (weightOf (relabel label rows) name) ∧
    ∀ key ∈ groupsOf least rows, label key = name →
      Outranked label before limit least rows name (weightOf rows key)

end ranked

omit [DecidableEq τ] in
/-- Leading labels, from leading labels with their weights. -/
theorem leading_labels {before : κ × N × Nat → κ × N × Nat → Bool} {limit least : Nat}
    {rows : List (κ × N)} {items chosen : List (κ × N × Nat)}
    (stored : ∀ item, item ∈ items ↔ item.1 ∈ groupsOf least rows ∧ item.2 = weightOf rows item.1)
    (leading : Leading before limit items chosen) :
    Leading (labelRank before rows) limit (groupsOf least rows) (chosen.map Prod.fst) := by
  have weight : ∀ item ∈ chosen, item = (item.1, weightOf rows item.1) := by
    intro item member
    rw [← ((stored item).mp (leading.inside item member)).2]
  constructor
  · apply List.Nodup.map_on _ leading.nodup
    intro a first b second same
    rw [weight a first, weight b second, same]
  · intro name member
    obtain ⟨item, inside, rfl⟩ := List.mem_map.mp member
    exact ((stored item).mp (leading.inside item inside)).1
  · rw [List.length_map]
    exact leading.short
  · rw [List.pairwise_map]
    apply leading.ranked.imp_of_mem
    intro a b first second ahead
    rw [weight a first, weight b second] at ahead
    exact ahead
  · intro name member out
    have item := (stored (name, weightOf rows name)).mpr ⟨member, rfl⟩
    have behind := leading.ahead _ item fun inside => out (List.mem_map_of_mem inside)
    rw [List.length_map]
    refine ⟨behind.1, ?_⟩
    intro other first
    obtain ⟨a, inside, rfl⟩ := List.mem_map.mp first
    have ahead := behind.2 a inside
    rw [weight a inside] at ahead
    exact ahead

section shown
variable {before : κ × N × Nat → κ × N × Nat → Bool} {limit least : Nat} {shown : List κ}

omit [DecidableEq τ] in
theorem outranked_iff (ranking : Ranking before)
    (leading : Leading (labelRank before (relabel label rows)) limit
      (groupsOf least (relabel label rows)) shown)
    {name : κ} (member : name ∈ groupsOf least (relabel label rows)) :
    name ∉ shown ↔
      Outranked label before limit least rows name (weightOf (relabel label rows) name) :=
  leading.not_mem_iff (groupsOf_nodup _ _) (fun _ _ _ => ranking.trans _ _ _)
    (fun _ _ => ranking.antisymm _ _) member

omit [DecidableEq τ] [DecidableEq κ] [AddCommMonoid N] in
theorem alone_of_not_shared {key : τ} (member : key ∈ rows.map Prod.fst)
    (alone : ¬ Shared label rows (label key)) :
    ∀ other ∈ rows.map Prod.fst, label other = label key → other = key := by
  intro other inside equal
  by_contra apart
  exact alone ⟨other, inside, key, member, apart, equal, rfl⟩

omit [DecidableEq τ] [DecidableEq κ] [AddCommMonoid N] in
theorem keys_of_labels {names : List κ}
    (named : ∀ name ∈ names, name ∈ (relabel label rows).map Prod.fst) :
    ∃ keys : List τ, (∀ key ∈ keys, key ∈ rows.map Prod.fst) ∧ keys.map label = names := by
  induction names with
  | nil => exact ⟨[], by simp, rfl⟩
  | cons name names ih =>
    obtain ⟨keys, inside, labels⟩ := ih fun other member => named other (List.mem_cons_of_mem _ member)
    obtain ⟨key, member, rfl⟩ := key_of_label (named name List.mem_cons_self)
    refine ⟨key :: keys, ?_, by rw [List.map_cons, labels]⟩
    rw [List.forall_mem_cons]
    exact ⟨member, inside⟩

/-- Where shared labels are outranked the leading labels are those of the leading keys. -/
theorem leading_keys (ranking : Ranking before)
    (leading : Leading (labelRank before (relabel label rows)) limit
      (groupsOf least (relabel label rows)) shown)
    (outranked : SharedOutranked label before limit least rows) :
    ∃ chosen, Leading (keyRank label before rows) limit (groupsOf least rows) chosen ∧
      chosen.map label = shown ∧
      ∀ key ∈ chosen, weightOf (relabel label rows) (label key) = weightOf rows key := by
  have alone : ∀ name ∈ shown, ¬ Shared label rows name := by
    intro name member shared
    have group := leading.inside name member
    exact (outranked_iff ranking leading group).mpr (outranked name group shared).1 member
  obtain ⟨chosen, stored, labels⟩ := keys_of_labels fun name member =>
    (mem_groupsOf.mp (leading.inside name member)).1
  have labelled : ∀ key ∈ chosen, label key ∈ shown := by
    intro key member
    rw [← labels]
    exact List.mem_map_of_mem member
  have only : ∀ key ∈ chosen, ∀ other ∈ rows.map Prod.fst, label other = label key → other = key :=
    fun key member => alone_of_not_shared (stored key member) (alone _ (labelled key member))
  have weights : ∀ key ∈ chosen,
      weightOf (relabel label rows) (label key) = weightOf rows key :=
    fun key member => weightOf_alone (only key member)
  refine ⟨chosen, ?_, labels, weights⟩
  constructor
  · exact List.Nodup.of_map label (labels ▸ leading.nodup)
  · intro key member
    have group := (mem_groupsOf.mp (leading.inside _ (labelled key member))).2
    rw [weights key member] at group
    exact mem_groupsOf.mpr ⟨stored key member, group⟩
  · rw [← List.length_map label, labels]
    exact leading.short
  · have ranked := leading.ranked
    rw [← labels, List.pairwise_map] at ranked
    apply ranked.imp_of_mem
    intro a b first second ahead
    unfold labelRank at ahead
    rw [weights a first, weights b second] at ahead
    exact ahead
  · intro other member out
    have group : label other ∈ groupsOf least (relabel label rows) := label_mem_groupsOf member
    have missing : label other ∉ shown := by
      intro inside
      rw [← labels] at inside
      obtain ⟨key, first, equal⟩ := List.mem_map.mp inside
      have same := only key first other (mem_groupsOf.mp member).1 equal.symm
      exact out (same ▸ first)
    have full : shown.length = limit ∧ ∀ name ∈ shown, before
        (name, weightOf (relabel label rows) name) (label other, weightOf rows other) = true := by
      by_cases shared : Shared label rows (label other)
      · have behind := (outranked _ group shared).2 other member rfl
        apply (leading.all_iff (groupsOf_nodup _ _) _).mpr (behind.trans _)
        · intro a b ahead closer
          exact ranking.trans _ _ _ ahead closer
        · apply List.countP_mono_left
          intro name _ ahead
          exact (Bool.and_eq_true _ _ ▸ ahead).2
      · have weight := weightOf_alone
          (alone_of_not_shared (mem_groupsOf.mp member).1 shared)
        have behind := leading.ahead _ group missing
        unfold labelRank at behind
        rw [weight] at behind
        exact behind
    rw [← labels, List.length_map] at full
    refine ⟨full.1, ?_⟩
    intro key first
    have ahead := full.2 _ (List.mem_map_of_mem first)
    rw [weights key first] at ahead
    exact ahead

/-- The leading labels are shown as the leading keys are, if and only if the shared labels are
    outranked. -/
theorem shown_iff (ranking : Ranking before)
    (leading : Leading (labelRank before (relabel label rows)) limit
      (groupsOf least (relabel label rows)) shown)
    {P : Type} {point : κ × N × Nat → P}
    (faithful : ∀ a b, point a = point b → a.1 = b.1 ∧ a.2.2 = b.2.2) :
    (∃ chosen, Leading (keyRank label before rows) limit (groupsOf least rows) chosen ∧
      shown.map (fun name => point (name, weightOf (relabel label rows) name)) =
        chosen.map fun key => point (label key, weightOf rows key)) ↔
      SharedOutranked label before limit least rows := by
  constructor
  · intro ⟨chosen, keys, equal⟩
    have matched : ∀ key ∈ chosen, label key ∈ shown ∧
        (weightOf (relabel label rows) (label key)).2 = (weightOf rows key).2 := by
      intro key member
      have inside : point (label key, weightOf rows key) ∈
          shown.map fun name => point (name, weightOf (relabel label rows) name) := by
        rw [equal]
        exact List.mem_map_of_mem member
      obtain ⟨name, first, same⟩ := List.mem_map.mp inside
      obtain ⟨labels, counts⟩ := faithful _ _ same
      dsimp only at labels counts
      subst labels
      exact ⟨first, counts⟩
    have covered : ∀ name ∈ shown, ∃ key ∈ chosen, label key = name := by
      intro name member
      have inside : point (name, weightOf (relabel label rows) name) ∈
          chosen.map fun key => point (label key, weightOf rows key) := by
        rw [← equal]
        exact List.mem_map_of_mem member
      obtain ⟨key, first, same⟩ := List.mem_map.mp inside
      exact ⟨key, first, (faithful _ _ same).1⟩
    have only : ∀ key ∈ chosen, ∀ other ∈ rows.map Prod.fst,
        label other = label key → other = key := by
      intro key member other inside labels
      by_contra apart
      have more := count_lt_of_other inside apart labels
      have counts := (matched key member).2
      omega
    intro name group shared
    have hidden : name ∉ shown := by
      intro member
      obtain ⟨key, first, rfl⟩ := covered name member
      obtain ⟨a, inA, b, inB, apart, labelA, labelB⟩ := shared
      exact apart ((only key first a inA labelA).trans (only key first b inB labelB).symm)
    refine ⟨(outranked_iff ranking leading group).mp hidden, ?_⟩
    intro key member labelled
    have out : key ∉ chosen := fun inside => hidden (labelled ▸ (matched key inside).1)
    obtain ⟨full, ahead⟩ := keys.ahead key member out
    have length := congrArg List.length equal
    rw [List.length_map, List.length_map] at length
    apply leading.le_countP (length.trans full)
    intro other first
    obtain ⟨front, inside, rfl⟩ := covered other first
    have before := ahead front inside
    unfold keyRank at before
    rw [labelled, ← weightOf_alone (only front inside)] at before
    rw [Bool.and_eq_true, decide_eq_true_eq]
    exact ⟨fun same => hidden (same ▸ first), before⟩
  · intro outranked
    obtain ⟨chosen, keys, labels, weights⟩ := leading_keys ranking leading outranked
    refine ⟨chosen, keys, ?_⟩
    rw [← labels, List.map_map]
    apply List.map_congr_left
    intro key member
    rw [Function.comp_apply, weights key member]

end shown

end LabelledGroups
