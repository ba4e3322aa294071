import Mathlib.Data.List.Nodup
import Mathlib.Tactic.Basic

/-!
Depth-first cycle check over a dependency function. Finished nodes are pushed
on the front, so a check that passes leaves every node in front of everything
it depends on.
-/
namespace CycleCheck

variable {κ : Type} [DecidableEq κ]

/-- Visits `node` while `visiting` is on the stack. The fuel bounds the depth of
    the stack; `none` is a cycle. -/
def visit (dependsOn : κ → List κ) : Nat → List κ → List κ → κ → Option (List κ)
  | 0, _, _, _ => none
  | fuel + 1, visiting, visited, node =>
      if node ∈ visited then some visited
      else if node ∈ visiting then none
      else
        match (dependsOn node).foldlM (visit dependsOn fuel (node :: visiting)) visited with
        | some visited => some (node :: visited)
        | none => none

def visitAll (dependsOn : κ → List κ) (nodes : List κ) : Option (List κ) :=
  nodes.foldlM (visit dependsOn (nodes.length + 1) []) []

/-- Every node stands in front of all it depends on. -/
def Topological (dependsOn : κ → List κ) : List κ → Prop
  | [] => True
  | node :: rest => (∀ d ∈ dependsOn node, d ∈ rest) ∧ Topological dependsOn rest

/-- What one visit adds: nothing is lost, the order stays topological, and the
    visited node is in it. -/
def Extends (dependsOn : κ → List κ) (before after : List κ) : Prop :=
  before ⊆ after ∧ (Topological dependsOn before → Topological dependsOn after)

omit [DecidableEq κ] in
theorem extends_trans {dependsOn : κ → List κ} {a b c : List κ}
    (first : Extends dependsOn a b) (second : Extends dependsOn b c) : Extends dependsOn a c :=
  ⟨fun _ h => second.1 (first.1 h), fun h => second.2 (first.2 h)⟩

omit [DecidableEq κ] in
theorem foldlM_extends {dependsOn : κ → List κ} {step : List κ → κ → Option (List κ)}
    (each : ∀ before node after, step before node = some after →
      Extends dependsOn before after ∧ node ∈ after)
    (nodes before after : List κ) (h : nodes.foldlM step before = some after) :
    Extends dependsOn before after ∧ ∀ node ∈ nodes, node ∈ after := by
  induction nodes generalizing before with
  | nil =>
    simp only [List.foldlM_nil, pure, Option.some.injEq] at h
    subst h
    exact ⟨⟨List.Subset.refl _, id⟩, by simp⟩
  | cons node rest ih =>
    simp only [List.foldlM_cons, bind, Option.bind_eq_some_iff] at h
    obtain ⟨middle, first, later⟩ := h
    obtain ⟨grows, present⟩ := each before node middle first
    obtain ⟨grows', present'⟩ := ih middle later
    refine ⟨extends_trans grows grows', ?_⟩
    intro k hk
    rcases List.mem_cons.mp hk with same | old
    · subst same
      exact grows'.1 present
    · exact present' k old

theorem visit_extends (dependsOn : κ → List κ) (fuel : Nat) :
    ∀ visiting before node after, visit dependsOn fuel visiting before node = some after →
      Extends dependsOn before after ∧ node ∈ after := by
  induction fuel with
  | zero =>
    intro visiting before node after h
    simp [visit] at h
  | succ fuel ih =>
    intro visiting before node after h
    simp only [visit] at h
    split at h
    · rename_i known
      simp only [Option.some.injEq] at h
      subst h
      exact ⟨⟨List.Subset.refl _, id⟩, known⟩
    · split at h
      · simp at h
      · split at h
        · rename_i visited hvisited
          simp only [Option.some.injEq] at h
          subst h
          obtain ⟨grows, all⟩ := foldlM_extends (ih (node :: visiting)) _ _ _ hvisited
          refine ⟨⟨fun k hk => List.mem_cons_of_mem _ (grows.1 hk), ?_⟩, by simp⟩
          intro ordered
          exact ⟨all, grows.2 ordered⟩
        · simp at h

theorem visitAll_sound {dependsOn : κ → List κ} {nodes order : List κ}
    (h : visitAll dependsOn nodes = some order) :
    Topological dependsOn order ∧ ∀ node ∈ nodes, node ∈ order := by
  obtain ⟨grows, all⟩ :=
    foldlM_extends (visit_extends dependsOn (nodes.length + 1) []) nodes [] order h
  exact ⟨grows.2 trivial, all⟩

omit [DecidableEq κ] in
/-- In a topological order every class of nodes that is not empty has a member
    whose dependencies all lie outside it. -/
theorem topological_has_source {dependsOn : κ → List κ} {order : List κ}
    (ordered : Topological dependsOn order) (p : κ → Prop) [DecidablePred p]
    (some_left : ∃ node ∈ order, p node) :
    ∃ node ∈ order, p node ∧ ∀ d ∈ dependsOn node, d ∈ order ∧ ¬ p d := by
  induction order with
  | nil => obtain ⟨_, h, _⟩ := some_left; simp at h
  | cons node rest ih =>
    by_cases later : ∃ k ∈ rest, p k
    · obtain ⟨k, hk, hp, clear⟩ := ih ordered.2 later
      exact ⟨k, List.mem_cons_of_mem _ hk, hp,
        fun d hd => ⟨List.mem_cons_of_mem _ (clear d hd).1, (clear d hd).2⟩⟩
    · obtain ⟨k, hk, hp⟩ := some_left
      rcases List.mem_cons.mp hk with same | old
      · subst same
        refine ⟨k, by simp, hp, ?_⟩
        intro d hd
        have inside := ordered.1 d hd
        exact ⟨List.mem_cons_of_mem _ inside, fun h => later ⟨d, inside, h⟩⟩
      · exact absurd ⟨k, old, hp⟩ later

end CycleCheck
