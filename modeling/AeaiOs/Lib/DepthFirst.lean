import AeaiOs.Lib.CycleCheck
import Mathlib.Data.List.Perm.Subperm
import Mathlib.Logic.Relation

/-!
The depth-first cycle check as a recursion without a bound: it ends, with the answer of the
bounded one, and finds a cycle exactly if there is one.
-/
namespace CycleCheck
open Relation

variable {κ : Type}

/-- The nodes of a list are visited one after the other while `visiting` is on the stack. What
    comes out is what is visited then, or `none` for a cycle. -/
inductive Visits (dependsOn : κ → List κ) : List κ → List κ → List κ → Option (List κ) → Prop where
  | done {visiting visited : List κ} : Visits dependsOn visiting visited [] (some visited)
  | known {visiting visited : List κ} {node : κ} {rest : List κ} {result : Option (List κ)}
      (known : node ∈ visited) (later : Visits dependsOn visiting visited rest result) :
      Visits dependsOn visiting visited (node :: rest) result
  | cycle {visiting visited : List κ} {node : κ} {rest : List κ} (fresh : node ∉ visited)
      (stacked : node ∈ visiting) : Visits dependsOn visiting visited (node :: rest) none
  | descend {visiting visited visited' : List κ} {node : κ} {rest : List κ}
      {result : Option (List κ)} (fresh : node ∉ visited) (free : node ∉ visiting)
      (below : Visits dependsOn (node :: visiting) visited (dependsOn node) (some visited'))
      (later : Visits dependsOn visiting (node :: visited') rest result) :
      Visits dependsOn visiting visited (node :: rest) result
  | fail {visiting visited : List κ} {node : κ} {rest : List κ} (fresh : node ∉ visited)
      (free : node ∉ visiting)
      (below : Visits dependsOn (node :: visiting) visited (dependsOn node) none) :
      Visits dependsOn visiting visited (node :: rest) none

section bounded
variable [DecidableEq κ]

/-- A stack of different nodes is no longer than the nodes, so the bound is never met. -/
theorem visits_foldlM {dependsOn : κ → List κ} {nodes : List κ}
    (closed : ∀ node ∈ nodes, ∀ d ∈ dependsOn node, d ∈ nodes) (fuel : Nat)
    {visiting : List κ} (different : visiting.Nodup) (inside : visiting ⊆ nodes)
    (enough : nodes.length < fuel + visiting.length) {todo : List κ} (members : todo ⊆ nodes)
    (visited : List κ) :
    Visits dependsOn visiting visited todo
      (todo.foldlM (visit dependsOn fuel visiting) visited) := by
  induction fuel generalizing visiting todo visited with
  | zero =>
    have short := (List.subperm_of_subset different inside).length_le
    omega
  | succ fuel ih =>
    induction todo generalizing visited with
    | nil => exact .done
    | cons node rest later =>
      have here : node ∈ nodes := members List.mem_cons_self
      have rest_inside : rest ⊆ nodes := fun k member => members (List.mem_cons_of_mem _ member)
      rw [List.foldlM_cons, visit]
      by_cases known : node ∈ visited
      · rw [if_pos known]
        exact .known known (later rest_inside visited)
      rw [if_neg known]
      by_cases stacked : node ∈ visiting
      · rw [if_pos stacked]
        exact .cycle known stacked
      rw [if_neg stacked]
      have below := ih (List.nodup_cons.mpr ⟨stacked, different⟩)
        (List.cons_subset.mpr ⟨here, inside⟩) (by rw [List.length_cons]; omega)
        (closed node here) visited
      cases result : (dependsOn node).foldlM (visit dependsOn fuel (node :: visiting)) visited with
      | none =>
        rw [result] at below
        exact .fail known stacked below
      | some visited' =>
        rw [result] at below
        exact .descend known stacked below (later rest_inside (node :: visited'))

theorem visits_visitAll {dependsOn : κ → List κ} {nodes : List κ}
    (closed : ∀ node ∈ nodes, ∀ d ∈ dependsOn node, d ∈ nodes) :
    Visits dependsOn [] [] nodes (visitAll dependsOn nodes) := by
  apply visits_foldlM closed (nodes.length + 1) List.nodup_nil (List.nil_subset nodes)
  · rw [List.length_nil]
    omega
  · exact List.Subset.refl nodes

end bounded

/-- The recursion has one outcome. -/
theorem Visits.unique {dependsOn : κ → List κ} {visiting visited todo : List κ}
    {result result' : Option (List κ)} (first : Visits dependsOn visiting visited todo result)
    (second : Visits dependsOn visiting visited todo result') : result = result' := by
  induction first generalizing result' with
  | done =>
    cases second
    rfl
  | known known _ ih =>
    cases second with
    | known _ later => exact ih later
    | cycle fresh _ => exact absurd known fresh
    | descend fresh _ _ _ => exact absurd known fresh
    | fail fresh _ _ => exact absurd known fresh
  | cycle fresh stacked =>
    cases second with
    | known known _ => exact absurd known fresh
    | cycle _ _ => rfl
    | descend _ free _ _ => exact absurd stacked free
    | fail _ free _ => exact absurd stacked free
  | descend fresh free _ _ below later =>
    cases second with
    | known known _ => exact absurd known fresh
    | cycle _ stacked => exact absurd stacked free
    | descend _ _ below' later' =>
      cases below below'
      exact later later'
    | fail _ _ below' => cases below below'
  | fail fresh free _ below =>
    cases second with
    | known known _ => exact absurd known fresh
    | cycle _ stacked => exact absurd stacked free
    | descend _ _ below' _ => cases below below'
    | fail _ _ _ => rfl

/-- Where no node depends on itself over any number of steps, no cycle is found: the nodes of the
    stack depend on all that is to be visited. -/
theorem Visits.finishes {dependsOn : κ → List κ} {visiting visited todo : List κ}
    {result : Option (List κ)} (visits : Visits dependsOn visiting visited todo result)
    (acyclic : ∀ node, ¬ TransGen (fun a b => b ∈ dependsOn a) node node)
    (above : ∀ v ∈ visiting, ∀ node ∈ todo, TransGen (fun a b => b ∈ dependsOn a) v node) :
    result ≠ none := by
  induction visits with
  | done => exact Option.some_ne_none _
  | known _ _ ih =>
    apply ih
    intro v stacked node member
    exact above v stacked node (List.mem_cons_of_mem _ member)
  | cycle _ stacked => exact absurd (above _ stacked _ List.mem_cons_self) (acyclic _)
  | descend _ _ _ _ _ later =>
    apply later
    intro v stacked node member
    exact above v stacked node (List.mem_cons_of_mem _ member)
  | fail _ _ _ below =>
    apply below
    intro v stacked node member
    rcases List.mem_cons.mp stacked with rfl | higher
    · exact .single member
    · exact .tail (above v higher _ List.mem_cons_self) member

theorem topological_closed {dependsOn : κ → List κ} {order : List κ}
    (ordered : Topological dependsOn order) {a b : κ} (member : a ∈ order)
    (path : TransGen (fun a b => b ∈ dependsOn a) a b) : b ∈ order := by
  have step : ∀ {order : List κ}, Topological dependsOn order → ∀ {a b : κ}, a ∈ order →
      b ∈ dependsOn a → b ∈ order := by
    intro order
    induction order with
    | nil =>
      intro _ a b member
      cases member
    | cons node rest ih =>
      intro ordered a b member edge
      rcases List.mem_cons.mp member with rfl | later
      · exact List.mem_cons_of_mem _ (ordered.1 b edge)
      · exact List.mem_cons_of_mem _ (ih ordered.2 later edge)
  induction path with
  | single edge => exact step ordered member edge
  | tail _ edge ih => exact step ordered ih edge

theorem topological_acyclic {dependsOn : κ → List κ} {order : List κ}
    (ordered : Topological dependsOn order) {node : κ} (member : node ∈ order) :
    ¬ TransGen (fun a b => b ∈ dependsOn a) node node := by
  induction order with
  | nil => cases member
  | cons first rest ih =>
    intro cycle
    rcases List.mem_cons.mp member with rfl | later
    · obtain ⟨next, edge, back⟩ := TransGen.head'_iff.mp cycle
      have behind := ordered.1 next edge
      rcases reflTransGen_iff_eq_or_transGen.mp back with rfl | path
      · exact ih ordered.2 behind cycle
      · exact ih ordered.2 (topological_closed ordered.2 behind path) cycle
    · exact ih ordered.2 later cycle

end CycleCheck
