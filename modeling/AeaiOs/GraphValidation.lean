import AeaiOs.ExecutionGraph
import AeaiOs.Lib.DepthFirst

/-! Which graphs are valid. -/
namespace Orchestration
open PyText RunModels CycleCheck Relation
namespace ExecutionGraph

/-- A node with the first id names the second one among its dependencies. -/
def Depends (graph : ExecutionGraph) (a b : String) : Prop :=
  ∃ node ∈ graph.nodes, node.id = a ∧ b ∈ node.dependsOn

def Closed (graph : ExecutionGraph) : Prop :=
  ∀ node ∈ graph.nodes, ∀ d ∈ node.dependsOn, d ∈ graph.ids

/-- The nodes are as every producer of graphs makes them, apart from their ids and their
    dependencies. -/
structure WellMade (graph : ExecutionGraph) (knownAgents : List String) : Prop where
  agents : ∀ node ∈ graph.nodes, node.agent ∈ knownAgents
  risks : ∀ node ∈ graph.nodes, node.risk ∈ validRiskLevels
  artifacts : ∀ node ∈ graph.nodes, ∀ artifact ∈ node.expectedArtifacts,
    artifact ∈ validArtifactTypes
  tasks : ∀ node ∈ graph.nodes, strip node.task ≠ ""

theorem mem_dependsOn {graph : ExecutionGraph} (nodup : graph.ids.Nodup) {a b : String} :
    b ∈ graph.dependsOn a ↔ graph.Depends a b := by
  constructor
  · intro member
    unfold dependsOn at member
    cases found : graph.nodes.find? fun node => node.id = a with
    | none =>
      rw [found] at member
      cases member
    | some node =>
      rw [found] at member
      have same := List.find?_some found
      exact ⟨node, List.mem_of_find?_eq_some found, of_decide_eq_true same, member⟩
  · rintro ⟨node, member, rfl, named⟩
    rw [dependsOn_of_mem nodup member]
    exact named

theorem depends_eq {graph : ExecutionGraph} (nodup : graph.ids.Nodup) :
    (fun a b => b ∈ graph.dependsOn a) = graph.Depends := by
  funext a b
  exact propext (mem_dependsOn nodup)

theorem dependsOn_closed {graph : ExecutionGraph} (nodup : graph.ids.Nodup)
    (closed : graph.Closed) : ∀ id ∈ graph.ids, ∀ d ∈ graph.dependsOn id, d ∈ graph.ids := by
  intro id _ d member
  obtain ⟨node, here, _, named⟩ := (mem_dependsOn nodup).mp member
  exact closed node here d named

theorem validateNode_iff {graph : ExecutionGraph} {knownAgents : List String}
    (made : graph.WellMade knownAgents) {node : ExecutionNode} (member : node ∈ graph.nodes) :
    validateNode graph.ids knownAgents node = .ok () ↔
      strip node.id ≠ "" ∧ ∀ d ∈ node.dependsOn, d ∈ graph.ids := by
  constructor
  · intro valid
    obtain ⟨blank, _, inside⟩ := validateNode_ok valid
    exact ⟨blank, inside⟩
  · rintro ⟨blank, inside⟩
    have artifacts : node.expectedArtifacts.filter (· ∉ validArtifactTypes) = [] := by
      apply List.filter_eq_nil_iff.mpr
      intro artifact declared
      simpa using made.artifacts node member artifact declared
    have missing : node.dependsOn.filter (· ∉ graph.ids) = [] := by
      apply List.filter_eq_nil_iff.mpr
      intro d named
      simpa using inside d named
    unfold validateNode
    rw [artifacts, missing]
    simp only [blank, made.tasks node member, made.agents node member, made.risks node member,
      not_true_eq_false, ne_eq, if_false]

theorem validateNodes_iff {ids knownAgents : List String} {nodes : List ExecutionNode} :
    validateNodes ids knownAgents nodes = .ok () ↔
      ∀ node ∈ nodes, validateNode ids knownAgents node = .ok () := by
  constructor
  · exact validateNodes_ok
  · intro each
    induction nodes with
    | nil => rfl
    | cons node rest ih =>
      have first := each node List.mem_cons_self
      have later := ih fun other member => each other (List.mem_cons_of_mem _ member)
      unfold validateNodes
      rw [first]
      exact later

theorem assertAcyclic_iff {graph : ExecutionGraph} (nodup : graph.ids.Nodup)
    (closed : graph.Closed) :
    graph.assertAcyclic = .ok () ↔ ∀ id, ¬ TransGen graph.Depends id id := by
  have visits := visits_visitAll (dependsOn_closed nodup closed)
  have same := depends_eq nodup
  unfold assertAcyclic
  constructor
  · intro passed id cycle
    cases search : visitAll graph.dependsOn graph.ids with
    | none =>
      rw [search] at passed
      cases passed
    | some order =>
      obtain ⟨ordered, all⟩ := visitAll_sound search
      obtain ⟨next, ⟨node, member, rfl, _⟩, _⟩ := TransGen.head'_iff.mp cycle
      have present := all node.id (List.mem_map_of_mem member)
      rw [← same] at cycle
      exact topological_acyclic ordered present cycle
  · intro acyclic
    rw [← same] at acyclic
    have finished := visits.finishes acyclic fun v stacked => by cases stacked
    cases search : visitAll graph.dependsOn graph.ids with
    | none => exact absurd search finished
    | some order => rfl

/-- The visit of the nodes, wherever `validate` comes to it, ends, in one way, and `validate` has
    its answer. -/
def VisitEnds (graph : ExecutionGraph) : Prop :=
  graph.ids.Nodup → graph.Closed →
    ∃ result, Visits graph.dependsOn [] [] graph.ids result ∧
      (∀ result', Visits graph.dependsOn [] [] graph.ids result' → result' = result) ∧
      (graph.assertAcyclic = .ok () ↔ result ≠ none)

theorem visitEnds (graph : ExecutionGraph) : graph.VisitEnds := by
  intro nodup closed
  have visits := visits_visitAll (dependsOn_closed nodup closed)
  refine ⟨visitAll graph.dependsOn graph.ids, visits, fun _ other => other.unique visits, ?_⟩
  unfold assertAcyclic
  cases visitAll graph.dependsOn graph.ids with
  | none => simp
  | some order => simp

/-- Of well-made nodes, `validate` accepts those that are some, whose ids are different and not
    blank, whose dependencies are nodes, and which do not depend on themselves. -/
theorem validate_iff {graph : ExecutionGraph} {knownAgents : List String}
    (made : graph.WellMade knownAgents) :
    (graph.validate knownAgents = .ok () ↔
      graph.nodes ≠ [] ∧ graph.ids.Nodup ∧ (∀ node ∈ graph.nodes, strip node.id ≠ "") ∧
        graph.Closed ∧ ∀ id, ¬ TransGen graph.Depends id id) ∧
      graph.VisitEnds := by
  refine ⟨?_, visitEnds graph⟩
  unfold validate
  by_cases empty : graph.nodes = []
  · simp [empty]
  rw [if_neg (by simpa using empty)]
  by_cases nodup : graph.ids.Nodup
  swap
  · simp [nodup]
  rw [if_neg (by simpa using nodup)]
  have nodes : validateNodes graph.ids knownAgents graph.nodes = .ok () ↔
      (∀ node ∈ graph.nodes, strip node.id ≠ "") ∧ graph.Closed := by
    rw [validateNodes_iff]
    constructor
    · intro each
      constructor
      · intro node member
        exact ((validateNode_iff made member).mp (each node member)).1
      · intro node member
        exact ((validateNode_iff made member).mp (each node member)).2
    · rintro ⟨blank, closed⟩ node member
      exact (validateNode_iff made member).mpr ⟨blank node member, closed node member⟩
  cases checked : validateNodes graph.ids knownAgents graph.nodes with
  | error e =>
    rw [checked] at nodes
    constructor
    · intro valid
      cases valid
    · rintro ⟨_, _, blank, closed, _⟩
      cases nodes.mpr ⟨blank, closed⟩
  | ok done =>
    obtain ⟨blank, closed⟩ := nodes.mp checked
    have acyclic := assertAcyclic_iff nodup closed
    constructor
    · intro valid
      exact ⟨empty, nodup, blank, closed, acyclic.mp valid⟩
    · rintro ⟨_, _, _, _, free⟩
      exact acyclic.mpr free

/-- The second node depends on the first. -/
def chain : ExecutionGraph where
  runId := "run_1"
  nodes :=
    [{ id := "a", agent := "planner", task := "Plan." },
      { id := "b", agent := "planner", task := "Review.", dependsOn := ["a"] }]

theorem chain_valid : chain.validate ["planner"] = .ok () ∧ ∀ id, ¬ TransGen chain.Depends id id := by
  have made : chain.WellMade ["planner"] := by
    constructor <;> decide
  have valid : chain.validate ["planner"] = .ok () := rfl
  exact ⟨valid, ((validate_iff made).1.mp valid).2.2.2.2⟩

end ExecutionGraph
end Orchestration
