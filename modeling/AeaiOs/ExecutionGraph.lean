import AeaiOs.Lib.CycleCheck
import AeaiOs.RunModels

/-! Execution graphs and their validation. -/
namespace Orchestration
open PyText RunValues RunModels CycleCheck

structure ExecutionNode where
  id : String
  agent : String
  task : String
  dependsOn : List String := []
  requiredTools : List String := []
  expectedArtifacts : List String := []
  risk : String := "low"

structure ExecutionGraph where
  runId : String
  nodes : List ExecutionNode

def validRiskLevels : List String := ["low", "medium", "high"]
def validArtifactTypes : List String := ArtifactType.all.map ArtifactType.value

/-- `sorted(set(texts))` -/
def sortedSet (texts : List String) : List String :=
  texts.dedup.mergeSort fun a b => decide (a ≤ b)

def commaJoined (texts : List String) : String := ", ".intercalate texts

namespace ExecutionGraph

def ids (graph : ExecutionGraph) : List String := graph.nodes.map ExecutionNode.id

/-- `nodes_by_id[node_id].depends_on` -/
def dependsOn (graph : ExecutionGraph) (nodeId : String) : List String :=
  ((graph.nodes.find? fun node => node.id = nodeId).map ExecutionNode.dependsOn).getD []

def validateNode (ids : List String) (knownAgents : List String) (node : ExecutionNode) :
    Except PyError Unit :=
  let unknownArtifacts := node.expectedArtifacts.filter (· ∉ validArtifactTypes)
  let missing := node.dependsOn.filter (· ∉ ids)
  if strip node.id = "" then
    .error (.graphValidation "Execution graph contains a node with a blank ID.")
  else if strip node.task = "" then
    .error (.graphValidation s!"Node {node.id} must include a non-empty task.")
  else if node.agent ∉ knownAgents then
    .error (.graphValidation s!"Unknown agent for node {node.id}: {node.agent}")
  else if node.risk ∉ validRiskLevels then
    let allowed := commaJoined (sortedSet validRiskLevels)
    .error (.graphValidation
      s!"Node {node.id} has invalid risk '{node.risk}'. Allowed values: {allowed}.")
  else if unknownArtifacts ≠ [] then
    let invalid := commaJoined (sortedSet unknownArtifacts)
    let allowed := commaJoined (sortedSet validArtifactTypes)
    .error (.graphValidation <|
      s!"Node {node.id} declares unknown artifact types: {invalid}. " ++
        s!"Allowed values: {allowed}.")
  else if missing ≠ [] then
    let missingList := commaJoined (sortedSet missing)
    .error (.graphValidation s!"Node {node.id} depends on missing nodes: {missingList}")
  else .ok ()

def validateNodes (ids : List String) (knownAgents : List String) :
    List ExecutionNode → Except PyError Unit
  | [] => .ok ()
  | node :: rest => do
      validateNode ids knownAgents node
      validateNodes ids knownAgents rest

def assertAcyclic (graph : ExecutionGraph) : Except PyError Unit :=
  match visitAll graph.dependsOn graph.ids with
  | some _ => .ok ()
  | none => .error (.graphValidation "Execution graph contains a dependency cycle.")

def validate (graph : ExecutionGraph) (knownAgents : List String) : Except PyError Unit :=
  if graph.nodes.isEmpty then
    .error (.graphValidation "Execution graph must contain at least one node.")
  else if ¬ graph.ids.Nodup then
    .error (.graphValidation "Execution graph contains duplicate node IDs.")
  else do
    validateNodes graph.ids knownAgents graph.nodes
    assertAcyclic graph

/-- What a graph that passed validation promises to the orchestrator. -/
structure Valid (graph : ExecutionGraph) (knownAgents : List String) : Prop where
  nonempty : graph.nodes ≠ []
  ids_nodup : graph.ids.Nodup
  id_not_blank : ∀ node ∈ graph.nodes, strip node.id ≠ ""
  agent_known : ∀ node ∈ graph.nodes, node.agent ∈ knownAgents
  depends_inside : ∀ node ∈ graph.nodes, ∀ d ∈ node.dependsOn, d ∈ graph.ids
  acyclic : ∃ order, Topological graph.dependsOn order ∧ ∀ id ∈ graph.ids, id ∈ order

theorem validateNode_ok {ids knownAgents : List String} {node : ExecutionNode}
    (h : validateNode ids knownAgents node = .ok ()) :
    strip node.id ≠ "" ∧ node.agent ∈ knownAgents ∧ ∀ d ∈ node.dependsOn, d ∈ ids := by
  simp only [validateNode] at h
  split_ifs at h with blank task agent risk artifacts missing
  refine ⟨blank, by simpa using agent, ?_⟩
  intro d hd
  simp only [ne_eq, Decidable.not_not, List.filter_eq_nil_iff] at missing
  simpa using missing d hd

theorem validateNodes_ok {ids knownAgents : List String} {nodes : List ExecutionNode}
    (h : validateNodes ids knownAgents nodes = .ok ()) :
    ∀ node ∈ nodes, validateNode ids knownAgents node = .ok () := by
  induction nodes with
  | nil => simp
  | cons node rest ih =>
    simp only [validateNodes, bind, Except.bind] at h
    cases first : validateNode ids knownAgents node with
    | error e => simp [first] at h
    | ok _ =>
      simp only [first] at h
      intro k hk
      rcases List.mem_cons.mp hk with same | old
      · subst same
        exact first
      · exact ih h k old

theorem validate_ok {graph : ExecutionGraph} {knownAgents : List String}
    (h : graph.validate knownAgents = .ok ()) : graph.Valid knownAgents := by
  simp only [validate] at h
  split_ifs at h with empty duplicates
  simp only [bind, Except.bind] at h
  cases nodes : validateNodes graph.ids knownAgents graph.nodes with
  | error e => simp [nodes] at h
  | ok _ =>
    have each := fun node hn => validateNode_ok (validateNodes_ok nodes node hn)
    simp only [nodes, assertAcyclic] at h
    cases search : visitAll graph.dependsOn graph.ids with
    | none => simp [search] at h
    | some order =>
      exact
        { nonempty := by simpa using empty
          ids_nodup := duplicates
          id_not_blank := fun node hn => (each node hn).1
          agent_known := fun node hn => (each node hn).2.1
          depends_inside := fun node hn => (each node hn).2.2
          acyclic := ⟨order, visitAll_sound search⟩ }

theorem dependsOn_of_mem {graph : ExecutionGraph} (nodup : graph.ids.Nodup)
    {node : ExecutionNode} (h : node ∈ graph.nodes) :
    graph.dependsOn node.id = node.dependsOn := by
  have unique : ∀ nodes : List ExecutionNode, (nodes.map ExecutionNode.id).Nodup →
      node ∈ nodes → nodes.find? (fun k => k.id = node.id) = some node := by
    intro nodes
    induction nodes with
    | nil => simp
    | cons k rest ih =>
      intro hnodup hmem
      simp only [List.map_cons, List.nodup_cons] at hnodup
      rcases List.mem_cons.mp hmem with same | old
      · subst same
        simp
      · have other : k.id ≠ node.id := by
          intro same
          exact hnodup.1 (same ▸ List.mem_map_of_mem old)
        simpa [other] using ih hnodup.2 old
  simp [dependsOn, unique graph.nodes nodup h]

end ExecutionGraph
end Orchestration
