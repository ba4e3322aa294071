import AeaiOs.ControlView
import AeaiOs.ProtocolKept

/-!
The node records of a run by their ids: what a write does to them, which of them a
plan names, and the attempts that are left to them.
-/
namespace Orchestration
open OrderedDict AtomicProgram RunValues RunModels InMemoryRunRepository

def recordOf (nodes : List GraphNodeRecord) (id : String) : Option GraphNodeRecord :=
  nodes.find? fun node => node.id = id

def idsOf (nodes : List GraphNodeRecord) : List String := nodes.map GraphNodeRecord.id

theorem recordOf_id {nodes : List GraphNodeRecord} {id : String} {node : GraphNodeRecord}
    (h : recordOf nodes id = some node) : node.id = id := by
  have hit := List.find?_some h
  simpa using hit

theorem mem_of_recordOf {nodes : List GraphNodeRecord} {id : String} {node : GraphNodeRecord}
    (h : recordOf nodes id = some node) : node ∈ nodes :=
  List.mem_of_find?_eq_some h

theorem recordOf_of_mem {nodes : List GraphNodeRecord} {node : GraphNodeRecord}
    (nodup : (idsOf nodes).Nodup) (member : node ∈ nodes) : recordOf nodes node.id = some node := by
  cases search : recordOf nodes node.id with
  | none =>
    have absent := List.find?_eq_none.mp search node member
    simp at absent
  | some found =>
    rw [List.inj_on_of_nodup_map nodup (mem_of_recordOf search) member (recordOf_id search)]

theorem recordOf_isSome {nodes : List GraphNodeRecord} {id : String} :
    (∃ node, recordOf nodes id = some node) ↔ id ∈ idsOf nodes := by
  constructor
  · rintro ⟨node, found⟩
    rw [← recordOf_id found]
    exact List.mem_map_of_mem (mem_of_recordOf found)
  · intro member
    obtain ⟨node, inside, same⟩ := List.mem_map.mp member
    cases search : recordOf nodes id with
    | none =>
      have absent := List.find?_eq_none.mp search node inside
      simp [same] at absent
    | some found => exact ⟨found, rfl⟩

/-- A write replaces one record and leaves the others. -/
theorem recordOf_upserted (node : GraphNodeRecord) (nodes : List GraphNodeRecord) (id : String) :
    recordOf (upserted node nodes) id = if node.id = id then some node else recordOf nodes id := by
  induction nodes with
  | nil => by_cases same : node.id = id <;> simp [recordOf, upserted, same]
  | cons first rest ih =>
    unfold recordOf at ih ⊢
    unfold upserted
    by_cases replaced : first.id = node.id
    · by_cases same : node.id = id
      · simp [replaced, same]
      · have other : ¬ first.id = id := fun h => same (replaced.symm.trans h)
        simp [replaced, same]
    · simp only [replaced, if_false, List.find?_cons]
      by_cases here : first.id = id
      · have other : ¬ node.id = id := fun h => replaced (here.trans h.symm)
        simp [here, other]
      · simp only [here, decide_false]
        exact ih

theorem idsOf_upserted {node : GraphNodeRecord} {nodes : List GraphNodeRecord}
    (known : node.id ∈ idsOf nodes) : idsOf (upserted node nodes) = idsOf nodes := by
  unfold idsOf at known ⊢
  rw [upserted_ids, if_pos known]

theorem upserted_upserted {first second : GraphNodeRecord} (same : first.id = second.id)
    (nodes : List GraphNodeRecord) :
    upserted second (upserted first nodes) = upserted second nodes := by
  induction nodes with
  | nil => simp [upserted, same]
  | cons node rest ih =>
    unfold upserted
    by_cases here : node.id = first.id
    · simp [here, same, upserted]
    · have other : ¬ node.id = second.id := fun h => here (h.trans same.symm)
      simp [here, other, upserted, ih]

/-! The nodes that a plan names. -/

theorem planNodes_eq {state : LangGraphRunState} {nodes : List GraphNodeRecord}
    (nodup : (idsOf nodes).Nodup) :
    planNodes state nodes = state.plan.filterMap fun item => recordOf nodes item.id := by
  unfold planNodes
  refine List.filterMap_congr ?_
  intro item _
  cases search : recordOf nodes item.id with
  | some node =>
    have pair : (item.id, node) ∈ nodes.map fun node => (node.id, node) := by
      rw [← recordOf_id search]
      exact List.mem_map_of_mem (f := fun node : GraphNodeRecord => (node.id, node))
        (mem_of_recordOf search)
    obtain ⟨found, lookup⟩ := Dict.get?_ofPairs_of_mem pair
    obtain ⟨other, inside, key⟩ := List.mem_map.mp (Dict.mem_of_get?_ofPairs lookup)
    simp only [Prod.mk.injEq] at key
    rw [lookup, ← key.2, ← recordOf_of_mem nodup inside, key.1, search]
  | none =>
    cases lookup : (Dict.ofPairs (nodes.map fun node => (node.id, node))).get? item.id with
    | none => rfl
    | some found =>
      obtain ⟨other, inside, key⟩ := List.mem_map.mp (Dict.mem_of_get?_ofPairs lookup)
      simp only [Prod.mk.injEq] at key
      have known : item.id ∈ idsOf nodes := key.1 ▸ List.mem_map_of_mem inside
      obtain ⟨node, named⟩ := recordOf_isSome.mpr known
      rw [search] at named
      cases named

/-- The ids of the records that a list of ids names. -/
theorem filterMap_recordOf_ids (nodes : List GraphNodeRecord) (ids : List String) :
    idsOf (ids.filterMap (recordOf nodes)) = ids.filter fun id => id ∈ idsOf nodes := by
  induction ids with
  | nil => rfl
  | cons id rest ih =>
    by_cases known : id ∈ idsOf nodes
    · obtain ⟨node, found⟩ := recordOf_isSome.mpr known
      simp only [List.filterMap_cons, found, List.filter_cons, known, decide_true, if_true, ← ih]
      simp [idsOf, recordOf_id found]
    · have absent : recordOf nodes id = none := by
        cases search : recordOf nodes id with
        | none => rfl
        | some node => exact absurd (recordOf_isSome.mp ⟨node, search⟩) known
      simp only [List.filterMap_cons, absent, List.filter_cons, known, decide_false,
        Bool.false_eq_true, if_false, ih]

theorem planNodes_ids {state : LangGraphRunState} {nodes : List GraphNodeRecord}
    (nodup : (idsOf nodes).Nodup) :
    idsOf (planNodes state nodes) =
      (state.plan.map PlanItem.id).filter fun id => id ∈ idsOf nodes := by
  rw [planNodes_eq nodup, ← filterMap_recordOf_ids, List.filterMap_map]
  rfl

theorem mem_planNodes_iff {state : LangGraphRunState} {nodes : List GraphNodeRecord}
    (nodup : (idsOf nodes).Nodup) {node : GraphNodeRecord} :
    node ∈ planNodes state nodes ↔ node ∈ nodes ∧ node.id ∈ state.plan.map PlanItem.id := by
  rw [planNodes_eq nodup]
  simp only [List.mem_filterMap]
  constructor
  · rintro ⟨item, planned, found⟩
    refine ⟨mem_of_recordOf found, ?_⟩
    rw [recordOf_id found]
    exact List.mem_map_of_mem planned
  · rintro ⟨member, planned⟩
    obtain ⟨item, inside, same⟩ := List.mem_map.mp planned
    exact ⟨item, inside, same ▸ recordOf_of_mem nodup member⟩

/-! What a history has written. -/

/-- The last record that a history has written for a node. -/
def recordAt : List Entry → String → Option GraphNodeRecord
  | [], _ => none
  | .upserted node :: older, id => if node.id = id then some node else recordAt older id
  | _ :: older, id => recordAt older id

/-! The attempts that are left. -/

def attemptsOf (limit : Nat) (node : GraphNodeRecord) : Nat :=
  if node.status = .completed then 0 else limit - node.retryCount

def leftOf (limit : Nat) (nodes : List GraphNodeRecord) (id : String) : Nat :=
  ((recordOf nodes id).map (attemptsOf limit)).getD 0

/-- The attempts left to the nodes with these ids. -/
def attemptsLeft (limit : Nat) (nodes : List GraphNodeRecord) : List String → Nat
  | [] => 0
  | id :: rest => leftOf limit nodes id + attemptsLeft limit nodes rest

theorem leftOf_upserted (limit : Nat) (node : GraphNodeRecord) (nodes : List GraphNodeRecord)
    (id : String) : leftOf limit (upserted node nodes) id =
      if node.id = id then attemptsOf limit node else leftOf limit nodes id := by
  unfold leftOf
  rw [recordOf_upserted]
  split <;> rfl

theorem attemptsLeft_other {limit : Nat} {node : GraphNodeRecord} {nodes : List GraphNodeRecord}
    {ids : List String} (absent : node.id ∉ ids) :
    attemptsLeft limit (upserted node nodes) ids = attemptsLeft limit nodes ids := by
  induction ids with
  | nil => rfl
  | cons id rest ih =>
    simp only [List.mem_cons, not_or] at absent
    unfold attemptsLeft
    rw [leftOf_upserted, if_neg absent.1, ih absent.2]

/-- A write of one of the nodes changes what is left by the attempts of that node. -/
theorem attemptsLeft_upserted {limit : Nat} {node : GraphNodeRecord} {nodes : List GraphNodeRecord}
    {ids : List String} (nodup : ids.Nodup) (member : node.id ∈ ids) :
    attemptsLeft limit (upserted node nodes) ids + leftOf limit nodes node.id =
      attemptsLeft limit nodes ids + attemptsOf limit node := by
  induction ids with
  | nil => cases member
  | cons id rest ih =>
    simp only [List.nodup_cons] at nodup
    unfold attemptsLeft
    by_cases here : node.id = id
    · subst here
      have others : attemptsLeft limit (upserted node nodes) rest = attemptsLeft limit nodes rest :=
        attemptsLeft_other nodup.1
      rw [leftOf_upserted, if_pos rfl, others]
      omega
    · have later : node.id ∈ rest := (List.mem_cons.mp member).resolve_left here
      have step := ih nodup.2 later
      rw [leftOf_upserted, if_neg here]
      omega

theorem attemptsOf_le (limit : Nat) (node : GraphNodeRecord) : attemptsOf limit node ≤ limit := by
  unfold attemptsOf
  split <;> omega

theorem attemptsLeft_mono {limit : Nat} {nodes nodes' : List GraphNodeRecord} {ids : List String}
    (each : ∀ id ∈ ids, leftOf limit nodes id ≤ leftOf limit nodes' id) :
    attemptsLeft limit nodes ids ≤ attemptsLeft limit nodes' ids := by
  induction ids with
  | nil => exact le_rfl
  | cons id rest ih =>
    have first := each id List.mem_cons_self
    have later := ih fun other member => each other (List.mem_cons_of_mem _ member)
    unfold attemptsLeft
    omega

theorem attemptsLeft_le (limit : Nat) (nodes : List GraphNodeRecord) (ids : List String) :
    attemptsLeft limit nodes ids ≤ ids.length * limit := by
  induction ids with
  | nil => exact Nat.zero_le _
  | cons id rest ih =>
    have first : leftOf limit nodes id ≤ limit := by
      unfold leftOf
      cases recordOf nodes id with
      | none => exact Nat.zero_le _
      | some node => exact attemptsOf_le limit node
    unfold attemptsLeft
    rw [List.length_cons, Nat.succ_mul]
    omega

/-- A write that leaves no more attempts than there were. -/
theorem attemptsLeft_rewritten {limit : Nat} {nodes : List GraphNodeRecord}
    {old new : GraphNodeRecord} (current : recordOf nodes old.id = some old)
    (less : attemptsOf limit new ≤ attemptsOf limit old) (same : new.id = old.id) (ids : List String) :
    attemptsLeft limit (upserted new nodes) ids ≤ attemptsLeft limit nodes ids := by
  apply attemptsLeft_mono
  intro id _
  rw [leftOf_upserted]
  split
  · rename_i here
    unfold leftOf
    rw [← here, same, current]
    exact less
  · exact le_rfl

end Orchestration
