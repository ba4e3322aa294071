import AeaiOs.Lib.ExceptLists
import AeaiOs.RunState

/-!
Which states come back from their checkpoint as they went in. A checkpoint holds
the redacted state, so what resume reads back is what redaction leaves alone.
-/
namespace Orchestration
open OrderedDict PyText ExceptLists RunValues RunModels Redaction

theorem fixed_iff {f : α → Except ε α} {a a' : α} (h : f a = .ok a') : a' = a ↔ f a = .ok a := by
  rw [h, Except.ok.injEq]

/-- A dictionary comes out of a traversal as it went in. -/
theorem traverse_fixed [DecidableEq κ] {f : κ → α → Except ε α} {d : Dict κ α} :
    d.traverse f = .ok d ↔ ∀ entry ∈ d.entries, f entry.1 entry.2 = .ok entry.2 := by
  have walk : ∀ entries : List (κ × α), traverseEntries f entries = .ok entries ↔
      ∀ entry ∈ entries, f entry.1 entry.2 = .ok entry.2 := by
    intro entries
    induction entries with
    | nil => simp [traverseEntries]
    | cons entry rest ih =>
      simp only [traverseEntries, bind_eq_ok, pure_eq_ok, List.forall_mem_cons, ← ih]
      constructor
      · rintro ⟨value, first, others, later, same⟩
        simp only [List.cons.injEq] at same
        obtain ⟨same, rfl⟩ := same
        have found := congrArg Prod.snd same
        simp only at found
        rw [found] at first
        exact ⟨first, later⟩
      · rintro ⟨first, later⟩
        exact ⟨entry.2, first, rest, later, rfl⟩
  rw [Dict.traverse_entries, walk]

variable [UnicodeDatabase]

/-- Redaction leaves the text alone. -/
def Fixed (text : String) : Prop := redactText text = .ok text

theorem redactTexts_fixed {texts : List String} :
    redactTexts texts = .ok texts ↔ ∀ text ∈ texts, Fixed text := by
  induction texts with
  | nil => simp [redactTexts]
  | cons text rest ih =>
    simp only [redactTexts, bind_eq_ok, pure_eq_ok, List.forall_mem_cons, ← ih]
    constructor
    · rintro ⟨text', first, rest', later, same⟩
      simp only [List.cons.injEq] at same
      obtain ⟨rfl, rfl⟩ := same
      exact ⟨first, later⟩
    · rintro ⟨first, later⟩
      exact ⟨text, first, rest, later, rfl⟩

/-- A text or a list of texts that redaction leaves alone under its key. -/
def FixedUnder (key : String) (stored : StoredTexts) : Prop :=
  if isSensitiveKey key then stored = .text redacted
  else match stored with
    | .items texts => ∀ text ∈ texts, Fixed text
    | .text value => Fixed value

theorem redactStoredTexts_fixed {key : String} {stored : StoredTexts} :
    redactStoredTexts key stored = .ok stored ↔ FixedUnder key stored := by
  unfold redactStoredTexts FixedUnder
  split
  · simp only [Except.ok.injEq, eq_comm]
  · cases stored with
    | items texts =>
      simp only [← redactTexts_fixed]
      cases redactTexts texts <;> simp [Except.map]
    | text value =>
      simp only [Fixed]
      cases redactText value <;> simp [Except.map]

theorem redactTextAt_fixed {key value : String} :
    redactTextAt key value = .ok value ↔
      if isSensitiveKey key then value = redacted else Fixed value := by
  unfold redactTextAt Fixed
  split
  · simp only [Except.ok.injEq, eq_comm]
  · rfl

/-! The redacted state, field by field. -/

structure RedactedFrom (state stored : LangGraphRunState) : Prop where
  runId : redactText state.runId = .ok stored.runId
  task : redactText state.task = .ok stored.task
  plan : redactPlan state.plan = .ok stored.plan
  pending : redactTexts state.pendingNodeIds = .ok stored.pendingNodeIds
  completed : redactTexts state.completedNodeIds = .ok stored.completedNodeIds
  failed : redactTexts state.failedNodeIds = .ok stored.failedNodeIds
  waiting : redactOptional state.waitingForApprovalNodeId = .ok stored.waitingForApprovalNodeId
  outputs : (state.agentOutputs.traverse fun key => redactValueAt (some key)) =
    .ok stored.agentOutputs
  artifacts : state.artifacts.traverse redactStoredTexts = .ok stored.artifacts
  approvals : state.approvals.traverse redactTextAt = .ok stored.approvals
  evaluations : redactItems state.evaluationResults = .ok stored.evaluationResults
  errors : state.errors.traverse redactStoredTexts = .ok stored.errors

theorem redactState_ok {state stored : LangGraphRunState} (h : redactState state = .ok stored) :
    RedactedFrom state stored := by
  simp only [redactState, bind_eq_ok, pure_eq_ok] at h
  obtain ⟨runId, h1, task, h2, plan, h3, pending, h4, completed, h5, failed, h6, waiting, h7,
    outputs, h8, artifacts, h9, approvals, h10, evaluations, h11, errors, h12, rfl⟩ := h
  exact ⟨h1, h2, h3, h4, h5, h6, h7, h8, h9, h10, h11, h12⟩

theorem redactPlanItem_ok {item item' : PlanItem} (h : redactPlanItem item = .ok item') :
    redactText item.id = .ok item'.id ∧ redactTexts item.dependsOn = .ok item'.dependsOn := by
  simp only [redactPlanItem, bind_eq_ok, pure_eq_ok] at h
  obtain ⟨id, h1, agent, -, task, -, dependsOn, h4, tools, -, artifacts, -, risk, -, rfl⟩ := h
  exact ⟨h1, h4⟩

theorem redactPlan_cons {item : PlanItem} {rest plan : List PlanItem}
    (h : redactPlan (item :: rest) = .ok plan) :
    ∃ item' rest', redactPlanItem item = .ok item' ∧ redactPlan rest = .ok rest' ∧
      plan = item' :: rest' := by
  simp only [redactPlan, bind_eq_ok, pure_eq_ok] at h
  obtain ⟨item', h1, rest', h2, rfl⟩ := h
  exact ⟨item', rest', h1, h2, rfl⟩

theorem redactPlan_ids {plan plan' : List PlanItem} (h : redactPlan plan = .ok plan')
    (fixed : ∀ item ∈ plan, Fixed item.id) : plan'.map PlanItem.id = plan.map PlanItem.id := by
  induction plan generalizing plan' with
  | nil =>
    simp only [redactPlan, Except.ok.injEq] at h
    rw [← h]
  | cons item rest ih =>
    obtain ⟨item', rest', first, later, rfl⟩ := redactPlan_cons h
    have same := (redactPlanItem_ok first).1.symm.trans (fixed item List.mem_cons_self)
    simp only [Except.ok.injEq] at same
    rw [List.map_cons, List.map_cons, same,
      ih later fun k member => fixed k (List.mem_cons_of_mem _ member)]

/-- What the orchestrator steers by in a plan. -/
def planControl (plan : List PlanItem) : List (String × List String) :=
  plan.map fun item => (item.id, item.dependsOn)

theorem redactPlan_control {plan plan' : List PlanItem} (h : redactPlan plan = .ok plan') :
    planControl plan' = planControl plan ↔
      ∀ item ∈ plan, Fixed item.id ∧ ∀ dependency ∈ item.dependsOn, Fixed dependency := by
  induction plan generalizing plan' with
  | nil =>
    simp only [redactPlan, Except.ok.injEq] at h
    simp [← h]
  | cons item rest ih =>
    obtain ⟨item', rest', first, later, rfl⟩ := redactPlan_cons h
    have id := fixed_iff (redactPlanItem_ok first).1
    have dependsOn := fixed_iff (redactPlanItem_ok first).2
    rw [redactTexts_fixed] at dependsOn
    have others := ih later
    simp only [planControl] at others
    simp only [planControl, List.map_cons, List.cons.injEq, Prod.mk.injEq, others, id, dependsOn,
      List.forall_mem_cons]
    rfl

/-! The round trip. -/

/-- The fields that resume reads back are the same. -/
structure SameControl (state stored : LangGraphRunState) : Prop where
  plan : planControl stored.plan = planControl state.plan
  approvals : stored.approvals = state.approvals
  artifacts : stored.artifacts = state.artifacts
  errors : stored.errors = state.errors
  pending : stored.pendingNodeIds = state.pendingNodeIds
  completed : stored.completedNodeIds = state.completedNodeIds
  failed : stored.failedNodeIds = state.failedNodeIds

/-- Redaction has nothing to hide in the control fields: no text of them matches a
    pattern, and nothing in them is filed under a sensitive key. -/
structure NothingToHide (state : LangGraphRunState) : Prop where
  plan : ∀ item ∈ state.plan, Fixed item.id ∧ ∀ dependency ∈ item.dependsOn, Fixed dependency
  approvals : ∀ entry ∈ state.approvals.entries,
    if isSensitiveKey entry.1 then entry.2 = redacted else Fixed entry.2
  artifacts : ∀ entry ∈ state.artifacts.entries, FixedUnder entry.1 entry.2
  errors : ∀ entry ∈ state.errors.entries, FixedUnder entry.1 entry.2
  lists : ∀ id, id ∈ state.pendingNodeIds ∨ id ∈ state.completedNodeIds ∨
    id ∈ state.failedNodeIds → Fixed id

theorem sameControl_iff {state stored : LangGraphRunState} (h : redactState state = .ok stored) :
    SameControl state stored ↔ NothingToHide state := by
  have fields := redactState_ok h
  have plan := redactPlan_control fields.plan
  have approvals := fixed_iff fields.approvals
  have artifacts := fixed_iff fields.artifacts
  have errors := fixed_iff fields.errors
  have pending := fixed_iff fields.pending
  have completed := fixed_iff fields.completed
  have failed := fixed_iff fields.failed
  rw [traverse_fixed] at approvals artifacts errors
  simp only [redactTextAt_fixed] at approvals
  simp only [redactStoredTexts_fixed] at artifacts errors
  rw [redactTexts_fixed] at pending completed failed
  constructor
  · intro same
    refine ⟨plan.mp same.plan, approvals.mp same.approvals, artifacts.mp same.artifacts,
      errors.mp same.errors, ?_⟩
    rintro id (inPending | inCompleted | inFailed)
    · exact pending.mp same.pending id inPending
    · exact completed.mp same.completed id inCompleted
    · exact failed.mp same.failed id inFailed
  · intro nothing
    exact
      { plan := plan.mpr nothing.plan
        approvals := approvals.mpr nothing.approvals
        artifacts := artifacts.mpr nothing.artifacts
        errors := errors.mpr nothing.errors
        pending := pending.mpr fun id member => nothing.lists id (Or.inl member)
        completed := completed.mpr fun id member => nothing.lists id (Or.inr (Or.inl member))
        failed := failed.mpr fun id member => nothing.lists id (Or.inr (Or.inr member)) }

end Orchestration
