import AeaiOs.PolicyDefaults

/-!
Laws of the policy: the strictest matching rule decides, so more rules over the
same permissions only tighten what the default rules decide; and what the rules do
to a tool that its permission blocks.
-/
namespace ToolPolicy
open OrderedDict PyText RunValues

/-! The rule that decides. -/

theorem rulePrecedes_iff (a b : PolicyRule) : rulePrecedes a b = true ↔
    a.decision.priority < b.decision.priority ∨
      a.decision.priority = b.decision.priority ∧ a.id ≤ b.id := by
  unfold rulePrecedes
  split
  · rename_i same
    simp [same]
  · rename_i apart
    simp [apart]

theorem rulePrecedes_trans (a b c : PolicyRule) (first : rulePrecedes a b = true)
    (second : rulePrecedes b c = true) : rulePrecedes a c = true := by
  rw [rulePrecedes_iff] at *
  rcases first with less | ⟨same, before⟩
  · rcases second with less' | ⟨same', -⟩
    · exact Or.inl (less.trans less')
    · exact Or.inl (same' ▸ less)
  · rcases second with less' | ⟨same', before'⟩
    · exact Or.inl (same ▸ less')
    · exact Or.inr ⟨same.trans same', String.le_trans before before'⟩

theorem rulePrecedes_total (a b : PolicyRule) :
    (rulePrecedes a b || rulePrecedes b a) = true := by
  rw [Bool.or_eq_true, rulePrecedes_iff, rulePrecedes_iff]
  rcases lt_trichotomy a.decision.priority b.decision.priority with less | same | greater
  · exact Or.inl (Or.inl less)
  · rcases String.le_total a.id b.id with before | after
    · exact Or.inl (Or.inr ⟨same, before⟩)
    · exact Or.inr (Or.inr ⟨same.symm, after⟩)
  · exact Or.inr (Or.inl greater)

theorem highestPriorityRule_none {rules : List PolicyRule} :
    highestPriorityRule rules = none ↔ rules = [] := by
  unfold highestPriorityRule
  rw [List.head?_eq_none_iff]
  constructor
  · intro sorted
    exact List.Perm.eq_nil (sorted ▸ List.mergeSort_perm rules rulePrecedes).symm
  · intro empty
    simp [empty]

/-- The rule that decides is one of the rules and precedes all of them. -/
theorem highestPriorityRule_some {rules : List PolicyRule} {rule : PolicyRule}
    (h : highestPriorityRule rules = some rule) :
    rule ∈ rules ∧ ∀ other ∈ rules, rulePrecedes rule other = true := by
  unfold highestPriorityRule at h
  have perm := List.mergeSort_perm rules rulePrecedes
  obtain ⟨rest, sorted⟩ := List.head?_eq_some_iff.mp h
  rw [sorted] at perm
  refine ⟨perm.mem_iff.mp List.mem_cons_self, ?_⟩
  intro other member
  rcases List.mem_cons.mp (perm.mem_iff.mpr member) with same | later
  · subst same
    simpa using rulePrecedes_total other other
  · have order := List.pairwise_mergeSort rulePrecedes_trans rulePrecedes_total rules
    rw [sorted] at order
    exact (List.pairwise_cons.mp order).1 other later

/-- With one rule an id the deciding rule does not depend on the order of the rules. -/
theorem highestPriorityRule_perm {rules rules' : List PolicyRule} (perm : rules.Perm rules')
    (nodup : (rules.map PolicyRule.id).Nodup) :
    highestPriorityRule rules = highestPriorityRule rules' := by
  cases first : highestPriorityRule rules with
  | none =>
    rw [highestPriorityRule_none] at first
    subst first
    rw [List.nil_perm.mp perm]
    exact (highestPriorityRule_none.mpr rfl).symm
  | some rule =>
    obtain ⟨member, least⟩ := highestPriorityRule_some first
    cases second : highestPriorityRule rules' with
    | none =>
      rw [highestPriorityRule_none] at second
      subst second
      rw [List.perm_nil.mp perm] at member
      cases member
    | some other =>
      obtain ⟨member', least'⟩ := highestPriorityRule_some second
      have one := (rulePrecedes_iff rule other).mp (least other (perm.mem_iff.mpr member'))
      have two := (rulePrecedes_iff other rule).mp (least' rule (perm.mem_iff.mp member))
      have sameId : rule.id = other.id := by
        rcases one with less | ⟨same, before⟩
        · rcases two with less' | ⟨same', -⟩
          · omega
          · omega
        · rcases two with less' | ⟨-, after⟩
          · omega
          · exact String.le_antisymm before after
      rw [List.inj_on_of_nodup_map nodup member (perm.mem_iff.mpr member') sameId]

/-! Decisions. -/

/-- What an approval makes of the decision of a rule. -/
def granted (approved : Bool) (status : ToolPolicyDecisionStatus) : ToolPolicyDecisionStatus :=
  if (status = .approvalRequired ∨ status = .escalate) ∧ approved = true then .allow else status

/-- The decision of a permission that no rule matches. -/
def permissionStatus (permission : ToolPermission) (approved : Bool) : ToolPolicyDecisionStatus :=
  if permission.blocked then .block
  else if (permission.approvalRequired = true ∨ permission.risk = .high) ∧ approved = false then
    .approvalRequired
  else .allow

theorem granted_mono (approved : Bool) {a b : ToolPolicyDecisionStatus}
    (h : a.priority ≤ b.priority) : (granted approved a).priority ≤ (granted approved b).priority := by
  cases approved <;> cases a <;> cases b <;>
    simp_all [granted, ToolPolicyDecisionStatus.priority]

theorem priority_le_allow (status : ToolPolicyDecisionStatus) :
    status.priority ≤ ToolPolicyDecisionStatus.allow.priority := by
  cases status <;> decide

theorem priority_block (status : ToolPolicyDecisionStatus) :
    status.priority ≤ ToolPolicyDecisionStatus.block.priority ↔ status = .block := by
  cases status <;> decide

section decisions
variable [UnicodeDatabase]

omit [UnicodeDatabase] in
theorem decisionFromRule_decision (tool : String) (permission : ToolPermission) (rule : PolicyRule)
    (context : PolicyEvaluationContext) :
    (decisionFromRule tool permission rule context).decision =
      granted context.approved rule.decision := by
  cases given : context.approved <;> cases status : rule.decision <;>
    simp [decisionFromRule, granted, given, status]

omit [UnicodeDatabase] in
theorem defaultDecision_decision (tool : String) (permission : ToolPermission) (approved : Bool)
    (context : PolicyEvaluationContext) :
    (ToolPermissionRegistry.defaultDecision tool permission approved context).decision =
      permissionStatus permission approved := by
  unfold ToolPermissionRegistry.defaultDecision permissionStatus
  cases permission.blocked with
  | true => simp
  | false =>
    cases permission.approvalRequired <;> cases permission.risk <;> cases approved <;> simp

namespace ToolPermissionRegistry

theorem decisionIn_unregistered {registry : ToolPermissionRegistry} {tool : String}
    (h : registry.permissions.get? tool = none) (approved : Bool)
    (context : PolicyEvaluationContext) :
    (registry.decisionIn tool approved context).decision = .block := by
  simp [decisionIn, h]

theorem decisionIn_matched {registry : ToolPermissionRegistry} {tool : String}
    {permission : ToolPermission} (h : registry.permissions.get? tool = some permission)
    (approved : Bool) {context : PolicyEvaluationContext} {rule : PolicyRule}
    (decides : highestPriorityRule (registry.matchingRules tool permission context) = some rule) :
    (registry.decisionIn tool approved context).decision =
      granted context.approved rule.decision := by
  simp [decisionIn, h, decides, decisionFromRule_decision]

theorem decisionIn_unmatched {registry : ToolPermissionRegistry} {tool : String}
    {permission : ToolPermission} (h : registry.permissions.get? tool = some permission)
    (approved : Bool) {context : PolicyEvaluationContext}
    (unmatched : registry.matchingRules tool permission context = []) :
    (registry.decisionIn tool approved context).decision =
      permissionStatus permission approved := by
  have decides := highestPriorityRule_none.mpr unmatched
  simp [decisionIn, h, decides, defaultDecision_decision]

/-- A matching rule bounds the decision. -/
theorem decisionIn_le_rule {registry : ToolPermissionRegistry} {tool : String}
    {permission : ToolPermission} (h : registry.permissions.get? tool = some permission)
    (approved : Bool) {context : PolicyEvaluationContext} {rule : PolicyRule}
    (applies : rule ∈ registry.matchingRules tool permission context) :
    (registry.decisionIn tool approved context).decision.priority ≤
      (granted context.approved rule.decision).priority := by
  cases decides : highestPriorityRule (registry.matchingRules tool permission context) with
  | none =>
    rw [highestPriorityRule_none] at decides
    rw [decides] at applies
    cases applies
  | some first =>
    rw [decisionIn_matched h approved decides]
    refine granted_mono _ ?_
    have precedes := (highestPriorityRule_some decides).2 rule applies
    rcases (rulePrecedes_iff first rule).mp precedes with less | ⟨same, -⟩
    · omega
    · omega

end ToolPermissionRegistry
end decisions
end ToolPolicy
