import AeaiOs.PolicyLaws

/-!
What the policy guarantees: further rules only tighten the default registry, in any
order of registration; which rules let a blocked tool through; and when the default
registry asks for an approval before sensitive data is read.
-/
namespace ToolPolicy
open OrderedDict PyText RunValues

/-- `_build_context`: a context that is given keeps its own summary and approval. -/
def buildContext (inputSummary : String) (approved : Bool) :
    Option PolicyEvaluationContext → Except PyError PolicyEvaluationContext
  | some context => .ok context
  | none => PolicyEvaluationContext.make inputSummary approved

/-! Registration. -/

namespace ToolPermissionRegistry

theorem registerRules_ok {rules : List PolicyRule} {base extended : ToolPermissionRegistry}
    (h : registerRules rules base = .ok extended) :
    extended.permissions = base.permissions ∧
      extended.rules.entries = base.rules.entries ++ rules.map fun rule => (rule.id, rule) := by
  induction rules generalizing base with
  | nil =>
    simp only [registerRules, Except.ok.injEq] at h
    subst h
    simp
  | cons rule rest ih =>
    simp only [registerRules, registerRule, Bind.bind, Except.bind] at h
    split at h
    · cases h
    · rename_i first registered
      split at registered
      · cases registered
      · rename_i fresh
        simp only [Except.ok.injEq] at registered
        subst registered
        obtain ⟨permissions, entries⟩ := ih h
        simp only [Option.isSome_iff_ne_none, ne_eq, Decidable.not_not] at fresh
        refine ⟨permissions, ?_⟩
        rw [entries]
        simp only [Dict.set, storeEntries_fresh rule fresh, List.map_cons, List.append_assoc,
          List.cons_append, List.nil_append]

theorem registerRules_accepts {rules : List PolicyRule} {base : ToolPermissionRegistry}
    (nodup : (base.rules.keys ++ rules.map PolicyRule.id).Nodup) :
    ∃ extended, registerRules rules base = .ok extended := by
  induction rules generalizing base with
  | nil => exact ⟨base, rfl⟩
  | cons rule rest ih =>
    have fresh : base.rules.get? rule.id = none := by
      refine lookupEntries_none.mpr ?_
      intro member
      exact (List.nodup_append.mp nodup).2.2 rule.id member rule.id List.mem_cons_self rfl
    have keys : (base.rules.set rule.id rule).keys = base.rules.keys ++ [rule.id] := by
      simp only [Dict.keys, Dict.set, storeEntries_fresh rule fresh, List.map_append, List.map_cons,
        List.map_nil]
    have later : ((base.rules.set rule.id rule).keys ++ rest.map PolicyRule.id).Nodup := by
      simpa only [keys, List.append_assoc, List.cons_append, List.nil_append, List.map_cons]
        using nodup
    obtain ⟨extended, accepted⟩ :=
      @ih { base with rules := base.rules.set rule.id rule } later
    refine ⟨extended, ?_⟩
    simp only [registerRules, registerRule, fresh, Option.isSome_none, Bool.false_eq_true, if_false,
      Bind.bind, Except.bind]
    exact accepted

theorem registerAll_ok {permissions : List ToolPermission} {base full : ToolPermissionRegistry}
    (h : registerAll permissions base = .ok full) :
    full.rules = base.rules ∧ full.permissions.entries =
      base.permissions.entries ++ permissions.map fun permission => (permission.tool, permission) := by
  induction permissions generalizing base with
  | nil =>
    simp only [registerAll, Except.ok.injEq] at h
    subst h
    simp
  | cons permission rest ih =>
    simp only [registerAll, register, Bind.bind, Except.bind] at h
    split at h
    · cases h
    · rename_i first registered
      split at registered
      · cases registered
      · rename_i fresh
        simp only [Except.ok.injEq] at registered
        subst registered
        obtain ⟨rules, entries⟩ := ih h
        simp only [Option.isSome_iff_ne_none, ne_eq, Decidable.not_not] at fresh
        refine ⟨rules, ?_⟩
        rw [entries]
        simp only [Dict.set, storeEntries_fresh permission fresh, List.map_cons, List.append_assoc,
          List.cons_append, List.nil_append]

variable [UnicodeDatabase]

theorem evaluate_eq (registry : ToolPermissionRegistry) (tool inputSummary : String)
    (approved : Bool) (context : Option PolicyEvaluationContext) :
    registry.evaluate tool inputSummary approved context =
      (buildContext inputSummary approved context).map (registry.decisionIn tool approved) := by
  cases context with
  | some context => rfl
  | none =>
    simp only [evaluate, buildContext, Bind.bind, Except.bind]
    cases PolicyEvaluationContext.make inputSummary approved <;> rfl

theorem evaluate_ok {registry : ToolPermissionRegistry} {tool inputSummary : String}
    {approved : Bool} {context : Option PolicyEvaluationContext} {decision : ToolPolicyDecision} :
    registry.evaluate tool inputSummary approved context = .ok decision ↔
      ∃ built, buildContext inputSummary approved context = .ok built ∧
        decision = registry.decisionIn tool approved built := by
  rw [evaluate_eq]
  cases buildContext inputSummary approved context with
  | error e => simp [Except.map]
  | ok built => simp [Except.map, eq_comm]

/-- A registry's decision depends on its rules, not on their order. -/
theorem decisionIn_perm {registry other : ToolPermissionRegistry}
    (permissions : other.permissions = registry.permissions)
    (rules : other.rules.values.Perm registry.rules.values)
    (nodup : (other.rules.values.map PolicyRule.id).Nodup) (tool : String) (approved : Bool)
    (context : PolicyEvaluationContext) :
    other.decisionIn tool approved context = registry.decisionIn tool approved context := by
  unfold decisionIn
  rw [permissions]
  cases registry.permissions.get? tool with
  | none => rfl
  | some permission =>
    have matching : (other.matchingRules tool permission context).Perm
        (registry.matchingRules tool permission context) := rules.filter _
    have apart : ((other.matchingRules tool permission context).map PolicyRule.id).Nodup :=
      nodup.sublist (List.filter_sublist.map PolicyRule.id)
    simp only [highestPriorityRule_perm matching apart]

end ToolPermissionRegistry

/-! The default registry. -/

section defaults
variable [UnicodeDatabase]

/-- A registry with the default permissions and the default rules among its rules. -/
structure ExtendsDefault (registry : ToolPermissionRegistry) : Prop where
  permissions : registry.permissions.entries =
    defaultPermissions.map fun permission => (permission.tool, permission)
  rules : ∀ rule ∈ defaultRules, rule ∈ registry.rules.values

omit [UnicodeDatabase] in
theorem default_entries {base : ToolPermissionRegistry}
    (h : defaultToolPermissionRegistry = .ok base) :
    base.permissions.entries =
        defaultPermissions.map (fun permission => (permission.tool, permission)) ∧
      base.rules.entries = defaultRules.map fun rule => (rule.id, rule) := by
  simp only [defaultToolPermissionRegistry, ToolPermissionRegistry.make, Bind.bind,
    Except.bind] at h
  split at h
  · cases h
  · rename_i full registered
    obtain ⟨noRules, permissions⟩ := ToolPermissionRegistry.registerAll_ok registered
    obtain ⟨same, rules⟩ := ToolPermissionRegistry.registerRules_ok h
    rw [same, permissions, rules, noRules]
    exact ⟨rfl, rfl⟩

omit [UnicodeDatabase] in
theorem default_extends {base : ToolPermissionRegistry}
    (h : defaultToolPermissionRegistry = .ok base) : ExtendsDefault base where
  permissions := (default_entries h).1
  rules rule member := by
    rw [Dict.values, (default_entries h).2]
    exact List.mem_map.mpr ⟨(rule.id, rule), List.mem_map_of_mem member, rfl⟩

omit [UnicodeDatabase] in
theorem registered_default {registry : ToolPermissionRegistry} (ext : ExtendsDefault registry)
    {tool : String} {permission : ToolPermission}
    (h : registry.permissions.get? tool = some permission) :
    permission ∈ defaultPermissions ∧ permission.tool = tool := by
  have member := Dict.mem_entries_of_get? h
  rw [ext.permissions] at member
  obtain ⟨other, inside, same⟩ := List.mem_map.mp member
  simp only [Prod.mk.injEq] at same
  obtain ⟨named, rfl⟩ := same
  exact ⟨inside, named⟩

theorem applies_of_default {registry : ToolPermissionRegistry} (ext : ExtendsDefault registry)
    {rule : PolicyRule} (inside : rule ∈ defaultRules) {tool : String} {permission : ToolPermission}
    {context : PolicyEvaluationContext} (fits : ruleMatches rule tool permission context = true) :
    rule ∈ registry.matchingRules tool permission context :=
  List.mem_filter.mpr ⟨ext.rules rule inside, fits⟩

theorem escalation_matches (context : PolicyEvaluationContext) {permission : ToolPermission}
    (level : permission.permissionLevel = .externalNetwork)
    (wild : matchesAny permission.tool ["*"] = true) :
    ruleMatches externalConnectorEscalation permission.tool permission context = true := by
  simp [ruleMatches, externalConnectorEscalation, allowedIn, sensitivityMatches, level, wild]

theorem promotion_matches (context : PolicyEvaluationContext) {permission : ToolPermission}
    (level : permission.permissionLevel = .deployment)
    (wild : matchesAny permission.tool ["*"] = true) :
    ruleMatches deploymentPromotionApproval permission.tool permission context = true := by
  simp [ruleMatches, deploymentPromotionApproval, allowedIn, sensitivityMatches, level, wild]

theorem denial_matches (context : PolicyEvaluationContext) {permission : ToolPermission}
    (named : matchesAny permission.tool ["delete_*", "shell_exec"] = true) :
    ruleMatches destructiveActionDeny permission.tool permission context = true := by
  simp [ruleMatches, destructiveActionDeny, allowedIn, sensitivityMatches, named]

/-- Every default permission is allowed as such, or a default rule always matches. -/
theorem default_gated {permission : ToolPermission} (member : permission ∈ defaultPermissions) :
    (∀ approved, permissionStatus permission approved = .allow) ∨
      ∃ rule ∈ defaultRules, ∀ context, ruleMatches rule permission.tool permission context = true := by
  have external : permission.permissionLevel = .externalNetwork →
      matchesAny permission.tool ["*"] = true →
      ∃ rule ∈ defaultRules, ∀ context, ruleMatches rule permission.tool permission context = true :=
    fun level wild => ⟨_, by simp [defaultRules], fun context => escalation_matches context level wild⟩
  have deployed : permission.permissionLevel = .deployment →
      matchesAny permission.tool ["*"] = true →
      ∃ rule ∈ defaultRules, ∀ context, ruleMatches rule permission.tool permission context = true :=
    fun level wild => ⟨_, by simp [defaultRules], fun context => promotion_matches context level wild⟩
  have denied : matchesAny permission.tool ["delete_*", "shell_exec"] = true →
      ∃ rule ∈ defaultRules, ∀ context, ruleMatches rule permission.tool permission context = true :=
    fun named => ⟨_, by simp [defaultRules], fun context => denial_matches context named⟩
  simp only [defaultPermissions, List.mem_cons, List.not_mem_nil, or_false] at member
  rcases member with rfl | rfl | rfl | rfl | rfl | rfl | rfl | rfl | rfl | rfl | rfl | rfl | rfl |
    rfl | rfl | rfl | rfl
  iterate 12 exact Or.inl (by decide)
  · exact Or.inr (external rfl (by decide))
  · exact Or.inr (external rfl (by decide))
  · exact Or.inr (deployed rfl (by decide))
  · exact Or.inr (denied (by decide))
  · exact Or.inr (denied (by decide))

/-- More rules over the default permissions only tighten a decision. -/
theorem decisionIn_tightens {base extended : ToolPermissionRegistry} (ext : ExtendsDefault base)
    (permissions : extended.permissions = base.permissions)
    (more : base.rules.values ⊆ extended.rules.values) (tool : String) (approved : Bool)
    (context : PolicyEvaluationContext) :
    (extended.decisionIn tool approved context).decision.priority ≤
      (base.decisionIn tool approved context).decision.priority := by
  cases registered : base.permissions.get? tool with
  | none =>
    rw [ToolPermissionRegistry.decisionIn_unregistered registered,
      ToolPermissionRegistry.decisionIn_unregistered (permissions ▸ registered)]
  | some permission =>
    have registered' : extended.permissions.get? tool = some permission := permissions ▸ registered
    obtain ⟨inside, named⟩ := registered_default ext registered
    cases decides : highestPriorityRule (base.matchingRules tool permission context) with
    | none =>
      have unmatched := highestPriorityRule_none.mp decides
      rw [ToolPermissionRegistry.decisionIn_unmatched registered approved unmatched]
      rcases default_gated inside with open' | ⟨rule, isDefault, fits⟩
      · rw [open' approved]
        exact priority_le_allow _
      · have applies := applies_of_default ext isDefault (fits context)
        rw [named, unmatched] at applies
        cases applies
    | some rule =>
      rw [ToolPermissionRegistry.decisionIn_matched registered approved decides]
      have applies := (highestPriorityRule_some decides).1
      obtain ⟨known, fits⟩ := List.mem_filter.mp applies
      exact ToolPermissionRegistry.decisionIn_le_rule registered' approved
        (List.mem_filter.mpr ⟨more known, fits⟩)

omit [UnicodeDatabase] in
/-- A registry built from further rules over the defaults. -/
theorem built_entries {rules : List PolicyRule} {base extended : ToolPermissionRegistry}
    (default : defaultToolPermissionRegistry = .ok base)
    (built : buildPolicyRegistryFromRules rules none = .ok extended) :
    extended.permissions = base.permissions ∧ extended.rules.values = defaultRules ++ rules ∧
      ((defaultRules ++ rules).map PolicyRule.id).Nodup := by
  simp only [buildPolicyRegistryFromRules, default, Bind.bind, Except.bind] at built
  obtain ⟨permissions, entries⟩ := ToolPermissionRegistry.registerRules_ok built
  rw [(default_entries default).2, ← List.map_append] at entries
  have values : extended.rules.values = defaultRules ++ rules := by
    rw [Dict.values, entries, List.map_map]
    exact List.map_id _
  have keys : extended.rules.keys = (defaultRules ++ rules).map PolicyRule.id := by
    rw [Dict.keys, entries, List.map_map]
    rfl
  refine ⟨permissions, values, ?_⟩
  rw [← keys]
  exact extended.rules.keys_nodup

omit [UnicodeDatabase] in
theorem built_extends {rules : List PolicyRule} {base extended : ToolPermissionRegistry}
    (default : defaultToolPermissionRegistry = .ok base)
    (built : buildPolicyRegistryFromRules rules none = .ok extended) : ExtendsDefault extended := by
  obtain ⟨permissions, values, -⟩ := built_entries default built
  refine ⟨permissions ▸ (default_entries default).1, ?_⟩
  intro rule member
  rw [values]
  exact List.mem_append_left _ member

omit [UnicodeDatabase] in
/-- The order in which rules are registered does not decide whether they are
    accepted. -/
theorem built_reordered {rules reordered : List PolicyRule} {base extended : ToolPermissionRegistry}
    (default : defaultToolPermissionRegistry = .ok base)
    (built : buildPolicyRegistryFromRules rules none = .ok extended)
    (perm : reordered.Perm rules) :
    ∃ other, buildPolicyRegistryFromRules reordered none = .ok other := by
  obtain ⟨-, -, nodup⟩ := built_entries default built
  have keys : base.rules.keys = defaultRules.map PolicyRule.id := by
    rw [Dict.keys, (default_entries default).2, List.map_map]
    rfl
  have apart : (base.rules.keys ++ reordered.map PolicyRule.id).Nodup := by
    rw [keys, ← List.map_append]
    exact ((perm.append_left defaultRules).map PolicyRule.id).nodup_iff.mpr nodup
  obtain ⟨other, accepted⟩ := ToolPermissionRegistry.registerRules_accepts apart
  refine ⟨other, ?_⟩
  simp only [buildPolicyRegistryFromRules, default, Bind.bind, Except.bind]
  exact accepted

/-- The decision on a use in a registry with the default rules is at most that of any
    default rule that matches the tool whatever the context. -/
theorem decisionIn_le_default {registry : ToolPermissionRegistry} (ext : ExtendsDefault registry)
    {permission : ToolPermission} (inside : permission ∈ defaultPermissions) {rule : PolicyRule}
    (isDefault : rule ∈ defaultRules) (approved : Bool) {context : PolicyEvaluationContext}
    (fits : ruleMatches rule permission.tool permission context = true) :
    (registry.decisionIn permission.tool approved context).decision.priority ≤
      (granted context.approved rule.decision).priority := by
  have registered : registry.permissions.get? permission.tool = some permission := by
    refine Dict.get?_of_mem_entries ?_
    rw [ext.permissions]
    exact List.mem_map_of_mem inside
  exact ToolPermissionRegistry.decisionIn_le_rule registered approved
    (applies_of_default ext isDefault fits)

theorem destructive_blocked {registry : ToolPermissionRegistry} (ext : ExtendsDefault registry)
    {tool : String} (named : tool ∈ ["delete_artifact", "shell_exec"]) (approved : Bool)
    (context : PolicyEvaluationContext) :
    (registry.decisionIn tool approved context).decision = .block := by
  have denied : ∃ permission ∈ defaultPermissions, permission.tool = tool ∧
      matchesAny permission.tool ["delete_*", "shell_exec"] = true := by
    simp only [List.mem_cons, List.not_mem_nil, or_false] at named
    rcases named with rfl | rfl
    · exact ⟨permission "delete_artifact" .write .high "Delete artifacts from storage."
        false true true, by simp [defaultPermissions], rfl, by decide⟩
    · exact ⟨permission "shell_exec" .codeExecution .high "Execute arbitrary shell commands."
        false true true, by simp [defaultPermissions], rfl, by decide⟩
  obtain ⟨permission, inside, rfl, matched⟩ := denied
  have isDefault : destructiveActionDeny ∈ defaultRules := by simp [defaultRules]
  have bound := decisionIn_le_default ext inside isDefault approved
    (denial_matches context matched)
  exact (priority_block _).mp bound

theorem outside_gated {registry : ToolPermissionRegistry} (ext : ExtendsDefault registry)
    {tool : String} (named : tool ∈ ["external_http", "snowflake_query", "deploy_artifact"])
    (approved : Bool) {context : PolicyEvaluationContext} (unapproved : context.approved = false) :
    (registry.decisionIn tool approved context).decision ≠ .allow := by
  have gated : ∃ permission ∈ defaultPermissions, permission.tool = tool ∧
      ∃ rule ∈ defaultRules, ruleMatches rule permission.tool permission context = true ∧
        (granted false rule.decision).priority ≤ 3 := by
    simp only [List.mem_cons, List.not_mem_nil, or_false] at named
    rcases named with rfl | rfl | rfl
    · exact ⟨permission "external_http" .externalNetwork .high "Call external HTTP services."
        true false false, by simp [defaultPermissions], rfl, externalConnectorEscalation,
        by simp [defaultRules], escalation_matches context rfl (by decide), by decide⟩
    · exact ⟨permission "snowflake_query" .externalNetwork .high
        "Query an external Snowflake warehouse." true false false, by simp [defaultPermissions],
        rfl, externalConnectorEscalation, by simp [defaultRules],
        escalation_matches context rfl (by decide), by decide⟩
    · exact ⟨permission "deploy_artifact" .deployment .high
        "Deploy generated artifacts outside the local sandbox." true false false,
        by simp [defaultPermissions], rfl, deploymentPromotionApproval, by simp [defaultRules],
        promotion_matches context rfl (by decide), by decide⟩
  obtain ⟨permission, inside, rfl, rule, isDefault, fits, strict⟩ := gated
  have bound := decisionIn_le_default ext inside isDefault approved fits
  rw [unapproved] at bound
  intro allowed
  rw [allowed] at bound
  have top : ToolPolicyDecisionStatus.allow.priority = 4 := rfl
  omega

/-- Whatever rules are added to the default ones and in whatever order, no decision is
    less strict than the default one; the destructive tools stay blocked, and no tool
    that reaches outside is allowed without an approval. -/
theorem extension_tightens (rules : List PolicyRule) (base extended : ToolPermissionRegistry)
    (default : defaultToolPermissionRegistry = .ok base)
    (built : buildPolicyRegistryFromRules rules none = .ok extended) :
    (∀ tool inputSummary approved context decision,
        extended.evaluate tool inputSummary approved context = .ok decision →
        ∃ decision', base.evaluate tool inputSummary approved context = .ok decision' ∧
          decision.decision.priority ≤ decision'.decision.priority) ∧
      (∀ reordered : List PolicyRule, reordered.Perm rules →
        ∃ other, buildPolicyRegistryFromRules reordered none = .ok other ∧
          ∀ tool inputSummary approved context, other.evaluate tool inputSummary approved context =
            extended.evaluate tool inputSummary approved context) ∧
      (∀ tool ∈ ["delete_artifact", "shell_exec"], ∀ inputSummary approved context decision,
        extended.evaluate tool inputSummary approved context = .ok decision →
          decision.decision = .block) ∧
      ∀ tool ∈ ["external_http", "snowflake_query", "deploy_artifact"],
        ∀ inputSummary approved context built decision,
          buildContext inputSummary approved context = .ok built → built.approved = false →
          extended.evaluate tool inputSummary approved context = .ok decision →
            decision.decision ≠ .allow := by
  obtain ⟨permissions, values, nodup⟩ := built_entries default built
  have ext := built_extends default built
  refine ⟨?_, ?_, ?_, ?_⟩
  · intro tool inputSummary approved context decision evaluated
    obtain ⟨context', same, rfl⟩ := ToolPermissionRegistry.evaluate_ok.mp evaluated
    refine ⟨_, ToolPermissionRegistry.evaluate_ok.mpr ⟨context', same, rfl⟩, ?_⟩
    refine decisionIn_tightens (default_extends default) permissions ?_ tool approved context'
    rw [values, Dict.values, (default_entries default).2, List.map_map]
    intro rule member
    exact List.mem_append_left _ (by simpa using member)
  · intro reordered perm
    obtain ⟨other, accepted⟩ := built_reordered default built perm
    obtain ⟨permissions', values', nodup'⟩ := built_entries default accepted
    refine ⟨other, accepted, ?_⟩
    intro tool inputSummary approved context
    have decide : other.decisionIn tool approved = extended.decisionIn tool approved := by
      funext context'
      refine ToolPermissionRegistry.decisionIn_perm (permissions'.trans permissions.symm) ?_ ?_ tool
        approved context'
      · rw [values, values']
        exact perm.append_left defaultRules
      · rw [values']
        exact nodup'
    rw [ToolPermissionRegistry.evaluate_eq, ToolPermissionRegistry.evaluate_eq, decide]
  · intro tool named inputSummary approved context decision evaluated
    obtain ⟨context', -, rfl⟩ := ToolPermissionRegistry.evaluate_ok.mp evaluated
    exact destructive_blocked ext named approved context'
  · intro tool named inputSummary approved context context' decision same unapproved evaluated
    obtain ⟨other, same', rfl⟩ := ToolPermissionRegistry.evaluate_ok.mp evaluated
    rw [same, Except.ok.injEq] at same'
    subst same'
    exact outside_gated ext named approved unapproved

omit [UnicodeDatabase] in
theorem default_accepted : ∃ base, defaultToolPermissionRegistry = .ok base := by
  have accepted : defaultToolPermissionRegistry.isOk = true := by decide
  cases outcome : defaultToolPermissionRegistry with
  | ok base => exact ⟨base, rfl⟩
  | error e =>
    rw [outcome] at accepted
    cases accepted

/-- A rule that would open everything. -/
def openRule : PolicyRule where
  id := "open"
  description := "Allows every tool."
  decision := .allow
  reason := "Everything is allowed."

omit [UnicodeDatabase] in
theorem open_rule_tightens :
    let _ := asciiDatabase
    ∃ base extended, defaultToolPermissionRegistry = .ok base ∧
      buildPolicyRegistryFromRules [openRule] none = .ok extended ∧
      ∀ tool inputSummary approved context decision,
        extended.evaluate tool inputSummary approved context = .ok decision →
        ∃ decision', base.evaluate tool inputSummary approved context = .ok decision' ∧
          decision.decision.priority ≤ decision'.decision.priority := by
  intro _
  obtain ⟨base, default⟩ := default_accepted
  have accepted : (buildPolicyRegistryFromRules [openRule] none).isOk = true := by decide
  cases outcome : buildPolicyRegistryFromRules [openRule] none with
  | ok extended =>
    exact ⟨base, extended, default, rfl,
      (extension_tightens [openRule] base extended default outcome).1⟩
  | error e =>
    rw [outcome] at accepted
    cases accepted

/-! A tool that its permission blocks. -/

/-- The use is allowed, or it is once an approval is given. -/
def Passes (registry : ToolPermissionRegistry) (tool inputSummary : String) (approved : Bool)
    (context : Option PolicyEvaluationContext) (built : PolicyEvaluationContext) : Prop :=
  ∃ decision, registry.evaluate tool inputSummary approved context = .ok decision ∧
    (decision.decision = .allow ∨
      (decision.decision = .approvalRequired ∨ decision.decision = .escalate) ∧
        ∃ decision', registry.evaluate tool inputSummary true (some { built with approved := true }) =
          .ok decision' ∧ decision'.decision = .allow)

/-- A rule that lets through what it matches, at the latest when it is approved. -/
def PolicyRule.Opens (rule : PolicyRule) : Prop :=
  rule.decision = .allow ∨ rule.decision = .approvalRequired ∨ rule.decision = .escalate

/-- What rules match does not depend on an approval. -/
theorem matchingRules_approved (registry : ToolPermissionRegistry) (tool : String)
    (permission : ToolPermission) (context : PolicyEvaluationContext) (approved : Bool) :
    registry.matchingRules tool permission { context with approved } =
      registry.matchingRules tool permission context := rfl

/-- A tool that its permission blocks passes exactly if a rule matches the use and the
    strictest rule that matches lets it through. -/
theorem blocked_tool_passes_iff (registry : ToolPermissionRegistry) (tool : String)
    (permission : ToolPermission) (registered : registry.permissions.get? tool = some permission)
    (blocked : permission.blocked = true) (inputSummary : String) (approved : Bool)
    (context : Option PolicyEvaluationContext) (built : PolicyEvaluationContext)
    (same : buildContext inputSummary approved context = .ok built) :
    Passes registry tool inputSummary approved context built ↔
      ∃ rule, highestPriorityRule (registry.matchingRules tool permission built) = some rule ∧
        rule.Opens := by
  have first : registry.evaluate tool inputSummary approved context =
      .ok (registry.decisionIn tool approved built) := by
    rw [ToolPermissionRegistry.evaluate_eq, same]
    rfl
  unfold Passes
  rw [first]
  simp only [ToolPermissionRegistry.evaluate, Except.ok.injEq, exists_eq_left']
  cases decides : highestPriorityRule (registry.matchingRules tool permission built) with
  | none =>
    have unmatched := highestPriorityRule_none.mp decides
    rw [ToolPermissionRegistry.decisionIn_unmatched registered approved unmatched]
    simp [permissionStatus, blocked]
  | some rule =>
    have decides' : highestPriorityRule (registry.matchingRules tool permission
        { built with approved := true }) = some rule := by
      rw [matchingRules_approved]
      exact decides
    rw [ToolPermissionRegistry.decisionIn_matched registered approved decides,
      ToolPermissionRegistry.decisionIn_matched registered true decides']
    cases given : built.approved <;> cases status : rule.decision <;>
      simp [granted, PolicyRule.Opens, status]

def blockedRegistry (rules : List PolicyRule) : Except PyError ToolPermissionRegistry :=
  ToolPermissionRegistry.make [permission "shell" .codeExecution .high "Runs commands." false true true]
    rules

omit [UnicodeDatabase] in
/-- A rule that allows every tool lets a blocked one through without an approval. -/
theorem blocked_tool_allowed :
    let _ := asciiDatabase
    (match blockedRegistry [openRule] with
      | .ok registry => (registry.evaluate "shell" "run" false none).toOption.map
          ToolPolicyDecision.decision
      | .error _ => none) = some .allow := by
  decide +kernel

omit [UnicodeDatabase] in
theorem unmatched_blocked_tool_kept :
    let _ := asciiDatabase
    ∃ registry built, blockedRegistry [] = .ok registry ∧
      buildContext "run" false none = .ok built ∧
      ¬ Passes registry "shell" "run" false none built := by
  let _ := asciiDatabase
  have registers : (blockedRegistry []).toOption.map (fun registry =>
      (registry.rules.values, registry.permissions.get? "shell")) =
        some ([], some (permission "shell" .codeExecution .high "Runs commands." false true true)) := by
    decide
  have summary : (buildContext "run" false none).isOk = true := by decide
  cases outcome : blockedRegistry [] with
  | error e =>
    rw [outcome] at registers
    cases registers
  | ok registry =>
    rw [outcome] at registers
    simp only [Except.toOption, Option.map_some, Option.some.injEq, Prod.mk.injEq] at registers
    cases context : buildContext "run" false none with
    | error e =>
      rw [context] at summary
      cases summary
    | ok built =>
      refine ⟨registry, built, rfl, rfl, ?_⟩
      rw [blocked_tool_passes_iff registry "shell" _ registers.2 rfl "run" false none built context]
      simp [ToolPermissionRegistry.matchingRules, registers.1, highestPriorityRule]

/-! Sensitive data. -/

/-- Some key of the metadata is one of the sensitive keys, in any letter case. -/
def MarkedSensitive (metadata : PyDict) : Prop :=
  ∃ entry ∈ metadata, ∃ key ∈ ["pii", "contains_pii", "sensitive", "secret"],
    lowerKey entry.1 = key.toList

theorem metadataHasAnyKey_iff (metadata : PyDict) :
    metadataHasAnyKey metadata sensitiveArtifactApproval.metadataKeys = true ↔
      MarkedSensitive metadata := by
  have lowered : ∀ key ∈ ["pii", "contains_pii", "sensitive", "secret"],
      lowerKey key = key.toList := by
    intro key member
    have ascii : key.toList.all isAscii = true := by
      revert key
      decide
    rw [lowerKey, UnicodeDatabase.lower_ascii _ (List.all_eq_true.mp ascii)]
    revert key
    decide
  simp only [metadataHasAnyKey, MarkedSensitive, sensitiveArtifactApproval, List.any_eq_true,
    beq_iff_eq]
  constructor
  · rintro ⟨entry, inside, key, named, same⟩
    exact ⟨entry, inside, key, named, same.trans (lowered key named)⟩
  · rintro ⟨entry, inside, key, named, same⟩
    exact ⟨entry, inside, key, named, same.trans (lowered key named).symm⟩

/-- Of the default rules only the one about sensitive artifacts matches a reader, and
    only if the metadata is marked. -/
theorem reader_rules {tool : String} (named : tool ∈ ["dataset_reader", "artifact_reader"])
    {permission : ToolPermission} (level : permission.permissionLevel = .readOnly)
    (context : PolicyEvaluationContext) :
    (∀ rule ∈ defaultRules, ruleMatches rule tool permission context = true →
        rule = sensitiveArtifactApproval ∧
          (MarkedSensitive context.metadata)) ∧
      (MarkedSensitive context.metadata →
        ruleMatches sensitiveArtifactApproval tool permission context = true) := by
  have patterns : matchesAny tool ["artifact_reader", "dataset_reader"] = true ∧
      matchesAny tool ["untrusted_*", "dynamic_python_exec"] = false ∧
      matchesAny tool ["delete_*", "shell_exec"] = false := by
    simp only [List.mem_cons, List.not_mem_nil, or_false] at named
    rcases named with rfl | rfl
    · decide
    · decide
  have keys := metadataHasAnyKey_iff context.metadata
  simp only [sensitiveArtifactApproval] at keys
  refine ⟨?_, ?_⟩
  · intro rule isDefault fits
    simp only [defaultRules, List.mem_cons, List.not_mem_nil, or_false] at isDefault
    rcases isDefault with rfl | rfl | rfl | rfl | rfl
    · simp [ruleMatches, codeExecutionApproval, patterns.2.1] at fits
    · simp [ruleMatches, deploymentPromotionApproval, level] at fits
    · simp [ruleMatches, externalConnectorEscalation, level] at fits
    · refine ⟨rfl, keys.mp ?_⟩
      simp only [ruleMatches, sensitiveArtifactApproval, sensitivityMatches, Bool.and_eq_true] at fits
      have sensitivity := fits.2
      split at sensitivity
      · exact sensitivity
      · simpa using sensitivity
    · simp [ruleMatches, destructiveActionDeny, patterns.2.2] at fits
  · intro marked
    have some' := keys.mpr marked
    simp [ruleMatches, sensitiveArtifactApproval, sensitivityMatches, allowedIn, patterns.1, some']

/-- Without an approval a reader of sensitive data, flagged or marked in its metadata, is
    kept from the data exactly if the flag does not stand alone. -/
theorem sensitive_reader_gated_iff (base : ToolPermissionRegistry)
    (default : defaultToolPermissionRegistry = .ok base) (tool : String)
    (named : tool ∈ ["dataset_reader", "artifact_reader"]) (inputSummary : String)
    (context : PolicyEvaluationContext) (unapproved : context.approved = false) :
    (context.artifactSensitive = true ∨ MarkedSensitive context.metadata →
        ∀ decision, base.evaluate tool inputSummary false (some context) = .ok decision →
          decision.decision ≠ .allow) ↔
      (context.artifactSensitive = true → MarkedSensitive context.metadata) := by
  have reader : ∃ permission ∈ defaultPermissions, permission.tool = tool ∧
      permission.permissionLevel = .readOnly ∧ permissionStatus permission false = .allow := by
    simp only [List.mem_cons, List.not_mem_nil, or_false] at named
    rcases named with rfl | rfl
    · exact ⟨permission "dataset_reader" .readOnly .low "Read local dataset artifacts."
        false false false, by simp [defaultPermissions], rfl, rfl, rfl⟩
    · exact ⟨permission "artifact_reader" .readOnly .low "Read previously registered artifacts."
        false false false, by simp [defaultPermissions], rfl, rfl, rfl⟩
  obtain ⟨permission, inside, rfl, level, open'⟩ := reader
  have ext := default_extends default
  have registered : base.permissions.get? permission.tool = some permission := by
    refine Dict.get?_of_mem_entries ?_
    rw [ext.permissions]
    exact List.mem_map_of_mem inside
  obtain ⟨only, matched⟩ := reader_rules named level context
  simp only [ToolPermissionRegistry.evaluate, Except.ok.injEq, forall_eq']
  constructor
  · intro gated flagged
    by_contra unmarked
    refine gated (Or.inl flagged) ?_
    have unmatched : base.matchingRules permission.tool permission context = [] := by
      refine List.filter_eq_nil_iff.mpr ?_
      intro rule member fits
      have isDefault : rule ∈ defaultRules := by
        rw [Dict.values, (default_entries default).2, List.map_map] at member
        simpa using member
      exact unmarked (only rule isDefault fits).2
    rw [ToolPermissionRegistry.decisionIn_unmatched registered false unmatched, open']
  · intro condition either allowed
    have marked : MarkedSensitive context.metadata := either.elim condition id
    have isDefault : sensitiveArtifactApproval ∈ defaultRules := by simp [defaultRules]
    have bound := decisionIn_le_default ext inside isDefault false (matched marked)
    rw [unapproved, allowed] at bound
    have top : ToolPolicyDecisionStatus.allow.priority = 4 := rfl
    have asked : (granted false sensitiveArtifactApproval.decision).priority = 3 := rfl
    omega

/-- A use that is flagged as sensitive and has no metadata. -/
def flaggedContext : PolicyEvaluationContext where
  inputSummary := "read"
  artifactSensitive := true
  summary_valid := by decide

omit [UnicodeDatabase] in
theorem flagged_reader_allowed :
    let _ := asciiDatabase
    (match defaultToolPermissionRegistry with
      | .ok base => (base.evaluate "artifact_reader" "read" false (some flaggedContext)).toOption.map
          ToolPolicyDecision.decision
      | .error _ => none) = some .allow := by
  decide +kernel

omit [UnicodeDatabase] in
theorem marked_reader_gated :
    let _ := asciiDatabase
    ∃ base, defaultToolPermissionRegistry = .ok base ∧
      ∀ decision, base.evaluate "artifact_reader" "read" false
          (some { flaggedContext with metadata := [("PII", .none)] }) = .ok decision →
        decision.decision ≠ .allow := by
  let _ := asciiDatabase
  obtain ⟨base, default⟩ := default_accepted
  have marked : MarkedSensitive [("PII", PyValue.none)] :=
    ⟨_, List.mem_cons_self, "pii", by simp, by decide⟩
  exact ⟨base, default, (sensitive_reader_gated_iff base default "artifact_reader" (by simp) "read"
    { flaggedContext with metadata := [("PII", .none)] } rfl).mpr (fun _ => marked) (Or.inl rfl)⟩

end defaults
end ToolPolicy
