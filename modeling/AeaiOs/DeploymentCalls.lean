import AeaiOs.Deployments
import AeaiOs.Lib.ExceptLists

/-!
The notes of one call, whatever the repository answers: a decision publishes, settles and
announces in this order, and only after it has read the job waiting.
-/
namespace Deployments
open OrderedDict PyText CivilTime StoreAction Action AtomicProgram RunValues RunModels Redaction
open InMemoryRunRepository ToolPolicy ProgramPool
open RunArchive (RunStore ArtifactArguments required optional textItem)

inductive Note where
  | found (jobId : String) (job : WorkflowJobRecord)
  | requested (job : WorkflowJobRecord)
  | published (artifact : ArtifactRecord)
  | decided (jobId : String) (job : WorkflowJobRecord)
  | announced (event : AgentEventRecord)

def describe : {β : Type} → Op β → Except PyError β → Option Note
  | _, .getWorkflowJob jobId, .ok job => some (.found jobId job)
  | _, .enqueueWorkflowJob _ _ _ _ _, .ok job => some (.requested job)
  | _, .addArtifact _, .ok artifact => some (.published artifact)
  | _, .updateWorkflowJobResult jobId _ _ _, .ok job => some (.decided jobId job)
  | _, .addEvent _, .ok event => some (.announced event)
  | _, _, _ => none

section calls
variable [PyRuntime]

/-- What an answer owes to the arguments of its operation. -/
def Answers : {β : Type} → Op β → Except PyError β → Prop
  | _, .enqueueWorkflowJob _ _ _ _ status, .ok job => job.status = status
  | _, .addArtifact given, .ok artifact =>
      artifact.type = given.artifactType ∧ artifact.runId = given.runId ∧
        artifact.sourceArtifactIds = given.sourceArtifactIds
  | _, .updateWorkflowJobResult _ status payload _, .ok job =>
      job.status = status ∧ redactEntries payload = .ok job.payload
  | _, .addEvent given, .ok event =>
      event.runId = given.runId ∧ event.nodeId = given.nodeId ∧ event.eventType = given.eventType
  | _, _, _ => True

/-! What each method does: it raises and changes nothing, or it makes one record. -/

theorem updateStatus_effect (runId : String) (status : RunStatus) (errorSummary : Option String)
    (now : Time) (repo : Repo) :
    ∃ runs, (updateStatus runId status errorSummary now repo).2 = { repo with runs } := by
  simp only [updateStatus, bind_run, getRun_run]
  cases repo.runs.get? runId with
  | none => exact ⟨repo.runs, rfl⟩
  | some run =>
    simp only [found_some, ofExcept_run]
    cases redactOptional errorSummary with
    | error e => exact ⟨repo.runs, rfl⟩
    | ok text => exact ⟨_, rfl⟩

theorem addEvent_effect (given : AgentEventRecord) (repo : Repo) :
    (∃ e, addEvent given repo = (.error e, repo)) ∨
      ∃ payload, addEvent given repo =
        (.ok { given with payload }, repo.appendEvent { given with payload }) := by
  simp only [addEvent, bind_run, getRun_run]
  cases repo.runs.get? given.runId with
  | none => exact .inl ⟨_, rfl⟩
  | some run =>
    simp only [found_some, ofExcept_run]
    cases redactEntries given.payload with
    | error e => exact .inl ⟨_, rfl⟩
    | ok payload => exact .inr ⟨payload, rfl⟩

theorem updateResult_effect (jobId : String) (status : WorkflowJobStatus) (payload : PyDict)
    (errorSummary : Option String) (now : Time) (repo : Repo) :
    (∃ e, updateWorkflowJobResult jobId status (some payload) errorSummary now repo =
        (.error e, repo)) ∨
      ∃ job job', repo.workflowJobs.get? jobId = some job ∧ job'.id = job.id ∧
        job'.status = status ∧ (status = .completed ∨ status = .failed) ∧
        redactEntries payload = .ok job'.payload ∧
        updateWorkflowJobResult jobId status (some payload) errorSummary now repo =
          (.ok job', repo.storeJob jobId job') := by
  simp only [updateWorkflowJobResult]
  split
  · exact .inl ⟨_, rfl⟩
  · rename_i result
    have ends : status = .completed ∨ status = .failed := by
      by_contra neither
      push Not at neither
      exact result neither
    simp only [bind_run, getWorkflowJob_run]
    cases stored : repo.workflowJobs.get? jobId with
    | none => exact .inl ⟨_, rfl⟩
    | some job =>
      simp only [found_some, ofExcept_run]
      cases redacted : redactEntries payload with
      | error e => exact .inl ⟨_, rfl⟩
      | ok redactedPayload =>
        dsimp only
        cases redactOptional errorSummary with
        | error e => exact .inl ⟨_, rfl⟩
        | ok text =>
          let updated : WorkflowJobRecord :=
            { job with
              status
              payload := redactedPayload
              errorSummary := text
              updatedAt := now
              finishedAt := some now }
          exact .inr ⟨job, updated, rfl, rfl, rfl, ends, rfl, rfl⟩

theorem enqueue_effect (runId workflow : String) (payload : PyDict) (maxAttempts : Int)
    (status : WorkflowJobStatus) (fresh : String) (now : Time) (repo : Repo) :
    (∃ e, enqueueWorkflowJob runId workflow payload maxAttempts none status fresh now repo =
        (.error e, repo)) ∨
      ∃ job, job.id = "job_" ++ fresh ∧ job.status = status ∧
        enqueueWorkflowJob runId workflow payload maxAttempts none status fresh now repo =
          (.ok job, repo.appendJob job) := by
  simp only [enqueueWorkflowJob]
  split
  · exact .inl ⟨_, rfl⟩
  · split
    · exact .inl ⟨_, rfl⟩
    · split
      · exact .inl ⟨_, rfl⟩
      · simp only [bind_run, getRun_run]
        cases repo.runs.get? runId with
        | none => exact .inl ⟨_, rfl⟩
        | some run =>
          simp only [found_some, ofExcept_run]
          cases redactEntries payload with
          | error e => exact .inl ⟨_, rfl⟩
          | ok stored => exact .inr ⟨_, rfl, rfl, rfl⟩

omit [PyRuntime] in
theorem recordArtifact_effect (artifact : ArtifactRecord) (now : Time) (repo : Repo) :
    (∃ e, recordArtifact artifact now repo = (.error e, repo)) ∨
      ∃ runs, recordArtifact artifact now repo =
        (.ok artifact, { repo.appendArtifact artifact with runs }) := by
  simp only [recordArtifact, bind_run, getRun_run]
  cases repo.runs.get? artifact.runId with
  | none => exact .inl ⟨_, rfl⟩
  | some run =>
    right
    simp only [found_some, change_run]
    split
    · exact ⟨_, rfl⟩
    · exact ⟨_, rfl⟩

theorem addArtifact_effect (given : ArtifactArguments) (fresh : String) (createdAt now : Time)
    (repo : Repo) :
    (∃ e, RunArchive.addArtifact given fresh createdAt now repo = (.error e, repo)) ∨
      ∃ artifact runs, artifact.type = given.artifactType ∧ artifact.runId = given.runId ∧
        artifact.sourceArtifactIds = given.sourceArtifactIds ∧
        RunArchive.addArtifact given fresh createdAt now repo =
          (.ok artifact, { repo.appendArtifact artifact with runs }) := by
  simp only [RunArchive.addArtifact, bind_run, getRun_run]
  cases repo.runs.get? given.runId with
  | none => exact .inl ⟨_, rfl⟩
  | some run =>
    simp only [found_some, ofExcept_run]
    cases redactEntries given.metadata with
    | error e => exact .inl ⟨_, rfl⟩
    | ok metadata =>
      dsimp only
      cases RunArchive.artifactStorageMetadata metadata given.contentType given.storageBackend
        given.storageKey given.sizeBytes with
      | error e => exact .inl ⟨_, rfl⟩
      | ok storage =>
        dsimp only
        cases redactUri given.uri with
        | error e => exact .inl ⟨_, rfl⟩
        | ok uri =>
          rcases recordArtifact_effect
            { id := (RunArchive.orText given.artifactId none).getD ("artifact_" ++ fresh)
              runId := given.runId
              producerNodeId := given.producerNodeId
              type := given.artifactType
              uri
              metadata
              sourceArtifactIds := given.sourceArtifactIds
              createdAt
              contentType := storage.contentType
              storageBackend := storage.storageBackend
              storageKey := storage.storageKey
              sizeBytes := storage.sizeBytes } now repo with ⟨e, refused⟩ | ⟨runs, recorded⟩
          · exact .inl ⟨e, refused⟩
          · exact .inr ⟨_, runs, rfl, rfl, rfl, recorded⟩

theorem exec_answers (env : Env) {β : Type} (op : Op β) (site : Site) :
    Answers op ((handler env).handle op site).1 := by
  cases op with
  | utcNow => trivial
  | uuid4 => trivial
  | getRun runId => trivial
  | getArtifact runId artifactId => trivial
  | getWorkflowJob jobId => trivial
  | updateStatus runId status errorSummary => trivial
  | enqueueWorkflowJob runId workflow payload maxAttempts status =>
    change Answers _ (enqueueWorkflowJob runId workflow payload maxAttempts none status
      (env.uuid site.tick) (env.clock site.tick 0) site.store.repo).1
    rcases enqueue_effect runId workflow payload maxAttempts status (env.uuid site.tick)
      (env.clock site.tick 0) site.store.repo with ⟨e, refused⟩ | ⟨job, -, stands, made⟩
    · rw [refused]
      trivial
    · rw [made]
      exact stands
  | updateWorkflowJobResult jobId status payload errorSummary =>
    change Answers _ (updateWorkflowJobResult jobId status (some payload) errorSummary
      (env.clock site.tick 0) site.store.repo).1
    rcases updateResult_effect jobId status payload errorSummary (env.clock site.tick 0)
      site.store.repo with ⟨e, refused⟩ | ⟨job, job', -, -, stands, -, redacted, made⟩
    · rw [refused]
      trivial
    · rw [made]
      exact ⟨stands, redacted⟩
  | addArtifact given =>
    change Answers _ (RunArchive.addArtifact given (env.uuid site.tick) (env.clock site.tick 0)
      (env.clock site.tick 1) site.store.repo).1
    rcases addArtifact_effect given (env.uuid site.tick) (env.clock site.tick 0)
      (env.clock site.tick 1) site.store.repo with ⟨e, refused⟩ | ⟨artifact, runs, typed, placed, from_ids, made⟩
    · rw [refused]
      trivial
    · rw [made]
      exact ⟨typed, placed, from_ids⟩
  | addEvent given =>
    change Answers _ (addEvent given site.store.repo).1
    rcases addEvent_effect given site.store.repo with ⟨e, refused⟩ | ⟨payload, made⟩
    · rw [refused]
      trivial
    · rw [made]
      exact ⟨rfl, rfl, rfl⟩

/-! What the notes of one call are, newest first. -/

/-- The job as a decision has to find it. -/
structure Decision.Admits (given : Decision) (job : WorkflowJobRecord) : Prop where
  own : job.runId = given.runId
  deployment : job.workflowName = workflowName
  waits : job.status = .waitingForApproval

structure Decision.Publishes (given : Decision) (job : WorkflowJobRecord)
    (artifact : ArtifactRecord) : Prop where
  typed : artifact.type = .deployment
  placed : artifact.runId = given.runId
  sources : artifactIdsOf job.payload = .ok artifact.sourceArtifactIds

def Decision.status (given : Decision) : WorkflowJobStatus :=
  if given.approved then .completed else .failed

/-- The payload that a decision stores. -/
def Decision.settled (given : Decision) (job : WorkflowJobRecord)
    (publication : Option ArtifactRecord) (approver : String) (now : Time) : PyDict :=
  match publication with
  | some artifact =>
      storeEntries (given.payload job approver now) "deployment_artifact_id" (.str artifact.id)
  | none => given.payload job approver now

structure Decision.Settles (given : Decision) (job : WorkflowJobRecord)
    (publication : Option ArtifactRecord) (result : WorkflowJobRecord) : Prop where
  admitted : given.Admits job
  approves : publication.isSome = given.approved
  publishes : ∀ artifact ∈ publication, given.Publishes job artifact
  status : result.status = given.status
  payload : ∃ approver now, strip given.approver = approver ∧
    redactEntries (given.settled job publication approver now) = .ok result.payload

structure Decision.Announces (given : Decision) (event : AgentEventRecord) : Prop where
  placed : event.runId = given.runId
  node : event.nodeId = nodeId
  typed : event.eventType = AgentEventType.approvalDecision.value

inductive Decision.Notes (given : Decision) : List Note → Prop where
  | nothing : given.Notes []
  | read (job : WorkflowJobRecord) : given.Notes [.found given.jobId job]
  | published {job : WorkflowJobRecord} {artifact : ArtifactRecord} (admitted : given.Admits job)
      (publishes : given.Publishes job artifact) (approved : given.approved = true) :
      given.Notes [.published artifact, .found given.jobId job]
  | decided {job result : WorkflowJobRecord} {publication : Option ArtifactRecord}
      (settles : given.Settles job publication result) :
      given.Notes (.decided job.id result ::
        ((publication.map Note.published).toList ++ [.found given.jobId job]))
  | announced {job result : WorkflowJobRecord} {publication : Option ArtifactRecord}
      {event : AgentEventRecord} (settles : given.Settles job publication result)
      (announces : given.Announces event) :
      given.Notes (.announced event :: .decided job.id result ::
        ((publication.map Note.published).toList ++ [.found given.jobId job]))

/-- The notes of a decision that has returned. -/
structure Decision.Done (given : Decision) (outcome : DecisionResult) (job : WorkflowJobRecord)
    (event : AgentEventRecord) (notes : List Note) : Prop where
  settles : given.Settles job outcome.deploymentArtifact outcome.job
  announces : given.Announces event
  notes : notes = .announced event :: .decided job.id outcome.job ::
    ((outcome.deploymentArtifact.map Note.published).toList ++ [.found given.jobId job])

inductive Request.Notes (given : Request) : List Note → Prop where
  | nothing : given.Notes []
  | requested {job : WorkflowJobRecord} (waits : job.status = .waitingForApproval) :
      given.Notes [.requested job]
  | announced {job : WorkflowJobRecord} {event : AgentEventRecord}
      (waits : job.status = .waitingForApproval) (placed : event.runId = given.runId)
      (typed : event.eventType = AgentEventType.approvalRequest.value) :
      given.Notes [.announced event, .requested job]

section decision
variable {given : Decision}

omit [PyRuntime] in
theorem artifactIdsOf_store {payload : PyDict} {key : String} {value : PyValue}
    (other : key ≠ "artifact_ids") :
    artifactIdsOf (storeEntries payload key value) = artifactIdsOf payload := by
  unfold artifactIdsOf required
  rw [lookup_storeEntries, if_neg other]

omit [PyRuntime] in
theorem artifactIdsOf_payload (given : Decision) (job : WorkflowJobRecord) (approver : String)
    (now : Time) : artifactIdsOf (given.payload job approver now) = artifactIdsOf job.payload := by
  unfold Decision.payload
  rw [artifactIdsOf_store (by decide), artifactIdsOf_store (by decide)]

theorem artifact_made {job : WorkflowJobRecord} {payload : PyDict} {approver : String} {now : Time}
    {arguments : ArtifactArguments}
    (made : given.artifact job payload approver now = .ok arguments) :
    arguments.artifactType = .deployment ∧ arguments.runId = given.runId ∧
      artifactIdsOf payload = .ok arguments.sourceArtifactIds := by
  unfold Decision.artifact at made
  obtain ⟨destination, -, made⟩ := ExceptLists.bind_eq_ok.mp made
  obtain ⟨artifactIds, listed, made⟩ := ExceptLists.bind_eq_ok.mp made
  cases made
  exact ⟨rfl, rfl, listed⟩

omit [PyRuntime] in
theorem event_made {job : WorkflowJobRecord} {payload : PyDict} {artifact : Option ArtifactRecord}
    {approver fresh : String} {now : Time} {event : AgentEventRecord}
    (made : given.event job payload artifact approver now fresh = .ok event) :
    given.Announces event := by
  unfold Decision.event at made
  obtain ⟨artifactIds, -, made⟩ := ExceptLists.bind_eq_ok.mp made
  obtain ⟨destination, -, made⟩ := ExceptLists.bind_eq_ok.mp made
  cases made
  exact ⟨rfl, rfl, rfl⟩

/-- What a decision ends in: it has returned with all its notes, or it has raised. -/
def Decision.Ends (given : Decision) : Outcome PyError DecisionResult → List Note → Prop :=
  Program.Ends (fun outcome notes => ∃ job event, given.Done outcome job event notes)
    (fun _ notes => given.Notes notes) False

theorem settle_notes {job : WorkflowJobRecord} {approver : String}
    (publication : Option ArtifactRecord) (now : Time) (errorSummary : Option String)
    (admitted : given.Admits job) (approves : publication.isSome = given.approved)
    (publishes : ∀ artifact ∈ publication, given.Publishes job artifact)
    (named : strip given.approver = approver)
    (before : given.Notes ((publication.map Note.published).toList ++ [.found given.jobId job])) :
    (settle given job (given.settled job publication approver now) publication given.status
      errorSummary approver now).wp (noting describe Answers given.Notes) given.Ends
      ((publication.map Note.published).toList ++ [.found given.jobId job]) := by
  have settles : ∀ result : WorkflowJobRecord, result.status = given.status →
      redactEntries (given.settled job publication approver now) = .ok result.payload →
      given.Settles job publication result := by
    intro result stands redacted
    exact ⟨admitted, approves, publishes, stands, approver, now, named, redacted⟩
  unfold settle
  simp only [Program.bind_eq]
  apply (Program.wp_perform_bind _ _ _).mpr
  refine ⟨?_, ?_, ?_⟩
  · intro answer possible
    cases answer with
    | error e => exact before
    | ok result => exact .decided (settles result possible.1 possible.2)
  · intro result notes allowed
    obtain ⟨⟨stands, redacted⟩, rfl⟩ := allowed
    have settled := settles result stands redacted
    apply (Program.wp_perform_bind _ _ _).mpr
    refine ⟨fun answer possible => ?_, ?_, ?_⟩
    · cases answer <;> exact .decided settled
    · intro fresh notes allowed
      obtain ⟨-, rfl⟩ := allowed
      apply (Program.wp_ofExcept_bind _ _ _).mpr
      split
      · rename_i event made
        have announced := event_made made
        apply (Program.wp_perform_bind _ _ _).mpr
        refine ⟨?_, ?_, ?_⟩
        · intro answer possible
          cases answer with
          | error e => exact .decided settled
          | ok stored =>
            exact .announced settled ⟨possible.1.trans announced.placed,
              possible.2.1.trans announced.node, possible.2.2.trans announced.typed⟩
        · intro stored notes allowed
          obtain ⟨⟨placed, node, typed⟩, rfl⟩ := allowed
          exact ⟨job, stored, settled, ⟨placed.trans announced.placed, node.trans announced.node,
            typed.trans announced.typed⟩, rfl⟩
        · intro e notes allowed
          obtain ⟨-, rfl⟩ := allowed
          exact .decided settled
      · exact .decided settled
    · intro e notes allowed
      obtain ⟨-, rfl⟩ := allowed
      exact .decided settled
  · intro e notes allowed
    obtain ⟨-, rfl⟩ := allowed
    exact before

theorem approve_notes {job : WorkflowJobRecord} {approver : String} (now : Time)
    (admitted : given.Admits job) (approved : given.approved = true)
    (named : strip given.approver = approver) :
    (approve given job (given.payload job approver now) approver now).wp
      (noting describe Answers given.Notes) given.Ends [.found given.jobId job] := by
  unfold approve
  simp only [Program.bind_eq]
  apply (Program.wp_ofExcept_bind _ _ _).mpr
  split
  · rename_i arguments made
    obtain ⟨typed, placed, listed⟩ := artifact_made made
    rw [artifactIdsOf_payload] at listed
    have publishes : ∀ artifact : ArtifactRecord, artifact.type = arguments.artifactType ∧
        artifact.runId = arguments.runId ∧
        artifact.sourceArtifactIds = arguments.sourceArtifactIds →
        given.Publishes job artifact := by
      intro artifact answered
      exact ⟨answered.1.trans typed, answered.2.1.trans placed, by rw [answered.2.2, listed]⟩
    apply (Program.wp_perform_bind _ _ _).mpr
    refine ⟨?_, ?_, ?_⟩
    · intro answer possible
      cases answer with
      | error e => exact .read job
      | ok artifact => exact .published admitted (publishes artifact possible) approved
    · intro artifact notes allowed
      obtain ⟨answered, rfl⟩ := allowed
      have published := publishes artifact answered
      have before : given.Notes [.published artifact, .found given.jobId job] :=
        .published admitted published approved
      apply (Program.wp_perform_bind _ _ _).mpr
      refine ⟨fun answer possible => ?_, ?_, ?_⟩
      · cases answer <;> exact before
      · intro run notes allowed
        obtain ⟨-, rfl⟩ := allowed
        have status : given.status = .completed := by
          unfold Decision.status
          rw [approved, if_pos rfl]
        have settled := settle_notes (some artifact) now none admitted
          (by rw [approved]; rfl) (by rintro _ ⟨rfl⟩; exact published) named before
        rw [status] at settled
        exact settled
      · intro e notes allowed
        obtain ⟨-, rfl⟩ := allowed
        exact before
    · intro e notes allowed
      obtain ⟨-, rfl⟩ := allowed
      exact .read job
  · exact .read job

theorem deny_notes {job : WorkflowJobRecord} {approver : String} (now : Time)
    (admitted : given.Admits job) (denied : given.approved = false)
    (named : strip given.approver = approver) :
    (deny given job (given.payload job approver now) approver now).wp
      (noting describe Answers given.Notes) given.Ends [.found given.jobId job] := by
  unfold deny
  simp only [Program.bind_eq]
  apply (Program.wp_perform_bind _ _ _).mpr
  refine ⟨fun answer possible => ?_, ?_, ?_⟩
  · cases answer <;> exact .read job
  · intro run notes allowed
    obtain ⟨-, rfl⟩ := allowed
    have status : given.status = .failed := by
      unfold Decision.status
      rw [denied]
      rfl
    have settled := settle_notes none now
      (some "Deployment approval denied.") admitted (by rw [denied]; rfl) (by rintro _ ⟨⟩) named
      (.read job)
    rw [status] at settled
    exact settled
  · intro e notes allowed
    obtain ⟨-, rfl⟩ := allowed
    exact .read job

omit [PyRuntime] in
theorem normalizeRequired_ok {value message normalized : String}
    (accepted : normalizeRequired value message = .ok normalized) : strip value = normalized := by
  unfold normalizeRequired at accepted
  split at accepted
  · cases accepted
  · cases accepted
    rfl

omit [PyRuntime] in
theorem assertDeploymentJob_ok {job : WorkflowJobRecord} {runId : String}
    (accepted : assertDeploymentJob job runId = .ok ()) :
    job.runId = runId ∧ job.workflowName = workflowName := by
  unfold assertDeploymentJob at accepted
  split at accepted
  · cases accepted
  · split at accepted
    · cases accepted
    · rename_i own deployment
      exact ⟨not_not.mp own, not_not.mp deployment⟩

/-- A decision keeps to its notes, whatever others do between its operations. -/
theorem decide_notes (given : Decision) :
    (decideDeploymentApproval given).wp (noting describe Answers given.Notes) given.Ends [] := by
  unfold decideDeploymentApproval
  simp only [Program.bind_eq]
  apply (Program.wp_perform_bind _ _ _).mpr
  refine ⟨fun answer possible => ?_, ?_, ?_⟩
  · cases answer <;> exact .nothing
  · intro run notes allowed
    obtain ⟨-, rfl⟩ := allowed
    apply (Program.wp_perform_bind _ _ _).mpr
    refine ⟨?_, ?_, ?_⟩
    · intro answer possible
      cases answer with
      | error e => exact .nothing
      | ok job => exact .read job
    · intro job notes allowed
      obtain ⟨-, rfl⟩ := allowed
      apply (Program.wp_ofExcept_bind _ _ _).mpr
      split
      · rename_i accepted
        obtain ⟨own, deployment⟩ := assertDeploymentJob_ok accepted
        split
        · exact .read job
        · rename_i waits
          have admitted : given.Admits job := ⟨own, deployment, not_not.mp waits⟩
          apply (Program.wp_perform_bind _ _ _).mpr
          refine ⟨fun answer possible => ?_, ?_, ?_⟩
          · cases answer <;> exact .read job
          · intro now notes allowed
            obtain ⟨-, rfl⟩ := allowed
            apply (Program.wp_ofExcept_bind _ _ _).mpr
            split
            · rename_i approver accepted
              have named := normalizeRequired_ok accepted
              split
              · rename_i approved
                exact approve_notes now admitted approved named
              · rename_i denied
                exact deny_notes now admitted (eq_false_of_ne_true denied) named
            · exact .read job
          · intro e notes allowed
            obtain ⟨-, rfl⟩ := allowed
            exact .read job
      · exact .read job
    · intro e notes allowed
      obtain ⟨-, rfl⟩ := allowed
      exact .nothing
  · intro e notes allowed
    obtain ⟨-, rfl⟩ := allowed
    exact .nothing

end decision

section request
variable {given : Request}

def Request.Ends (given : Request) : Outcome PyError WorkflowJobRecord → List Note → Prop :=
  Program.Ends (fun _ notes => given.Notes notes) (fun _ notes => given.Notes notes) False

/-- Reading artifacts notes nothing. -/
theorem getArtifact_still (runId artifactId : String) :
    Program.Still (noting describe Answers given.Notes) (fun _ notes => given.Notes notes)
      (Program.perform (Op.getArtifact runId artifactId)) [] := by
  apply Program.still_perform
  · intro answer possible
    cases answer <;> exact .nothing
  · intro artifact notes allowed
    exact allowed.2
  · intro e notes allowed
    obtain ⟨-, rfl⟩ := allowed
    exact .nothing

theorem validateArtifactIds_still (runId : String) (seen artifactIds : List String) :
    Program.Still (noting describe Answers given.Notes) (fun _ notes => given.Notes notes)
      (validateArtifactIds runId seen artifactIds) [] := by
  induction artifactIds generalizing seen with
  | nil =>
    unfold validateArtifactIds
    split
    · exact .nothing
    · exact Program.still_returned seen
  | cons artifactId rest ih =>
    unfold validateArtifactIds
    dsimp only
    split
    · exact ih seen
    · exact Program.still_bind (getArtifact_still runId _) fun _ => ih _

theorem getArtifacts_still (runId : String) (artifactIds : List String) :
    Program.Still (noting describe Answers given.Notes) (fun _ notes => given.Notes notes)
      (getArtifacts runId artifactIds) [] := by
  induction artifactIds with
  | nil => exact Program.still_returned []
  | cons artifactId rest ih =>
    exact Program.still_bind (getArtifact_still runId artifactId) fun artifact =>
      Program.still_bind ih fun others => Program.still_returned _

theorem ofExcept_still {α : Type} (e : Except PyError α) :
    Program.Still (noting describe Answers given.Notes) (fun _ notes => given.Notes notes)
      (Program.ofExcept e) [] := by
  cases e with
  | error e => exact .nothing
  | ok value => exact Program.still_returned value

theorem evaluatePolicy_still (registry : ToolPermissionRegistry) (runId destination : String)
    (artifactIds : List String) (requestedBy : Option String) :
    Program.Still (noting describe Answers given.Notes) (fun _ notes => given.Notes notes)
      (evaluateDeploymentPolicy registry runId artifactIds destination requestedBy) [] := by
  unfold evaluateDeploymentPolicy
  exact Program.still_bind (getArtifacts_still runId artifactIds) fun artifacts =>
    Program.still_bind (ofExcept_still _) fun context => ofExcept_still _

theorem announced_notes (decision : ToolPolicyDecision) (now : Time) (artifactIds : List String)
    (destination : String) :
    ((Program.perform (Op.enqueueWorkflowJob given.runId workflowName
      (given.payload artifactIds destination decision now) 1 .waitingForApproval)).bind fun job =>
      (Program.perform (Op.updateStatus given.runId .waitingForApproval none)).bind fun _ =>
      (Program.perform Op.uuid4).bind fun fresh =>
      (Program.perform
        (Op.addEvent (given.event artifactIds destination decision now fresh job.id))).bind fun _ =>
      (pure job : Prog WorkflowJobRecord)).wp (noting describe Answers given.Notes) given.Ends [] := by
  apply (Program.wp_perform_bind _ _ _).mpr
  refine ⟨?_, ?_, ?_⟩
  · intro answer possible
    cases answer with
    | error e => exact .nothing
    | ok job => exact .requested possible
  · intro job notes allowed
    obtain ⟨waits, rfl⟩ := allowed
    apply (Program.wp_perform_bind _ _ _).mpr
    refine ⟨fun answer possible => ?_, ?_, ?_⟩
    · cases answer <;> exact .requested waits
    · intro run notes allowed
      obtain ⟨-, rfl⟩ := allowed
      apply (Program.wp_perform_bind _ _ _).mpr
      refine ⟨fun answer possible => ?_, ?_, ?_⟩
      · cases answer <;> exact .requested waits
      · intro fresh notes allowed
        obtain ⟨-, rfl⟩ := allowed
        apply (Program.wp_perform_bind _ _ _).mpr
        refine ⟨?_, ?_, ?_⟩
        · intro answer possible
          cases answer with
          | error e => exact .requested waits
          | ok stored => exact .announced waits possible.1 possible.2.2
        · intro stored notes allowed
          obtain ⟨⟨placed, -, typed⟩, rfl⟩ := allowed
          exact .announced waits placed typed
        · intro e notes allowed
          obtain ⟨-, rfl⟩ := allowed
          exact .requested waits
      · intro e notes allowed
        obtain ⟨-, rfl⟩ := allowed
        exact .requested waits
    · intro e notes allowed
      obtain ⟨-, rfl⟩ := allowed
      exact .requested waits
  · intro e notes allowed
    obtain ⟨-, rfl⟩ := allowed
    exact .nothing

/-- A request makes a job that waits and announces it; before that it only reads. -/
theorem request_notes (registry : ToolPermissionRegistry) (given : Request) :
    (requestDeploymentApproval registry given).wp (noting describe Answers given.Notes)
      given.Ends [] := by
  unfold requestDeploymentApproval
  simp only [Program.bind_eq]
  apply (Program.wp_perform_bind _ _ _).mpr
  refine ⟨fun answer possible => ?_, ?_, ?_⟩
  · cases answer <;> exact .nothing
  · intro run notes allowed
    obtain ⟨-, rfl⟩ := allowed
    split
    · exact .nothing
    · apply (validateArtifactIds_still _ _ _).then _ fun _ _ raised => raised
      intro artifactIds
      apply (ofExcept_still _).then _ fun _ _ raised => raised
      intro destination
      apply (evaluatePolicy_still _ _ _ _ _).then _ fun _ _ raised => raised
      intro decision
      split
      · exact .nothing
      · apply (Program.wp_perform_bind _ _ _).mpr
        refine ⟨fun answer possible => ?_, ?_, ?_⟩
        · cases answer <;> exact .nothing
        · intro now notes allowed
          obtain ⟨-, rfl⟩ := allowed
          exact announced_notes decision now artifactIds destination
        · intro e notes allowed
          obtain ⟨-, rfl⟩ := allowed
          exact .nothing
  · intro e notes allowed
    obtain ⟨-, rfl⟩ := allowed
    exact .nothing

end request

end calls
end Deployments
