import ControlPlane.Autonomy.StoreTransactions

/-!
# Transactions of the execution controller and of ingestion

`Input` is what the environment answers while one statement runs: the lock, the
clock, the gateway's session, the workspace registry and the file system.
-/

namespace ControlPlane.Autonomy

open Data

/-- `WorkspaceDescriptor` -/
structure Descriptor where
  workspaceId : String
  root : String
  targetProject : String
  physicalId : String
  kind : String := "DISPOSABLE"
  deriving DecidableEq

structure Input where
  /-- the statement finds the store locked -/
  busy : Bool := false
  /-- `uuid.uuid4().hex` -/
  uuid : String := ""
  clock : PyFloat := .fin 0
  /-- `gateway.verified_session_binding` -/
  session : Answer Bool := .ok false
  /-- `workspaces.resolve` -/
  workspace : Answer Descriptor := .error (.integrityBlocked "workspace authority unavailable")
  /-- `_physical_id(workspace.root)` -/
  physicalId : Answer String := .ok ""
  /-- `_actual(_path(workspace, path))`: the digest of the file, or ABSENT -/
  actual : String → Answer String := fun _ => .ok "ABSENT"
  /-- a change to the file system, or a hook of the caller -/
  change : Answer Unit := .ok ()

instance : Inhabited Input := ⟨{}⟩

/-! ### Authority -/

/-- `_authority` up to the session. -/
def authority (task : Option TaskRow) (worker : Option WorkerRow) (grant : GrantRow) (now : ℚ) :
    Except Err Unit := do
  let t ← found task (.blocked "grant authority expired")
  let w ← found worker (.blocked "grant authority expired")
  require (t.state = .running ∧ t.assignedWorkerId = some grant.workerId ∧ t.leaseId = some grant.leaseId)
    (.blocked "grant authority expired")
  let expires ← found t.leaseExpiresAt (.other "TypeError")
  require (¬ expires ≤ .fin now ∧ ¬ grant.expiresAt ≤ .fin now) (.blocked "grant authority expired")
  require (¬ w.Stale now) (.blocked "worker stale")

def sessionAuthority (session : Answer Bool) : Except Err Unit := do
  require ((← session) = true) (.blocked "session authority unavailable")

def Db.authority (db : Db) (grant : GrantRow) (now : ℚ) (x : Input) : Except Err Unit := do
  Autonomy.authority (db.tasks.find? grant.taskId) (db.workers.find? grant.workerId) grant now
  sessionAuthority x.session

/-- The comparison at the heart of `_workspace_authority`. -/
def sameWorkspace (workspace : Descriptor) (row : WorkspaceRow) (physical : String) : Prop :=
  row.root = workspace.root ∧ row.physicalId = workspace.physicalId ∧
    row.targetProject = workspace.targetProject ∧ row.kind = workspace.kind ∧ physical = row.physicalId

instance (workspace : Descriptor) (row : WorkspaceRow) (physical : String) :
    Decidable (sameWorkspace workspace row physical) := inferInstanceAs (Decidable (_ ∧ _ ∧ _ ∧ _ ∧ _))

def Db.verifyWorkspace (db : Db) (workspace : String) (now : ℚ) : Db :=
  let workspaces := db.workspaces.update (fun w => w.workspaceId = workspace)
    (fun w => { w with lastVerifiedAt := some now, lastError := none }) fun _ => rfl
  { db with workspaces }

def Db.blockWorkspace (db : Db) (workspace reason : String) (now : ℚ) : Db :=
  let workspaces := db.workspaces.update (fun w => w.workspaceId = workspace)
    (fun w => { w with
      state := .integrityBlocked, lastVerifiedAt := some now, lastError := some (clean reason) }) fun _ => rfl
  { db with workspaces }

/-- The constructor's `INSERT` for a workspace it does not know. -/
def insertWorkspace (row : WorkspaceRow) (db : Db) : Except Err (Committed Unit) := do
  let workspaces ← found (db.workspaces.insert? row) .integrity
  return ({ db with workspaces }, .ok ())

/-- The constructor's `UPDATE` for a workspace that names another place than before. -/
def Db.rebindWorkspace (db : Db) (workspace : String) : Db :=
  let workspaces := db.workspaces.update (fun w => w.workspaceId = workspace)
    (fun w => { w with state := .integrityBlocked, lastError := some "AUTHORITY_REBIND" }) fun _ => rfl
  { db with workspaces }

/-- `_workspace_authority` inside a block: a refusal rolls back whatever it wrote. -/
def Db.workspaceAuthority (db : Db) (now : ℚ) (x : Input) : Except Err Db := do
  let workspace ← x.workspace
  let row ← found (db.workspaces.find? workspace.workspaceId)
    (.integrityBlocked "workspace durably blocked or unknown")
  require (row.state ≠ .integrityBlocked) (.integrityBlocked "workspace durably blocked or unknown")
  require (sameWorkspace workspace row (← x.physicalId)) (.integrityBlocked "workspace physical identity mismatch")
  return db.verifyWorkspace workspace.workspaceId now

/-! ### Grants -/

structure GrantRequest where
  taskId : String
  workerId : String
  sessionId : String
  leaseId : String
  workspaceId : String
  allowedOperations : List Operation
  /-- normalised already -/
  pathPrefixes : List String
  grantSeconds : PyFloat

/-- `issue_grant`; `identify` derives the grant's name from the workspace and the uuid. -/
def insertGrant (q : GrantRequest) (identify : String → String → String) (n : ℚ) (x : Input) (db : Db) :
    Except Err (Committed String) := do
  let t ← found (db.tasks.find? q.taskId) (.blocked "execution authority unavailable")
  let w ← found (db.workers.find? q.workerId) (.blocked "execution authority unavailable")
  require (t.state = .running ∧ t.assignedWorkerId = some q.workerId ∧ t.leaseId = some q.leaseId)
    (.blocked "execution authority unavailable")
  let expires ← found t.leaseExpiresAt (.other "TypeError")
  require (¬ expires ≤ .fin n ∧ ¬ w.Stale n) (.blocked "execution authority unavailable")
  require ((← x.session) = true) (.blocked "execution authority unavailable")
  let workspace ← x.workspace
  require (t.capability ∈ w.capabilities ∧ t.targetProject ∈ w.targets) (.blocked "capability or target mismatch")
  let grantId := identify workspace.workspaceId x.uuid
  let grants ← found (db.grants.insert? {
    grantId, taskId := q.taskId, workerId := q.workerId, sessionId := q.sessionId, leaseId := q.leaseId
    workspaceId := workspace.workspaceId, targetProject := t.targetProject, capability := t.capability
    operations := [.create, .delete, .replace].filter (· ∈ q.allowedOperations)
    pathPrefixes := sortIds q.pathPrefixes, issuedAt := n
    expiresAt := PyFloat.minimum expires (.fin n + q.grantSeconds), consumedAt := none
    state := .issued, planHash := none }) .integrity
  return (Db.log { db with grants } q.taskId "EXECUTION_GRANT_ISSUED" n
    s!"grant={grantId};workspace={q.workspaceId}", .ok grantId)

/-! ### Applying a plan -/

/-- What `canonical_plan` makes of a plan. -/
structure Plan where
  grantId : String
  planHash : String
  operations : List FileRow

/-- `not p or path == p or path.startswith(p + "/")` -/
def underPrefix (path : String) (pre : String) : Prop :=
  pre = "" ∨ path = pre ∨ (pre.toList ++ ['/']) <+: path.toList

instance (path pre : String) : Decidable (underPrefix path pre) := inferInstanceAs (Decidable (_ ∨ _ ∨ _))

/-- The plan asks for nothing the grant does not allow. -/
def GrantRow.allows (grant : GrantRow) (operations : List FileRow) : Prop :=
  ∀ row ∈ operations, (∃ o ∈ grant.operations, row.operation = some o) ∧
    ∃ pre ∈ grant.pathPrefixes, underPrefix row.path pre

instance (grant : GrantRow) (operations : List FileRow) : Decidable (grant.allows operations) :=
  inferInstanceAs (Decidable (∀ row ∈ operations, _ ∧ _))

/-- Every file of the plan still is what the plan says it was. -/
def preimagesHold (operations : List FileRow) (actual : String → Answer String) : Except Err Unit :=
  operations.forM fun row => do
    require ((← actual row.path) = row.preimage) (.blocked "preimage mismatch")

/-- The grant, or the lease it was issued on, is over. -/
def GrantRow.lapsed (grant : GrantRow) (leased : Option TaskRow) (n : ℚ) : Except Err Bool :=
  if grant.expiresAt ≤ .fin n then .ok true
  else match leased with
    | none => .ok true
    -- a NULL expiry cannot be compared with the clock
    | some r => do return decide ((← found r.leaseExpiresAt (.other "TypeError")) ≤ .fin n)

def Db.expireGrant (db : Db) (grant : GrantRow) (n : ℚ) : Db :=
  let grants := db.grants.update (fun g => g.grantId = grant.grantId ∧ g.state = .issued)
    (fun g => { g with state := .expired }) fun _ => rfl
  Db.log { db with grants } grant.taskId "EXECUTION_GRANT_EXPIRED" n s!"grant={grant.grantId}"

/-- The first block of `apply`: the grant is consumed and the transaction begins. -/
def beginApply (plan : Plan) (n : ℚ) (x : Input) (db : Db) : Except Err (Committed Unit) := do
  let grant ← found (db.grants.find? plan.grantId) (.blocked "grant replay or unavailable")
  require (grant.state = .issued) (.blocked "grant replay or unavailable")
  let leased := db.tasks.rows.find? fun r => r.taskId = grant.taskId ∧ r.leaseId = some grant.leaseId
  if ← grant.lapsed leased n then
    return (db.expireGrant grant n, .error (.blocked "grant expired"))
  db.authority grant n x
  let db ← db.workspaceAuthority n x
  require (∀ g ∈ db.grants.rows, ¬ (g.workspaceId = grant.workspaceId ∧ g.state = .applying ∧
    g.grantId ≠ plan.grantId)) (.blocked "workspace transaction already applying")
  require (grant.allows plan.operations) (.blocked "plan outside grant scope")
  preimagesHold plan.operations x.actual
  let transactions ← found (db.transactions.insert? {
    grantId := plan.grantId, planHash := plan.planHash, operationsManifest := plan.operations
    state := .applying, startedAt := n }) .integrity
  let consumes (g : GrantRow) : Prop := g.grantId = plan.grantId ∧ g.state = .issued
  require (db.grants.rowcount consumes = 1) (.blocked "grant consume lost")
  let grants := db.grants.update consumes
    (fun g => { g with state := .applying, consumedAt := some n, planHash := some plan.planHash }) fun _ => rfl
  return (Db.log { db with transactions, grants } grant.taskId "EXECUTION_APPLYING" n
    s!"grant={plan.grantId};plan={plan.planHash}", .ok ())

/-- `UPDATE execution_transactions .. WHERE grant_id=? AND state='APPLYING'` -/
def Db.settleTransaction (db : Db) (grantId : String) (f : TransactionRow → TransactionRow)
    (keeps : ∀ r, (f r).grantId = r.grantId) : Db :=
  { db with transactions := db.transactions.update (fun r => r.grantId = grantId ∧ r.state = .applying) f keeps }

/-- `UPDATE execution_grants SET state=? WHERE grant_id=? AND state='APPLYING'` -/
def Db.settleGrant (db : Db) (grantId : String) (state : GrantState) : Db :=
  let grants := db.grants.update (fun g => g.grantId = grantId ∧ g.state = .applying)
    (fun g => { g with state }) fun _ => rfl
  { db with grants }

/-- `UPDATE tasks SET state='REVIEW_PENDING' .. WHERE task_id=? AND state='RUNNING'` -/
def Db.reviewTask (db : Db) (task : String) (n : ℚ) : Db :=
  let tasks := db.tasks.update (TaskRow.named task (· = .running))
    (TaskRow.received n) (TaskRow.received_taskId n)
  { db with tasks }

/-- The last block of `apply`; the envelope and its digest are computed before it. -/
def finishApply (plan : Plan) (envelope sha : String) (now : ℚ) (x : Input) (db : Db) :
    Except Err (Committed Unit) := do
  let grant ← found (db.grants.find? plan.grantId) (.other "TypeError")
  db.authority grant now x
  let db ← db.workspaceAuthority now x
  require (db.transactions.rowcount (fun r => r.grantId = plan.grantId ∧ r.state = .applying) = 1 ∧
    db.grants.rowcount (fun g => g.grantId = plan.grantId ∧ g.state = .applying) = 1 ∧
    db.tasks.rowcount (TaskRow.named grant.taskId (· = .running)) = 1) (.integrityBlocked "durable completion lost")
  let db := db.settleTransaction plan.grantId
    (fun r => { r with
      state := .applied, finishedAt := some now, evidenceSha256 := some sha, evidenceEnvelope := some envelope })
    fun _ => rfl
  let db := (db.settleGrant plan.grantId .applied).reviewTask grant.taskId now
  return (db.log grant.taskId "EXECUTION_APPLIED" now
    s!"grant={plan.grantId};plan={plan.planHash};evidence={sha}", .ok ())

/-- `_terminalize_failure` -/
def terminalizeFailure (grantId : String) (state : GrantState) (code : String) (now : ℚ) (db : Db) :
    Except Err (Committed Unit) := do
  let db := db.settleTransaction grantId
    (fun r => { r with state, finishedAt := some now, errorCode := some (clean code) }) fun _ => rfl
  return (db.settleGrant grantId state, .ok ())

/-- What `recover` found the files to be: the state it settles the transaction in
and, for APPLIED, the envelope with its digest. -/
inductive Recovered where
  | failed
  | applied (envelope sha : String)
  | integrityBlocked

def Recovered.state : Recovered → GrantState
  | failed => .failed
  | applied .. => .applied
  | integrityBlocked => .integrityBlocked

def Recovered.envelope? : Recovered → Option String
  | applied envelope _ => some envelope
  | _ => none

def Recovered.sha? : Recovered → Option String
  | applied _ sha => some sha
  | _ => none

def GrantState.name : GrantState → String
  | issued => "ISSUED" | applying => "APPLYING" | applied => "APPLIED" | failed => "FAILED"
  | expired => "EXPIRED" | integrityBlocked => "INTEGRITY_BLOCKED"

/-- The `if state == "APPLIED"` of `recover`. -/
def Db.reviewRecovered (db : Db) (task : String) (outcome : Recovered) (n : ℚ) : Except Err Db :=
  if outcome.state = .applied then do
    require (db.tasks.rowcount (TaskRow.named task (· = .running)) = 1)
      (.integrityBlocked "recovery review transition lost")
    return db.reviewTask task n
  else return db

/-- The block of `recover`. The row counts of its first two updates are not looked at. -/
def settleRecovery (grant : GrantRow) (outcome : Recovered) (n : ℚ) (db : Db) : Except Err (Committed Unit) := do
  let db := db.settleTransaction grant.grantId
    (fun r => { r with
      state := outcome.state, finishedAt := some n, evidenceSha256 := outcome.sha?
      evidenceEnvelope := outcome.envelope? }) fun _ => rfl
  let db := db.settleGrant grant.grantId outcome.state
  let db ← db.reviewRecovered grant.taskId outcome n
  return (db.log grant.taskId "EXECUTION_RECOVERED" n
    s!"grant={grant.grantId};state={outcome.state.name}", .ok ())

/-! ### Ingestion -/

/-- One verified queue record, as `ingest` binds it. -/
structure QueueEntry where
  sequence : Nat
  lineSha256 : String
  /-- the binding, with the instant it would be ingested at -/
  provenance : ProvenanceRow
  requiresHumanApproval : Bool
  source : String

def Db.blockSource (db : Db) (reason : String) : Db :=
  { db with ingest := { db.ingest with sourceState := .integrityBlocked, lastError := some (clean reason) } }

def QueueEntry.row (e : QueueEntry) : TaskRow where
  taskId := e.provenance.taskId
  directiveId := some e.provenance.directiveId
  targetProject := e.provenance.targetProject
  capability := e.provenance.capability
  state := if e.requiresHumanApproval then .waitingHuman else .queued
  priority := 0
  createdAt := e.provenance.ingestedAt
  updatedAt := e.provenance.ingestedAt
  requiresHumanApproval := if e.requiresHumanApproval then 1 else 0
  governanceAllowed := 1
  retryBudget := 1

/-- The two inserts and the audit event of a record that is new. -/
def Db.createIngested (db : Db) (e : QueueEntry) : Except Err Db := do
  let db ← db.insertTask e.row
  let provenance ← found (db.provenance.insert? e.provenance) .integrity
  return Db.log { db with provenance } e.provenance.taskId "DIRECTIVE_INGESTED" e.provenance.ingestedAt
    s!"directive={e.provenance.directiveId};action={e.provenance.actionType}"

/-- A line is recorded once. -/
def Db.recordLine (db : Db) (known : Option QueueRecordRow) (e : QueueEntry) : Except Err Db :=
  match known with
  | some _ => return db
  | none => do
    let queueRecords ← found (db.queueRecords.insert? ⟨e.sequence, e.lineSha256, e.provenance.directiveId⟩) .integrity
    return { db with queueRecords }

/-- The block of `ingest` for one record; answers whether the task is new. -/
def ingestEntry (e : QueueEntry) (db : Db) : Except Err (Committed Bool) := do
  let known := db.queueRecords.find? e.sequence
  if ∃ q, known = some q ∧ (q.lineSha256 ≠ e.lineSha256 ∨ q.directiveId ≠ e.provenance.directiveId) then
    return (db.blockSource "QUEUE_SEQUENCE_CONFLICT", .error (.integrityBlocked "queue sequence conflict"))
  let existing := db.provenance.rows.find? fun p =>
    p.directiveId = e.provenance.directiveId ∨ p.taskId = e.provenance.taskId
  if ∃ p, existing = some p ∧ { p with ingestedAt := e.provenance.ingestedAt } ≠ e.provenance then
    return (db.blockSource "PROVENANCE_CONFLICT", .error (.integrityBlocked "conflicting provenance"))
  let db ← match existing with
    | some _ => pure db
    | none => db.createIngested e
  let db ← db.recordLine known e
  let ingest : IngestState :=
    { sourcePath := e.source, sourceState := .verified, lastSequence := e.sequence
      lastDirectiveId := some e.provenance.directiveId, lastTaskId := some e.provenance.taskId }
  return ({ db with ingest }, .ok existing.isNone)

end ControlPlane.Autonomy
