import ControlPlane.Data.Table
import ControlPlane.Data.PyFloat

/-!
# The autonomy database

One record per table, columns under the schema's names. Text columns that hold a
JSON list are lists here, and `nan` bound to a REAL column is NULL.
-/

namespace ControlPlane.Autonomy

open Data

/-- What an operation raises. -/
inductive Err where
  | blocked (message : String)
  | integrityBlocked (message : String)
  /-- `sqlite3.IntegrityError` -/
  | integrity
  /-- `sqlite3.OperationalError`: the store is locked or busy -/
  | operational
  | other (name : String)
  deriving DecidableEq

/-- `except BlockedError`, which `IntegrityBlockedError` is a subclass of. -/
def Err.isBlocked : Err → Bool
  | .blocked _ | .integrityBlocked _ => true
  | _ => false

abbrev Answer (α : Type) := Except Err α

inductive TaskState where
  | new | validated | queued | assigned | leased | running | evidencePending | reviewPending
  | waitingHuman | completed | waitingCapacity | retrying | failedSafe | deadLetter
  deriving DecidableEq

namespace TaskState

/-- `TERMINAL` -/
def terminal (s : TaskState) : Bool := s ∈ [completed, failedSafe, deadLetter]

/-- `LEASEABLE` -/
def leaseable (s : TaskState) : Bool := s ∈ [queued, waitingCapacity, retrying]

/-- `state IN('LEASED','RUNNING')` -/
def working (s : TaskState) : Bool := s ∈ [leased, running]

def name : TaskState → String
  | new => "NEW" | validated => "VALIDATED" | queued => "QUEUED" | assigned => "ASSIGNED"
  | leased => "LEASED" | running => "RUNNING" | evidencePending => "EVIDENCE_PENDING"
  | reviewPending => "REVIEW_PENDING" | waitingHuman => "WAITING_HUMAN" | completed => "COMPLETED"
  | waitingCapacity => "WAITING_CAPACITY" | retrying => "RETRYING" | failedSafe => "FAILED_SAFE"
  | deadLetter => "DEAD_LETTER"

end TaskState

inductive EvidenceStatus where
  | none | missingOrInvalid | received | valid
  deriving DecidableEq

structure WorkerRow where
  workerId : String
  kind : String
  capabilities : List String
  targets : List String
  registeredAt : ℚ
  lastHeartbeat : ℚ
  heartbeatSla : PyFloat
  capacity : Int
  deriving DecidableEq

structure TaskRow where
  taskId : String
  directiveId : Option String
  targetProject : String
  capability : String
  state : TaskState
  priority : Int
  createdAt : ℚ
  updatedAt : ℚ
  requiresHumanApproval : Int
  governanceAllowed : Int
  attemptCount : Nat := 0
  retryBudget : Nat
  assignedWorkerId : Option String := none
  leaseId : Option String := none
  leaseExpiresAt : Option PyFloat := none
  lastWorkerHeartbeat : Option ℚ := none
  evidenceStatus : EvidenceStatus := .none
  terminalReason : Option String := none
  errorCode : Option String := none
  deriving DecidableEq

structure EvidenceRow where
  taskId : String
  evidenceId : String
  sha256 : String
  receivedAt : ℚ
  deriving DecidableEq

structure AuditRow where
  taskId : String
  event : String
  at_ : ℚ
  details : String
  deriving DecidableEq

inductive GrantState where
  | issued | applying | applied | failed | expired | integrityBlocked
  deriving DecidableEq

inductive Operation where
  | create | replace | delete
  deriving DecidableEq

/-- One line of a canonical plan and of the stored manifest; `operation` is none
where the plan's word is not an operation. -/
structure FileRow where
  operation : Option Operation
  path : String
  preimage : String
  postimage : String
  contentSha256 : String
  deriving DecidableEq

structure GrantRow where
  grantId : String
  taskId : String
  workerId : String
  sessionId : String
  leaseId : String
  workspaceId : String
  targetProject : String
  capability : String
  operations : List Operation
  pathPrefixes : List String
  issuedAt : ℚ
  expiresAt : PyFloat
  consumedAt : Option ℚ
  state : GrantState
  planHash : Option String
  deriving DecidableEq

structure TransactionRow where
  grantId : String
  planHash : String
  operationsManifest : List FileRow
  state : GrantState
  startedAt : ℚ
  finishedAt : Option ℚ := none
  evidenceSha256 : Option String := none
  errorCode : Option String := none
  evidenceEnvelope : Option String := none
  deriving DecidableEq

inductive WorkspaceState where
  | available | integrityBlocked
  deriving DecidableEq

structure WorkspaceRow where
  workspaceId : String
  root : String
  physicalId : String
  targetProject : String
  kind : String
  state : WorkspaceState
  lastVerifiedAt : Option ℚ := none
  lastError : Option String := none
  deriving DecidableEq

structure ProvenanceRow where
  taskId : String
  directiveId : String
  idempotencyKey : String
  sourceCommitSha : String
  blobSha : String
  payloadSha256 : String
  sourcePath : String
  signerIdentity : String
  targetProject : String
  actionType : String
  capability : String
  ingestedAt : ℚ
  deriving DecidableEq

structure QueueRecordRow where
  sequence : Nat
  lineSha256 : String
  directiveId : String
  deriving DecidableEq

inductive SourceState where
  | unknown | verified | integrityBlocked
  deriving DecidableEq

/-- The single row of `runtime_ingest_state`. -/
structure IngestState where
  sourcePath : String := ""
  sourceState : SourceState := .unknown
  lastSequence : Nat := 0
  lastError : Option String := none
  lastDirectiveId : Option String := none
  lastTaskId : Option String := none
  deriving DecidableEq

structure Db where
  workers : Table WorkerRow WorkerRow.workerId
  tasks : Table TaskRow TaskRow.taskId
  evidence : Table EvidenceRow fun e => (e.taskId, e.evidenceId)
  audit : List AuditRow
  grants : Table GrantRow GrantRow.grantId
  transactions : Table TransactionRow TransactionRow.grantId
  workspaces : Table WorkspaceRow WorkspaceRow.workspaceId
  provenance : Table ProvenanceRow ProvenanceRow.taskId
  queueRecords : Table QueueRecordRow QueueRecordRow.sequence
  ingest : IngestState

/-- The database right after every `CREATE TABLE`. -/
def Db.empty : Db :=
  ⟨.empty, .empty, .empty, [], .empty, .empty, .empty, .empty, .empty, {}⟩

namespace TaskRow

/-- A live lease at `n`: `lease_expires_at > n`, never true of NULL. -/
def Live (r : TaskRow) (n : ℚ) : Prop := ∃ e, r.leaseExpiresAt = some e ∧ PyFloat.fin n < e

/-- `lease_expires_at <= n`, never true of NULL. -/
def Lapsed (r : TaskRow) (n : ℚ) : Prop := ∃ e, r.leaseExpiresAt = some e ∧ e ≤ PyFloat.fin n

instance (r : TaskRow) (n : ℚ) : Decidable (r.Live n) :=
  match h : r.leaseExpiresAt with
  | none => isFalse fun ⟨_, stored, _⟩ => by simp [h] at stored
  | some e => decidable_of_iff (PyFloat.fin n < e) (by simp [Live, h])

instance (r : TaskRow) (n : ℚ) : Decidable (r.Lapsed n) :=
  match h : r.leaseExpiresAt with
  | none => isFalse fun ⟨_, stored, _⟩ => by simp [h] at stored
  | some e => decidable_of_iff (e ≤ PyFloat.fin n) (by simp [Lapsed, h])

/-- `assigned_worker_id=NULL,lease_id=NULL,lease_expires_at=NULL` -/
def released (r : TaskRow) : TaskRow :=
  { r with assignedWorkerId := none, leaseId := none, leaseExpiresAt := none }

/-- The three lease columns are all NULL. -/
def Unleased (r : TaskRow) : Prop :=
  r.assignedWorkerId = none ∧ r.leaseId = none ∧ r.leaseExpiresAt = none

instance (r : TaskRow) : Decidable r.Unleased := inferInstanceAs (Decidable (_ ∧ _ ∧ _))

theorem Lapsed.not_live {r : TaskRow} {n : ℚ} (lapsed : r.Lapsed n) : ¬ r.Live n := by
  rintro ⟨e, here, ahead⟩
  obtain ⟨e', there, past⟩ := lapsed
  cases here.symm.trans there
  exact PyFloat.not_lt_of_le past ahead

theorem Live.earlier {r : TaskRow} {m n : ℚ} (live : r.Live n) (earlier : m ≤ n) : r.Live m := by
  obtain ⟨e, here, ahead⟩ := live
  exact ⟨e, here, PyFloat.lt_of_earlier earlier ahead⟩

end TaskRow

namespace WorkerRow

/-- `n - last_heartbeat > heartbeat_sla or last_heartbeat > n + 1` -/
def Stale (w : WorkerRow) (n : ℚ) : Prop :=
  w.heartbeatSla < PyFloat.fin (n - w.lastHeartbeat) ∨ w.lastHeartbeat > n + 1

instance (w : WorkerRow) (n : ℚ) : Decidable (w.Stale n) := inferInstanceAs (Decidable (_ ∨ _))

end WorkerRow

end ControlPlane.Autonomy
