import ControlPlane.Autonomy.Store
import ControlPlane.Data.Json.Value

/-!
# `GovernedExecutionController`

Grants, the application of a canonical plan, and recovery. Files are the
environment's: a step of `apply` asks what a path holds or asks for a change, and
only what the controller reads, compares and writes to the store is modelled.
-/

namespace ControlPlane.Autonomy

open Data Interleaving Procedure Store

/-- The functions of the standard library that are not computed here. -/
structure Host where
  /-- `hashlib.sha256(text.encode()).hexdigest()` -/
  sha256 : String → String
  /-- the `repr` of a finite float -/
  repr : ℚ → List Char

/-- `type(exc).__name__` -/
def Err.name : Err → String
  | .blocked _ => "BlockedError"
  | .integrityBlocked _ => "IntegrityBlockedError"
  | .integrity => "IntegrityError"
  | .operational => "OperationalError"
  | .other name => name

/-- `[A-Za-z0-9][A-Za-z0-9._-]{0,127}`, the whole text. -/
def isIdentifier (s : String) : Bool :=
  match s.toList with
  | [] => false
  | c :: rest => c.isAlphanum && rest.length ≤ 127 &&
      rest.all fun c => c.isAlphanum || c = '.' || c = '_' || c = '-'

/-- The evidence of an applied plan. -/
structure Envelope where
  grant : GrantRow
  planHash : String
  files : List FileRow
  appliedAt : ℚ

def Envelope.value (e : Envelope) : Json := .dict [
  ("task_id", .str e.grant.taskId), ("worker_id", .str e.grant.workerId), ("session_id", .str e.grant.sessionId),
  ("lease_id", .str e.grant.leaseId), ("grant_id", .str e.grant.grantId), ("workspace_id", .str e.grant.workspaceId),
  ("plan_hash", .str e.planHash),
  ("paths", .list (e.files.map fun row => .dict [
    ("path", .str row.path), ("before_sha256", .str row.preimage), ("after_sha256", .str row.postimage)])),
  ("applied_at", .float (.fin e.appliedAt)), ("outcome", .str "APPLIED")]

/-- `json.dumps(envelope, sort_keys=True, separators=(",", ":"))` -/
def Envelope.text (host : Host) (e : Envelope) : String := e.value.dumps host.repr Json.canonical

namespace Execution

/-- The constructor's pass over the registered workspaces. -/
def openController : List Descriptor → Store Unit
  | [] => return ()
  | d :: rest => do
    match ← ask (.selectWorkspace d.workspaceId) with
    | none => ask (.insertWorkspace
        { workspaceId := d.workspaceId, root := d.root, physicalId := d.physicalId
          targetProject := d.targetProject, kind := d.kind, state := .available })
    | some known =>
      if known.root = d.root ∧ known.physicalId = d.physicalId ∧ known.targetProject = d.targetProject ∧
          known.kind = d.kind then pure ()
      else ask (.rebindWorkspace d.workspaceId)
    openController rest

def grant (grantId : String) : Store GrantRow := do
  check (isIdentifier grantId) (.blocked "invalid grant_id")
  row (← ask (.selectGrant grantId)) (.integrityBlocked "unknown grant")

def joined : List String → String
  | [] => ""
  | [s] => s
  | s :: rest => s ++ "|" ++ joined rest

def issueGrant (host : Host) (q : GrantRequest) (now : PyFloat) : Store GrantRow := do
  let n ← Store.now now
  check (.negInf < q.grantSeconds ∧ q.grantSeconds < .posInf ∧ .fin 0 < q.grantSeconds) (.blocked "invalid grant duration")
  check (q.allowedOperations ≠ []) (.blocked "invalid operation authority")
  let identify (workspace uuid : String) := host.sha256
    (joined [q.taskId, q.workerId, q.sessionId, q.leaseId, workspace, String.ofList (host.repr n), uuid])
  grant (← ask (.issueGrant q identify n))

def transaction (grantId : String) : Store TransactionRow := do
  row (← ask (.selectTransaction grantId)) (.blocked "unknown transaction")

/-- `_workspace_authority` outside a transaction, where a refusal is recorded. -/
def workspaceAuthority (grant : GrantRow) (now : ℚ) : Store Descriptor := do
  let workspace ← match ← attempt (ask (.resolveWorkspace grant.workspaceId grant.targetProject)) with
    | .ok workspace => pure workspace
    | .error (.integrityBlocked message) => do
      ask (.blockWorkspace grant.workspaceId "LOCAL_AUTHORITY_LOST" now)
      throw (.integrityBlocked message)
    | .error e => throw e
  let known ← row (← ask (.selectWorkspace workspace.workspaceId))
    (.integrityBlocked "workspace durably blocked or unknown")
  check (known.state ≠ .integrityBlocked) (.integrityBlocked "workspace durably blocked or unknown")
  let physical ← ask (.physicalId workspace)
  if sameWorkspace workspace known physical then
    ask (.verifyWorkspace workspace.workspaceId now)
    return workspace
  else
    ask (.blockWorkspace workspace.workspaceId "PHYSICAL_IDENTITY_MISMATCH" now)
    throw (.integrityBlocked "workspace physical identity mismatch")

/-- `_fresh_authority`: everything that made the grant valid, read again now. -/
def freshAuthority (grantId : String) : Store (GrantRow × Descriptor × ℚ) := do
  let fresh ← Store.now (← ask .clock)
  let grant ← row (← ask (.selectGrant grantId)) (.blocked "applying grant authority lost")
  check (grant.state = .applying) (.blocked "applying grant authority lost")
  let t ← ask (.selectTask grant.taskId)
  let w ← ask (.selectWorker grant.workerId)
  liftExcept (authority t w grant fresh)
  check (← ask (.session grant.workerId grant.sessionId fresh)) (.blocked "session authority unavailable")
  let workspace ← workspaceAuthority grant fresh
  return (grant, workspace, fresh)
where
  liftExcept (r : Except Err Unit) : Store Unit :=
    match r with
    | .ok () => return ()
    | .error e => throw e

def expectFile (workspace : Descriptor) (path digest : String) (e : Err) : Store Unit := do
  check ((← ask (.actual workspace path)) = digest) e

/-- Remember every file before the first is changed; the number remembered decides
how a failure is cleaned up. -/
def backUp (workspace : Descriptor) : List FileRow → Nat → Store (Nat × Answer Unit)
  | [], taken => return (taken, .ok ())
  | file :: rest, taken => do
    match ← attempt (expectFile workspace file.path file.preimage (.blocked "TOCTOU preimage mismatch")) with
    | .ok () => backUp workspace rest (taken + 1)
    | .error e => return (taken, .error e)

def changeFiles (grantId : String) : List FileRow → Store Unit
  | [] => return ()
  | file :: rest => do
    let (_, workspace, _) ← freshAuthority grantId
    expectFile workspace file.path file.preimage (.blocked "fresh preimage mismatch")
    ask (.change workspace file.path)
    expectFile workspace file.path file.postimage (.integrityBlocked "postimage verification failed")
    -- the caller's `after_operation`
    ask (.change workspace file.path)
    changeFiles grantId rest

def expectFiles (workspace : Descriptor) (digest : FileRow → String) (e : Err) : List FileRow → Store Unit
  | [] => return ()
  | file :: rest => do
    expectFile workspace file.path (digest file) e
    expectFiles workspace digest e rest

/-- From the last authority check to the answer of `apply`. -/
def finish (host : Host) (plan : Plan) : Store TransactionRow := do
  let (grant, workspace, finalNow) ← freshAuthority plan.grantId
  expectFiles workspace FileRow.postimage (.integrityBlocked "final postimage verification failed") plan.operations
  let envelope := Envelope.text host ⟨grant, plan.planHash, plan.operations, finalNow⟩
  ask (.finishApply plan envelope (host.sha256 envelope) finalNow)
  transaction plan.grantId

def restoreFiles (workspace : Descriptor) : List FileRow → Store Unit
  | [] => return ()
  | file :: rest => do
    restoreFiles workspace rest
    ask (.change workspace file.path)

/-- The failure handler once a file may have changed. -/
def rollBack (plan : Plan) (workspace : Descriptor) (taken : Nat) (e : Err) (n : ℚ) : Store TransactionRow := do
  let backups := plan.operations.take taken
  let restored ← attempt do
    -- the caller's `before_rollback`
    ask (.change workspace "")
    check ((← ask (.physicalId workspace)) = workspace.physicalId) (.integrityBlocked "workspace changed before rollback")
    restoreFiles workspace backups
    expectFiles workspace FileRow.preimage (.other "rollback") backups
  match restored with
  | .ok () => ask (.terminalizeFailure plan.grantId .failed e.name n)
  | .error _ => do
    ask (.blockWorkspace workspace.workspaceId "ROLLBACK_UNPROVABLE" n)
    ask (.terminalizeFailure plan.grantId .integrityBlocked e.name n)
  throw e

/-- The failure handler before the first backup. -/
def abandon (plan : Plan) (e : Err) (n : ℚ) : Store TransactionRow := do
  if (← ask (.selectTransaction plan.grantId)).isSome then
    ask (.terminalizeFailure plan.grantId .failed e.name n)
  throw e

/-- `apply` of a canonical plan. -/
def apply (host : Host) (plan : Plan) (now : PyFloat) : Store TransactionRow := do
  let n ← Store.now now
  ask (.beginApply plan n)
  let opened ← attempt do
    -- the caller's `before_first_write`
    ask (.change ⟨"", "", "", "", ""⟩ "")
    freshAuthority plan.grantId
  match opened with
  | .error e => abandon plan e n
  | .ok (_, workspace, _) =>
    let (taken, checked) ← backUp workspace plan.operations 0
    let applied ← match checked with
      | .error e => pure (.error e)
      | .ok () => attempt do
        changeFiles plan.grantId plan.operations
        finish host plan
    match applied with
    | .ok tx => return tx
    | .error e => if taken = 0 then abandon plan e n else rollBack plan workspace taken e n

def actualFiles (workspace : Descriptor) : List FileRow → Store (List String)
  | [] => return []
  | file :: rest => do
    let digest ← ask (.actual workspace file.path)
    return digest :: (← actualFiles workspace rest)

/-- What the files say about the interrupted transaction. -/
def recovered (host : Host) (grant : GrantRow) (tx : TransactionRow) (actual : List String) (n : ℚ) : Recovered :=
  if actual = tx.operationsManifest.map FileRow.preimage then .failed
  else if actual = tx.operationsManifest.map FileRow.postimage then
    let envelope := Envelope.text host ⟨grant, tx.planHash, tx.operationsManifest, n⟩
    .applied envelope (host.sha256 envelope)
  else .integrityBlocked

def recover (host : Host) (grantId : String) (now : PyFloat) : Store GrantState := do
  let n ← Store.now now
  let grant ← grant grantId
  let tx ← transaction grantId
  check (grant.state = .applying ∧ tx.state = .applying) (.blocked "transaction not recoverable")
  let workspace ← workspaceAuthority grant n
  let outcome := recovered host grant tx (← actualFiles workspace tx.operationsManifest) n
  if outcome.state = .integrityBlocked then
    ask (.blockWorkspace workspace.workspaceId "MIXED_RECOVERY_STATE" n)
  match ← attempt (ask (.settleRecovery grant outcome n)) with
  | .ok () => return outcome.state
  | .error e => do
    if e = .integrityBlocked "recovery review transition lost" then
      ask (.blockWorkspace workspace.workspaceId "RECOVERY_REVIEW_TRANSITION_LOST" n)
    throw e

end Execution

end ControlPlane.Autonomy
