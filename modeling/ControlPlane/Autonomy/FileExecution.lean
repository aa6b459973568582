import ControlPlane.Autonomy.Workspace

/-!
# `apply` and `recover` on a tree of files

The same methods as in `Execution`, now with every call they make on the file system:
a file is created by a hard link to a temporary one, replaced by a rename, or unlinked,
and a failure puts back the bytes that were read before the first change.
-/

namespace ControlPlane.Autonomy

open Data Interleaving Procedure

abbrev Files (α : Type) := Procedure Err Act α

namespace Files

def file (s : FileCall α) : Files α := ask (.inr s)

/-- A method that touches no file. -/
def store (p : Store α) : Files α := p.interp fun s => ask (.inl s)

/-- `.{path.name}.{grant_id}.af03-..`, next to the file -/
def beside (x : Name) (grantId suffix : String) : Name :=
  x.dropLast ++ ["." ++ x.getLastD "" ++ "." ++ grantId ++ ".af03-" ++ suffix]

/-- `_path`, `_actual` and the comparison that follows them; the bytes that were read. -/
def expect (relative digest : String) (e : Err) : Files (Name × Option Bytes) := do
  let x ← file (.path relative)
  let (actual, original) ← file (.actual x)
  lift (require (actual = digest) e)
  return (x, original)

/-- `os.open`, `os.write` and `os.fsync`, with the `os.close` of `finally`. -/
def writeNew (x : Name) (content : Option Bytes) : Files Unit := do
  let descriptor ← file (.open_ x)
  let written ← attempt do
    let content ← lift (found content (.other "TypeError"))
    file (.write descriptor content)
    file (.fsync descriptor)
  file (.close descriptor)
  lift written

/-- The temporary file with the content to come. -/
def prepare (grantId : String) (x : Name) (content : Option Bytes) : Files Name := do
  let temporary := beside x grantId "tmp"
  lift (require ((← file (.occupied temporary)) = false) (.integrityBlocked "temporary path collision"))
  writeNew temporary content
  if ← file (.single temporary) then return temporary
  else
    file (.unlink temporary true)
    throw (.integrityBlocked "unsafe temporary file")

/-- The operation of one row. -/
def perform (grantId : String) (planned : PlannedFile) (x : Name) : Files Unit := do
  if planned.row.operation = some .delete then file (.unlink x false)
  else
    let temporary ← prepare grantId x planned.content
    if planned.row.operation = some .create then
      if ← file (.exists_ x) then
        file (.unlink temporary true)
        throw (.blocked "CREATE target appeared")
      file (.link temporary x)
      file (.unlink temporary false)
    else
      let (current, _) ← file (.actual x)
      if current ≠ planned.row.preimage then
        file (.unlink temporary true)
        throw (.blocked "REPLACE target changed")
      file (.replace temporary x)

def changeFiles (grantId : String) : List PlannedFile → Files Unit
  | [] => return ()
  | planned :: rest => do
    let _ ← store (Execution.freshAuthority grantId)
    let (x, _) ← expect planned.row.path planned.row.preimage (.blocked "fresh preimage mismatch")
    perform grantId planned x
    let (actual, _) ← file (.actual x)
    lift (require (actual = planned.row.postimage) (.integrityBlocked "postimage verification failed"))
    -- `after_operation`
    file .hook
    changeFiles grantId rest

/-- A path with what it held: nothing or these bytes. -/
abbrev Backup := String × Option Bytes

/-- Read every file before the first is changed. -/
def backUp : List PlannedFile → List Backup → Files (List Backup × Answer Unit)
  | [], taken => return (taken, .ok ())
  | planned :: rest, taken => do
    match ← attempt (expect planned.row.path planned.row.preimage (.blocked "TOCTOU preimage mismatch")) with
    | .ok (_, original) => backUp rest (taken ++ [(planned.row.path, original)])
    | .error e => return (taken, .error e)

def expectFiles (digest : FileRow → String) (e : Err) : List PlannedFile → Files Unit
  | [] => return ()
  | planned :: rest => do
    let _ ← expect planned.row.path (digest planned.row) e
    expectFiles digest e rest

/-- From the last authority check to the answer of `apply`. -/
def finish (host : Host) (plan : CanonicalPlan) : Files TransactionRow := do
  let (grant, _, finalNow) ← store (Execution.freshAuthority plan.grantId)
  expectFiles FileRow.postimage (.integrityBlocked "final postimage verification failed") plan.files
  let envelope := Envelope.text host ⟨grant, plan.planHash, plan.plan.operations, finalNow⟩
  store (ask (.finishApply plan.plan envelope (host.sha256 envelope) finalNow))
  store (Execution.transaction plan.grantId)

/-- Put one file back. -/
def restore (grantId : String) (backup : Backup) : Files Unit := do
  let x ← file (.path backup.1)
  match backup.2 with
  | none =>
    if ← file (.exists_ x) then file (.unlink x false) else pure ()
  | some content => do
    let temporary := beside x grantId "rollback"
    lift (require ((← file (.occupied temporary)) = false) (.integrityBlocked "rollback temporary collision"))
    writeNew temporary (some content)
    if ← file (.exists_ x) then
      let _ ← file (.actual x)
    file (.replace temporary x)

/-- The last file first. -/
def restoreFiles (grantId : String) : List Backup → Files Unit
  | [] => return ()
  | backup :: rest => do
    restoreFiles grantId rest
    restore grantId backup

/-- Whether every file again is what was backed up. -/
def verify (site : Site) : List Backup → Files Bool
  | [] => return true
  | backup :: rest => do
    let (actual, _) ← file (.actual (pathParts backup.1))
    let later ← verify site rest
    return actual = (match backup.2 with | none => "ABSENT" | some content => site.digest content) && later

/-- The failure handler once a file may have changed. -/
def rollBack (site : Site) (plan : CanonicalPlan) (taken : List Backup) (e : Err) (n : ℚ) : Files TransactionRow := do
  let restored ← attempt do
    -- `before_rollback`
    file .hook
    let physical ← store (ask (.physicalId site.workspace))
    lift (require (physical = site.workspace.physicalId) (.integrityBlocked "workspace changed before rollback"))
    restoreFiles plan.grantId taken
    verify site taken
  if restored = .ok true then store (ask (.terminalizeFailure plan.grantId .failed e.name n))
  else
    store (ask (.blockWorkspace site.workspace.workspaceId "ROLLBACK_UNPROVABLE" n))
    store (ask (.terminalizeFailure plan.grantId .integrityBlocked e.name n))
  throw e

/-- `apply` once the grant is consumed -/
def proceed (host : Host) (site : Site) (plan : CanonicalPlan) (n : ℚ) : Files TransactionRow := do
  let opened ← attempt do
    -- `before_first_write`
    file .hook
    store (Execution.freshAuthority plan.grantId)
  match opened with
  | .error e => store (Execution.abandon plan.plan e n)
  | .ok _ =>
    let (taken, checked) ← backUp plan.files []
    let applied ← match checked with
      | .error e => pure (.error e)
      | .ok () => attempt do
        changeFiles plan.grantId plan.files
        finish host plan
    match applied with
    | .ok tx => return tx
    | .error e => if taken = [] then store (Execution.abandon plan.plan e n) else rollBack site plan taken e n

/-- `apply` -/
def apply (host : Host) (text : Text) (site : Site) (plan : ExecutionPlan) (now : PyFloat) : Files TransactionRow := do
  let n ← store (Store.now now)
  let plan ← lift (canonicalPlan host text site.digest plan)
  store (ask (.beginApply plan.plan n))
  proceed host site plan n

def actualFiles : List FileRow → Files (List String)
  | [] => return []
  | row :: rest => do
    let x ← file (.path row.path)
    let (digest, _) ← file (.actual x)
    return digest :: (← actualFiles rest)

/-- `recover` -/
def recover (host : Host) (grantId : String) (now : PyFloat) : Files GrantState := do
  let n ← store (Store.now now)
  let grant ← store (Execution.grant grantId)
  let tx ← store (Execution.transaction grantId)
  lift (require (grant.state = .applying ∧ tx.state = .applying) (.blocked "transaction not recoverable"))
  let workspace ← store (Execution.workspaceAuthority grant n)
  let outcome := Execution.recovered host grant tx (← actualFiles tx.operationsManifest) n
  if outcome.state = .integrityBlocked then
    store (ask (.blockWorkspace workspace.workspaceId "MIXED_RECOVERY_STATE" n))
  match ← attempt (store (ask (.settleRecovery grant outcome n))) with
  | .ok () => return outcome.state
  | .error e => do
    if e = .integrityBlocked "recovery review transition lost" then
      store (ask (.blockWorkspace workspace.workspaceId "RECOVERY_REVIEW_TRANSITION_LOST" n))
    throw e

end Files

end ControlPlane.Autonomy
