import ControlPlane.Autonomy.Statement

/-!
# `AutonomyStore`

Each method is the procedure its source is: which statements it sends, what it
checks between them, what it raises. A time argument is the number the caller
passes, or the clock's reading where it passes none.
-/

namespace ControlPlane.Autonomy

open Data Interleaving Procedure

abbrev Store (α : Type) := Procedure Err Stmt α

namespace Store

def now (n : PyFloat) : Store ℚ :=
  match n.clock? with
  | some v => return v
  | none => throw (.blocked "invalid clock")

def check (c : Prop) [Decidable c] (e : Err) : Store Unit := if c then return () else throw e

def row (r : Option α) (e : Err) : Store α :=
  match r with
  | some a => return a
  | none => throw e

def audit (task event : String) (n : ℚ) (details : String := "") : Store Unit :=
  ask (.audit task event n details)

/-- The lookup is by the cleaned name; callers go on with the name they were given. -/
def task (id : String) : Store TaskRow := do row (← ask (.selectTask (clean id))) (.blocked "unknown task")

def maxRetry : Int := 1000000

def createTask (t : NewTask) (retryBudget : Int) (now : PyFloat) : Store TaskRow := do
  let n ← Store.now now
  check (0 ≤ retryBudget ∧ retryBudget ≤ maxRetry) (.blocked "invalid retry budget")
  let known ← match t.directiveId with
    | none | some "" => pure none
    | some directive => ask (.selectTaskByDirective (clean directive))
  match known with
  | some r =>
    check (r.taskId = clean t.taskId ∧ r.targetProject = clean t.targetProject ∧ r.capability = clean t.capability)
      (.blocked "identity conflict")
    return r
  | none =>
    ask (.createTask { t with retryBudget := retryBudget.toNat } n)
    task t.taskId

def registerWorker (workerId kind : String) (capabilities targets : List String) (heartbeatSla : PyFloat)
    (capacity : Int) (now : PyFloat) : Store Unit := do
  let n ← Store.now now
  check (¬ heartbeatSla ≤ .fin 0 ∧ ¬ capacity < 0) (.blocked "invalid worker")
  ask (.registerWorker ⟨clean workerId, clean kind, packed capabilities, packed targets, n, n, heartbeatSla, capacity⟩)

def heartbeat (workerId : String) (now : PyFloat) (observedAt : Option PyFloat) : Store Unit := do
  let n ← Store.now now
  let observed ← match observedAt with
    | none => pure n
    | some o => Store.now o
  check (¬ observed > n + 1) (.blocked "future heartbeat")
  check ((← ask (.heartbeat (clean workerId) observed)) = 1) (.blocked "unknown worker")

def heartbeatWithCapacity (workerId : String) (capacity : Int) (now : PyFloat) (observedAt : Option PyFloat) :
    Store Unit := do
  let n ← Store.now now
  let observed ← match observedAt with
    | none => pure n
    | some o => Store.now o
  check (¬ observed > n + 1 ∧ ¬ capacity < 0) (.blocked "invalid heartbeat")
  ask (.publishCapacity workerId capacity observed)

structure WorkerStatus where
  worker : WorkerRow
  available : Bool
  activeLeaseCount : Nat

def workerStatus (workerId : String) (now : PyFloat) : Store WorkerStatus := do
  let n ← Store.now now
  let w ← row (← ask (.selectWorker (clean workerId))) (.blocked "unknown worker")
  let active ← ask (.countActive workerId n)
  return ⟨w, w.lastHeartbeat ≤ n + 1 ∧ .fin (n - w.lastHeartbeat) ≤ w.heartbeatSla, active⟩

def claim (taskId workerId : String) (leaseSeconds : PyFloat) (now : PyFloat) : Store Lease := do
  let n ← Store.now now
  check (.negInf < leaseSeconds ∧ leaseSeconds < .posInf ∧ .fin 0 < leaseSeconds) (.blocked "invalid lease duration")
  ask (.claim taskId workerId leaseSeconds n)

def renew (taskId workerId leaseId : String) (leaseSeconds : PyFloat) (now : PyFloat) : Store PyFloat := do
  let n ← Store.now now
  ask (.renew taskId workerId leaseId (.fin n + leaseSeconds) n)

def start (taskId workerId leaseId : String) (now : PyFloat) : Store Unit := do
  ask (.start none taskId workerId leaseId (← Store.now now))

def startWithAck (taskId workerId leaseId ackDetails : String) (now : PyFloat) : Store Unit := do
  ask (.start (some ackDetails) taskId workerId leaseId (← Store.now now))

def reclaimExpired (taskId : String) (now : PyFloat) : Store Unit := do
  ask (.reclaim taskId (← Store.now now))

def reconcileRows (n : ℚ) : List String → Store (List String)
  | [] => return []
  | id :: rest => do
    let t ← task id
    ask (.chargeStale id t n)
    audit id "STALE_WORKER_RECONCILED" n (afterFailure t).name
    return id :: (← reconcileRows n rest)

def reconcileStaleWorkers (now : PyFloat) : Store (List String) := do
  let n ← Store.now now
  reconcileRows n (← ask (.selectStale n))

def failAttempt (taskId workerId leaseId reason errorCode : String) (now : PyFloat) : Store Unit := do
  let n ← Store.now now
  let t ← task taskId
  check (t.state.working ∧ t.assignedWorkerId = some workerId ∧ t.leaseId = some leaseId) (.blocked "invalid reporter")
  ask (.chargeFailure taskId leaseId t reason errorCode n)
  audit taskId "ATTEMPT_FAILED" n (afterFailure t).name

def submitResult (taskId workerId leaseId evidenceId sha256 : String) (now : PyFloat) : Store Unit := do
  ask (.submitResult taskId workerId leaseId evidenceId sha256 (← Store.now now))

def completeAfterReview (taskId : String) (evidenceValid : Bool) (now : PyFloat) : Store Unit := do
  let n ← Store.now now
  let t ← task taskId
  check (t.state = .reviewPending ∧ t.evidenceStatus = .received ∧ evidenceValid) (.blocked "valid review required")
  ask (.completeTask taskId n)
  audit taskId "COMPLETED_AFTER_REVIEW" n

/-- The loop of `route_or_wait` over the worker ids. -/
def firstAvailable (t : TaskRow) (n : ℚ) : List String → Store (Option String)
  | [] => return none
  | id :: rest => do
    let s ← workerStatus id (.fin n)
    if s.available ∧ (s.activeLeaseCount : Int) < s.worker.capacity ∧ t.capability ∈ s.worker.capabilities ∧
        t.targetProject ∈ s.worker.targets then
      return some id
    else firstAvailable t n rest

def routeOrWait (taskId : String) (now : PyFloat) : Store (Option String) := do
  let n ← Store.now now
  let t ← task taskId
  check (¬ t.state.terminal ∧ t.state ≠ .waitingHuman ∧ t.governanceAllowed ≠ 0) (.blocked "routing prohibited")
  match ← firstAvailable t n (← ask .selectWorkerIds) with
  | some worker => return some worker
  | none =>
    ask (.waitForCapacity taskId n)
    audit taskId "WAITING_CAPACITY" n
    return none

def markWaitingCapacity (taskId : String) (now : PyFloat) : Store Unit := do
  ask (.markWaiting taskId (← Store.now now))

def schedulableTasks (limit : Int) : Store (List TaskRow) := do
  check (0 < limit) (.blocked "invalid batch size")
  ask (.selectSchedulable limit.toNat)

def expiredLeaseTasks (now : PyFloat) : Store (List String) := do
  ask (.selectExpired (← Store.now now))

end Store

end ControlPlane.Autonomy
