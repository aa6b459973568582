import ControlPlane.Autonomy.Execution
import ControlPlane.Interleaving.Alone

/-!
# Clients

A client is any program over the operations, one connection each: schedulers,
supervisors, routers, gateways with their sessions, workers that report late,
runtimes that ingest and recover. `Scheduler` and `Supervisor` are written out.
-/

namespace ControlPlane.Autonomy

open Data Interleaving Procedure

inductive Op : Type → Type where
  | createTask (t : NewTask) (retryBudget : Int) (now : PyFloat) : Op TaskRow
  | registerWorker (workerId kind : String) (capabilities targets : List String) (heartbeatSla : PyFloat)
      (capacity : Int) (now : PyFloat) : Op Unit
  | heartbeat (workerId : String) (now : PyFloat) (observedAt : Option PyFloat) : Op Unit
  | heartbeatWithCapacity (workerId : String) (capacity : Int) (now : PyFloat) (observedAt : Option PyFloat) : Op Unit
  | workerStatus (workerId : String) (now : PyFloat) : Op Store.WorkerStatus
  | task (taskId : String) : Op TaskRow
  | audit (taskId event : String) (n : ℚ) (details : String) : Op Unit
  | claim (taskId workerId : String) (leaseSeconds now : PyFloat) : Op Lease
  | renew (taskId workerId leaseId : String) (leaseSeconds now : PyFloat) : Op PyFloat
  | start (taskId workerId leaseId : String) (now : PyFloat) : Op Unit
  | startWithAck (taskId workerId leaseId ackDetails : String) (now : PyFloat) : Op Unit
  | reclaimExpired (taskId : String) (now : PyFloat) : Op Unit
  | reconcileStaleWorkers (now : PyFloat) : Op (List String)
  | failAttempt (taskId workerId leaseId reason errorCode : String) (now : PyFloat) : Op Unit
  | submitResult (taskId workerId leaseId evidenceId sha256 : String) (now : PyFloat) : Op Unit
  | completeAfterReview (taskId : String) (evidenceValid : Bool) (now : PyFloat) : Op Unit
  | routeOrWait (taskId : String) (now : PyFloat) : Op (Option String)
  | markWaitingCapacity (taskId : String) (now : PyFloat) : Op Unit
  | schedulableTasks (limit : Int) : Op (List TaskRow)
  | expiredLeaseTasks (now : PyFloat) : Op (List String)
  | openController (workspaces : List Descriptor) : Op Unit
  | issueGrant (q : GrantRequest) (now : PyFloat) : Op GrantRow
  | grant (grantId : String) : Op GrantRow
  | apply (plan : Plan) (now : PyFloat) : Op TransactionRow
  | recover (grantId : String) (now : PyFloat) : Op GrantState
  | ingestEntry (e : QueueEntry) : Op Bool
  | blockSource (reason : String) : Op Unit

/-- The procedure behind an operation. -/
def Op.run (host : Host) : Op α → Store α
  | .createTask t retryBudget now => Store.createTask t retryBudget now
  | .registerWorker workerId kind capabilities targets sla capacity now =>
    Store.registerWorker workerId kind capabilities targets sla capacity now
  | .heartbeat workerId now observedAt => Store.heartbeat workerId now observedAt
  | .heartbeatWithCapacity workerId capacity now observedAt =>
    Store.heartbeatWithCapacity workerId capacity now observedAt
  | .workerStatus workerId now => Store.workerStatus workerId now
  | .task taskId => Store.task taskId
  | .audit taskId event n details => Store.audit taskId event n details
  | .claim taskId workerId leaseSeconds now => Store.claim taskId workerId leaseSeconds now
  | .renew taskId workerId leaseId leaseSeconds now => Store.renew taskId workerId leaseId leaseSeconds now
  | .start taskId workerId leaseId now => Store.start taskId workerId leaseId now
  | .startWithAck taskId workerId leaseId ackDetails now => Store.startWithAck taskId workerId leaseId ackDetails now
  | .reclaimExpired taskId now => Store.reclaimExpired taskId now
  | .reconcileStaleWorkers now => Store.reconcileStaleWorkers now
  | .failAttempt taskId workerId leaseId reason errorCode now =>
    Store.failAttempt taskId workerId leaseId reason errorCode now
  | .submitResult taskId workerId leaseId evidenceId sha256 now =>
    Store.submitResult taskId workerId leaseId evidenceId sha256 now
  | .completeAfterReview taskId evidenceValid now => Store.completeAfterReview taskId evidenceValid now
  | .routeOrWait taskId now => Store.routeOrWait taskId now
  | .markWaitingCapacity taskId now => Store.markWaitingCapacity taskId now
  | .schedulableTasks limit => Store.schedulableTasks limit
  | .expiredLeaseTasks now => Store.expiredLeaseTasks now
  | .openController workspaces => Execution.openController workspaces
  | .issueGrant q now => Execution.issueGrant host q now
  | .grant grantId => Execution.grant grantId
  | .apply plan now => Execution.apply host plan now
  | .recover grantId now => Execution.recover host grantId now
  | .ingestEntry e => ask (.ingestEntry e)
  | .blockSource reason => ask (.blockSource reason)

abbrev Client (α : Type) := Procedure Err Op α

/-- The client with its operations written out. -/
def Client.procedure (host : Host) (c : Client α) : Store α := c.interp fun op => op.run host

def clients (host : Host) : Set (Program Err Stmt Unit) :=
  { p | ∃ c : Program Err Op Unit, p = c.interp fun op => (op.run host).run }

/-- A run of any clients on a fresh store. -/
abbrev Runs (host : Host) (trace : List (Taken Stmt Input Db)) (c : Config Err Stmt Db) : Prop :=
  Run connections (clients host) Db.empty trace c

/-- The databases that some run reaches. -/
def Reachable (host : Host) (db : Db) : Prop := ∃ trace c, Runs host trace c ∧ c.state = db

/-- A client whose own failure goes nowhere. -/
def Client.thread (host : Host) (c : Client α) : Program Err Stmt Unit :=
  (c.run.bind fun _ => .pure ()).interp fun op => (op.run host).run

theorem Client.thread_mem {host : Host} {c : Client α} : c.thread host ∈ clients host := ⟨_, rfl⟩

/-! ### Schedules of clients

A script starts some clients, each its own thread, and then lets the threads move
in the order given; the client started last is thread 0. -/

def script (host : Host) (cs : List (Client Unit)) (steps : List (Nat × Input)) :
    List (Taken Stmt Input Db) × Config Err Stmt Db :=
  connections.play Db.empty
    (cs.map (fun c => .spawn (c.thread host)) ++ steps.map fun s => .step s.1 s.2)

theorem runs_script (host : Host) (cs : List (Client Unit)) (steps : List (Nat × Input)) :
    Runs host (script host cs steps).1 (script host cs steps).2 := by
  refine Run.play fun p spawned => ?_
  rcases List.mem_append.mp spawned with started | stepped
  · obtain ⟨c, _, same⟩ := List.mem_map.mp started
    cases same
    exact Client.thread_mem
  · obtain ⟨_, _, impossible⟩ := List.mem_map.mp stepped
    cases impossible

/-- One move of each of these threads in turn, nothing remarkable answered. -/
def moves (threads : List Nat) : List (Nat × Input) := threads.map fun i => (i, {})

/-- A client that calls one operation. -/
def Client.call (op : Op α) : Client Unit := do
  let _ ← ask op

namespace Sample

/-- A host whose digest is the text itself. -/
def host : Host := ⟨id, fun _ => ['0']⟩

def task (id : String) (retryBudget : Int := 0) : Client Unit := .call
  (.createTask { taskId := id, directiveId := none, targetProject := "lab", capability := "read", governanceAllowed := 1 }
    retryBudget (.fin 0))

def worker (id : String) (now : ℚ := 0) : Client Unit := .call
  (.registerWorker id "sample" ["read"] ["lab"] (.fin 30) 1 (.fin now))

end Sample

namespace Scheduler

/-- The loop of `schedule_once`; an exception of one task is recorded and skipped. -/
def schedule (now : PyFloat) : List TaskRow → Client (List Lease)
  | [] => return []
  | task :: rest => do
    let granted ← attempt do
      match ← ask (.routeOrWait task.taskId now) with
      | some worker => return some (← ask (.claim task.taskId worker (.fin 30) now))
      | none => return none
    let leases ← schedule now rest
    match granted with
    | .ok (some lease) => return lease :: leases
    | _ => return leases

def scheduleOnce (batchSize : Int) (now : PyFloat) : Client (List Lease) := do
  schedule now (← ask (.schedulableTasks batchSize))

end Scheduler

def Sample.scheduler : Client Unit := do
  let _ ← Scheduler.scheduleOnce 8 (.fin 0)

namespace Supervisor

/-- The loop of `reconcile`; what is no longer reclaimable is skipped. -/
def reclaimAll (now : PyFloat) : List String → Client (List String)
  | [] => return []
  | task :: rest => do
    match ← attempt (ask (.reclaimExpired task now)) with
    | .ok () => return task :: (← reclaimAll now rest)
    | .error e => if e.isBlocked then reclaimAll now rest else throw e

def reconcile (now : PyFloat) : Client (List String) := do
  let stale ← ask (.reconcileStaleWorkers now)
  let expired ← ask (.expiredLeaseTasks now)
  return sortIds (stale ++ (← reclaimAll now expired))

end Supervisor

end ControlPlane.Autonomy
