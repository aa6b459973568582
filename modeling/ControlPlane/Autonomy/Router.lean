import ControlPlane.Autonomy.ExternalEligible
import ControlPlane.Autonomy.LocalCalls
import ControlPlane.Autonomy.SchedulerPass

/-!
# `AgentRouter`

A pass of the router: for each task of the batch it asks the gateway for an eligible session,
claims the task for its worker and dispatches it. What a task raises as blocked is passed over.
-/

namespace ControlPlane.Autonomy

open Data Interleaving Procedure Store

/-- `VERIFIED_LOCAL_HARNESS`, fresh, and enrolled for the capability and the target -/
def Session.Serves (s : Session) (capability target : String) (n : ℚ) : Prop :=
  s.providerState = "VERIFIED_LOCAL_HARNESS" ∧ s.transportState = "VERIFIED_LOCAL_HARNESS" ∧ s.observedAt ≤ n + 1 ∧
    n - s.observedAt ≤ s.profile.heartbeatSla ∧ capability ∈ s.profile.capabilities.map Subtype.val ∧
    target ∈ s.profile.allowedTargets.map Subtype.val

instance (s : Session) (capability target : String) (n : ℚ) : Decidable (s.Serves capability target n) :=
  inferInstanceAs (Decidable (_ ∧ _))

namespace LocalGateway

section

variable (g : LocalGateway) (capability target : String)

/-- The loop of `eligible_sessions` over the workers that have a session. -/
def eligibleOf (n : ℚ) : List String → Store (List (String × String))
  | [] => return []
  | worker :: rest => do
    match g.sessions worker with
    | none => eligibleOf n rest
    | some s =>
      if s.Serves capability target n then
        let status ← Store.workerStatus worker (.fin n)
        let found ← eligibleOf n rest
        if status.available ∧ (status.activeLeaseCount : Int) < min status.worker.capacity s.capacity then
          return (worker, s.sessionId.1) :: found
        else return found
      else eligibleOf n rest

/-- `workers` are the keys of `_sessions`. -/
def eligibleSessions (workers : List String) (now : PyFloat) : Store (List (String × String)) := do
  let n ← Store.now now
  return ExternalGateway.sortPairs (← eligibleOf g capability target n workers)

end

end LocalGateway

/-- What the gateway reads of `dict(row)`. -/
def TaskRow.dict (t : TaskRow) : List (String × Json) :=
  [("task_id", .str t.taskId), ("capability", .str t.capability), ("target_project", .str t.targetProject)]

def Lease.dict (l : Lease) : List (String × Json) :=
  [("task_id", .str l.taskId), ("worker_id", .str l.workerId), ("lease_id", .str l.leaseId), ("expires_at", .float l.expiresAt)]

/-- A router that the constructor accepted. -/
structure AgentRouter where
  batchSize : Int
  leaseSeconds : ℚ
  bounded : 0 < batchSize
  finite : 0 < leaseSeconds

namespace AgentRouter

variable (router : AgentRouter) (platform : Platform) (workers : List String)

/-- One task, once there is a candidate. -/
def place (g : LocalGateway) (task : TaskRow) (worker session : String) (n : ℚ) : Store (LocalGateway × Option DispatchEnvelope) := do
  let lease ← Store.claim task.taskId worker (.fin router.leaseSeconds) (.fin n)
  let reason := "capability_target_freshness_capacity_worker_session"
  Store.audit task.taskId "ROUTED" n s!"worker={worker};session={session};lease={lease.leaseId};reason={reason}"
  let (g, envelope) ← g.dispatch platform task.dict lease.dict (.str session) (.fin n)
  return (g, some envelope)

/-- One round of the loop: the gateway afterwards, and what was dispatched. -/
def routeTask (g : LocalGateway) (task : TaskRow) (n : ℚ) : Store (LocalGateway × Option DispatchEnvelope) := do
  match ← g.eligibleSessions task.capability task.targetProject workers (.fin n) with
  | [] =>
    Store.markWaitingCapacity task.taskId (.fin n)
    return (g, none)
  | (worker, session) :: _ => router.place platform g task worker session n

def routeBatch (n : ℚ) : LocalGateway → List TaskRow → Store (LocalGateway × List DispatchEnvelope)
  | g, [] => return (g, [])
  | g, task :: rest => do
    match ← attempt (router.routeTask platform workers g task n) with
    | .ok (g, envelope) =>
      let (g, dispatched) ← routeBatch n g rest
      return (g, envelope.toList ++ dispatched)
    | .error e => if e.isBlocked then routeBatch n g rest else throw e

def routeOnce (g : LocalGateway) (now : PyFloat) : Store (LocalGateway × List DispatchEnvelope) := do
  let n ← Store.now now
  router.routeBatch platform workers n g (← Store.schedulableTasks router.batchSize)

end AgentRouter

end ControlPlane.Autonomy
