import ControlPlane.Autonomy.Envelopes
import Mathlib.Logic.Function.Basic

/-!
# `LocalWorkerGateway`

The in-process gateway. A call reads the gateway's memory, uses the store, and
writes its memory last, so a call is a procedure that returns the new memory; one
that raises leaves the memory as it was.
-/

namespace ControlPlane.Autonomy

open Data Interleaving Procedure Store

/-- A worker profile that the constructor accepted. -/
structure Profile where
  workerId : Identifier
  workerKind : Identifier
  capabilities : List Identifier
  allowedTargets : List Identifier
  maxCapacity : Int
  heartbeatSla : ℚ
  positive : 0 < heartbeatSla
  deriving DecidableEq

namespace Profile

/-- `_labels(profile.capabilities, "capability")`, and of the targets -/
def capabilityLabels (p : Profile) : List String := sortIds (p.capabilities.map Subtype.val)

def targetLabels (p : Profile) : List String := sortIds (p.allowedTargets.map Subtype.val)

end Profile

/-- The constructor's checks of one profile. -/
def WorkerProfile.enroll (platform : Platform) (known : String → Option Profile) (p : WorkerProfile) :
    Except Err Profile := do
  let workerId ← identifier p.workerId "worker_id"
  let workerKind ← identifier p.workerKind "worker_kind"
  let capabilities ← identifiers p.capabilities "capability"
  let allowedTargets ← identifiers p.allowedTargets "target"
  require (known workerId.1 = none) (.blocked "duplicate worker profile")
  let maxCapacity ← found p.maxCapacity.int? (.blocked "invalid worker profile")
  require (0 ≤ maxCapacity) (.blocked "invalid worker profile")
  let ⟨heartbeatSla, positive⟩ ← slaSeconds platform p.heartbeatSla (.blocked "invalid worker profile")
  return { workerId, workerKind, capabilities, allowedTargets, maxCapacity, heartbeatSla, positive }

structure Session where
  profile : Profile
  sessionId : Identifier
  sequence : Int
  observedAt : ℚ
  capacity : Int
  providerState : String
  transportState : String
  deriving DecidableEq

/-- `n - session.observed_at > session.profile.heartbeat_sla` -/
def Session.Lapsed (s : Session) (n : ℚ) : Prop := s.profile.heartbeatSla < n - s.observedAt

instance (s : Session) (n : ℚ) : Decidable (s.Lapsed n) := inferInstanceAs (Decidable (_ < _))

structure Dispatch where
  envelope : DispatchEnvelope
  acknowledged : Bool := false
  ackObservedAt : Option ℚ := none
  resultReceived : Bool := false
  deriving DecidableEq

/-- The content declared for an evidence id: none where it is unavailable. -/
abbrev EvidenceResolver := String → Option (Option ByteArray)

def EvidenceResolver.declare (r : EvidenceResolver) (evidenceId : Json) (content : Option ByteArray) :
    Except Err EvidenceResolver := do
  let identity ← identifier evidenceId "evidence_id"
  match r identity.1 with
  | some known => if known = content then return r else .error (.blocked "immutable evidence conflict")
  | none => return Function.update r identity.1 (some content)

def EvidenceResolver.resolve (r : EvidenceResolver) (evidenceId : Identifier) : Except Err ByteArray := do
  let content ← found (r evidenceId.1) (.blocked "unknown evidence reference")
  found content (.blocked "evidence content unavailable")

/-- The memory of the gateway. -/
structure LocalGateway where
  profiles : String → Option Profile
  sessions : String → Option Session
  dispatches : String → Option Dispatch
  evidence : EvidenceResolver

namespace LocalGateway

def enrollAll (platform : Platform) : List WorkerProfile → (String → Option Profile) →
    Except Err (String → Option Profile)
  | [], known => return known
  | p :: rest, known => do
    let profile ← p.enroll platform known
    enrollAll platform rest (Function.update known profile.workerId.1 (some profile))

/-- `__init__` -/
def create (platform : Platform) (profiles : List WorkerProfile) (evidence : EvidenceResolver) :
    Except Err LocalGateway := do
  return ⟨← enrollAll platform profiles fun _ => none, fun _ => none, fun _ => none, evidence⟩

def setSession (g : LocalGateway) (worker : String) (s : Session) : LocalGateway :=
  { g with sessions := Function.update g.sessions worker (some s) }

def setDispatch (g : LocalGateway) (id : String) (d : Dispatch) : LocalGateway :=
  { g with dispatches := Function.update g.dispatches id (some d) }

def version (v : String) : Store Unit := check (v = protocolVersion) (.blocked "unsupported protocol")

section

variable (platform : Platform) (g : LocalGateway)

/-- `_register_local_harness`, after the version and the asserted states. -/
def establish (hello : SessionHello) (now : PyFloat) : Store LocalGateway := do
  let n ← Store.now now
  let workerId ← lift (identifier hello.workerId "worker_id")
  let sessionId ← lift (identifier hello.sessionId "session_id")
  let profile ← row (g.profiles workerId.1) (.blocked "unknown worker")
  let observed ← lift (observedTime platform hello.observedAt)
  check (¬ observed > n + 1 ∧ ¬ n - observed > profile.heartbeatSla) (.blocked "stale or future session")
  let mismatch := Err.blocked "worker profile mismatch"
  check (hello.workerKind = profile.workerKind.1) mismatch
  check ((← lift (labels hello.capabilities "capability")) = profile.capabilityLabels) mismatch
  check ((← lift (labels hello.allowedTargets "target")) = profile.targetLabels) mismatch
  let capacity ← row hello.capacity.int? mismatch
  let sequence ← row hello.heartbeatSequence.int? mismatch
  check (0 ≤ capacity ∧ capacity ≤ profile.maxCapacity ∧ 0 ≤ sequence) mismatch
  let opened : Session :=
    ⟨profile, sessionId, sequence, observed, capacity, "VERIFIED_LOCAL_HARNESS", "VERIFIED_LOCAL_HARNESS"⟩
  let register : Store LocalGateway := do
    Store.registerWorker workerId.1 profile.workerKind.1 (profile.capabilities.map Subtype.val)
      (profile.allowedTargets.map Subtype.val) (.fin profile.heartbeatSla) capacity (.fin observed)
    return g.setSession workerId.1 opened
  match g.sessions workerId.1 with
  | none => register
  | some current =>
    if current.sessionId ≠ sessionId then
      check (current.Lapsed n) (.blocked "active session conflict")
      register
    else
      check (current.sequence = sequence ∧ current.observedAt = observed ∧ current.capacity = capacity)
        (.blocked "session registration replay")
      return g

def registerLocalHarness (hello : SessionHello) (now : PyFloat) : Store LocalGateway := do
  version hello.protocolVersion
  check (hello.providerState = "UNKNOWN" ∧ hello.transportState = "UNKNOWN")
    (.blocked "self-asserted verification prohibited")
  g.establish platform hello now

def heartbeat (m : HeartbeatEnvelope) (now : PyFloat) : Store LocalGateway := do
  version m.protocolVersion
  let n ← Store.now now
  let workerId ← lift (identifier m.workerId "worker_id")
  let sessionId ← lift (identifier m.sessionId "session_id")
  let observed ← lift (observedTime platform m.observedAt)
  let session ← row (g.sessions workerId.1) (.blocked "unknown session")
  check (session.sessionId = sessionId) (.blocked "unknown session")
  let sequence ← row m.sequence.int? (.blocked "replayed, stale or future heartbeat")
  check (session.sequence < sequence ∧ session.observedAt < observed ∧ ¬ observed > n + 1 ∧
    ¬ n - observed > session.profile.heartbeatSla) (.blocked "replayed, stale or future heartbeat")
  let capacity ← row m.capacity.int? (.blocked "capacity overclaim")
  check (0 ≤ capacity ∧ capacity ≤ session.profile.maxCapacity) (.blocked "capacity overclaim")
  Store.heartbeatWithCapacity workerId.1 capacity (.fin n) (some (.fin observed))
  return g.setSession workerId.1 { session with sequence, observedAt := observed, capacity }

/-- `d.get(key)` is this text. -/
def names (d : List (String × Json)) (key text : String) : Prop := (Json.get? d key).bind Json.str? = some text

instance (d : List (String × Json)) (key text : String) : Decidable (names d key text) :=
  inferInstanceAs (Decidable (_ = _))

def field (d : List (String × Json)) (key : String) : Json := (Json.get? d key).getD .null

def dispatchId (b : Binding) : String :=
  platform.sha256 s!"{b.taskId}|{b.workerId}|{b.sessionId}|{b.leaseId}".toUTF8

def dispatch (task lease : List (String × Json)) (sessionId : Json) (now : PyFloat) :
    Store (LocalGateway × DispatchEnvelope) := do
  let n ← Store.now now
  let workerId ← lift (identifier (field lease "worker_id") "worker_id")
  let taskId ← lift (identifier (field lease "task_id") "task_id")
  let leaseId ← lift (identifier (field lease "lease_id") "lease_id")
  let selected ← lift (identifier sessionId "session_id")
  let current ← Store.task taskId.1
  let unavailable := Err.blocked "dispatch authority unavailable"
  let session ← row (g.sessions workerId.1) unavailable
  check (session.sessionId = selected ∧ ¬ session.Lapsed n ∧ current.state = .leased ∧
    current.assignedWorkerId = some workerId.1 ∧ current.leaseId = some leaseId.1) unavailable
  let expires ← row current.leaseExpiresAt (.other "TypeError")
  check (¬ expires ≤ .fin n ∧ names task "task_id" current.taskId ∧ names task "capability" current.capability ∧
    names task "target_project" current.targetProject ∧
    current.capability ∈ session.profile.capabilities.map Subtype.val ∧
    current.targetProject ∈ session.profile.allowedTargets.map Subtype.val) unavailable
  let id := dispatchId platform ⟨taskId.1, workerId.1, session.sessionId.1, leaseId.1⟩
  match g.dispatches id with
  | some existing => return (g, existing.envelope)
  | none =>
    let envelope : DispatchEnvelope :=
      { dispatchId := id, taskId, workerId, sessionId := selected, leaseId, leaseExpiresAt := expires
        capability := current.capability, targetProject := current.targetProject }
    Store.audit taskId.1 "DISPATCHED" n s!"worker={workerId.1};session={session.sessionId.1};lease={leaseId.1}"
    return (g.setDispatch id { envelope }, envelope)

/-- `_bound_dispatch` -/
def boundDispatch (dispatchId : Json) (b : Binding) : Except Err (Identifier × Dispatch) := do
  let id ← identifier dispatchId "dispatch_id"
  let dispatch ← found (g.dispatches id.1) (.blocked "unknown dispatch")
  require (b = dispatch.envelope.binding) (.blocked "dispatch binding mismatch")
  return (id, dispatch)

/-- The task is held under the message's own lease, still live. -/
def holds (current : TaskRow) (b : Binding) (n : ℚ) (e : Err) : Store Unit := do
  check (current.assignedWorkerId = some b.workerId ∧ current.leaseId = some b.leaseId) e
  let expires ← row current.leaseExpiresAt (.other "TypeError")
  check (¬ expires ≤ .fin n) e

def acknowledge (m : AckEnvelope) (now : PyFloat) : Store LocalGateway := do
  version m.protocolVersion
  let n ← Store.now now
  let observed ← lift (observedTime platform m.observedAt)
  let (id, dispatch) ← lift (g.boundDispatch m.dispatchId m.toBinding)
  let current ← Store.task m.taskId
  let unavailable := Err.blocked "ack authority unavailable"
  let session ← row (g.sessions m.workerId) unavailable
  check (session.sessionId.1 = m.sessionId ∧ ¬ session.Lapsed n ∧ ¬ observed < session.observedAt ∧
    ¬ observed > n + 1) unavailable
  holds current m.toBinding n unavailable
  check (current.state = if dispatch.acknowledged then .running else .leased) unavailable
  if dispatch.acknowledged then return g
  else
    Store.startWithAck m.taskId m.workerId m.leaseId
      s!"worker={m.workerId};session={m.sessionId};lease={m.leaseId}" (.fin n)
    return g.setDispatch id.1 { dispatch with acknowledged := true, ackObservedAt := some observed }

/-- The checks of a SUCCEEDED result: its one evidence, resolved and hashed. -/
def resolved (evidence : List EvidenceReference) : Except Err (Identifier × String) :=
  match evidence with
  | [e] => do
    let evidenceId ← identifier e.evidenceId "evidence_id"
    let sha256 ← found e.sha256.str? (.blocked "invalid evidence sha256")
    require (isHex64 sha256) (.blocked "invalid evidence sha256")
    let bytes ← g.evidence.resolve evidenceId
    require (platform.sha256 bytes = sha256) (.blocked "evidence digest mismatch")
    return (evidenceId, sha256)
  | _ => .error (.blocked "exactly one evidence reference required")

def result (m : ResultEnvelope) (now : PyFloat) : Store LocalGateway := do
  version m.protocolVersion
  let n ← Store.now now
  let observed ← lift (observedTime platform m.observedAt)
  check (¬ observed > n + 1) (.blocked "future result")
  let (id, dispatch) ← lift (g.boundDispatch m.dispatchId m.toBinding)
  check (dispatch.acknowledged ∧ ¬ dispatch.resultReceived) (.blocked "result replay or out of order")
  let current ← Store.task m.taskId
  let lost := Err.blocked "result authority lost"
  let session ← row (g.sessions m.workerId) lost
  check (session.sessionId.1 = m.sessionId ∧ ¬ session.Lapsed n ∧ ¬ observed < session.observedAt ∧
    (∃ acked ∈ dispatch.ackObservedAt, ¬ observed < acked) ∧ current.state = .running) lost
  holds current m.toBinding n lost
  if m.status = "SUCCEEDED" then
    let (evidenceId, sha256) ← lift (g.resolved platform m.evidence)
    Store.submitResult m.taskId m.workerId m.leaseId evidenceId.1 sha256 (.fin n)
  else if m.status = "FAILED_SAFE" then
    check (m.evidence.isEmpty) (.blocked "failure evidence not accepted")
    Store.failAttempt m.taskId m.workerId m.leaseId "external worker failed safe" "EXTERNAL_FAILED_SAFE" (.fin n)
  else throw (.blocked "unsupported result status")
  return g.setDispatch id.1 { dispatch with resultReceived := true }

end

end LocalGateway

end ControlPlane.Autonomy
