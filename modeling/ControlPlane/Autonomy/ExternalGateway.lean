import ControlPlane.Autonomy.ExternalSchema
import ControlPlane.Interleaving.Alone
import Mathlib.Data.List.Sort

/-!
# `AuthenticatedExternalGateway`

The AF-05 gateway. All it remembers between two calls is the registry of its
configuration and the lifetime of a challenge; the rest is in the database.
-/

namespace ControlPlane.Autonomy

open Data Interleaving Procedure

abbrev External (α : Type) := Procedure Err ExternalStmt α

namespace External

variable {α : Type}

def sql (s : GatewayStmt α) : External α := ask (.inr s)

/-- A method of the store. -/
def store (p : Store α) : External α := p.interp fun s => ask (.inl s)

def now (n : PyFloat) : External ℚ := lift (found n.clock? (.blocked "invalid clock"))

end External

open External

def af05Protocol : String := "AF05/1"

/-- `DOMAINS[domain]` -/
def Domain.text (d : Domain) : String := "AI-CONTROL-PLANE/AF05/" ++ d.name

structure SessionChallenge where
  challengeId : String
  workerId : String
  keyId : String
  nonce : String
  protocolVersion : String
  profileDigest : String
  issuedAt : ℚ
  expiresAt : ℚ

/-- `DispatchEnvelope`, as this gateway sends it. -/
structure ExternalEnvelope where
  dispatchId : String
  taskId : String
  workerId : String
  sessionId : String
  leaseId : String
  leaseExpiresAt : PyFloat
  capability : String
  targetProject : String
  protocolVersion : String

structure ExternalGateway where
  registry : Registry
  challengeTtl : ℚ

/-- What the constructor is given beside the store. -/
structure Configuration where
  profiles : List TrustedWorkerProfile
  repositoryRoots : List String
  challengeTtl : Json := .float (.fin 30)

/-! ### `__init__` -/

/-- `binding` of `_persist_profiles` -/
def VerifiedProfile.row (p : VerifiedProfile) : ProfileRow where
  workerId := p.workerId.1
  workerKind := p.workerKind.1
  keyId := p.keyId.1
  fingerprint := p.fingerprint
  profileDigest := p.digest
  profileVersion := p.profileVersion
  capabilities := sorted p.capabilities
  targets := sorted p.allowedTargets
  maxCapacity := p.maxCapacity
  heartbeatSla := p.heartbeatSla
  enabled := p.enabled
  revoked := p.revoked

/-- `actual[:10]!=binding[:10]` or one of the two flags contradicts; a row that is
revoked already stays so. -/
def ProfileRow.contradicts (actual binding : ProfileRow) : Prop :=
  { actual with enabled := binding.enabled, revoked := binding.revoked } ≠ binding ∨
    ¬ binding.enabled ∧ actual.enabled ∨ binding.revoked ∧ ¬ actual.revoked

instance (actual binding : ProfileRow) : Decidable (actual.contradicts binding) :=
  inferInstanceAs (Decidable (_ ∨ _ ∨ _))

/-- One round of the loop of `_persist_profiles`. -/
def persistProfile (p : VerifiedProfile) : External Unit := do
  match ← sql (.selectProfile p.workerId.1) with
  | none => sql (.insertProfile p.row)
  | some actual =>
    lift (require (¬ actual.contradicts p.row) (.integrityBlocked "trusted profile contradiction"))
    if p.revoked then do
      let _ ← sql (.revokeProfile p.workerId.1)
      return ()
    else return ()

def persistProfiles : List VerifiedProfile → External Unit
  | [] => return ()
  | p :: rest => do
    persistProfile p
    persistProfiles rest

/-- The check of `challenge_ttl`. -/
def lifetime (crypto : Crypto) (value : Json) : Except Err ℚ := do
  let invalid := Err.blocked "invalid challenge TTL"
  let ttl ← match value with
    | .bool _ => .error invalid
    | value => toFloat crypto.toPlatform value
  match ttl with
  | .fin q => do
    require (1 ≤ q ∧ q ≤ 300) invalid
    return q
  | _ => .error invalid

/-- `_verify`, and what `authenticate_session` and `_message` ask of it. -/
def verify (crypto : Crypto) (p : VerifiedProfile) (d : Domain) (frame : Frame) : Except Err Unit :=
  verifySignature crypto p.publicKey d.text frame (.blocked "missing signature") (.blocked "invalid signature")

/-- What `authenticate_session` hands to its transaction. -/
structure SessionRequest where
  challengeId : Identifier
  time : ℚ
  row : SessionRow
  worker : WorkerRow

/-- What `_message` returns, with the frame it read. -/
structure Message where
  frame : Frame
  time : ℚ
  profile : VerifiedProfile
  session : SessionRow
  sequence : Int
  observed : ℚ
  messageId : Identifier

def sessionKeys : List String :=
  ["challenge_id", "worker_id", "key_id", "nonce", "protocol_version", "profile_digest", "issued_at", "expires_at",
   "session_id", "capacity", "signature"]

def messageKeys (d : Domain) : List String :=
  ["protocol_version", "worker_id", "key_id", "session_id", "message_id", "sequence", "observed_at", "signature"] ++
    match d with
    | .session => []
    | .heartbeat => ["capacity"]
    | .ack => ["dispatch_id", "task_id", "lease_id"]
    | .result => ["dispatch_id", "task_id", "lease_id", "status", "evidence_id", "evidence_sha256"]

/-- `frame.get(key) == text` -/
def Frame.states (frame : Frame) (key text : String) : Prop := (frame.get key).str? = some text

instance (frame : Frame) (key text : String) : Decidable (frame.states key text) := inferInstanceAs (Decidable (_ = _))

/-- The challenge in the database is the one the frame answers, and still open. -/
def ChallengeRow.answered (crypto : Crypto) (c : ChallengeRow) (worker key : Identifier) (p : VerifiedProfile)
    (frame : Frame) (nonce : ByteArray) (n : ℚ) : Prop :=
  c.consumed = false ∧ c.revoked = false ∧ c.workerId = worker.1 ∧ c.keyId = key.1 ∧ c.profileDigest = p.digest ∧
    frame.states "protocol_version" c.protocol ∧ c.nonceDigest = crypto.sha256 nonce ∧
    number? (frame.get "issued_at") = some (.fin c.issuedAt) ∧
    number? (frame.get "expires_at") = some (.fin c.expiresAt) ∧ n < c.expiresAt ∧ ¬ c.issuedAt > n + 1

instance (crypto : Crypto) (c : ChallengeRow) (worker key : Identifier) (p : VerifiedProfile) (frame : Frame)
    (nonce : ByteArray) (n : ℚ) : Decidable (c.answered crypto worker key p frame nonce n) :=
  inferInstanceAs (Decidable (_ ∧ _ ∧ _ ∧ _ ∧ _ ∧ _ ∧ _ ∧ _ ∧ _ ∧ _ ∧ _))

namespace ExternalGateway

/-- `__init__` -/
def create (crypto : Crypto) (c : Configuration) : External ExternalGateway := do
  let challengeTtl ← lift (lifetime crypto c.challengeTtl)
  lift (require (c.repositoryRoots ≠ []) (.blocked "protected repository roots required"))
  sql .runtimeRoot
  let registry ← lift (Registry.create crypto c.profiles .empty)
  persistProfiles registry.all
  sql .requireReauthentication
  return { registry, challengeTtl }

section

variable (crypto : Crypto) (g : ExternalGateway)

/-- `_trusted` -/
def trusted (worker : Json) : External VerifiedProfile := do
  let p ← lift (g.registry.get worker)
  let row ← sql (.selectProfile p.workerId.1)
  lift (require (∃ r ∈ row, r.enabled ∧ ¬ r.revoked ∧ r.profileDigest = p.digest ∧ r.keyId = p.keyId.1)
    (.blocked "worker trust revoked or contradictory"))
  return p

def issueChallenge (workerId keyId : Json) (now : PyFloat) : External SessionChallenge := do
  let n ← External.now now
  let p ← g.trusted workerId
  lift (require (keyId.str? = some p.keyId.1) (.blocked "unknown worker key"))
  let nonce ← sql .nonce
  let id := crypto.sha256 ("AF05-CHALLENGE\x00".toUTF8 ++ nonce ++ p.workerId.1.toUTF8)
  let row : ChallengeRow :=
    { challengeId := id, workerId := p.workerId.1, keyId := p.keyId.1, nonceDigest := crypto.sha256 nonce
      protocol := af05Protocol, profileDigest := p.digest, issuedAt := n, expiresAt := n + g.challengeTtl }
  match ← attempt (sql (.insertChallenge row)) with
  | .ok _ => return ⟨id, p.workerId.1, p.keyId.1, crypto.encodeBase64 nonce, af05Protocol, p.digest, n, n + g.challengeTtl⟩
  | .error _ => throw (.integrityBlocked "challenge collision")

/-- `authenticate_session`, before its transaction. -/
def requestSession (value : Json) (now : PyFloat) : External SessionRequest := do
  let frame ← lift (frameOf value sessionKeys (.blocked "malformed session frame"))
  let n ← External.now now
  let worker ← lift (identifier (frame.get "worker_id") "worker_id")
  let key ← lift (identifier (frame.get "key_id") "key_id")
  let session ← lift (identifier (frame.get "session_id") "session_id")
  let challengeId ← lift (identifier (frame.get "challenge_id") "challenge_id")
  let p ← g.trusted (.str worker.1)
  lift (require (key = p.keyId ∧ frame.states "protocol_version" af05Protocol ∧ frame.states "profile_digest" p.digest)
    (.blocked "session binding mismatch"))
  let capacity ← lift (found (frame.get "capacity").int? (.blocked "capacity escalation"))
  lift (require (0 ≤ capacity ∧ capacity ≤ p.maxCapacity) (.blocked "capacity escalation"))
  let row ← sql (.selectChallenge challengeId.1)
  let nonce ← lift (found ((frame.get "nonce").str?.bind crypto.decodeBase64) (.blocked "malformed challenge nonce"))
  lift (require (∃ c ∈ row, c.answered crypto worker key p frame nonce n) (.blocked "challenge unavailable"))
  lift (verify crypto p .session frame)
  let active ← sql (.selectSession worker.1)
  lift (require (¬ ∃ s ∈ active, s.sessionId ≠ session.1 ∧ s.state = .authenticated ∧
    n - s.lastHeartbeat ≤ p.heartbeatSla) (.blocked "simultaneous session takeover"))
  let opened : SessionRow :=
    { workerId := worker.1, workerKind := p.workerKind.1, sessionId := session.1, keyId := key.1
      fingerprint := p.fingerprint, profileDigest := p.digest, scope := authenticationScope, authenticatedAt := n
      lastSequence := 0, lastHeartbeat := n, capacity, state := .authenticated, lastMessageId := none }
  let registered : WorkerRow :=
    ⟨clean worker.1, clean p.workerKind.1, packed p.capabilities, packed p.allowedTargets, n, n, .fin p.heartbeatSla, capacity⟩
  return ⟨challengeId, n, opened, registered⟩

def authenticateSession (value : Json) (now : PyFloat) : External Unit := do
  let request ← g.requestSession crypto value now
  sql (.authenticate request.challengeId.1 request.time request.row request.worker)

/-- `_message` -/
def message (d : Domain) (value : Json) (now : PyFloat) : External Message := do
  let frame ← lift (frameOf value (messageKeys d) (.blocked "malformed signed frame"))
  let n ← External.now now
  let worker ← lift (identifier (frame.get "worker_id") "worker_id")
  let key ← lift (identifier (frame.get "key_id") "key_id")
  let sessionId ← lift (identifier (frame.get "session_id") "session_id")
  let messageId ← lift (identifier (frame.get "message_id") "message_id")
  let profile ← g.trusted (.str worker.1)
  let row ← sql (.selectSession worker.1)
  let observed ← lift (messageTime (frame.get "observed_at") (.blocked "invalid message time"))
  let failure := Err.blocked "message replay or session binding failure"
  let session ← lift (found row failure)
  lift (require (session.state = .authenticated ∧ session.sessionId = sessionId.1 ∧ session.keyId = key.1 ∧
    session.profileDigest = profile.digest ∧ frame.states "protocol_version" af05Protocol) failure)
  let sequence ← lift (found (frame.get "sequence").int? failure)
  lift (require (session.lastSequence < sequence ∧ ¬ observed > n + 1) failure)
  lift (require ((← sql (.selectMessage messageId.1)) = false) failure)
  lift (verify crypto profile d frame)
  return ⟨frame, n, profile, session, sequence, observed, messageId⟩

/-- `_accept` -/
def accept (m : Message) (d : Domain) (beat : Option (ℚ × Int)) : External Unit := do
  let worker := m.profile.workerId.1
  sql (.insertMessage ⟨m.messageId.1, worker, m.session.sessionId, m.sequence, d, m.time⟩)
  sql (.advanceSession worker m.sequence m.messageId.1 beat)

def heartbeat (frame : Json) (now : PyFloat) : External Unit := do
  let m ← g.message crypto .heartbeat frame now
  let stale := Err.blocked "stale heartbeat or capacity escalation"
  lift (require (¬ m.observed ≤ m.session.lastHeartbeat ∧ ¬ m.time - m.observed > m.profile.heartbeatSla) stale)
  let capacity ← lift (found (m.frame.get "capacity").int? stale)
  lift (require (0 ≤ capacity ∧ capacity ≤ m.profile.maxCapacity) stale)
  store (Store.heartbeatWithCapacity m.profile.workerId.1 capacity (.fin m.time) (some (.fin m.observed)))
  accept m .heartbeat (some (m.observed, capacity))

/-- One round of the loop of `eligible_sessions`. -/
def eligible (capability target : String) (n : ℚ) (p : VerifiedProfile) : External (Option (String × String)) := do
  let durable ← sql (.selectProfile p.workerId.1)
  if ¬ p.enabled ∨ p.revoked then return none
  let row ← lift (found durable (.other "TypeError"))
  if row.revoked ∨ capability ∉ p.capabilities ∨ target ∉ p.allowedTargets then return none
  match ← sql (.selectSession p.workerId.1) with
  | none => return none
  | some s =>
    if s.state ≠ .authenticated ∨ n - s.lastHeartbeat > p.heartbeatSla then return none
    let status ← store (Store.workerStatus p.workerId.1 (.fin n))
    if status.available ∧ (status.activeLeaseCount : Int) < min status.worker.capacity s.capacity then
      return some (p.workerId.1, s.sessionId)
    return none

def eligibleOf (capability target : String) (n : ℚ) : List VerifiedProfile → External (List (String × String))
  | [] => return []
  | p :: rest => do
    let found ← eligible capability target n p
    return found.toList ++ (← eligibleOf capability target n rest)

/-- `sorted` of pairs -/
def sortPairs : List (String × String) → List (String × String) :=
  List.insertionSort fun a b => a.1 < b.1 ∨ a.1 = b.1 ∧ ¬ b.2 < a.2

def eligibleSessions (capability target : String) (now : PyFloat) : External (List (String × String)) := do
  let n ← External.now now
  return sortPairs (← eligibleOf capability target n g.registry.all)

def dispatchId (task worker session lease : String) : String :=
  crypto.sha256 s!"AF05|{task}|{worker}|{session}|{lease}".toUTF8

def dispatch (task lease : Frame) (sessionId : Json) (now : PyFloat) : External ExternalEnvelope := do
  let n ← External.now now
  let worker ← lift (identifier (lease.get "worker_id") "worker_id")
  let taskId ← lift (identifier (lease.get "task_id") "task_id")
  let leaseId ← lift (identifier (lease.get "lease_id") "lease_id")
  let row ← sql (.selectSession worker.1)
  let current ← store (Store.task taskId.1)
  let unavailable := Err.blocked "dispatch authority unavailable"
  let session ← lift (found row unavailable)
  lift (require (session.state = .authenticated ∧ sessionId.str? = some session.sessionId ∧ current.state = .leased ∧
    current.assignedWorkerId = some worker.1 ∧ current.leaseId = some leaseId.1) unavailable)
  let expires ← lift (found current.leaseExpiresAt (.other "TypeError"))
  lift (require (¬ expires ≤ .fin n ∧ task.states "capability" current.capability ∧
    task.states "target_project" current.targetProject) unavailable)
  let id := dispatchId crypto taskId.1 worker.1 session.sessionId leaseId.1
  match ← sql (.selectDispatch id) with
  | some d =>
    return ⟨id, taskId.1, worker.1, session.sessionId, leaseId.1, d.leaseExpiresAt, d.capability, d.targetProject,
      af05Protocol⟩
  | none =>
    sql (.writeOutbound id)
    sql (.insertDispatch {
      dispatchId := id, taskId := taskId.1, workerId := worker.1, sessionId := session.sessionId
      leaseId := leaseId.1, leaseExpiresAt := expires, capability := current.capability
      targetProject := current.targetProject, protocol := af05Protocol })
    store (Store.audit taskId.1 "DISPATCHED" n s!"worker={worker.1};session={session.sessionId};lease={leaseId.1}")
    return ⟨id, taskId.1, worker.1, session.sessionId, leaseId.1, expires, current.capability, current.targetProject,
      af05Protocol⟩

/-- `_bound` -/
def bound (frame : Frame) : External DispatchRow := do
  let id ← lift (identifier (frame.get "dispatch_id") "dispatch_id")
  let mismatch := Err.blocked "dispatch binding mismatch"
  let row ← sql (.selectDispatch id.1)
  let d ← lift (found row mismatch)
  lift (require (frame.states "task_id" d.taskId ∧ frame.states "worker_id" d.workerId ∧ frame.states "session_id" d.sessionId ∧
    frame.states "lease_id" d.leaseId) mismatch)
  return d

def acknowledge (frame : Json) (now : PyFloat) : External Unit := do
  let m ← g.message crypto .ack frame now
  let d ← bound m.frame
  lift (require (¬ d.acknowledged) (.blocked "ack replay"))
  accept m .ack none
  store (Store.startWithAck d.taskId m.profile.workerId.1 d.leaseId s!"signed_session={m.session.sessionId}" (.fin m.time))
  sql (.markAcknowledged d.dispatchId m.observed)

/-- `result`, before it accepts the frame. -/
def checkResult (m : Message) (d : DispatchRow) : External (Identifier × String) := do
  lift (require (d.acknowledged ∧ ¬ d.resultReceived ∧ ¬ d.leaseExpiresAt ≤ .fin m.time ∧ m.frame.states "status" "SUCCEEDED")
    (.blocked "result out of order, expired or unsupported"))
  let evidenceId ← lift (identifier (m.frame.get "evidence_id") "evidence_id")
  let invalid := Err.blocked "invalid evidence digest"
  let digest ← lift (found (m.frame.get "evidence_sha256").str? invalid)
  lift (require (isDigest digest) invalid)
  let bytes ← sql (.resolveEvidence evidenceId)
  lift (require (crypto.sha256 bytes = digest) (.blocked "evidence digest mismatch"))
  return (evidenceId, digest)

def result (frame : Json) (now : PyFloat) : External Unit := do
  let m ← g.message crypto .result frame now
  let d ← bound m.frame
  let (evidenceId, digest) ← checkResult crypto m d
  accept m .result none
  store (Store.submitResult d.taskId m.profile.workerId.1 d.leaseId evidenceId.1 digest (.fin m.time))
  sql (.markResultReceived d.dispatchId)

def revoke (workerId : Json) : External Unit := do
  let worker ← lift (identifier workerId "worker_id")
  lift (require ((← sql (.revokeProfile worker.1)) ≠ 0) (.blocked "unknown worker"))
  sql (.revokeSession worker.1)

end

end ExternalGateway

end ControlPlane.Autonomy
