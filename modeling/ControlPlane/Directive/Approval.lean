import ControlPlane.Directive.Queue

/-!
# Human approvals

`approval_engine.py`: the lifecycle of an approval, the engine that keeps approvals in a file, and
their revalidation right before execution. A call is complete: it writes the file and appends its event.
-/

namespace ControlPlane.Directive

open ControlPlane.Data

inductive ApprovalState where
  | requested
  | notified
  | approved
  | rejected
  | expired
  | revoked
  | consumed
  deriving DecidableEq

namespace ApprovalState

def value : ApprovalState → String
  | requested => "REQUESTED"
  | notified => "NOTIFIED"
  | approved => "APPROVED"
  | rejected => "REJECTED"
  | expired => "EXPIRED"
  | revoked => "REVOKED"
  | consumed => "CONSUMED"

def all : List ApprovalState := [requested, notified, approved, rejected, expired, revoked, consumed]

/-- `ApprovalState(v)`, where it does not raise. -/
def ofValue? (v : Json) : Option ApprovalState :=
  v.str?.bind fun s => all.find? fun state => state.value = s

/-- `TERMINAL_APPROVAL_STATES` -/
def terminal : List ApprovalState := [rejected, expired, revoked, consumed]

/-- `VALID_APPROVAL_TRANSITIONS` -/
def validTransitions : ApprovalState → List ApprovalState
  | requested => [notified, expired, rejected]
  | notified => [approved, rejected, expired]
  | approved => [revoked, consumed, expired]
  | rejected | expired | revoked | consumed => []

theorem ofValue?_value (s : ApprovalState) : ofValue? (.str s.value) = some s := by
  cases s <;> decide

theorem ofValue?_some {v : Json} {s : ApprovalState} (parsed : ofValue? v = some s) : v = .str s.value := by
  obtain ⟨t, text, found⟩ := Option.bind_eq_some_iff.mp parsed
  have same : s.value = t := by simpa using List.find?_some found
  rw [Json.str?_some text, same]

/-- A terminal state leads nowhere, and no state to itself or back to the start. -/
theorem valid_cases {s t : ApprovalState} (valid : t ∈ s.validTransitions) : s ∉ terminal ∧ t ≠ s ∧ t ≠ requested := by
  cases s <;> cases t <;> first | exact absurd valid (by decide) | decide

end ApprovalState

/-- `AUTHORIZED_APPROVERS` -/
def authorizedApprovers : List String := ["SEC_ADMIN_1", "LEAD_OPERATOR_1", "HUMAN_OPERATOR"]

section

variable (host : Host)

/-- The text that `derive_approval_request_id` hashes. -/
def approvalSeed (directiveId capabilityId parameterHash target riskClass : String) (createdAt : ℚ) : String :=
  directiveId ++ ":" ++ capabilityId ++ ":" ++ parameterHash ++ ":" ++ target ++ ":" ++ riskClass ++ ":" ++
    String.ofList (host.floats.repr createdAt)

/-- `"APP-" + hexdigest[:32]` -/
def approvalId (seed : String) : String := "APP-" ++ String.ofList ((host.sha256 seed).toList.take 32)

/-- `derive_approval_request_id` -/
def deriveApprovalRequestId (directiveId capabilityId parameterHash target riskClass : String) (createdAt : ℚ) : String :=
  approvalId host (approvalSeed host directiveId capabilityId parameterHash target riskClass createdAt)

/-! ### The audit chain -/

/-- `event_hash` of the last line of a chain; a line that cannot be read counts for nothing. -/
def previousHash (auditFile : Option String) : Json :=
  match auditFile with
  | none => .str zeroHash
  | some content =>
    match (fileLines content).getLast? with
    | none => .str zeroHash
    | some line =>
      match Json.loads host.floats (String.ofList line) with
      | some (.dict lastRec) => (Dict.get? lastRec "event_hash").getD (.str zeroHash)
      | _ => .str zeroHash

/-- What a call learns from outside: `time.time()`, the time of the event, and the audit file. -/
structure Moment where
  now : ℚ
  eventTime : String
  auditFile : Option String

/-- `ApprovalAuditChain.append_event`: the record it appends. -/
def approvalEvent (moment : Moment) (approvalRequestId : String) (directiveId : Json) (fromState toState actor : String)
    (details : Record) : Record :=
  let prevHash := previousHash host moment.auditFile
  let body := approvalRequestId ++ ":" ++ host.shown directiveId ++ ":" ++ fromState ++ ":" ++ toState ++ ":" ++ actor ++ ":" ++
    moment.eventTime ++ ":" ++ Json.dumps host.floats.repr { sortKeys := true } (.dict details) ++ ":" ++ host.shown prevHash
  [("approval_request_id", .str approvalRequestId), ("directive_id", directiveId), ("from_state", .str fromState),
    ("to_state", .str toState), ("actor", .str actor), ("timestamp", .str moment.eventTime), ("details", .dict details),
    ("previous_event_hash", prevHash), ("event_hash", .str (host.sha256 body))]

/-! ### The engine -/

/-- `DurableApprovalEngine`: its records and its file. -/
structure Engine where
  records : Records
  file : Option String

/-- The loop of `_load`; a line that cannot be used ends it. -/
def loadApprovals : Records → List (Option Json) → Records
  | records, some (.dict rec) :: rest =>
    match (Dict.get? rec "approval_request_id").bind Json.key? with
    | some key => loadApprovals (records.set key rec) rest
    | none => records
  | records, _ => records

/-- `_load` -/
def loadEngine (file : Option String) : Records :=
  match file with
  | none => []
  | some content => loadApprovals [] (Json.readLines host.floats content)

structure EngineOutcome where
  records : Records
  file : Option String
  event : Option Record
  result : Except Fault (Option String)

def Engine.refuse (e : Engine) (reason : String) : EngineOutcome := ⟨e.records, e.file, none, .ok (some reason)⟩

def Engine.raise (e : Engine) (fault : Fault) : EngineOutcome := ⟨e.records, e.file, none, .error fault⟩

/-- Both calls end so: the record is put into the records, all of them into the file, and the event into the chain. -/
def Engine.put (e : Engine) (id : String) (rec event : Record) (result : Option String) : EngineOutcome :=
  let records := e.records.set (.str id) rec
  ⟨records, some (queueText host records), some event, .ok result⟩

def newApproval (now : ℚ) (id directiveId capabilityId parameterHash target riskClass : String) (ttlSeconds : PyFloat) : Record :=
  [("approval_request_id", .str id), ("directive_id", .str directiveId), ("capability_id", .str capabilityId),
    ("parameter_hash", .str parameterHash), ("target", .str target), ("risk_class", .str riskClass),
    ("state", .str ApprovalState.requested.value), ("approver_id", .null), ("created_at", .float (.fin now)),
    ("expires_at", .float (.fin now + ttlSeconds)), ("consumed", .bool false), ("revoked", .bool false)]

/-- `DurableApprovalEngine.create_request` -/
def createRequest (moment : Moment) (e : Engine) (directiveId capabilityId parameterHash target riskClass : String)
    (ttlSeconds : PyFloat) (actor : String) : EngineOutcome :=
  let id := deriveApprovalRequestId host directiveId capabilityId parameterHash target riskClass moment.now
  e.put host id (newApproval moment.now id directiveId capabilityId parameterHash target riskClass ttlSeconds)
    (approvalEvent host moment id (.str directiveId) "NONE" ApprovalState.requested.value actor []) none

def optionText : Option String → Json
  | none => .null
  | some s => .str s

/-- The checks of an approval, in the order of the source; none where they all pass. -/
def approverRejection (rec : Record) (actor : String) (approverId : Option String) : Option String :=
  match approverId with
  | none => some "MISSING_APPROVER_IDENTITY_REJECTED"
  | some approver =>
    if approver = "" then some "MISSING_APPROVER_IDENTITY_REJECTED"
    else if approver ∉ authorizedApprovers then some "UNAUTHORIZED_APPROVER_REJECTED"
    else if (Record.field rec "directive_id").str? = some approver ∨ approver = actor then some "SELF_APPROVAL_REJECTED"
    else none

/-- What the record keeps of a transition, besides its state. -/
def noted (now : ℚ) (target : ApprovalState) (approverId : Option String) (rec : Record) : Record :=
  if target = .approved then (rec.set "approver_id" (optionText approverId)).set "approval_timestamp" (.float (.fin now))
  else if target = .revoked then rec.set "revoked" (.bool true)
  else if target = .consumed then rec.set "consumed" (.bool true)
  else rec

/-- `DurableApprovalEngine.transition_state` -/
def transitionApproval (moment : Moment) (e : Engine) (id : String) (target : ApprovalState) (actor : String)
    (approverId : Option String) : EngineOutcome :=
  match e.records.get? (.str id) with
  | none => e.refuse "UNKNOWN_APPROVAL_STATE_REJECTED"
  | some rec =>
    if rec.isEmpty then e.refuse "UNKNOWN_APPROVAL_STATE_REJECTED"
    else match rec.get? "state" with
      | none => e.raise .keyError
      | some state =>
        match ApprovalState.ofValue? state with
        | none => e.raise .valueError
        | some curr =>
          match rec.get? "expires_at" with
          | none => e.raise .keyError
          | some expiresAt =>
            match expiresAt.number? with
            | none => e.raise .typeError
            | some expires =>
              if expires < .fin moment.now ∧ curr ∉ ApprovalState.terminal then
                e.put host id (rec.set "state" (.str ApprovalState.expired.value))
                  (approvalEvent host moment id (Record.field rec "directive_id") curr.value ApprovalState.expired.value
                    "SYSTEM_TTL" []) (some "EXPIRED_APPROVAL_REJECTED")
              else if curr ∈ ApprovalState.terminal then e.refuse "ILLEGAL_APPROVAL_TRANSITIONS_REJECTED"
              else if target ∉ curr.validTransitions then e.refuse "ILLEGAL_APPROVAL_TRANSITIONS_REJECTED"
              else match if target = .approved then approverRejection rec actor approverId else none with
                | some reason => e.refuse reason
                | none =>
                  e.put host id ((noted moment.now target approverId rec).set "state" (.str target.value))
                    (approvalEvent host moment id (Record.field rec "directive_id") curr.value target.value actor
                      [("approver", optionText approverId)]) none

/-- One call of an engine. -/
inductive EngineCall where
  | create (directiveId capabilityId parameterHash target riskClass : String) (ttlSeconds : PyFloat) (actor : String)
  | transition (id : String) (target : ApprovalState) (actor : String) (approverId : Option String)

def performEngine (moment : Moment) (e : Engine) : EngineCall → EngineOutcome
  | .create directiveId capabilityId parameterHash target riskClass ttlSeconds actor =>
    createRequest host moment e directiveId capabilityId parameterHash target riskClass ttlSeconds actor
  | .transition id target actor approverId => transitionApproval host moment e id target actor approverId

/-! ### Revalidation -/

/-- `revalidate_approval_for_execution` of a dictionary: none where it accepts. -/
def revalidateApproval (now : ℚ) (rec : Record) (directiveId capabilityId parameterHash target riskClass : String) :
    Except Fault (Option String) :=
  if rec.isEmpty then .ok (some "MISSING_APPROVAL_REJECTED")
  else
    let state := host.shown ((rec.get? "state").getD (.str ""))
    if ((rec.get? "consumed").getD (.bool false)).truthy ∨ state = ApprovalState.consumed.value then
      .ok (some "CONSUMED_APPROVAL_REPLAY_REJECTED")
    else if ((rec.get? "revoked").getD (.bool false)).truthy ∨ state = ApprovalState.revoked.value then
      .ok (some "REVOKED_APPROVAL_REJECTED")
    else if state ≠ ApprovalState.approved.value then .ok (some "UNKNOWN_APPROVAL_STATE_REJECTED")
    else match ((rec.get? "expires_at").getD (.int 0)).number? with
      | none => .error .typeError
      | some expires =>
        if expires < .fin now then .ok (some "EXPIRED_APPROVAL_REJECTED")
        else if (Record.field rec "directive_id").str? ≠ some directiveId then
          .ok (some "CROSS_DIRECTIVE_APPROVAL_REUSE_REJECTED")
        else if (Record.field rec "capability_id").str? ≠ some capabilityId then
          .ok (some "POST_APPROVAL_CAPABILITY_MUTATION_REJECTED")
        else if (Record.field rec "parameter_hash").str? ≠ some parameterHash then
          .ok (some "CROSS_PARAMETER_APPROVAL_REUSE_REJECTED")
        else if (Record.field rec "target").str? ≠ some target then .ok (some "POST_APPROVAL_TARGET_MUTATION_REJECTED")
        else if (Record.field rec "risk_class").str? ≠ some riskClass then .ok (some "POST_APPROVAL_RISK_MUTATION_REJECTED")
        else .ok none

end

end ControlPlane.Directive
