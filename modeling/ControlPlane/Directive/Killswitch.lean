import ControlPlane.Directive.Approval

/-!
# The killswitch

`DurableKillswitch` of `watchdog.py`. A call decides and changes the state in memory; then it rewrites
the state file in place, which first empties it, and appends an event to the audit trail.
-/

namespace ControlPlane.Directive

open ControlPlane.Data

inductive KillswitchState where
  | disarmed
  | armed
  | triggered
  | recoveryPending
  deriving DecidableEq

namespace KillswitchState

def value : KillswitchState → String
  | disarmed => "DISARMED"
  | armed => "ARMED"
  | triggered => "TRIGGERED"
  | recoveryPending => "RECOVERY_PENDING"

def all : List KillswitchState := [disarmed, armed, triggered, recoveryPending]

/-- `KillswitchState(v)`, where it does not raise. -/
def ofValue? (v : Json) : Option KillswitchState :=
  v.str?.bind fun s => all.find? fun state => state.value = s

theorem ofValue?_value (s : KillswitchState) : ofValue? (.str s.value) = some s := by
  cases s <;> decide

end KillswitchState

/-- A dictionary of a caller, and what it holds at the time of the call. -/
structure RecoveryApproval where
  object : Nat
  content : Record

inductive SwitchCall where
  | trigger (reason actor : String) (details : Option Record)
  | enterRecoveryPending (rootCauseResolved : Bool) (actor : String)
  | executeControlledResume (incidentId : String) (approvalRec : Option RecoveryApproval) (revalidationSuccess : Bool) (actor : String)

/-- What a call tells the audit trail. -/
structure Incident where
  incidentId : Json
  source : KillswitchState
  target : KillswitchState
  actor : String
  reason : String
  details : Record

/-- How the first part of a call ends: with an exception, with `(False, reason)`, or with a changed state that has to be persisted. -/
inductive Begun where
  | raised (fault : Fault)
  | refused (reason : String)
  | changed (state : Record) (event : Incident)

section

variable (host : Host)

/-- `derive_incident_id` -/
def deriveIncidentId (triggerReason source : String) (timestamp : ℚ) : String :=
  let raw := triggerReason ++ ":" ++ source ++ ":" ++ String.ofList (host.floats.repr timestamp)
  "INC-" ++ String.ofList ((host.sha256 raw).toList.take 32)

/-- `IncidentAuditTrail.append_event`: the record it appends. -/
def incidentEvent (event : Incident) (ts : String) (auditFile : Option String) : Record :=
  let prevHash := previousHash host auditFile
  let body := host.shown event.incidentId ++ ":" ++ event.source.value ++ ":" ++ event.target.value ++ ":" ++ event.actor ++ ":" ++
    event.reason ++ ":" ++ ts ++ ":" ++ Json.dumps host.floats.repr { sortKeys := true } (.dict event.details) ++ ":" ++
    host.shown prevHash
  [("incident_id", event.incidentId), ("from_state", .str event.source.value), ("to_state", .str event.target.value),
    ("actor", .str event.actor), ("reason", .str event.reason), ("timestamp", .str ts), ("details", .dict event.details),
    ("previous_event_hash", prevHash), ("event_hash", .str (host.sha256 body))]

/-! ### The state file -/

def defaultState (now : ℚ) : Record :=
  [("killswitch_state", .str KillswitchState.armed.value), ("active_incident_id", .null), ("trigger_reason", .null),
    ("root_cause_resolved", .bool false), ("recovery_approved", .bool false), ("last_updated", .float (.fin now))]

/-- `_load`; the characters of the file are its bytes. -/
def loadState (now : ℚ) (file : Option (List Char)) : Json :=
  match file.bind fun content => Json.loads host.floats (String.ofList content) with
  | some rec => rec
  | none => .dict (defaultState now)

/-- What `_persist` writes. -/
def stateText (state : Record) : List Char := Json.lineOf host.floats state ++ ['\n']

/-- A write at the start of a file that holds something already. -/
def overwrite (content text : List Char) : List Char := text ++ content.drop text.length

/-! ### The calls -/

/-- `is_execution_allowed` -/
def isExecutionAllowed : Json → Except Fault Bool
  | .dict state =>
    match Dict.get? state "killswitch_state" with
    | none => .error .keyError
    | some v =>
      match v.key? with
      | none => .error .typeError
      | some _ => .ok (v.str? = some KillswitchState.disarmed.value ∨ v.str? = some KillswitchState.armed.value)
  | _ => .error .typeError

/-- `trigger`, up to its `_persist`; it returns the incident of the event. -/
def beginTrigger (now : ℚ) (state : Record) (reason actor : String) (details : Option Record) : Begun :=
  match state.get? "killswitch_state" with
  | none => .raised .keyError
  | some v =>
    match KillswitchState.ofValue? v with
    | none => .raised .valueError
    | some curr =>
      let incId := deriveIncidentId host reason actor now
      .changed (((((state.set "killswitch_state" (.str KillswitchState.triggered.value)).set "active_incident_id" (.str incId)).set
          "trigger_reason" (.str reason)).set "root_cause_resolved" (.bool false)).set "recovery_approved" (.bool false))
        ⟨.str incId, curr, .triggered, actor, reason, details.getD []⟩

/-- `enter_recovery_pending`, up to its `_persist`. -/
def beginRecovery (state : Record) (rootCauseResolved : Bool) (actor : String) : Begun :=
  match state.get? "killswitch_state" with
  | none => .raised .keyError
  | some v =>
    if v.str? ≠ some KillswitchState.triggered.value then .refused "KILLSWITCH_NOT_TRIGGERED"
    else if rootCauseResolved = false then .refused "UNRESOLVED_ROOT_CAUSE_BLOCKS_RECOVERY"
    else match state.get? "active_incident_id" with
      | none => .raised .keyError
      | some active =>
        .changed ((state.set "killswitch_state" (.str KillswitchState.recoveryPending.value)).set "root_cause_resolved" (.bool true))
          ⟨if active.truthy then active else .str "INC-UNKNOWN", .triggered, .recoveryPending, actor, "ROOT_CAUSE_RESOLVED", []⟩

/-- The checks of an approval, in the order of the source; none where they all pass. -/
def recoveryRejection (incidentId : String) (approvalRec : Option RecoveryApproval) : Option String :=
  let approval : Record := (approvalRec.map (·.content)).getD []
  if approval.isEmpty ∨ (Record.field approval "state").str? ≠ some "APPROVED" then some "CRITICAL_RECOVERY_REQUIRES_HUMAN"
  else if (Record.field approval "incident_id").truthy ∧ (Record.field approval "incident_id").str? ≠ some incidentId then
    some "RECOVERY_APPROVAL_BOUND_TO_INCIDENT"
  else if ((approval.get? "consumed").getD (.bool false)).truthy then some "STALE_RECOVERY_APPROVAL_REJECTED"
  else none

/-- `execute_controlled_resume`, up to its `_persist`. -/
def beginResume (state : Record) (incidentId : String) (approvalRec : Option RecoveryApproval) (revalidationSuccess : Bool)
    (actor : String) : Begun :=
  match state.get? "killswitch_state" with
  | none => .raised .keyError
  | some v =>
    if v.str? ≠ some KillswitchState.recoveryPending.value then .refused "INCONSISTENT_RECOVERY_STATE_REJECTED"
    else match state.get? "active_incident_id" with
      | none => .raised .keyError
      | some active =>
        if active.str? ≠ some incidentId then .refused "RECOVERY_APPROVAL_BOUND_TO_INCIDENT"
        else if ((state.get? "root_cause_resolved").getD (.bool false)).truthy = false then
          .refused "UNRESOLVED_ROOT_CAUSE_BLOCKS_RECOVERY"
        else match recoveryRejection incidentId approvalRec with
          | some reason => .refused reason
          | none =>
            if revalidationSuccess = false then .refused "FAILED_RECOVERY_VALIDATION_REJECTED"
            else .changed (((state.set "killswitch_state" (.str KillswitchState.armed.value)).set "active_incident_id" .null).set
                "recovery_approved" (.bool true))
              ⟨.str incidentId, .recoveryPending, .armed, actor, "CONTROLLED_RESUME_COMPLETE", []⟩

/-- A call on an instance, whose state may be anything that could be loaded. -/
def beginCall (now : ℚ) (state : Json) (call : SwitchCall) : Begun :=
  match state with
  | .dict state =>
    match call with
    | .trigger reason actor details => beginTrigger host now state reason actor details
    | .enterRecoveryPending rootCauseResolved actor => beginRecovery state rootCauseResolved actor
    | .executeControlledResume incidentId approvalRec revalidationSuccess actor =>
      beginResume state incidentId approvalRec revalidationSuccess actor
  | _ => .raised .typeError

end

end ControlPlane.Directive
