import ControlPlane.Directive.Capability
import ControlPlane.Directive.Killswitch

/-!
# The hash-chained ledgers

`QueueAuditTrail`, `ApprovalAuditChain`, `AuthorizationAuditTrail`, `IncidentAuditTrail`, and
`RecoveryAuditTrail` of `recovery_engine.py`: what a call appends to the file of a ledger, and
what `verify_integrity` recomputes from it.
-/

namespace ControlPlane.Directive

open ControlPlane.Data

/-- A Python value that JSON can hold: no dictionary in it has a key twice. -/
abbrev Value := { v : Json // Json.Keyed v }

/-- A dictionary with texts as keys. -/
abbrev Details := { d : Record // Json.Keyed (.dict d) }

/-- What `verify_integrity` answers, with the number of the line that it stopped at. -/
inductive Verdict where
  | valid
  | previousMismatch (line : Nat)
  | hashMismatch (line : Nat)
  | unreadable (line : Nat)
  deriving DecidableEq

/-- The parts in which the five classes differ. -/
structure Ledger where
  /-- What `append_event` is given, with the time of the event. -/
  Event : Type
  /-- The text that is hashed, behind a previous hash. -/
  body : Event → Json → String
  /-- The record without its own hash. -/
  plain : Event → Json → Record
  previousField : String := "previous_event_hash"
  genesis : String := zeroHash
  /-- The text that `verify_integrity` hashes; a field that is missing raises. -/
  recomputed : Record → String → Option String
  /-- The lines of a file. -/
  lines : String → List (List Char) := fileLines
  skipsBlank : Bool := false
  /-- The hash that a last line stands for that cannot be read; with none, nothing is appended. -/
  unread : Option String := some zeroHash
  /-- What the constructor makes of an absent file. -/
  opened : Option String := none

namespace Ledger

variable (host : Host) (ledger : Ledger)

/-- The record of an event. -/
def record (event : ledger.Event) (prevHash : Json) : Record :=
  ledger.plain event prevHash ++ [("event_hash", .str (host.sha256 (ledger.body event prevHash)))]

/-- `prev_hash` -/
def lastHash (file : Option String) : Option Json :=
  match file.bind fun content => (ledger.lines content).getLast? with
  | none => some (.str ledger.genesis)
  | some line =>
    match Json.loads host.floats (String.ofList line) with
    | some (.dict lastRec) => some ((Dict.get? lastRec "event_hash").getD (.str ledger.genesis))
    | _ => ledger.unread.map .str

/-- `append_event`: the file afterwards. -/
def append (file : Option String) (event : ledger.Event) : Option String :=
  match ledger.lastHash host file with
  | none => file
  | some prevHash =>
    some (file.getD "" ++ String.ofList (Json.lineOf host.floats (ledger.record host event prevHash) ++ ['\n']))

/-- The file after a sequence of calls. -/
def written (events : List ledger.Event) : Option String := events.foldl (ledger.append host) ledger.opened

/-- The loop of `verify_integrity`. -/
def verifyLines : Nat → String → List (List Char) → Verdict
  | _, _, [] => .valid
  | n, expectedPrev, line :: rest =>
    if ledger.skipsBlank ∧ line.all isSpace then verifyLines (n + 1) expectedPrev rest
    else
      match Json.loads host.floats (String.ofList line) with
      | some (.dict rec) =>
        if (Record.field rec ledger.previousField).str? ≠ some expectedPrev then .previousMismatch n
        else
          match ledger.recomputed rec expectedPrev with
          | none => .unreadable n
          | some body =>
            if (Record.field rec "event_hash").str? ≠ some (host.sha256 body) then .hashMismatch n
            else verifyLines (n + 1) (host.sha256 body) rest
      | _ => .unreadable n

/-- `verify_integrity` -/
def verifyIntegrity (file : Option String) : Verdict :=
  match file with
  | none => .valid
  | some content => ledger.verifyLines host 1 ledger.genesis (ledger.lines content)

end Ledger

section

variable (host : Host)

/-- No field is missing; `rec[name]` raises where one is. -/
def holds (rec : Record) (names : List String) : Bool := names.all fun name => (Dict.get? rec name).isSome

/-- `json.dumps(v, sort_keys=True)` -/
def sortedText (v : Json) : String := Json.dumps host.floats.repr { sortKeys := true } v

/-! ### `QueueAuditTrail` -/

structure QueueAudit where
  eventId : Value
  directiveId : Value
  fromState : Value
  toState : Value
  workerId : Value
  payloadSha256 : Value
  commitSha : Value
  ts : String

namespace QueueAudit

def body (e : QueueAudit) (prevHash : Json) : String :=
  host.shown e.eventId ++ ":" ++ host.shown e.directiveId ++ ":" ++ host.shown e.fromState ++ ":" ++ host.shown e.toState ++ ":" ++
    host.shown (.str e.ts) ++ ":" ++ host.shown e.workerId ++ ":" ++ host.shown e.payloadSha256 ++ ":" ++
    host.shown e.commitSha ++ ":" ++ host.shown prevHash

def plain (e : QueueAudit) (prevHash : Json) : Record :=
  [("event_id", e.eventId), ("directive_id", e.directiveId), ("from_state", e.fromState), ("to_state", e.toState),
    ("timestamp", .str e.ts), ("actor_worker", e.workerId), ("payload_sha256", e.payloadSha256),
    ("commit_sha", e.commitSha), ("previous_event_hash", prevHash)]

def recomputed (rec : Record) (expectedPrev : String) : Option String :=
  if holds rec ["event_id", "directive_id", "from_state", "to_state", "timestamp", "actor_worker", "payload_sha256",
      "commit_sha"] then
    some (host.shown (Record.field rec "event_id") ++ ":" ++ host.shown (Record.field rec "directive_id") ++ ":" ++
      host.shown (Record.field rec "from_state") ++ ":" ++ host.shown (Record.field rec "to_state") ++ ":" ++
      host.shown (Record.field rec "timestamp") ++ ":" ++ host.shown (Record.field rec "actor_worker") ++ ":" ++
      host.shown (Record.field rec "payload_sha256") ++ ":" ++ host.shown (Record.field rec "commit_sha") ++ ":" ++
      host.shown (.str expectedPrev))
  else none

/-- It skips blank lines, and appends nothing behind a line that cannot be read. -/
def ledger : Ledger where
  Event := QueueAudit
  body := body host
  plain := plain
  recomputed := recomputed host
  skipsBlank := true
  unread := none

end QueueAudit

/-! ### `ApprovalAuditChain` -/

structure ApprovalAudit where
  approvalRequestId : Value
  directiveId : Value
  fromState : Value
  toState : Value
  actor : Value
  details : Details
  ts : String

namespace ApprovalAudit

def body (e : ApprovalAudit) (prevHash : Json) : String :=
  host.shown e.approvalRequestId ++ ":" ++ host.shown e.directiveId ++ ":" ++ host.shown e.fromState ++ ":" ++
    host.shown e.toState ++ ":" ++ host.shown e.actor ++ ":" ++ host.shown (.str e.ts) ++ ":" ++
    sortedText host (.dict e.details) ++ ":" ++ host.shown prevHash

def plain (e : ApprovalAudit) (prevHash : Json) : Record :=
  [("approval_request_id", e.approvalRequestId), ("directive_id", e.directiveId), ("from_state", e.fromState),
    ("to_state", e.toState), ("actor", e.actor), ("timestamp", .str e.ts), ("details", .dict e.details),
    ("previous_event_hash", prevHash)]

/-- `rec["previous_event_hash"]` is the expected hash; that has been checked. -/
def recomputed (rec : Record) (expectedPrev : String) : Option String :=
  if holds rec ["approval_request_id", "directive_id", "from_state", "to_state", "actor", "timestamp"] then
    some (host.shown (Record.field rec "approval_request_id") ++ ":" ++ host.shown (Record.field rec "directive_id") ++ ":" ++
      host.shown (Record.field rec "from_state") ++ ":" ++ host.shown (Record.field rec "to_state") ++ ":" ++
      host.shown (Record.field rec "actor") ++ ":" ++ host.shown (Record.field rec "timestamp") ++ ":" ++
      sortedText host ((Dict.get? rec "details").getD (.dict [])) ++ ":" ++ host.shown (.str expectedPrev))
  else none

def ledger : Ledger where
  Event := ApprovalAudit
  body := body host
  plain := plain
  recomputed := recomputed host

end ApprovalAudit

/-! ### `AuthorizationAuditTrail` -/

structure AuthorizationAudit where
  directiveId : Value
  capabilityId : Value
  requestedTarget : Value
  parameterHash : Value
  derivedRiskClass : Value
  humanApprovalRequired : Value
  approvalId : Value
  authorized : Value
  rejectionReason : Value
  ts : String

namespace AuthorizationAudit

def body (e : AuthorizationAudit) (prevHash : Json) : String :=
  host.shown e.directiveId ++ ":" ++ host.shown e.capabilityId ++ ":" ++ host.shown e.requestedTarget ++ ":" ++
    host.shown e.parameterHash ++ ":" ++ host.shown e.derivedRiskClass ++ ":" ++ host.shown e.humanApprovalRequired ++ ":" ++
    host.shown e.approvalId ++ ":" ++ host.shown e.authorized ++ ":" ++ host.shown e.rejectionReason ++ ":" ++
    host.shown (.str e.ts) ++ ":" ++ host.shown prevHash

def plain (e : AuthorizationAudit) (prevHash : Json) : Record :=
  [("directive_id", e.directiveId), ("capability_id", e.capabilityId), ("requested_target", e.requestedTarget),
    ("parameter_hash", e.parameterHash), ("derived_risk_class", e.derivedRiskClass),
    ("human_approval_required", e.humanApprovalRequired), ("approval_id", e.approvalId), ("authorized", e.authorized),
    ("rejection_reason", e.rejectionReason), ("timestamp", .str e.ts), ("previous_event_hash", prevHash)]

def recomputed (rec : Record) (expectedPrev : String) : Option String :=
  if holds rec ["directive_id", "capability_id", "requested_target", "parameter_hash", "derived_risk_class",
      "human_approval_required", "approval_id", "authorized", "rejection_reason", "timestamp"] then
    some (host.shown (Record.field rec "directive_id") ++ ":" ++ host.shown (Record.field rec "capability_id") ++ ":" ++
      host.shown (Record.field rec "requested_target") ++ ":" ++ host.shown (Record.field rec "parameter_hash") ++ ":" ++
      host.shown (Record.field rec "derived_risk_class") ++ ":" ++ host.shown (Record.field rec "human_approval_required") ++
      ":" ++ host.shown (Record.field rec "approval_id") ++ ":" ++ host.shown (Record.field rec "authorized") ++ ":" ++
      host.shown (Record.field rec "rejection_reason") ++ ":" ++ host.shown (Record.field rec "timestamp") ++ ":" ++
      host.shown (.str expectedPrev))
  else none

/-- It skips blank lines. -/
def ledger : Ledger where
  Event := AuthorizationAudit
  body := body host
  plain := plain
  recomputed := recomputed host
  skipsBlank := true

end AuthorizationAudit

/-! ### `IncidentAuditTrail` -/

structure IncidentAudit where
  incidentId : Value
  fromState : Value
  toState : Value
  actor : Value
  reason : Value
  details : Details
  ts : String

namespace IncidentAudit

def body (e : IncidentAudit) (prevHash : Json) : String :=
  host.shown e.incidentId ++ ":" ++ host.shown e.fromState ++ ":" ++ host.shown e.toState ++ ":" ++ host.shown e.actor ++ ":" ++
    host.shown e.reason ++ ":" ++ host.shown (.str e.ts) ++ ":" ++ sortedText host (.dict e.details) ++ ":" ++ host.shown prevHash

def plain (e : IncidentAudit) (prevHash : Json) : Record :=
  [("incident_id", e.incidentId), ("from_state", e.fromState), ("to_state", e.toState), ("actor", e.actor),
    ("reason", e.reason), ("timestamp", .str e.ts), ("details", .dict e.details), ("previous_event_hash", prevHash)]

def recomputed (rec : Record) (expectedPrev : String) : Option String :=
  if holds rec ["incident_id", "from_state", "to_state", "actor", "reason", "timestamp"] then
    some (host.shown (Record.field rec "incident_id") ++ ":" ++ host.shown (Record.field rec "from_state") ++ ":" ++
      host.shown (Record.field rec "to_state") ++ ":" ++ host.shown (Record.field rec "actor") ++ ":" ++
      host.shown (Record.field rec "reason") ++ ":" ++ host.shown (Record.field rec "timestamp") ++ ":" ++
      sortedText host ((Dict.get? rec "details").getD (.dict [])) ++ ":" ++ host.shown (.str expectedPrev))
  else none

def ledger : Ledger where
  Event := IncidentAudit
  body := body host
  plain := plain
  recomputed := recomputed host

end IncidentAudit

/-! ### `RecoveryAuditTrail` -/

structure RecoveryAudit where
  timestamp : String
  eventType : Value
  directiveId : Value
  details : Details

namespace RecoveryAudit

/-- The previous hash stands before the details. -/
def body (e : RecoveryAudit) (prevHash : Json) : String :=
  host.shown (.str e.timestamp) ++ ":" ++ host.shown e.eventType ++ ":" ++ host.shown e.directiveId ++ ":" ++
    host.shown prevHash ++ ":" ++ sortedText host (.dict e.details)

def plain (e : RecoveryAudit) (prevHash : Json) : Record :=
  [("timestamp", .str e.timestamp), ("event_type", e.eventType), ("directive_id", e.directiveId), ("details", .dict e.details),
    ("prev_hash", prevHash)]

def recomputed (rec : Record) (expectedPrev : String) : Option String :=
  if holds rec ["timestamp", "event_type", "directive_id", "details"] then
    some (host.shown (Record.field rec "timestamp") ++ ":" ++ host.shown (Record.field rec "event_type") ++ ":" ++
      host.shown (Record.field rec "directive_id") ++ ":" ++ host.shown (.str expectedPrev) ++ ":" ++
      sortedText host (Record.field rec "details"))
  else none

/-- `[l for l in text.splitlines() if l.strip()]` -/
def lines (content : String) : List (List Char) :=
  (splitlines (universalNewlines false content.toList)).filter fun line => !line.all isSpace

def ledger : Ledger where
  Event := RecoveryAudit
  body := body host
  plain := plain
  previousField := "prev_hash"
  genesis := "GENESIS"
  recomputed := recomputed host
  lines := lines
  unread := some "CORRUPTED_CHAIN"
  opened := some ""

end RecoveryAudit

/-- The ledgers whose bodies end in the previous hash. -/
def colonLedgers : List Ledger :=
  [QueueAudit.ledger host, ApprovalAudit.ledger host, AuthorizationAudit.ledger host, IncidentAudit.ledger host]

def ledgers : List Ledger := colonLedgers host ++ [RecoveryAudit.ledger host]

/-! ### What the queue, the engines and the switch append -/

/-- A text as a value. -/
def Value.text (t : String) : Value := ⟨.str t, trivial⟩

@[simp] theorem Value.text_val (t : String) : (Value.text t).val = .str t := rfl

theorem auditRecord_record (answers : Answers) (eventId directiveId fromState toState workerId : String)
    (payloadSha256 commitSha : Value) (prevHash : Json) :
    auditRecord host answers eventId directiveId fromState toState workerId payloadSha256 commitSha prevHash =
      (QueueAudit.ledger host).record host ⟨.text eventId, .text directiveId, .text fromState, .text toState, .text workerId,
        payloadSha256, commitSha, answers.eventTime⟩ prevHash := by
  unfold auditRecord Ledger.record QueueAudit.ledger
  delta QueueAudit.body
  simp only [Value.text_val, host.shown_str]
  rfl

theorem approvalEvent_record (moment : Moment) (approvalRequestId : String) (directiveId : Value) (fromState toState actor : String)
    (details : Details) : approvalEvent host moment approvalRequestId directiveId fromState toState actor details =
      (ApprovalAudit.ledger host).record host ⟨.text approvalRequestId, directiveId, .text fromState, .text toState, .text actor,
        details, moment.eventTime⟩ (previousHash host moment.auditFile) := by
  unfold approvalEvent Ledger.record ApprovalAudit.ledger
  delta ApprovalAudit.body
  simp only [Value.text_val, host.shown_str]
  rfl

theorem decisionRecord_record (none' : host.shown .null = "None") (bools : ∀ b, host.shown (.bool b) = pyBool b)
    (token : ExecutionAuthorizationToken) (keyed : Json.Keyed token.approvalId) (required : Bool) (ts : String)
    (auditFile : Option String) : decisionRecord host token required ts auditFile =
      (AuthorizationAudit.ledger host).record host ⟨.text token.directiveId, .text token.capabilityId, .text token.target,
        .text token.parameterHash, .text token.riskClass, ⟨.bool required, trivial⟩, ⟨token.approvalId, keyed⟩,
        ⟨.bool true, trivial⟩, ⟨.null, trivial⟩, ts⟩ (previousHash host auditFile) := by
  unfold decisionRecord Ledger.record AuthorizationAudit.ledger
  delta AuthorizationAudit.body
  simp only [Value.text_val, host.shown_str, none', bools]
  rfl

theorem incidentEvent_record (event : Incident) (keyed : Json.Keyed event.incidentId) (details : Json.Keyed (.dict event.details))
    (ts : String) (auditFile : Option String) : incidentEvent host event ts auditFile =
      (IncidentAudit.ledger host).record host ⟨⟨event.incidentId, keyed⟩, .text event.source.value, .text event.target.value,
        .text event.actor, .text event.reason, ⟨event.details, details⟩, ts⟩ (previousHash host auditFile) := by
  unfold incidentEvent Ledger.record IncidentAudit.ledger
  delta IncidentAudit.body
  simp only [Value.text_val, host.shown_str]
  rfl

/-- A ledger whose last line counts for nothing where it cannot be read. -/
theorem lastHash_previous {ledger : Ledger} (start : ledger.genesis = zeroHash) (lines : ledger.lines = fileLines)
    (unread : ledger.unread = some zeroHash) (file : Option String) :
    ledger.lastHash host file = some (previousHash host file) := by
  unfold Ledger.lastHash previousHash
  cases file with
  | none => simp [start]
  | some content =>
    simp only [lines, start, unread, Option.bind_some]
    cases (fileLines content).getLast? with
    | none => rfl
    | some line =>
      simp only
      cases Json.loads host.floats (String.ofList line) with
      | none => rfl
      | some v => cases v <;> rfl

end

end ControlPlane.Directive
