import ControlPlane.Data.Json.Dynamic
import ControlPlane.Data.Json.Ratio

/-!
# The directive queue

`queue_integrity.py`: the state machine of a directive, the audit trail, and the durable
queue with its file of records. What a call does is its `Outcome`; the clock, the success of
a save and the content of the audit file are answered by the host.
-/

namespace ControlPlane.Directive

open ControlPlane.Data

/-- What the code takes from its host. -/
structure Host where
  floats : Json.Floats
  /-- `hashlib.sha256(text.encode("utf-8")).hexdigest()` -/
  sha256 : String → String
  /-- `str(v)` -/
  shown : Json → String
  shown_str : ∀ s, shown (.str s) = s

/-- A host to run examples on. -/
def sampleHost : Host where
  floats := Json.ratioFloats
  sha256 := id
  shown v := v.str?.getD "None"
  shown_str _ := rfl

/-! ### States -/

inductive DirectiveState where
  | authenticated
  | queued
  | claimed
  | preExecValidated
  | dispatchAuthorized
  | executing
  | completed
  | failedFinal
  | rejected
  | waitingHuman
  | indeterminate
  deriving DecidableEq

namespace DirectiveState

def value : DirectiveState → String
  | authenticated => "AUTHENTICATED"
  | queued => "QUEUED"
  | claimed => "CLAIMED"
  | preExecValidated => "PRE_EXEC_VALIDATED"
  | dispatchAuthorized => "DISPATCH_AUTHORIZED"
  | executing => "EXECUTING"
  | completed => "COMPLETED"
  | failedFinal => "FAILED_FINAL"
  | rejected => "REJECTED"
  | waitingHuman => "WAITING_HUMAN"
  | indeterminate => "INDETERMINATE"

def all : List DirectiveState := [authenticated, queued, claimed, preExecValidated, dispatchAuthorized, executing,
  completed, failedFinal, rejected, waitingHuman, indeterminate]

/-- `DirectiveState(v)`, where it does not raise. -/
def ofValue? (v : Json) : Option DirectiveState :=
  v.str?.bind fun s => all.find? fun state => state.value = s

/-- `TERMINAL_STATES` -/
def terminal : List DirectiveState := [completed, failedFinal, rejected]

/-- `VALID_TRANSITIONS` -/
def validTransitions : DirectiveState → List DirectiveState
  | authenticated => [queued, rejected]
  | queued => [claimed, rejected]
  | claimed => [preExecValidated, rejected, indeterminate]
  | preExecValidated => [dispatchAuthorized, waitingHuman, rejected]
  | dispatchAuthorized => [executing, rejected]
  | executing => [completed, failedFinal, waitingHuman, indeterminate]
  | waitingHuman => [preExecValidated, rejected]
  | completed | failedFinal | rejected | indeterminate => []

theorem value_injective {s t : DirectiveState} (same : s.value = t.value) : s = t := by
  revert s t
  intro s t
  cases s <;> cases t <;> first | exact fun _ => rfl | exact fun same => absurd same (by decide)

theorem ofValue?_value (s : DirectiveState) : ofValue? (.str s.value) = some s := by
  cases s <;> decide

theorem ofValue?_some {v : Json} {s : DirectiveState} (parsed : ofValue? v = some s) : v = .str s.value := by
  obtain ⟨t, text, found⟩ := Option.bind_eq_some_iff.mp parsed
  have same : s.value = t := by simpa using List.find?_some found
  rw [Json.str?_some text, same]

/-- No state leads to itself. -/
theorem valid_ne {s t : DirectiveState} (valid : t ∈ s.validTransitions) : t ≠ s := by
  cases s <;> cases t <;> first | exact absurd valid (by decide) | decide

/-- A terminal state leads nowhere. -/
theorem not_terminal_of_valid {s t : DirectiveState} (valid : t ∈ s.validTransitions) : s ∉ terminal := by
  cases s <;> first | decide | exact absurd valid List.not_mem_nil

end DirectiveState

/-! ### The audit trail -/

def zeroHash : String := "0000000000000000000000000000000000000000000000000000000000000000"

/-- What a call learns from outside, one answer for each time it asks. -/
structure Answers where
  /-- `time.strftime("%Y-%m-%dT%H:%M:%SZ", time.gmtime())`, in the call and in `append_event` -/
  now : String
  eventTime : String
  /-- `time.time_ns()` -/
  timeNs : Nat
  /-- The queue file could be written and replaced. -/
  saved : Bool
  auditFile : Option String
  /-- The audit file could be opened and written. -/
  appended : Bool

section

variable (host : Host)

/-- `QueueAuditTrail.get_last_event_hash` -/
def getLastEventHash (auditFile : Option String) : Json :=
  match auditFile with
  | none => .str zeroHash
  | some content =>
    match (fileLines content).getLast? with
    | none => .str zeroHash
    | some line =>
      match Json.loads host.floats (String.ofList line) with
      | some (.dict lastRec) => (Dict.get? lastRec "event_hash").getD (.str zeroHash)
      | _ => .str "CORRUPTED"

def isCorrupted : Json → Bool
  | .str s => s = "CORRUPTED"
  | _ => false

/-- The record `append_event` writes to the end of the audit file. -/
def auditRecord (answers : Answers) (eventId directiveId fromState toState workerId : String)
    (payloadSha256 commitSha prevHash : Json) : Record :=
  let body := eventId ++ ":" ++ directiveId ++ ":" ++ fromState ++ ":" ++ toState ++ ":" ++ answers.eventTime ++ ":" ++
    workerId ++ ":" ++ host.shown payloadSha256 ++ ":" ++ host.shown commitSha ++ ":" ++ host.shown prevHash
  [("event_id", .str eventId), ("directive_id", .str directiveId), ("from_state", .str fromState),
    ("to_state", .str toState), ("timestamp", .str answers.eventTime), ("actor_worker", .str workerId),
    ("payload_sha256", payloadSha256), ("commit_sha", commitSha), ("previous_event_hash", prevHash),
    ("event_hash", .str (host.sha256 body))]

/-- What the modules raise. -/
inductive Fault where
  | osError
  | typeError
  | keyError
  | valueError
  | attributeError
  deriving DecidableEq

/-- `QueueAuditTrail.append_event`: the record it appends, and none where it returns `False`. -/
def appendEvent (answers : Answers) (eventId directiveId fromState toState workerId : String)
    (payloadSha256 commitSha : Json) : Except Fault (Option Record) :=
  let prevHash := getLastEventHash host answers.auditFile
  if isCorrupted prevHash then .ok none
  else if answers.appended then
    .ok (some (auditRecord host answers eventId directiveId fromState toState workerId payloadSha256 commitSha prevHash))
  else .error .osError

/-! ### The queue file -/

/-- `self.records` -/
abbrev Records := Dict Json.Key Record

/-- The loop of `load_queue`; a line that cannot be used ends it. -/
def loadLines : Records → List (Option Json) → Bool × Records
  | records, [] => (true, records)
  | records, some (.dict rec) :: rest =>
    let did := Record.field rec "directive_id"
    if did.truthy then
      match did.key? with
      | some key => loadLines (records.set key rec) rest
      | none => (false, records)
    else loadLines records rest
  | records, _ :: _ => (false, records)

/-- `load_queue`: its result and the records it leaves. -/
def loadQueue (file : Option String) : Bool × Records :=
  match file with
  | none => (true, [])
  | some content => loadLines [] (Json.readLines host.floats content)

/-- What `save_queue_atomic` writes. -/
def queueText (records : Records) : String := Json.writeLines host.floats (records.map (·.2))

/-- `save_queue_atomic`: the queue file afterwards. -/
def saveQueueAtomic (answers : Answers) (records : Records) (file : Option String) : Option String :=
  if answers.saved then some (queueText host records) else file

/-! ### The calls -/

/-- What a call leaves behind: the records in memory, the queue file, the event it appended, and
its result: none for `(True, None)` and the reason for `(False, reason)`. -/
structure Outcome where
  records : Records
  file : Option String
  event : Option Record
  result : Except Fault (Option String)

/-- A queue and its file. -/
structure Queue where
  records : Records
  file : Option String

/-- A call that changes nothing. -/
def Queue.refuse (q : Queue) (reason : String) : Outcome := ⟨q.records, q.file, none, .ok (some reason)⟩

/-- The end of both calls: save the records, and then append the event. -/
def Queue.conclude (q : Queue) (answers : Answers) (records : Records) (event : Except Fault (Option Record)) : Outcome :=
  let file := saveQueueAtomic host answers records q.file
  if answers.saved then
    match event with
    | .ok event => ⟨records, file, event, .ok none⟩
    | .error fault => ⟨records, file, none, .error fault⟩
  else ⟨records, file, none, .ok (some "QUEUE_SAVE_FAILED")⟩

def newRecord (now directiveId commitSha payloadSha256 signerFp : String) : Record :=
  [("directive_id", .str directiveId), ("authenticated_payload_commit_sha", .str commitSha),
    ("authenticated_payload_sha256", .str payloadSha256), ("authenticated_signer_fingerprint", .str signerFp),
    ("queue_state", .str DirectiveState.queued.value), ("created_at", .str now), ("claimed_at", .null),
    ("completed_at", .null), ("attempt_count", .int 0), ("last_error", .null), ("pre_exec_auth_state", .str "VERIFIED"),
    ("lock_owner", .null)]

/-- `DurableDirectiveQueue.enqueue_directive` -/
def enqueueDirective (answers : Answers) (q : Queue) (directiveId commitSha payloadSha256 signerFp workerId : String) :
    Outcome :=
  if directiveId = "" then q.refuse "MISSING_DIRECTIVE_ID"
  else match q.records.get? (.str directiveId) with
    | some existing =>
      if DirectiveState.terminal.any fun state => (Record.field existing "queue_state").str? = some state.value then
        q.refuse "COMPLETED_DIRECTIVE_REPLAY_REJECTED"
      else q.refuse "DUPLICATE_DIRECTIVE_REJECTED"
    | none =>
      let record := newRecord answers.now directiveId commitSha payloadSha256 signerFp
      q.conclude host answers (q.records.set (.str directiveId) record)
        (appendEvent host answers ("EVT-ENQUEUE-" ++ toString answers.timeNs) directiveId "NONE" DirectiveState.queued.value
          workerId (.str payloadSha256) (.str commitSha))

/-- The payload hash of the caller, if it gives one, is another than the record's. -/
def mutated (rec : Record) (currentPayload : Option String) : Bool :=
  match currentPayload with
  | none => false
  | some hash => hash ≠ "" && (Record.field rec "authenticated_payload_sha256").str? ≠ some hash

/-- `rec.get("lock_owner") and rec.get("lock_owner") != worker_id` -/
def lockedByOther (rec : Record) (workerId : String) : Bool :=
  (Record.field rec "lock_owner").truthy && (Record.field rec "lock_owner").str? ≠ some workerId

/-- What a transition keeps about the claim and the end; `false` where `attempt_count` is no number. -/
def bookkeeping (now workerId : String) (target : DirectiveState) (rec : Record) : Bool × Record :=
  if target = .claimed then
    let record := (rec.set "lock_owner" (.str workerId)).set "claimed_at" (.str now)
    match ((record.get? "attempt_count").getD (.int 0)).increment with
    | some count => (true, record.set "attempt_count" count)
    | none => (false, record)
  else if target ∈ DirectiveState.terminal then
    (true, (rec.set "completed_at" (.str now)).set "lock_owner" .null)
  else (true, rec)

/-- `DurableDirectiveQueue.transition_state` -/
def transitionState (answers : Answers) (q : Queue) (directiveId : String) (target : DirectiveState) (workerId : String)
    (currentPayload : Option String) : Outcome :=
  match q.records.get? (.str directiveId) with
  | none => q.refuse "MISSING_DIRECTIVE_ID"
  | some rec =>
    if rec.isEmpty then q.refuse "MISSING_DIRECTIVE_ID"
    else match DirectiveState.ofValue? (Record.field rec "queue_state") with
      | none => q.refuse "CORRUPTED_QUEUE_STATE"
      | some curr =>
        if curr ∈ DirectiveState.terminal then
          if target = .queued then q.refuse "COMPLETED_TO_QUEUED_REJECTED"
          else q.refuse "TERMINAL_STATE_IMMUTABLE"
        else if target = .claimed ∧ curr = .claimed then q.refuse "CONCURRENT_DOUBLE_CLAIM_REJECTED"
        else if target ∉ curr.validTransitions then q.refuse "INVALID_STATE_TRANSITION_REJECTED"
        else if mutated rec currentPayload then
          let records := q.records.set (.str directiveId) (rec.set "queue_state" (.str DirectiveState.rejected.value))
          ⟨records, saveQueueAtomic host answers records q.file, none, .ok (some "QUEUE_PAYLOAD_MUTATION_REJECTED")⟩
        else if target = .claimed ∧ lockedByOther rec workerId then q.refuse "CONCURRENT_DOUBLE_CLAIM_REJECTED"
        else match bookkeeping answers.now workerId target rec with
          | (false, half) => ⟨q.records.set (.str directiveId) half, q.file, none, .error .typeError⟩
          | (true, kept) =>
            let record := kept.set "queue_state" (.str target.value)
            q.conclude host answers (q.records.set (.str directiveId) record)
              (appendEvent host answers ("EVT-TRANS-" ++ toString answers.timeNs) directiveId curr.value target.value workerId
                (Record.field record "authenticated_payload_sha256") (Record.field record "authenticated_payload_commit_sha"))

/-- One call of a queue. -/
inductive Call where
  | enqueue (directiveId commitSha payloadSha256 signerFp workerId : String)
  | transition (directiveId : String) (target : DirectiveState) (workerId : String) (currentPayload : Option String)

def perform (answers : Answers) (q : Queue) : Call → Outcome
  | .enqueue directiveId commitSha payloadSha256 signerFp workerId =>
    enqueueDirective host answers q directiveId commitSha payloadSha256 signerFp workerId
  | .transition directiveId target workerId currentPayload =>
    transitionState host answers q directiveId target workerId currentPayload

def Call.directiveId : Call → String
  | .enqueue directiveId .. | .transition directiveId .. => directiveId

def Call.workerId : Call → String
  | .enqueue _ _ _ _ workerId | .transition _ _ workerId _ => workerId

end

end ControlPlane.Directive
