import ControlPlane.Data.Json.Loaded
import ControlPlane.Directive.AuditChain
import ControlPlane.Directive.CheckpointOrigins
import ControlPlane.Directive.RetryStorms
import Mathlib.Algebra.BigOperators.Group.List.Basic

/-!
# Safe recovery

`classify_failure` and `execute_safe_recovery` of `recovery_engine.py`. What was executed is
known to one engine; what it recorded is on the ledger for all of them.
-/

namespace ControlPlane.Directive

open ControlPlane.Data ControlPlane.Interleaving

inductive FailureClass where
  | recoverable | unrecoverable
  deriving DecidableEq

inductive RecoveryStatus where
  | continuing | humanRequired | killedByWatchdog
  deriving DecidableEq

/-- What `execute_safe_recovery` returns. -/
structure RecoveryReport where
  executed : Bool
  recoveryState : RecoveryStatus
  humanRequired : Bool
  reason : String
  attemptCount : Option Nat := none
  restoredState : Option Json := none

/-- The event is written, or the call raises with so many characters of its line in the file. -/
inductive Recording where
  | done
  | raises (kept : Nat)

/-- The file is written, or the call raises and it is as it was, or holds this. -/
inductive CheckpointWriting where
  | done
  | refused
  | cut (content : String)

/-- What one call of `execute_safe_recovery` is given, and what it meets. -/
structure RecoveryCall where
  directiveId : String
  errorType : String
  errorMsg : String
  stateVector : List (PyKey × PyValue)
  payloadHash : String
  context : Details
  killswitchActive : Bool
  /-- The clock and the ledger at each event of the call. -/
  eventTime : Nat → Instant
  recording : Nat → Recording
  /-- `time.time()` -/
  now : ℚ
  made : Instant
  writing : CheckpointWriting
  /-- `str(e)`, where the checkpoint cannot be read -/
  readError : Option String
  built : Instant
  later : Instant
  /-- The ledger can be read when it is verified. -/
  ledgerReadable : Bool

structure RecoveryWorld where
  times : RetryTimes
  executedDirectives : Dict String String
  files : CheckpointFiles
  ledger : String
  /-- The events of the call, and which of them are on the ledger. -/
  events : List (RecoveryAudit × Bool)

/-- The functions of the platform on texts. -/
structure RecoveryTexts where
  upper : String → String
  /-- `str(e)` at a line of the ledger -/
  lineError : Option String → Nat → String

/-- An engine's own settings. -/
structure RecoveryConfig where
  settings : RecoverySettings
  limits : RetryLimits

/-- `\x7b"reason": reason\x7d` -/
def reasonDetails (reason : String) : Details := ⟨[("reason", .str reason)], by simp [Dict.Distinct, Dict.keys], trivial, trivial⟩

def unrecoverableKeywords : List String :=
  ["CORRUPT", "TAMPERED", "KILLSWITCH", "UNAUTHORIZED", "REPLAY", "SPLIT_BRAIN", "SIGNATURE_MISMATCH", "CAPABILITY_DENIED",
    "AUDIT_FAIL"]

def recoverableKeywords : List String := ["TIMEOUT", "LOCK_CONTENTION", "TRANSIENT_IO", "TEMPORARY_UNAVAILABLE", "QUEUE_BUSY"]

section

variable (host : RecoveryHost) (texts : RecoveryTexts)

/-- An attribute of the context, in capitals. -/
def contextText (context : Details) (key : String) : String := texts.upper (host.shown ((Dict.get? context.1 key).getD (.str "")))

/-- The context names a service that is out of bounds. -/
def forbiddenMutation (context : Details) : Bool :=
  ["ORACLE", "MICRO", "EXTERNAL"].any (occursIn · (contextText host texts context "target")) ||
    ["STRATEGY", "FINANCIAL"].any (occursIn · (contextText host texts context "action"))

/-- `classify_failure`, but for its event. -/
def classifyFailure (errorType errorMsg : String) (context : Details) : FailureClass × String :=
  if forbiddenMutation host texts context then (.unrecoverable, "EXTERNAL_SERVICE_MUTATION_FORBIDDEN")
  else
    let msgUpper := texts.upper (errorType ++ " " ++ errorMsg)
    match unrecoverableKeywords.find? (occursIn · msgUpper) with
    | some kw => (.unrecoverable, "CRITICAL_FAILURE_" ++ kw)
    | none =>
      match recoverableKeywords.find? (occursIn · msgUpper) with
      | some kw => (.recoverable, "RECOVERABLE_" ++ kw)
      | none => (.unrecoverable, "UNCLASSIFIED_FAILURE_FAIL_CLOSED")

/-- `ledger_msg` -/
def ledgerMessage (ledger : String) : Verdict → String
  | .valid => "INTEGRITY_VALIDATED"
  | .previousMismatch n => s!"CHAIN_BREAK_AT_LINE_{n}"
  | .hashMismatch n => s!"HASH_MISMATCH_AT_LINE_{n}"
  | .unreadable n => s!"PARSE_ERROR_AT_LINE_{n}: {texts.lineError (some ledger) n}"

theorem fromDict_keyed {built : Instant} {content : String} {cp : RecoveryCheckpoint}
    (read : (Json.loads host.floats content).bind (fromDict host built) = some cp) :
    Json.Keyed cp.attemptCount ∧ Json.Keyed cp.stateVector ∧ Json.Keyed cp.payloadHash ∧ Json.Keyed cp.timestamp ∧
      Json.Keyed cp.signature := by
  obtain ⟨v, loaded, made⟩ := Option.bind_eq_some_iff.mp read
  have keyed := Json.loads_keyed loaded
  cases v with
  | dict d =>
    rw [Json.Keyed] at keyed
    have field {k : String} {w : Json} (found : Dict.get? d k = some w) : Json.Keyed w :=
      Json.entriesKeyed_iff.mp keyed.2 _ (Dict.mem_of_get? found)
    have given {v w : Json} (first : Json.Keyed v) (second : Json.Keyed w) : Json.Keyed (if v.truthy = true then v else w) := by
      split
      · exact first
      · exact second
    obtain ⟨directiveId, -, made⟩ := Option.bind_eq_some_iff.mp made
    obtain ⟨attemptCount, counted, made⟩ := Option.bind_eq_some_iff.mp made
    obtain ⟨stateVector, vector, made⟩ := Option.bind_eq_some_iff.mp made
    obtain ⟨payloadHash, hash, made⟩ := Option.bind_eq_some_iff.mp made
    obtain ⟨timestamp, time, made⟩ := Option.bind_eq_some_iff.mp made
    have signature : Json.Keyed ((Dict.get? d "signature").getD (.str "")) := by
      cases found : Dict.get? d "signature" with
      | none => trivial
      | some w => exact field found
    obtain rfl := Option.some.inj made
    exact ⟨field counted, field vector, field hash, given (field time) trivial, given signature trivial⟩
  | _ => cases made

theorem restore_keyed {settings : RecoverySettings} {built later : Instant} {directiveId payloadHash : String} {attemptCount : Int}
    {files : CheckpointFiles} {o : RestoreOutcome}
    (restored : restoreCheckpoint host settings built later directiveId attemptCount payloadHash files = some o) :
    Json.Keyed (.dict o.event.2) ∧ ∀ cp, o.checkpoint = some cp → Json.Keyed cp.stateVector := by
  have one {k : String} {v : Json} (keyed : Json.Keyed v) : Json.Keyed (.dict [(k, v)]) :=
    ⟨by simp [Dict.Distinct, Dict.keys], keyed, trivial⟩
  have two {k k' : String} {v v' : Json} (apart : k ≠ k') (keyed : Json.Keyed v) (keyed' : Json.Keyed v') :
      Json.Keyed (.dict [(k, v), (k', v')]) := ⟨by simp [Dict.Distinct, Dict.keys, apart], keyed, keyed', trivial⟩
  unfold restoreCheckpoint at restored
  split at restored
  · obtain rfl := Option.some.inj restored
    exact ⟨one trivial, fun cp none => by cases none⟩
  · split at restored
    · obtain rfl := Option.some.inj restored
      exact ⟨one trivial, fun cp none => by cases none⟩
    · rename_i cp read
      obtain ⟨count, vector, hash, time, signature⟩ := fromDict_keyed host read
      dsimp only at restored
      split at restored
      · cases restored
      · obtain rfl := Option.some.inj restored
        exact ⟨two (by decide) signature trivial, fun cp none => by cases none⟩
      · obtain rfl := Option.some.inj restored
        unfold restoreSigned
        split
        · exact ⟨two (by decide) trivial hash, fun cp none => by cases none⟩
        · split
          · exact ⟨one trivial, fun cp none => by cases none⟩
          · split
            · exact ⟨two (by decide) time trivial, fun cp none => by cases none⟩
            · exact ⟨two (by decide) count hash, fun cp same => Option.some.inj same ▸ vector⟩

/-- An event of a call, but for its time. -/
def recoveryEvent (eventType : String) (directiveId : Value) (details : Details) (timestamp : String) : RecoveryAudit :=
  ⟨timestamp, ⟨.str eventType, trivial⟩, directiveId, details⟩

def RecoveryCall.id (c : RecoveryCall) : Value := ⟨.str c.directiveId, trivial⟩

theorem getD_keyed (d : Details) (key : String) {v : Json} (keyed : Json.Keyed v) : Json.Keyed ((Dict.get? d.1 key).getD v) := by
  cases found : Dict.get? d.1 key with
  | none => exact keyed
  | some w => exact Json.entriesKeyed_iff.mp d.2.2 _ (Dict.mem_of_get? found)

/-- The event of `classify_failure`. -/
def mutationAttempt (c : RecoveryCall) : String → RecoveryAudit :=
  recoveryEvent "UNAUTHORIZED_EXTERNAL_MUTATION_ATTEMPT"
    ⟨(Dict.get? c.context.1 "directive_id").getD (.str "UNKNOWN"), getD_keyed c.context "directive_id" trivial⟩
    ⟨[("target", .str (contextText host texts c.context "target")), ("action", .str (contextText host texts c.context "action")),
      ("error_msg", .str c.errorMsg)], by simp [Dict.Distinct, Dict.keys], trivial, trivial, trivial, trivial⟩

namespace RecoveryWorld

/-- `record_event`, and whether it returns. -/
def record (w : RecoveryWorld) (c : RecoveryCall) (event : String → RecoveryAudit) : RecoveryWorld × Bool :=
  let e := event (host.isoformat (c.eventTime w.events.length))
  let whole := ((RecoveryAudit.ledger host.toHost).append host.toHost (some w.ledger) e).getD w.ledger
  match c.recording w.events.length with
  | .done => ({ w with ledger := whole, events := w.events ++ [(e, true)] }, true)
  | .raises kept =>
    let there := w.ledger.toList.length + kept
    -- the event can be read once all but the newline is there
    ({ w with ledger := String.ofList (whole.toList.take there), events := w.events ++ [(e, decide (whole.toList.length ≤ there + 1))] }, false)

/-- An event, and then the report. -/
def answer (w : RecoveryWorld) (c : RecoveryCall) (event : String → RecoveryAudit) (report : RecoveryReport) :
    RecoveryWorld × Option RecoveryReport :=
  let (w, recorded) := w.record host c event
  (w, if recorded then some report else none)

end RecoveryWorld

/-- The report of what is left to a human. -/
def escalated (reason : String) : RecoveryReport := ⟨false, .humanRequired, true, reason, none, none⟩

section

variable (config : RecoveryConfig)

/-- Step 7 and step 8. -/
def continueSafely (w : RecoveryWorld) (c : RecoveryCall) (attemptCount : Nat) (restoredState : Value) :
    RecoveryWorld × Option RecoveryReport :=
  if c.ledgerReadable then
    match (RecoveryAudit.ledger host.toHost).verifyIntegrity host.toHost (some w.ledger) with
    | .valid =>
      { w with executedDirectives := w.executedDirectives.set c.directiveId "COMPLETED" }.answer host c
        (recoveryEvent "SAFE_CONTINUATION_AUTHORIZED" c.id ⟨[("attempt_count", .int attemptCount), ("restored_state", restoredState.1)],
          by simp [Dict.Distinct, Dict.keys], trivial, restoredState.2, trivial⟩)
        ⟨true, .continuing, false, "SAFE_CONTINUATION_SUCCESSFUL", some attemptCount, some restoredState.1⟩
    | verdict =>
      w.answer host c (recoveryEvent "AUDIT_LEDGER_CORRUPTED" c.id (reasonDetails (ledgerMessage texts w.ledger verdict)))
        (escalated ("AUDIT_LEDGER_INTEGRITY_FAILED_" ++ ledgerMessage texts w.ledger verdict))
  else (w, none)

/-- `restore_checkpoint` of a file that may not be readable. -/
def readCheckpoint (c : RecoveryCall) (attemptCount : Int) (files : CheckpointFiles) : Option RestoreOutcome :=
  match c.readError with
  | some error => some ⟨none, "CHECKPOINT_CORRUPT_JSON", ("CHECKPOINT_CORRUPTED", [("error", .str error)])⟩
  | none => restoreCheckpoint host config.settings c.built c.later c.directiveId attemptCount c.payloadHash files

theorem readCheckpoint_keyed {c : RecoveryCall} {attemptCount : Int} {files : CheckpointFiles} {o : RestoreOutcome}
    (read : readCheckpoint host config c attemptCount files = some o) :
    Json.Keyed (.dict o.event.2) ∧ ∀ cp, o.checkpoint = some cp → Json.Keyed cp.stateVector := by
  unfold readCheckpoint at read
  split at read
  · obtain rfl := Option.some.inj read
    exact ⟨⟨by simp [Dict.Distinct, Dict.keys], trivial, trivial⟩, fun cp none => by cases none⟩
  · exact restore_keyed host read

/-- Step 6. -/
def restoreSafely (w : RecoveryWorld) (c : RecoveryCall) (attemptCount : Nat) : RecoveryWorld × Option RecoveryReport :=
  match read : readCheckpoint host config c attemptCount w.files with
  | none => (w, none)
  | some o =>
    let (w, recorded) := w.record host c (recoveryEvent o.event.1 c.id ⟨o.event.2, (readCheckpoint_keyed host config read).1⟩)
    if recorded then
      match restored : o.checkpoint with
      | none => (w, some (escalated ("CHECKPOINT_RECOVERY_FAILED_" ++ o.reason)))
      | some cp => continueSafely host texts w c attemptCount ⟨cp.stateVector, (readCheckpoint_keyed host config read).2 cp restored⟩
    else (w, none)

def savedDetails (settings : RecoverySettings) (cp : SavedCheckpoint) : Details :=
  ⟨(savedEvent settings cp).2, by simp [savedEvent, Dict.Distinct, Dict.keys], trivial, trivial, trivial, trivial, trivial⟩

/-- Step 5. -/
def saveSafely (w : RecoveryWorld) (c : RecoveryCall) (attemptCount : Nat) : RecoveryWorld × Option RecoveryReport :=
  match saveCheckpoint host config.settings c.made c.directiveId attemptCount (.dict c.stateVector) c.payloadHash with
  | none => (w, none)
  | some cp =>
    match c.writing with
    | .refused => (w, none)
    | .cut content => ({ w with files := w.files.set (checkpointName c.directiveId attemptCount) content }, none)
    | .done =>
      let (w, recorded) := { w with files := writeCheckpoint host w.files cp }.record host c
        (recoveryEvent (savedEvent config.settings cp).1 c.id (savedDetails config.settings cp))
      if recorded then restoreSafely host texts config w c attemptCount else (w, none)

/-- Step 4. -/
def retrySafely (w : RecoveryWorld) (c : RecoveryCall) : RecoveryWorld × Option RecoveryReport :=
  let attempt (eventTime : String) := attemptRetry config.limits w.times ⟨c.directiveId, c.now, eventTime, true⟩
  let (w', recorded) := { w with times := (attempt "").times }.record host c fun t => (attempt t).event
  match recorded, (attempt "").answer with
  | true, some a => if a.authorized then saveSafely host texts config w' c a.attemptCount else (w', some (escalated a.reason))
  | _, _ => (w', none)

/-- `execute_safe_recovery` -/
def executeSafeRecovery (w : RecoveryWorld) (c : RecoveryCall) : RecoveryWorld × Option RecoveryReport :=
  if c.killswitchActive then
    w.answer host c (recoveryEvent "RECOVERY_BLOCKED_BY_KILLSWITCH" c.id (reasonDetails "KILLSWITCH_ACTIVE"))
      ⟨false, .killedByWatchdog, true, "KILLSWITCH_ACTIVE_SUPREME_AUTHORITY", none, none⟩
  else if w.executedDirectives.get? c.directiveId = some "COMPLETED" then
    w.answer host c (recoveryEvent "DUPLICATE_EXECUTION_BLOCKED" c.id (reasonDetails "ALREADY_COMPLETED"))
      (escalated "DUPLICATE_EXECUTION_ATTEMPT_REJECTED")
  else
    let (w, recorded) := if forbiddenMutation host texts c.context then w.record host c (mutationAttempt host texts c) else (w, true)
    if recorded then
      match classifyFailure host texts c.errorType c.errorMsg c.context with
      | (.unrecoverable, reason) =>
        w.answer host c (recoveryEvent "UNRECOVERABLE_FAILURE_ESCALATED" c.id (reasonDetails reason)) (escalated reason)
      | (.recoverable, _) => retrySafely host texts config w c
    else (w, none)

end

/-- One engine with what it finds on disk. -/
structure RecoveryEngine where
  config : RecoveryConfig
  world : RecoveryWorld

/-- A call with its report and its events, or a new engine. -/
inductive RecoveryLabel where
  | called (c : RecoveryCall) (report : Option RecoveryReport) (events : List (RecoveryAudit × Bool))
  | restarted

/-- Whatever ends in the middle of a call is a call that raises, and then a restart. -/
inductive RecoveryStep : RecoveryEngine → RecoveryLabel → RecoveryEngine → Prop
  | call {s : RecoveryEngine} (c : RecoveryCall) {w : RecoveryWorld} {report : Option RecoveryReport}
      (ran : executeSafeRecovery host texts s.config { s.world with events := [] } c = (w, report)) :
      RecoveryStep s (.called c report w.events) ⟨s.config, w⟩
  | restart {s : RecoveryEngine} (config : RecoveryConfig) :
      RecoveryStep s .restarted ⟨config, { s.world with times := [], executedDirectives := [] }⟩

abbrev RecoveryHistory (first : RecoveryConfig) (files : CheckpointFiles) (ledger : String) :=
  History (RecoveryStep host texts) ⟨first, [], [], files, ledger, []⟩

/-- The call passes the switch, the guard, the classification and the limit of retries. -/
def Proceeds (s : RecoveryEngine) (c : RecoveryCall) : Prop :=
  c.killswitchActive = false ∧ s.world.executedDirectives.get? c.directiveId ≠ some "COMPLETED" ∧
    (classifyFailure host texts c.errorType c.errorMsg c.context).1 = .recoverable ∧
      ∃ a, (attemptRetry s.config.limits s.world.times ⟨c.directiveId, c.now, "", true⟩).answer = some a ∧ a.authorized = true

end

abbrev RecoveryRun := List (Transition RecoveryEngine RecoveryLabel)

/-- `SAFE_CONTINUATION_AUTHORIZED` for a directive. -/
def isContinuation (d : String) (e : RecoveryAudit) : Bool :=
  e.eventType.1.str? = some "SAFE_CONTINUATION_AUTHORIZED" ∧ e.directiveId.1.str? = some d

namespace RecoveryLabel

/-- The call returned `executed = True`. -/
def executed (d : String) : RecoveryLabel → Bool
  | called c (some report) _ => c.directiveId = d ∧ report.executed
  | _ => false

/-- The continuations of the directive that it put on the ledger. -/
def continuations (d : String) : RecoveryLabel → Nat
  | called _ _ events => events.countP fun e => e.2 && isContinuation d e.1
  | restarted => 0

end RecoveryLabel

/-- Each directive is executed once at most, and the ledger holds one continuation of it at most. -/
def AtMostOneContinuation (past : RecoveryRun) : Prop :=
  ∀ d, past.countP (fun t => t.label.executed d) ≤ 1 ∧ (past.map fun t => t.label.continuations d).sum ≤ 1

/-- No call proceeds for a directive that was continued before. -/
def ContinuesOnce (host : RecoveryHost) (texts : RecoveryTexts) (past : RecoveryRun) : Prop :=
  ∀ later t earlier, past = later ++ t :: earlier → ∀ c report events, t.label = .called c report events → Proceeds host texts t.before c →
    ∀ u ∈ earlier, u.label.executed c.directiveId = false ∧ u.label.continuations c.directiveId = 0

section

variable {host : RecoveryHost} {texts : RecoveryTexts} {config : RecoveryConfig} {w w' : RecoveryWorld} {c : RecoveryCall}
  {event : String → RecoveryAudit} {report : RecoveryReport} {res : RecoveryWorld × Option RecoveryReport}

/-! ### One call -/

/-- No event is a continuation. -/
def Quiet (events : List (RecoveryAudit × Bool)) : Prop := ∀ e ∈ events, e.1.eventType.1.str? ≠ some "SAFE_CONTINUATION_AUTHORIZED"

/-- Nothing was executed. -/
def Still (w : RecoveryWorld) (res : RecoveryWorld × Option RecoveryReport) : Prop :=
  ∃ added, res.1.events = w.events ++ added ∧ Quiet added ∧ ∀ r, res.2 = some r → r.executed = false

/-- The last event is of the call's directive, and no other is a continuation. -/
def Continued (c : RecoveryCall) (w : RecoveryWorld) (res : RecoveryWorld × Option RecoveryReport) : Prop :=
  ∃ added e, res.1.events = w.events ++ (added ++ [e]) ∧ Quiet added ∧ e.1.directiveId = c.id

theorem record_events (host : RecoveryHost) (w : RecoveryWorld) (c : RecoveryCall) (event : String → RecoveryAudit) :
    ∃ t b, (w.record host c event).1.events = w.events ++ [(event t, b)] := by
  unfold RecoveryWorld.record
  dsimp only
  split
  · exact ⟨_, _, rfl⟩
  · exact ⟨_, _, rfl⟩

theorem answer_still (quiet : ∀ t, (event t).eventType.1.str? ≠ some "SAFE_CONTINUATION_AUTHORIZED") (idle : report.executed = false) :
    Still w (w.answer host c event report) := by
  obtain ⟨t, b, added⟩ := record_events host w c event
  refine ⟨_, added, fun e member => ?_, fun r returned => ?_⟩
  · rw [List.mem_singleton.mp member]
    exact quiet t
  · unfold RecoveryWorld.answer at returned
    dsimp only at returned
    split at returned
    · rw [← Option.some.inj returned]
      exact idle
    · cases returned

theorem Still.of_events (still : Still w' res) (same : ∃ added, w'.events = w.events ++ added ∧ Quiet added) : Still w res := by
  obtain ⟨more, events, quiet, idle⟩ := still
  obtain ⟨added, before, calm⟩ := same
  refine ⟨added ++ more, by rw [events, before, List.append_assoc], fun e member => ?_, idle⟩
  rcases List.mem_append.mp member with first | second
  · exact calm e first
  · exact quiet e second

theorem Continued.of_events (continued : Continued c w' res) (same : ∃ added, w'.events = w.events ++ added ∧ Quiet added) :
    Continued c w res := by
  obtain ⟨more, e, events, quiet, named⟩ := continued
  obtain ⟨added, before, calm⟩ := same
  refine ⟨added ++ more, e, by rw [events, before, List.append_assoc, List.append_assoc], fun e member => ?_, named⟩
  rcases List.mem_append.mp member with first | second
  · exact calm e first
  · exact quiet e second

theorem still_none (same : ∃ added, w'.events = w.events ++ added ∧ Quiet added) : Still w (w', none) := by
  obtain ⟨added, events, quiet⟩ := same
  exact ⟨added, events, quiet, fun r none => by cases none⟩

theorem quiet_nil (w : RecoveryWorld) : ∃ added, w.events = w.events ++ added ∧ Quiet added :=
  ⟨[], (List.append_nil _).symm, fun e member => by cases member⟩

theorem recoveryEvent_quiet {eventType : String} {directiveId : Value} {details : Details}
    (other : eventType ≠ "SAFE_CONTINUATION_AUTHORIZED") (t : String) :
    (recoveryEvent eventType directiveId details t).eventType.1.str? ≠ some "SAFE_CONTINUATION_AUTHORIZED" :=
  fun same => other (Option.some.inj same)

theorem record_quiet (w : RecoveryWorld) (quiet : ∀ t, (event t).eventType.1.str? ≠ some "SAFE_CONTINUATION_AUTHORIZED") :
    ∃ added, (w.record host c event).1.events = w.events ++ added ∧ Quiet added := by
  obtain ⟨t, b, events⟩ := record_events host w c event
  refine ⟨_, events, fun e member => ?_⟩
  rw [List.mem_singleton.mp member]
  exact quiet t

theorem continueSafely_outcome (attemptCount : Nat) (restoredState : Value) :
    Still w (continueSafely host texts w c attemptCount restoredState) ∨
      Continued c w (continueSafely host texts w c attemptCount restoredState) := by
  unfold continueSafely
  split
  · split
    · right
      obtain ⟨t, b, events⟩ := record_events host
        { w with executedDirectives := w.executedDirectives.set c.directiveId "COMPLETED" } c _
      exact ⟨[], _, events, (fun e member => by cases member), rfl⟩
    · exact .inl (answer_still (recoveryEvent_quiet (by decide)) rfl)
  · exact .inl (still_none (quiet_nil w))

theorem restore_type {settings : RecoverySettings} {built later : Instant} {directiveId payloadHash : String} {attemptCount : Int}
    {files : CheckpointFiles} {o : RestoreOutcome}
    (restored : restoreCheckpoint host settings built later directiveId attemptCount payloadHash files = some o) :
    o.event.1 ≠ "SAFE_CONTINUATION_AUTHORIZED" := by
  unfold restoreCheckpoint at restored
  split at restored
  · obtain rfl := Option.some.inj restored
    simp
  · split at restored
    · obtain rfl := Option.some.inj restored
      simp
    · dsimp only at restored
      split at restored
      · cases restored
      · obtain rfl := Option.some.inj restored
        simp
      · obtain rfl := Option.some.inj restored
        unfold restoreSigned
        split
        · simp
        · split
          · simp
          · split
            · simp
            · simp

theorem readCheckpoint_type {attemptCount : Int} {files : CheckpointFiles} {o : RestoreOutcome}
    (read : readCheckpoint host config c attemptCount files = some o) : o.event.1 ≠ "SAFE_CONTINUATION_AUTHORIZED" := by
  unfold readCheckpoint at read
  split at read
  · obtain rfl := Option.some.inj read
    simp
  · exact restore_type read

theorem restoreSafely_outcome (attemptCount : Nat) :
    Still w (restoreSafely host texts config w c attemptCount) ∨ Continued c w (restoreSafely host texts config w c attemptCount) := by
  unfold restoreSafely
  split
  · exact .inl (still_none (quiet_nil w))
  · rename_i o read
    dsimp only
    have quiet : ∃ added, (w.record host c (recoveryEvent o.event.1 c.id ⟨o.event.2, (readCheckpoint_keyed host config read).1⟩)).1.events =
        w.events ++ added ∧ Quiet added := record_quiet w (recoveryEvent_quiet (readCheckpoint_type read))
    split
    · split
      · exact .inl (Still.of_events ⟨[], (List.append_nil _).symm, (fun e member => by cases member), fun r same => by
          rw [← Option.some.inj same]
          rfl⟩ quiet)
      · rcases continueSafely_outcome attemptCount _ with still | continued
        · exact .inl (still.of_events quiet)
        · exact .inr (continued.of_events quiet)
    · exact .inl (still_none quiet)

theorem saveSafely_outcome (attemptCount : Nat) :
    Still w (saveSafely host texts config w c attemptCount) ∨ Continued c w (saveSafely host texts config w c attemptCount) := by
  unfold saveSafely
  split
  · exact .inl (still_none (quiet_nil w))
  · rename_i cp saved
    split
    · exact .inl (still_none (quiet_nil w))
    · exact .inl (still_none (quiet_nil w))
    · dsimp only
      have quiet : ∃ added, ({ w with files := writeCheckpoint host w.files cp }.record host c
          (recoveryEvent (savedEvent config.settings cp).1 c.id (savedDetails config.settings cp))).1.events = w.events ++ added ∧ Quiet added :=
        record_quiet { w with files := writeCheckpoint host w.files cp } (recoveryEvent_quiet (by simp [savedEvent]))
      split
      · rcases restoreSafely_outcome attemptCount with still | continued
        · exact .inl (still.of_events quiet)
        · exact .inr (continued.of_events quiet)
      · exact .inl (still_none quiet)

theorem attemptRetry_quiet {limits : RetryLimits} {times : RetryTimes} (call : RetryCall) :
    (attemptRetry limits times call).event.eventType.1.str? ≠ some "SAFE_CONTINUATION_AUTHORIZED" := by
  unfold attemptRetry
  dsimp only
  split
  · exact fun same => absurd (Option.some.inj same) (by decide)
  · exact fun same => absurd (Option.some.inj same) (by decide)

theorem retrySafely_outcome {P : Prop} (proceeds : (∃ a, (attemptRetry config.limits w.times ⟨c.directiveId, c.now, "", true⟩).answer = some a ∧
      a.authorized = true) → P) :
    Still w (retrySafely host texts config w c) ∨ P ∧ Continued c w (retrySafely host texts config w c) := by
  unfold retrySafely
  dsimp only
  have quiet : ∃ added, ({ w with times := (attemptRetry config.limits w.times ⟨c.directiveId, c.now, "", true⟩).times }.record host c
      fun t => (attemptRetry config.limits w.times ⟨c.directiveId, c.now, t, true⟩).event).1.events = w.events ++ added ∧ Quiet added :=
    record_quiet { w with times := (attemptRetry config.limits w.times ⟨c.directiveId, c.now, "", true⟩).times }
      fun t => attemptRetry_quiet ⟨c.directiveId, c.now, t, true⟩
  split
  · rename_i a recorded answered
    split
    · rename_i authorized
      rcases saveSafely_outcome a.attemptCount with still | continued
      · exact .inl (still.of_events quiet)
      · exact .inr ⟨proceeds ⟨a, answered, authorized⟩, continued.of_events quiet⟩
    · refine .inl (Still.of_events ⟨[], (List.append_nil _).symm, (fun e member => by cases member), fun r same => ?_⟩ quiet)
      rw [← Option.some.inj same]
      rfl
  · exact .inl (still_none quiet)

/-- A call does nothing but tell of it unless it proceeds. -/
theorem execute_outcome (s : RecoveryEngine) (c : RecoveryCall) :
    Still { s.world with events := [] } (executeSafeRecovery host texts s.config { s.world with events := [] } c) ∨
      Proceeds host texts s c ∧
        Continued c { s.world with events := [] } (executeSafeRecovery host texts s.config { s.world with events := [] } c) := by
  unfold executeSafeRecovery
  split
  · exact .inl (answer_still (recoveryEvent_quiet (by decide)) rfl)
  rename_i alive
  split
  · exact .inl (answer_still (recoveryEvent_quiet (by decide)) rfl)
  rename_i fresh
  by_cases forbidden : forbiddenMutation host texts c.context = true
  · have unrecoverable : classifyFailure host texts c.errorType c.errorMsg c.context =
        (.unrecoverable, "EXTERNAL_SERVICE_MUTATION_FORBIDDEN") := if_pos forbidden
    rw [if_pos forbidden, unrecoverable]
    dsimp only
    have quiet : ∃ added, ({ s.world with events := [] }.record host c (mutationAttempt host texts c)).1.events = [] ++ added ∧ Quiet added :=
      record_quiet { s.world with events := [] } (recoveryEvent_quiet (by decide))
    split
    · exact .inl (Still.of_events (answer_still (recoveryEvent_quiet (by decide)) rfl) quiet)
    · exact .inl (still_none quiet)
  · rw [if_neg forbidden]
    dsimp only
    rw [if_pos rfl]
    split
    · exact .inl (answer_still (recoveryEvent_quiet (by decide)) rfl)
    · rename_i reason recoverable
      refine retrySafely_outcome fun authorized => ⟨?_, fresh, ?_, authorized⟩
      · exact Bool.not_eq_true _ ▸ alive
      · rw [recoverable]

/-! ### A call that is executed -/

/-- The ledger is what was recorded, whole. -/
def Recorded (host : RecoveryHost) (ledger : String) : Prop :=
  ∃ events : List RecoveryAudit, (RecoveryAudit.ledger host.toHost).written host.toHost events = some ledger

/-- Nothing is in the way. -/
structure Unhindered (c : RecoveryCall) : Prop where
  recording : ∀ n, c.recording n = .done
  writing : c.writing = .done
  readable : c.readError = none
  ledgerReadable : c.ledgerReadable = true

theorem Recorded.append {ledger : String} (recorded : Recorded host ledger) (e : RecoveryAudit) :
    Recorded host (((RecoveryAudit.ledger host.toHost).append host.toHost (some ledger) e).getD ledger) := by
  obtain ⟨es, whole⟩ := recorded
  let more : List RecoveryAudit := es ++ [e]
  have appended : (RecoveryAudit.ledger host.toHost).written host.toHost more =
      (RecoveryAudit.ledger host.toHost).append host.toHost (some ledger) e := by
    rw [← whole]
    exact List.foldl_append
  refine ⟨more, ?_⟩
  rw [appended]
  unfold Ledger.append
  split
  · rfl
  · rfl

theorem record_done (unhindered : Unhindered c) (recorded : Recorded host w.ledger) (event : String → RecoveryAudit) :
    ∃ ledger events, Recorded host ledger ∧ w.record host c event = ({ w with ledger := ledger, events := events }, true) := by
  unfold RecoveryWorld.record
  dsimp only
  rw [unhindered.recording]
  exact ⟨_, _, recorded.append _, rfl⟩

theorem continueSafely_done (unhindered : Unhindered c) (recorded : Recorded host w.ledger) (attemptCount : Nat) (restoredState : Value) :
    ∃ w' r, continueSafely host texts w c attemptCount restoredState = (w', some r) ∧ r.executed = true ∧ Recorded host w'.ledger := by
  have valid : (RecoveryAudit.ledger host.toHost).verifyIntegrity host.toHost (some w.ledger) = .valid := by
    obtain ⟨es, whole⟩ := recorded
    rw [← whole]
    exact Ledger.verify_written (RecoveryAudit.sound host.toHost) es
  unfold continueSafely
  rw [if_pos unhindered.ledgerReadable, valid]
  dsimp only
  have kept : Recorded host { w with executedDirectives := w.executedDirectives.set c.directiveId "COMPLETED" }.ledger := recorded
  obtain ⟨ledger, events, after, done⟩ := record_done unhindered kept
    (recoveryEvent "SAFE_CONTINUATION_AUTHORIZED" c.id ⟨[("attempt_count", .int attemptCount), ("restored_state", restoredState.1)],
      by simp [Dict.Distinct, Dict.keys], trivial, restoredState.2, trivial⟩)
  unfold RecoveryWorld.answer
  rw [done]
  exact ⟨_, _, rfl, rfl, after⟩

theorem restoreSafely_done (unhindered : Unhindered c) (recorded : Recorded host w.ledger) {attemptCount : Nat} {cp : RecoveryCheckpoint}
    {reason : String} {told : RecoveryEvent} (restored : restoreCheckpoint host config.settings c.built c.later c.directiveId attemptCount
      c.payloadHash w.files = some ⟨some cp, reason, told⟩) :
    ∃ w' r, restoreSafely host texts config w c attemptCount = (w', some r) ∧ r.executed = true ∧ Recorded host w'.ledger := by
  have found : readCheckpoint host config c attemptCount w.files = some ⟨some cp, reason, told⟩ := by
    unfold readCheckpoint
    rw [unhindered.readable]
    exact restored
  unfold restoreSafely
  split
  · rename_i none
    rw [found] at none
    cases none
  · rename_i o read
    obtain ⟨ledger, events, after, done⟩ := record_done unhindered recorded
      (recoveryEvent o.event.1 c.id ⟨o.event.2, (readCheckpoint_keyed host config read).1⟩)
    rw [done]
    dsimp only
    rw [if_pos rfl]
    split
    · rename_i none
      rw [← Option.some.inj (found.symm.trans read)] at none
      cases none
    · have kept : Recorded host { w with ledger := ledger, events := events }.ledger := after
      exact continueSafely_done unhindered kept attemptCount _

theorem saveSafely_done (unhindered : Unhindered c) (recorded : Recorded host w.ledger) {attemptCount : Nat} {cp : SavedCheckpoint}
    (saved : saveCheckpoint host config.settings c.made c.directiveId attemptCount (.dict c.stateVector) c.payloadHash = some cp)
    (ordered : (PyValue.dict c.stateVector).InOrder host.floats.repr host.order)
    (soon : c.later.val - c.made.val ≤ config.settings.checkpointMaxAgeSeconds * 1000000) :
    ∃ w' r, saveSafely host texts config w c attemptCount = (w', some r) ∧ r.executed = true ∧ Recorded host w'.ledger := by
  unfold saveSafely
  rw [saved]
  dsimp only
  rw [unhindered.writing]
  dsimp only
  have kept : Recorded host { w with files := writeCheckpoint host w.files cp }.ledger := recorded
  obtain ⟨ledger, events, after, done⟩ := record_done unhindered kept
    (recoveryEvent (savedEvent config.settings cp).1 c.id (savedDetails config.settings cp))
  rw [done]
  dsimp only
  rw [if_pos rfl]
  obtain ⟨vector, written, made⟩ := Option.map_eq_some_iff.mp saved
  have named : cp.directiveId = c.directiveId ∧ cp.attemptCount = attemptCount ∧ cp.payloadHash = c.payloadHash ∧
      cp.stateVector = .dict c.stateVector := by
    rw [← made]
    exact ⟨rfl, rfl, rfl, rfl⟩
  have found : (writeCheckpoint host w.files cp).get? (checkpointName c.directiveId attemptCount) = some (checkpointText host cp) := by
    rw [← named.1, ← named.2.1]
    exact Dict.get?_set_self
  have same := (sameVector_iff saved).mpr (named.2.2.2 ▸ ordered)
  have restored : restoreCheckpoint host config.settings c.built c.later c.directiveId attemptCount cp.payloadHash
      (writeCheckpoint host w.files cp) = _ := restore_copied saved soon found
  rw [if_pos (signature_fits saved same), named.2.2.1] at restored
  have there : Recorded host { w with files := writeCheckpoint host w.files cp, ledger := ledger, events := events }.ledger := after
  exact restoreSafely_done unhindered there restored

/-- A recoverable failure is executed where nothing is in the way. -/
theorem execute_done (unhindered : Unhindered c) (recorded : Recorded host w.ledger) (alive : c.killswitchActive = false)
    (fresh : w.executedDirectives.get? c.directiveId ≠ some "COMPLETED") {reason : String}
    (recoverable : classifyFailure host texts c.errorType c.errorMsg c.context = (.recoverable, reason))
    (permitted : forbiddenMutation host texts c.context = false) {a : RetryAnswer}
    (retried : (attemptRetry config.limits w.times ⟨c.directiveId, c.now, "", true⟩).answer = some a) (authorized : a.authorized = true)
    {cp : SavedCheckpoint}
    (saved : saveCheckpoint host config.settings c.made c.directiveId a.attemptCount (.dict c.stateVector) c.payloadHash = some cp)
    (ordered : (PyValue.dict c.stateVector).InOrder host.floats.repr host.order)
    (soon : c.later.val - c.made.val ≤ config.settings.checkpointMaxAgeSeconds * 1000000) :
    ∃ w' r, executeSafeRecovery host texts config w c = (w', some r) ∧ r.executed = true ∧ Recorded host w'.ledger := by
  unfold executeSafeRecovery
  rw [alive, permitted, if_neg Bool.false_ne_true, if_neg fresh, if_neg Bool.false_ne_true]
  dsimp only
  rw [if_pos rfl, recoverable]
  dsimp only
  unfold retrySafely
  dsimp only
  have kept : Recorded host { w with times := (attemptRetry config.limits w.times ⟨c.directiveId, c.now, "", true⟩).times }.ledger := recorded
  obtain ⟨ledger, events, after, done⟩ := record_done unhindered kept
    fun t => (attemptRetry config.limits w.times ⟨c.directiveId, c.now, t, true⟩).event
  rw [done, retried]
  dsimp only
  rw [if_pos authorized]
  exact saveSafely_done unhindered after saved ordered soon

/-! ### Runs -/

theorem Quiet.none {events : List (RecoveryAudit × Bool)} (quiet : Quiet events) (d : String) :
    events.countP (fun e => e.2 && isContinuation d e.1) = 0 := by
  refine List.countP_eq_zero.mpr fun e member found => ?_
  have named := (of_decide_eq_true (Bool.and_eq_true_iff.mp found).2).1
  exact quiet e member named

variable {s s' : RecoveryEngine} {l : RecoveryLabel}

/-- A step continues one directive at most, once, and only if it proceeds. -/
theorem RecoveryStep.continues (taken : RecoveryStep host texts s l s') (d : String) :
    l.continuations d ≤ 1 ∧ (l.executed d = true ∨ 0 < l.continuations d →
      ∃ c report events, l = .called c report events ∧ c.directiveId = d ∧ Proceeds host texts s c) := by
  cases taken with
  | restart => exact ⟨Nat.zero_le 1, fun continued => by rcases continued with none | none <;> cases none⟩
  | @call c w report ran =>
    rcases ran ▸ execute_outcome s c with ⟨added, events, quiet, idle⟩ | ⟨proceeds, added, e, events, quiet, named⟩
    · have none : (RecoveryLabel.called c report w.events).continuations d = 0 := by
        unfold RecoveryLabel.continuations
        rw [events]
        exact quiet.none d
      refine ⟨by omega, fun continued => ?_⟩
      rcases continued with executed | counted
      · cases report with
        | none => cases executed
        | some r =>
          have ran := (of_decide_eq_true executed).2
          rw [idle r rfl] at ran
          cases ran
      · omega
    · have count : (RecoveryLabel.called c report w.events).continuations d = if e.2 && isContinuation d e.1 then 1 else 0 := by
        unfold RecoveryLabel.continuations
        rw [events]
        simp only [List.nil_append, List.countP_append, quiet.none d, List.countP_singleton, Nat.zero_add]
      refine ⟨by rw [count]; split <;> omega, fun continued => ⟨c, report, _, rfl, ?_, proceeds⟩⟩
      rcases continued with executed | counted
      · cases report with
        | none => cases executed
        | some r => exact (of_decide_eq_true executed).1
      · rw [count] at counted
        split at counted
        · rename_i found
          have own := (of_decide_eq_true (Bool.and_eq_true_iff.mp found).2).2
          rw [named] at own
          exact Option.some.inj own
        · omega

theorem ContinuesOnce.rest {past : RecoveryRun} {t : Transition RecoveryEngine RecoveryLabel} (once : ContinuesOnce host texts (t :: past)) :
    ContinuesOnce host texts past :=
  fun later u earlier whole => once (t :: later) u earlier (congrArg (t :: ·) whole)

/-- Where no call proceeds for a directive that was continued, none is continued twice. -/
theorem at_most_one_continuation {first : RecoveryConfig} {files : CheckpointFiles} {ledger : String} {past : RecoveryRun}
    (history : RecoveryHistory host texts first files ledger past s) (once : ContinuesOnce host texts past) : AtMostOneContinuation past := by
  induction history with
  | start => exact fun d => ⟨Nat.zero_le 1, Nat.zero_le 1⟩
  | @step past s l s' history taken ih =>
    intro d
    obtain ⟨executed, continued⟩ := ih once.rest d
    obtain ⟨single, proceeds⟩ := taken.continues d
    rw [List.countP_cons, List.map_cons, List.sum_cons]
    dsimp only
    by_cases active : l.executed d = true ∨ 0 < l.continuations d
    · obtain ⟨c, report, events, label, own, goes⟩ := proceeds active
      have before := once [] _ past rfl c report events label goes
      rw [own] at before
      have never : past.countP (fun t => t.label.executed d) = 0 :=
        List.countP_eq_zero.mpr fun u member ran => by rw [(before u member).1] at ran; cases ran
      have silent : (past.map fun t => t.label.continuations d).sum = 0 :=
        List.sum_eq_zero fun n member => by
          obtain ⟨u, inside, rfl⟩ := List.mem_map.mp member
          exact (before u inside).2
      rw [never, silent]
      exact ⟨by split <;> omega, by omega⟩
    · have idle : ¬ l.executed d = true := fun ran => active (.inl ran)
      rw [if_neg idle]
      exact ⟨executed, by omega⟩

/-! ### Two engines -/

/-- `str.upper` of ASCII. -/
def plainTexts : RecoveryTexts := ⟨fun s => String.ofList (s.toList.map Char.toUpper), fun _ _ => ""⟩

def plainConfig : RecoveryConfig := ⟨plainSettings, 3, 60⟩

theorem keyed_nil : Json.Keyed (.dict []) :=
  ⟨List.nodup_nil, trivial⟩

/-- A timeout, with nothing in the way. -/
def timeoutCall : RecoveryCall where
  directiveId := "DIR-1"
  errorType := "TIMEOUT_ERROR"
  errorMsg := "Transient timeout"
  stateVector := stepVector
  payloadHash := "h1"
  context := ⟨[], keyed_nil⟩
  killswitchActive := false
  eventTime _ := newYear
  recording _ := .done
  now := 1767225600
  made := newYear
  writing := .done
  readError := none
  built := newYear
  later := newYear
  ledgerReadable := true

theorem timeout_unhindered : Unhindered timeoutCall := ⟨fun _ => rfl, rfl, rfl, rfl⟩

theorem timeout_recoverable : classifyFailure plainRecovery plainTexts "TIMEOUT_ERROR" "Transient timeout" timeoutCall.context =
      (.recoverable, "RECOVERABLE_TIMEOUT") ∧ forbiddenMutation plainRecovery plainTexts timeoutCall.context = false := by
  decide +kernel

/-- A new engine executes it. -/
theorem timeout_executed {files : CheckpointFiles} {ledger : String} (recorded : Recorded plainRecovery ledger) :
    ∃ w' r, executeSafeRecovery plainRecovery plainTexts plainConfig ⟨[], [], files, ledger, []⟩ timeoutCall = (w', some r) ∧
      r.executed = true ∧ Recorded plainRecovery w'.ledger := by
  have retried : (attemptRetry plainConfig.limits [] ⟨timeoutCall.directiveId, timeoutCall.now, "", true⟩).answer =
      some ⟨true, 1, "RETRY_AUTHORIZED"⟩ := by decide +kernel
  have fresh : (Dict.get? ([] : Dict String String) timeoutCall.directiveId) ≠ some "COMPLETED" := by decide
  exact execute_done (w := ⟨[], [], files, ledger, []⟩) timeout_unhindered recorded rfl fresh timeout_recoverable.1 timeout_recoverable.2 retried rfl step_saved
    step_ordered (by decide)

theorem recorded_nothing : Recorded plainRecovery "" := ⟨[], rfl⟩

theorem executed_timeout {r : RecoveryReport} {events : List (RecoveryAudit × Bool)} (executed : r.executed = true) :
    (RecoveryLabel.called timeoutCall (some r) events).executed "DIR-1" = true := decide_eq_true ⟨rfl, executed⟩

/-- The second engine knows nothing of what the first executed. -/
theorem continuation_repeated : ∃ past s, RecoveryHistory plainRecovery plainTexts plainConfig [] "" past s ∧ ¬ AtMostOneContinuation past := by
  obtain ⟨w, r, ran, executed, recorded⟩ := @timeout_executed [] "" recorded_nothing
  obtain ⟨w', r', ran', executed', -⟩ := @timeout_executed w.files w.ledger recorded
  have history : RecoveryHistory plainRecovery plainTexts plainConfig [] "" _ _ :=
    ((History.start.step (.call timeoutCall ran)).step (.restart plainConfig)).step (.call timeoutCall ran')
  refine ⟨_, _, history, fun once => ?_⟩
  have twice := (once "DIR-1").1
  rw [List.countP_cons, List.countP_cons, List.countP_cons, if_pos (executed_timeout executed'), if_pos (executed_timeout executed)] at twice
  omega

/-- One call, and a new engine. -/
theorem continuation_single : ∃ past s, RecoveryHistory plainRecovery plainTexts plainConfig [] "" past s ∧
    (∃ t ∈ past, t.label.executed "DIR-1" = true) ∧ AtMostOneContinuation past := by
  obtain ⟨w, r, ran, executed, -⟩ := @timeout_executed [] "" recorded_nothing
  have history : RecoveryHistory plainRecovery plainTexts plainConfig [] "" _ _ :=
    (History.start.step (.call timeoutCall ran)).step (.restart plainConfig)
  refine ⟨_, _, history, ⟨_, List.mem_cons_of_mem _ List.mem_cons_self, executed_timeout executed⟩,
    at_most_one_continuation history ?_⟩
  intro later t earlier whole c report events label proceeds u member
  rcases List.cons_eq_append_iff.mp whole with ⟨rfl, same⟩ | ⟨later', rfl, rest⟩
  · rw [(List.cons.inj same).1] at label
    cases label
  · rcases List.cons_eq_append_iff.mp rest with ⟨rfl, same⟩ | ⟨later'', rfl, rest'⟩
    · rw [(List.cons.inj same).2] at member
      cases member
    · cases List.append_eq_nil_iff.mp rest'.symm with
      | intro _ impossible => cases impossible

end

end ControlPlane.Directive
