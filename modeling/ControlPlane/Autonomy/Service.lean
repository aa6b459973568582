import ControlPlane.Autonomy.Clean
import ControlPlane.Data.Check
import Mathlib.Algebra.Order.Field.Rat
import Mathlib.Data.List.Infix
import Mathlib.Tactic.Ring

/-!
# The service host

`service.py`: the loop around `run_once`, the health row it keeps in the store of the runtime, and
its backoff. The health writes go to the database whose locks are the failures, also those that the
handlers make.
-/

namespace ControlPlane.Autonomy.Service

open ControlPlane.Data

/-- An exception, as `run` tells them apart. -/
inductive Failure where
  | integrityBlocked
  | blocked
  | timeout
  /-- `sqlite3.OperationalError` with its text -/
  | operational (text : String)
  /-- another `sqlite3.DatabaseError` -/
  | database (name : String)
  | other (name : String)
  deriving DecidableEq

/-- `type(exc).__name__` -/
def Failure.name : Failure → String
  | integrityBlocked => "IntegrityBlockedError"
  | blocked => "BlockedError"
  | timeout => "TimeoutError"
  | operational _ => "OperationalError"
  | database name | other name => name

inductive ServiceState where
  | starting | running | idle | backoff | blocked | integrityBlocked | stopping | stopped | crashed
  deriving DecidableEq

/-- The numbers of a configuration that was loaded, within the bounds that `load` checks. -/
structure ServiceConfig where
  cadenceSeconds : ℚ
  backoffInitialSeconds : ℚ
  backoffMaxSeconds : ℚ
  backoffMultiplier : ℚ
  maxConsecutiveTransientFailures : Nat
  cadence : 1 / 100 ≤ cadenceSeconds ∧ cadenceSeconds ≤ 3600
  initial : 1 / 100 ≤ backoffInitialSeconds ∧ backoffInitialSeconds ≤ 300
  maximum : backoffInitialSeconds ≤ backoffMaxSeconds ∧ backoffMaxSeconds ≤ 3600
  multiplier : 1 ≤ backoffMultiplier ∧ backoffMultiplier ≤ 10
  failures : 1 ≤ maxConsecutiveTransientFailures ∧ maxConsecutiveTransientFailures ≤ 100

structure ServiceHost where
  config : ServiceConfig
  instanceId : String
  /-- `str.lower` -/
  lower : String → String

/-- `_transient` -/
def ServiceHost.transient (host : ServiceHost) : Failure → Bool
  | .timeout => true
  | .operational text => ["locked", "busy", "temporarily"].any fun word => decide (word.toList <:+: (host.lower text).toList)
  | _ => false

/-! ### The health row -/

/-- The row of `af07_service_health`. -/
structure HealthRow where
  instanceId : String
  status : ServiceState
  startedAt : ℚ
  heartbeatAt : ℚ
  cycleCount : Nat
  consecutiveFailures : Nat
  lastErrorClass : Option String
  nextRetryAt : Option ℚ
  lastStopReason : Option String
  previousInstanceState : Option ServiceState
  recoveryObserved : Bool

/-- The arguments of `_health`. -/
structure HealthCall where
  status : ServiceState
  failures : Nat := 0
  retryAt : Option ℚ := none
  error : Option String := none
  reason : Option String := none
  increment : Bool := false

/-- The row that `_health` writes. -/
def healthRow (host : ServiceHost) (now : ℚ) (previous : Option HealthRow) (call : HealthCall) : HealthRow where
  instanceId := host.instanceId
  status := call.status
  startedAt := match previous with
    | some row => if call.status = .starting then now else row.startedAt
    | none => now
  heartbeatAt := now
  cycleCount := (previous.map (·.cycleCount)).getD 0 + if call.increment then 1 else 0
  consecutiveFailures := call.failures
  lastErrorClass := call.error.map clean
  nextRetryAt := call.retryAt
  lastStopReason := call.reason.map clean
  previousInstanceState := previous.map (·.status)
  recoveryObserved := previous.isSome

/-- How one health write ends: the clock, and what is raised instead of writing. -/
structure Write where
  now : ℚ
  fails : Option Failure

/-- `_health` -/
def health (host : ServiceHost) (w : Write) (previous : Option HealthRow) (call : HealthCall) : Except Failure (Option HealthRow) :=
  match w.fails with
  | some e => .error e
  | none => .ok (some (healthRow host w.now previous call))

/-! ### The loop -/

/-- A round that the loop went on from. -/
structure Round where
  /-- `run_once` returned -/
  ran : Bool
  /-- it ended in a transient failure -/
  failed : Bool
  waited : ℚ

structure Loop where
  failures : Nat
  completed : Nat
  row : Option HealthRow
  rounds : List Round

/-- What the writes, `run_once` and the clock answer in one round. -/
structure RoundAnswers where
  running : Write
  runOnce : Option Failure
  idle : Write
  handler : Write
  retryClock : ℚ
  stopping : Write
  stopped : Write

inductive Progress where
  | going (l : Loop)
  | ended (l : Loop) (outcome : Except Failure Nat)

/-- The wait behind the `j`-th failure in a row. -/
def backoff (config : ServiceConfig) (j : Nat) : ℚ :=
  min (config.backoffInitialSeconds * config.backoffMultiplier ^ (j - 1)) config.backoffMaxSeconds

section
variable (host : ServiceHost) (cycles : Option Nat) (a : RoundAnswers)

/-- The `try` block; it tells whether the bound of cycles is reached. -/
def body (l : Loop) : Loop × Except Failure Bool :=
  match health host a.running l.row { status := .running, failures := l.failures } with
  | .error e => (l, .error e)
  | .ok row =>
    match a.runOnce with
    | some e => ({ l with row := row }, .error e)
    | none =>
      let ran := { l with row := row, failures := 0, completed := l.completed + 1 }
      match health host a.idle row { status := .idle, increment := true } with
      | .error e => (ran, .error e)
      | .ok row => ({ ran with row := row }, .ok (cycles.any fun k => decide (k ≤ l.completed + 1)))

/-- A handler that writes its status and returns. -/
def finish (l : Loop) (call : HealthCall) (code : Nat) : Progress :=
  match health host a.handler l.row call with
  | .error e => .ended l (.error e)
  | .ok row => .ended { l with row := row } (.ok code)

/-- A failure that is retried, if the limit is not passed. -/
def retry (ran : Bool) (l : Loop) (e : Failure) : Progress :=
  let failures := l.failures + 1
  if host.config.maxConsecutiveTransientFailures < failures then
    finish host a { l with failures := failures }
      { status := .crashed, failures := failures, error := some e.name, reason := some "TRANSIENT_LIMIT" } 5
  else
    let delay := backoff host.config failures
    match health host a.handler l.row
        { status := .backoff, failures := failures, retryAt := some (a.retryClock + delay), error := some e.name } with
    | .error e => .ended { l with failures := failures } (.error e)
    | .ok row => .going { l with failures := failures, row := row, rounds := l.rounds ++ [⟨ran, true, delay⟩] }

/-- The `except` clauses. -/
def handle (ran : Bool) (l : Loop) : Failure → Progress
  | .integrityBlocked => finish host a l
      { status := .integrityBlocked, error := some Failure.integrityBlocked.name, reason := some "INTEGRITY_BLOCKED" } 4
  | .blocked => finish host a l { status := .blocked, error := some Failure.blocked.name, reason := some "BLOCKED" } 3
  | e =>
    if host.transient e then retry host a ran l e
    else finish host a l { status := .crashed, error := some e.name, reason := some "FATAL" } 5

/-- Behind the loop: `STOPPING`, then `STOPPED`. -/
def stop (l : Loop) : Progress :=
  match health host a.stopping l.row { status := .stopping, reason := some "GRACEFUL" } with
  | .error e => .ended l (.error e)
  | .ok row =>
    match health host a.stopped row { status := .stopped, reason := some "GRACEFUL" } with
    | .error e => .ended { l with row := row } (.error e)
    | .ok row => .ended { l with row := row } (.ok 0)

/-- One round, where no stop was requested. -/
def round (l : Loop) : Progress :=
  match body host cycles a l with
  | (l', .ok true) => stop host a l'
  | (l', .ok false) => .going { l' with rounds := l'.rounds ++ [⟨true, false, host.config.cadenceSeconds⟩] }
  | (l', .error e) => handle host a (decide (l.completed < l'.completed)) l' e

end

/-- Where the loop stands after at most `n` rounds. -/
def after (host : ServiceHost) (cycles : Option Nat) (script : Nat → RoundAnswers) (start : Loop) : Nat → Progress
  | 0 => .going start
  | n + 1 =>
    match after host cycles script start n with
    | .going l => round host cycles (script n) l
    | .ended l outcome => .ended l outcome

/-- What the start of a run meets. -/
structure StartAnswers where
  locked : Bool
  factory : Option Failure
  /-- what `PRAGMA integrity_check` answers -/
  integrity : Except Failure (Option String)
  createTable : Option Failure
  previous : Option HealthRow
  starting : Write

/-- `except sqlite3.DatabaseError`: the store counts as damaged. -/
def storeError : Failure → Failure
  | .operational _ | .database _ => .integrityBlocked
  | e => e

/-- An operation that raises, or none. -/
def completes (fails : Option Failure) : Except Failure Unit :=
  match fails with
  | some e => .error e
  | none => .ok ()

/-- `run` up to its loop. -/
def startUp (host : ServiceHost) (cycles : Option Nat) (a : StartAnswers) : Except Failure Loop := do
  require ((cycles.all fun k => 1 ≤ k && k ≤ 10000) = true) .blocked
  require (a.locked = true) .blocked
  completes (a.factory.map storeError)
  let answer ← a.integrity.mapError storeError
  require (answer = some "ok") .integrityBlocked
  completes (a.createTable.map storeError)
  let row ← health host a.starting a.previous { status := .starting }
  return ⟨0, 0, row, []⟩

end ControlPlane.Autonomy.Service
