import ControlPlane.Autonomy.ExternalGateway
import ControlPlane.Data.Directory
import ControlPlane.Interleaving.Breakdown

/-!
# `DurableLocalSpool`

The outbound directory of the spool, one operation of the file system at a time, beside the
database. Any operation and any statement can raise; a write that raises may have written a part.
-/

namespace ControlPlane.Autonomy

open Data Interleaving Procedure

inductive SpoolStmt : Type → Type where
  /-- `_safe_directory(outbound)` -/
  | safeDirectory : SpoolStmt Unit
  /-- `path.exists()` -/
  | occupied (name : String) : SpoolStmt Bool
  /-- `open(path, "xb")` -/
  | create (name : String) : SpoolStmt Unit
  /-- `stream.write` and `stream.flush` -/
  | write (name text : String) : SpoolStmt Unit
  /-- `os.fsync` -/
  | sync (name : String) : SpoolStmt Unit
  /-- `os.replace` -/
  | replace (source destination : String) : SpoolStmt Unit

structure SpoolWorld where
  db : ExternalDb
  outbound : Directory String

structure SpoolInput extends ExternalInput where
  /-- what the operation or the statement raises -/
  fails : Option Err := none
  /-- how much of a write that raises is in the file -/
  written : Nat := 0

instance : Inhabited SpoolInput := ⟨{}⟩

variable {α : Type}

def SpoolStmt.perform : SpoolStmt α → Directory String → Directory String × Answer α
  | .safeDirectory, dir => (dir, .ok ())
  | .occupied name, dir => (dir, .ok (dir.get? name).isSome)
  | .create name, dir =>
    if (dir.get? name).isSome then (dir, .error (.other "FileExistsError")) else (dir.write name "", .ok ())
  | .write name text, dir => (dir.write name text, .ok ())
  | .sync _, dir => (dir, .ok ())
  | .replace source destination, dir =>
    match dir.get? source with
    | some text => ((dir.remove source).write destination text, .ok ())
    | none => (dir, .error (.other "FileNotFoundError"))

/-- What an operation that raises leaves. -/
def SpoolStmt.torn : SpoolStmt α → Nat → Directory String → Directory String
  | .write name text, written, dir => dir.write name (String.ofList (text.toList.take written))
  | _, _, dir => dir

/-- An operation on the spool, or a statement of the database. -/
abbrev SpooledStmt (α : Type) : Type := SpoolStmt α ⊕ ExternalStmt α

def SpooledStmt.perform : SpooledStmt α → SpoolInput → SpoolWorld → SpoolWorld × Answer α
  | .inl s, x, w =>
    match x.fails with
    | some e => ({ w with outbound := s.torn x.written w.outbound }, .error e)
    | none => ({ w with outbound := (s.perform w.outbound).1 }, (s.perform w.outbound).2)
  | .inr s, x, w =>
    match x.fails with
    | some e => (w, .error e)
    | none => ({ w with db := (s.perform x.toExternalInput w.db).1 }, (s.perform x.toExternalInput w.db).2)

def spooled : Machine Err SpooledStmt SpoolInput SpoolWorld := ⟨SpooledStmt.perform⟩

abbrev Spooled (α : Type) := Procedure Err SpooledStmt α

namespace Spooled

def file (s : SpoolStmt α) : Spooled α := ask (.inl s)

def external (p : External α) : Spooled α := p.interp fun s => ask (.inr s)

/-- `_direct(outbound, ..)` -/
def direct (identity suffix : String) : Spooled String := do
  let name ← lift (identifier (.str identity) "spool identity")
  file .safeDirectory
  return name.1 ++ suffix

end Spooled

def maxFrameBytes : Nat := 131072

/-- `asdict(envelope)` with its message type -/
def ExternalEnvelope.body (e : ExternalEnvelope) : List (String × Json) :=
  [("dispatch_id", .str e.dispatchId), ("task_id", .str e.taskId), ("worker_id", .str e.workerId),
   ("session_id", .str e.sessionId), ("lease_id", .str e.leaseId), ("lease_expires_at", .float e.leaseExpiresAt),
   ("capability", .str e.capability), ("target_project", .str e.targetProject),
   ("protocol_version", .str e.protocolVersion), ("message_type", .str "DISPATCH")]

/-- The frame is written beside its place and then moved there. -/
def publishFrame (temporary destination payload : String) : Spooled Unit := do
  Spooled.file (.create temporary)
  Spooled.file (.write temporary payload)
  Spooled.file (.sync temporary)
  Spooled.file (.replace temporary destination)

/-- The payload is ASCII, so it has as many bytes as characters. -/
def writeOutbound (crypto : Crypto) (messageId : String) (body : List (String × Json)) : Spooled Unit := do
  let payload ← lift (canonicalJson crypto (.dict body))
  lift (require (payload.length ≤ maxFrameBytes) (.blocked "oversized transport frame"))
  let destination ← Spooled.direct messageId ".json"
  let temporary ← Spooled.direct messageId ".tmp"
  let duplicate := Err.blocked "duplicate transport frame"
  lift (require ((← Spooled.file (.occupied destination)) = false) duplicate)
  lift (require ((← Spooled.file (.occupied temporary)) = false) duplicate)
  publishFrame temporary destination payload

/-- The row that a dispatch inserts. -/
def ExternalEnvelope.row (e : ExternalEnvelope) : DispatchRow where
  dispatchId := e.dispatchId
  taskId := e.taskId
  workerId := e.workerId
  sessionId := e.sessionId
  leaseId := e.leaseId
  leaseExpiresAt := e.leaseExpiresAt
  capability := e.capability
  targetProject := e.targetProject
  protocol := e.protocolVersion

/-- What is sent again for a dispatch that is on record. -/
def ExternalEnvelope.recorded (e : ExternalEnvelope) (d : DispatchRow) : ExternalEnvelope :=
  { e with leaseExpiresAt := d.leaseExpiresAt, capability := d.capability, targetProject := d.targetProject }

section

variable {m : Type → Type 1} [Monad m]

/-- `dispatch`, by a way to run the statements and a way to write the frame. -/
def dispatchBy (run : {β : Type} → External β → m β) (publish : ExternalEnvelope → m Unit) (crypto : Crypto) (task lease : Frame)
    (sessionId : Json) (now : PyFloat) : m ExternalEnvelope := do
  let n ← run (External.now now)
  let worker ← run (lift (identifier (lease.get "worker_id") "worker_id"))
  let taskId ← run (lift (identifier (lease.get "task_id") "task_id"))
  let leaseId ← run (lift (identifier (lease.get "lease_id") "lease_id"))
  let row ← run (External.sql (.selectSession worker.1))
  let current ← run (External.store (Store.task taskId.1))
  let unavailable := Err.blocked "dispatch authority unavailable"
  let session ← run (lift (found row unavailable))
  run (lift (require (session.state = .authenticated ∧ sessionId.str? = some session.sessionId ∧ current.state = .leased ∧
    current.assignedWorkerId = some worker.1 ∧ current.leaseId = some leaseId.1) unavailable))
  let expires ← run (lift (found current.leaseExpiresAt (.other "TypeError")))
  run (lift (require (¬ expires ≤ .fin n ∧ task.states "capability" current.capability ∧
    task.states "target_project" current.targetProject) unavailable))
  let id := ExternalGateway.dispatchId crypto taskId.1 worker.1 session.sessionId leaseId.1
  let envelope : ExternalEnvelope :=
    ⟨id, taskId.1, worker.1, session.sessionId, leaseId.1, expires, current.capability, current.targetProject, af05Protocol⟩
  match ← run (External.sql (.selectDispatch id)) with
  | some d => return envelope.recorded d
  | none =>
    publish envelope
    run (External.sql (.insertDispatch envelope.row))
    run (External.store (Store.audit taskId.1 "DISPATCHED" n s!"worker={worker.1};session={session.sessionId};lease={leaseId.1}"))
    return envelope

end

/-- The gateway's `dispatch`, with the spool answering for itself. -/
theorem dispatch_by (crypto : Crypto) (task lease : Frame) (sessionId : Json) (now : PyFloat) :
    ExternalGateway.dispatch crypto task lease sessionId now =
      dispatchBy (fun p => p) (fun e => External.sql (.writeOutbound e.dispatchId)) crypto task lease sessionId now := rfl

namespace Spooled

def dispatch (crypto : Crypto) (task lease : Frame) (sessionId : Json) (now : PyFloat) : Spooled ExternalEnvelope :=
  dispatchBy external (fun e => writeOutbound crypto e.dispatchId e.body) crypto task lease sessionId now

end Spooled

end ControlPlane.Autonomy
