import ControlPlane.Autonomy.Calls
import ControlPlane.Autonomy.LocalGateway
import ControlPlane.Interleaving.History
import Mathlib.Tactic.Linarith

/-!
# Calls of the local gateway

Each call runs to its end with nobody else moving; between two calls any statement of
any other connection may run. What a call does when it returns is said once for each.
-/

namespace ControlPlane.Autonomy

open Data Interleaving

/-- The gateway's memory and the database it shares. -/
structure LocalWorld where
  db : Db
  gateway : LocalGateway

inductive LocalCall : Type 1 where
  | registerLocalHarness (hello : SessionHello) (now : PyFloat)
  | heartbeat (m : HeartbeatEnvelope) (now : PyFloat)
  | dispatch (task lease : List (String × Json)) (sessionId : Json) (now : PyFloat)
  | acknowledge (m : AckEnvelope) (now : PyFloat)
  | result (m : ResultEnvelope) (now : PyFloat)
  /-- the authority declares the content of an evidence id -/
  | declare (evidenceId : Json) (content : Option ByteArray)
  /-- a statement of another connection -/
  | other {α : Type} (s : Stmt α)

namespace LocalCall

/-- What the call does to the gateway's memory. -/
def procedure (platform : Platform) (g : LocalGateway) : LocalCall → Store LocalGateway
  | .registerLocalHarness hello now => g.registerLocalHarness platform hello now
  | .heartbeat m now => g.heartbeat platform m now
  | .dispatch task lease sessionId now => do return (← g.dispatch platform task lease sessionId now).1
  | .acknowledge m now => g.acknowledge platform m now
  | .result m now => g.result platform m now
  | .declare evidenceId content => do
    return { g with evidence := ← Procedure.lift (g.evidence.declare evidenceId content) }
  | .other s => do
    let _ ← Procedure.ask s
    return g

/-- The call, left alone; a call that raises leaves the memory as it was. -/
def exec (platform : Platform) (call : LocalCall) (inputs : List Input) (w : LocalWorld) :
    LocalWorld × Answer Unit :=
  match connections.alone (call.procedure platform w.gateway).run inputs w.db with
  | (db, .ok g) => (⟨db, g⟩, .ok ())
  | (db, .error e) => (⟨db, w.gateway⟩, .error e)

end LocalCall

/-- A call and what its caller saw. -/
structure LocalEvent : Type 1 where
  call : LocalCall
  answer : Answer Unit

def LocalStep (platform : Platform) (w : LocalWorld) (e : LocalEvent) (w' : LocalWorld) : Prop :=
  ∃ inputs, e.call.exec platform inputs w = (w', e.answer)

abbrev LocalTransition := Transition LocalWorld LocalEvent

abbrev LocalHistory (platform : Platform) := History (LocalStep platform)

/-- Calls in their order, with the default answers of the environment where none is given. -/
def playLocal (platform : Platform) (init : LocalWorld) (calls : List (LocalCall × List Input)) :
    List LocalTransition × LocalWorld :=
  calls.foldl (fun (past, w) (call, inputs) =>
    let (w', answer) := call.exec platform inputs w
    (⟨w, ⟨call, answer⟩, w'⟩ :: past, w')) ([], init)

theorem playLocal_history (platform : Platform) (init : LocalWorld) (calls : List (LocalCall × List Input)) :
    LocalHistory platform init (playLocal platform init calls).1 (playLocal platform init calls).2 := by
  suffices extend : ∀ reached : List LocalTransition × LocalWorld, LocalHistory platform init reached.1 reached.2 →
      LocalHistory platform init (calls.foldl _ reached).1 (calls.foldl _ reached).2 from extend _ .start
  induction calls with
  | nil => exact fun _ history => history
  | cons call calls ih => exact fun reached history => ih _ (history.step ⟨call.2, rfl⟩)

section

variable {platform : Platform} {g g' : LocalGateway} {db db' : Db} {now : PyFloat} {w w' : LocalWorld} {e : LocalEvent}

theorem LocalStep.cases (step : LocalStep platform w e w') :
    (e.answer = .ok () ∧ connections.Returns (e.call.procedure platform w.gateway) w.db w'.db w'.gateway) ∨
      ∃ x, e.answer = .error x ∧ w'.gateway = w.gateway ∧
        connections.Raises (e.call.procedure platform w.gateway) w.db w'.db x := by
  obtain ⟨inputs, ran⟩ := step
  have ends := connections.ends_alone (p := (e.call.procedure platform w.gateway).run) (s := w.db) inputs
  unfold LocalCall.exec at ran
  split at ran
  · rename_i db g final
    obtain ⟨rfl, answer⟩ := Prod.mk.inj ran
    rw [final] at ends
    exact .inl ⟨answer.symm, ends⟩
  · rename_i db x final
    obtain ⟨rfl, answer⟩ := Prod.mk.inj ran
    rw [final] at ends
    exact .inr ⟨x, answer.symm, rfl, ends⟩

theorem create_empty {profiles : List WorkerProfile} {evidence : EvidenceResolver}
    (created : LocalGateway.create platform profiles evidence = .ok g) :
    (∀ worker, g.sessions worker = none) ∧ ∀ id, g.dispatches id = none := by
  simp only [LocalGateway.create] at created
  obtain ⟨_, _, same⟩ := bind_ok.mp created
  cases pure_ok.mp same
  exact ⟨fun _ => rfl, fun _ => rfl⟩

/-! ### What a call does when it returns -/

inductive Registered (platform : Platform) (g : LocalGateway) (hello : SessionHello) : LocalGateway → Prop
  | opened {workerId : Identifier} {session : Session} (named : hello.workerId = .str workerId.1)
      (read : observedTime platform hello.observedAt = .ok session.observedAt)
      (counted : hello.heartbeatSequence = .int session.sequence)
      (enrolled : g.profiles workerId.1 = some session.profile)
      (later : ∀ current, g.sessions workerId.1 = some current → current.sessionId ≠ session.sessionId ∧
        (current.profile = session.profile → current.observedAt < session.observedAt)) :
      Registered platform g hello (g.setSession workerId.1 session)
  | repeated {workerId : Identifier} {session : Session} (named : hello.workerId = .str workerId.1)
      (current : g.sessions workerId.1 = some session)
      (read : observedTime platform hello.observedAt = .ok session.observedAt)
      (counted : hello.heartbeatSequence = .int session.sequence) : Registered platform g hello g

theorem returns_registerLocalHarness {hello : SessionHello}
    (returned : connections.Returns (g.registerLocalHarness platform hello now) db db' g') :
    Registered platform g hello g' := by
  simp only [LocalGateway.registerLocalHarness, LocalGateway.version, LocalGateway.establish, Machine.returns_bind,
    returns_now, Machine.returns_lift, returns_row, returns_check, and_assoc, exists_eq_left, exists_and_left,
    exists_const] at returned
  obtain ⟨_, _, _, n, _, workerId, named, sessionId, _, profile, enrolled, observed, read, _, fresh, _, _, _, _, _, _, _,
    capacity, _, sequence, counted, _, _, _, returned⟩ := returned
  split at returned
  · rename_i absent
    simp only [Machine.returns_bind, Machine.returns_pure] at returned
    obtain ⟨_, _, _, _, rfl⟩ := returned
    exact .opened (identifier_ok named) read (Json.int?_some counted) enrolled fun current found => by
      rw [absent] at found
      cases found
  · rename_i current found
    split at returned
    · rename_i other
      simp only [Machine.returns_bind, returns_check, Machine.returns_pure, and_assoc, exists_eq_left, exists_and_left,
        exists_const] at returned
      obtain ⟨lapsed, _, _, _, _, rfl⟩ := returned
      refine .opened (identifier_ok named) read (Json.int?_some counted) enrolled fun known same => ?_
      obtain rfl := Option.some.inj (found.symm.trans same)
      refine ⟨other, fun profile => ?_⟩
      -- the old session outlived the SLA that the new one is within
      unfold Session.Lapsed at lapsed
      rw [profile] at lapsed
      linarith
    · rename_i same
      simp only [Machine.returns_bind, returns_check, Machine.returns_pure, and_assoc, exists_eq_left, exists_and_left,
        exists_const] at returned
      obtain ⟨rfl, rfl, _, _, rfl⟩ := returned
      exact .repeated (identifier_ok named) found read (Json.int?_some counted)

inductive Beaten (platform : Platform) (g : LocalGateway) (m : HeartbeatEnvelope) : LocalGateway → Prop
  | mk {workerId : Identifier} {session : Session} {sequence : Int} {observed : ℚ} {capacity : Int}
      (named : m.workerId = .str workerId.1) (current : g.sessions workerId.1 = some session)
      (bound : m.sessionId = .str session.sessionId.1) (counted : m.sequence = .int sequence)
      (read : observedTime platform m.observedAt = .ok observed) (newer : session.sequence < sequence)
      (later : session.observedAt < observed) :
      Beaten platform g m (g.setSession workerId.1 { session with sequence, observedAt := observed, capacity })

theorem returns_heartbeat {m : HeartbeatEnvelope}
    (returned : connections.Returns (g.heartbeat platform m now) db db' g') : Beaten platform g m g' := by
  simp only [LocalGateway.heartbeat, LocalGateway.version, Machine.returns_bind, returns_now, Machine.returns_lift,
    returns_row, returns_check, Machine.returns_pure, and_assoc, exists_eq_left, exists_and_left, exists_const] at returned
  obtain ⟨_, n, _, workerId, named, sessionId, bound, observed, read, session, current, same, sequence, counted, newer,
    later, _, _, capacity, _, _, _, _, _, _, _, rfl⟩ := returned
  exact .mk (identifier_ok named) current (same ▸ identifier_ok bound) (Json.int?_some counted) read newer later

inductive Dispatched (g : LocalGateway) : LocalGateway → Prop
  | known : Dispatched g g
  | new {id : String} {envelope : DispatchEnvelope} (fresh : g.dispatches id = none) :
      Dispatched g (g.setDispatch id { envelope })

theorem returns_dispatch {task lease : List (String × Json)} {sessionId : Json} {envelope : DispatchEnvelope}
    (returned : connections.Returns (g.dispatch platform task lease sessionId now) db db' (g', envelope)) :
    Dispatched g g' := by
  simp only [LocalGateway.dispatch, Machine.returns_bind, returns_now, Machine.returns_lift, returns_row, returns_check,
    returns_task, and_assoc, exists_eq_left, exists_and_left, exists_const] at returned
  obtain ⟨n, _, workerId, _, taskId, _, leaseId, _, selected, _, current, _, session, _, _, _, _, _, _, expires, _, _, _,
    _, _, _, _, returned⟩ := returned
  split at returned
  · obtain ⟨_, same⟩ := Machine.returns_pure.mp returned
    obtain ⟨rfl, _⟩ := Prod.mk.inj same
    exact .known
  · rename_i fresh
    simp only [Machine.returns_bind, Machine.returns_pure] at returned
    obtain ⟨_, _, _, _, same⟩ := returned
    obtain ⟨rfl, _⟩ := Prod.mk.inj same
    exact .new fresh

theorem boundDispatch_ok {dispatchId : Json} {b : Binding} {id : Identifier} {d : Dispatch}
    (h : g.boundDispatch dispatchId b = .ok (id, d)) :
    dispatchId = .str id.1 ∧ g.dispatches id.1 = some d ∧ b = d.envelope.binding := by
  simp only [LocalGateway.boundDispatch] at h
  obtain ⟨i, named, h⟩ := bind_ok.mp h
  simp only [found_bind_ok, require_bind_ok, pure_ok] at h
  obtain ⟨found, there, bound, same⟩ := h
  obtain ⟨rfl, rfl⟩ := Prod.mk.inj same
  exact ⟨identifier_ok named, there, bound⟩

/-- The first acknowledgement of a dispatch starts its task; another one changes nothing. -/
inductive Acknowledged (g : LocalGateway) (m : AckEnvelope) (now : PyFloat) (db db' : Db) : LocalGateway → Prop
  | first {n observed : ℚ} {id : Identifier} {d : Dispatch} (clock : now.clock? = some n)
      (bound : g.boundDispatch m.dispatchId m.toBinding = .ok (id, d)) (fresh : d.acknowledged = false)
      (started : ∃ details, startTask "cannot acknowledge" (startEvents (some details) m.workerId) m.taskId m.workerId
        m.leaseId n db = .ok (db', .ok ())) :
      Acknowledged g m now db db' (g.setDispatch id.1 { d with acknowledged := true, ackObservedAt := some observed })
  | again {id : Identifier} {d : Dispatch} (bound : g.boundDispatch m.dispatchId m.toBinding = .ok (id, d))
      (acknowledged : d.acknowledged = true) (same : db' = db) : Acknowledged g m now db db' g

@[simp] theorem returns_holds {current : TaskRow} {b : Binding} {n : ℚ} {e : Err} {u : Unit} :
    connections.Returns (LocalGateway.holds current b n e) db db' u ↔ db' = db ∧
      current.assignedWorkerId = some b.workerId ∧ current.leaseId = some b.leaseId ∧
        ∃ expires, current.leaseExpiresAt = some expires ∧ ¬ expires ≤ .fin n := by
  simp only [LocalGateway.holds, Machine.returns_bind, returns_row, returns_check, and_assoc, exists_eq_left,
    exists_and_left, exists_const]
  tauto

theorem returns_acknowledge {m : AckEnvelope}
    (returned : connections.Returns (g.acknowledge platform m now) db db' g') : Acknowledged g m now db db' g' := by
  simp only [LocalGateway.acknowledge, LocalGateway.version, Machine.returns_bind, returns_now,
    Machine.returns_lift, returns_row, returns_check, returns_task, returns_holds, and_assoc, exists_eq_left,
    exists_and_left, exists_const, Prod.exists] at returned
  obtain ⟨_, n, clock, observed, _, id, d, bound, current, _, session, _, _, _, _, _, _, _, _, _, returned⟩ := returned
  split at returned
  · obtain ⟨same, rfl⟩ := Machine.returns_pure.mp returned
    exact .again bound ‹_› same
  · simp only [returns_startWithAck, Machine.returns_bind, clock?_fin clock, Machine.returns_pure, exists_const,
      Option.some.injEq, exists_eq_left'] at returned
    obtain ⟨_, started, rfl, rfl⟩ := returned
    exact .first clock bound (Bool.eq_false_iff.mpr ‹_›) ⟨_, started⟩

/-- An accepted result: what was checked of the dispatch and of the task, and the
evidence that a success stores. -/
inductive ResultTaken (platform : Platform) (g : LocalGateway) (m : ResultEnvelope) (now : PyFloat) (db db' : Db) :
    LocalGateway → Prop
  | mk {n : ℚ} {id : Identifier} {d : Dispatch} {current : TaskRow} (clock : now.clock? = some n)
      (bound : g.boundDispatch m.dispatchId m.toBinding = .ok (id, d)) (acknowledged : d.acknowledged = true)
      (fresh : d.resultReceived = false) (found : db.tasks.find? (clean m.taskId) = some current)
      (running : current.state = .running) (held : current.assignedWorkerId = some m.workerId ∧
        current.leaseId = some m.leaseId)
      (ahead : ∃ expires, current.leaseExpiresAt = some expires ∧ ¬ expires ≤ .fin n)
      (succeeded : m.status = "SUCCEEDED" → ∃ (e : EvidenceReference) (i : Identifier) (bytes : ByteArray), m.evidence = [e] ∧ e.evidenceId = .str i.1 ∧
        g.evidence i.1 = some (some bytes) ∧
        receiveResult m.taskId m.workerId m.leaseId i.1 (platform.sha256 bytes) n db = .ok (db', .ok ())) :
      ResultTaken platform g m now db db' (g.setDispatch id.1 { d with resultReceived := true })

theorem resolved_ok {evidence : List EvidenceReference} {i : Identifier} {sha : String}
    (h : g.resolved platform evidence = .ok (i, sha)) : ∃ e bytes, evidence = [e] ∧ e.evidenceId = .str i.1 ∧
      g.evidence i.1 = some (some bytes) ∧ sha = platform.sha256 bytes := by
  unfold LocalGateway.resolved at h
  split at h
  · rename_i e
    obtain ⟨evidenceId, named, h⟩ := bind_ok.mp h
    simp only [found_bind_ok, require_bind_ok] at h
    obtain ⟨text, _, _, h⟩ := h
    obtain ⟨bytes, content, h⟩ := bind_ok.mp h
    simp only [require_bind_ok, pure_ok] at h
    obtain ⟨hashed, same⟩ := h
    obtain ⟨rfl, rfl⟩ := Prod.mk.inj same
    simp only [EvidenceResolver.resolve, found_bind_ok, found_ok] at content
    obtain ⟨_, known, rfl⟩ := content
    exact ⟨e, bytes, rfl, identifier_ok named, known, hashed.symm⟩
  · cases h

theorem returns_result {m : ResultEnvelope}
    (returned : connections.Returns (g.result platform m now) db db' g') : ResultTaken platform g m now db db' g' := by
  simp only [LocalGateway.result, LocalGateway.version, Machine.returns_bind, returns_now,
    Machine.returns_lift, returns_row, returns_check, returns_task, returns_holds, and_assoc, exists_eq_left,
    exists_and_left, exists_const, Prod.exists] at returned
  obtain ⟨_, n, clock, observed, _, _, id, d, bound, acknowledged, fresh, current, found, session, _, _, _, _, _, running,
    worker, lease, ahead, returned⟩ := returned
  have taken : (m.status = "SUCCEEDED" → ∃ (e : EvidenceReference) (i : Identifier) (bytes : ByteArray),
      m.evidence = [e] ∧ e.evidenceId = .str i.1 ∧ g.evidence i.1 = some (some bytes) ∧
        receiveResult m.taskId m.workerId m.leaseId i.1 (platform.sha256 bytes) n db = .ok (db', .ok ())) ∧
      g' = g.setDispatch id.1 { d with resultReceived := true } := by
    split at returned
    · simp only [Machine.returns_bind, Machine.returns_lift, returns_submitResult, clock?_fin clock, Machine.returns_pure,
        and_assoc, exists_const, exists_and_left, exists_eq_left, Option.some.injEq, exists_eq_left', Prod.exists] at returned
      obtain ⟨i, sha, resolved, _, received, rfl, rfl⟩ := returned
      obtain ⟨e, bytes, only, named, content, rfl⟩ := resolved_ok resolved
      exact ⟨fun _ => ⟨e, i, bytes, only, named, content, received⟩, rfl⟩
    · rename_i failed
      split at returned
      · simp only [Machine.returns_bind, returns_check, Machine.returns_pure, and_assoc] at returned
        obtain ⟨_, _, _, _, _, _, _, _, rfl⟩ := returned
        exact ⟨fun succeeded => absurd succeeded failed, rfl⟩
      · simp only [Machine.returns_bind, Machine.returns_throw, false_and, exists_false] at returned
  obtain ⟨succeeded, rfl⟩ := taken
  exact .mk clock bound acknowledged (Bool.eq_false_iff.mpr fresh) found running ⟨worker, lease⟩ ahead succeeded

end

namespace Sample

/-- The digests of the two texts the samples hash. -/
def platform : Platform where
  sha256 data :=
    if data = "t|w|s|lease".toUTF8 then "94fb0cd0a89d1b652d904aa98cb65ecc5da1223a4e2a80ab9d5cd031303d1bef"
    else if data = "report".toUTF8 then "845e91831319e89c4d656bdb80c278ac09a7230d61e5dfd2e1b1fbb436ac8917"
    else "0000000000000000000000000000000000000000000000000000000000000000"
  digest data := by
    split
    · decide +kernel
    split
    · decide +kernel
    · decide +kernel
  parseFloat _ := none

def profile : WorkerProfile where
  workerId := .str "w"
  workerKind := .str "sample"
  capabilities := .list [.str "read"]
  allowedTargets := .list [.str "lab"]
  maxCapacity := .int 1
  heartbeatSla := .int 30

theorem gateway_created : ∃ g, LocalGateway.create platform [profile] (fun _ => none) = .ok g := by
  have accepted : (LocalGateway.create platform [profile] fun _ => none).toBool = true := by decide +kernel
  generalize LocalGateway.create platform [profile] (fun _ => none) = created at accepted ⊢
  cases created with
  | ok g => exact ⟨g, rfl⟩
  | error e => cases accepted

def hello (session : String) (sequence : Int) (observed : ℚ) : SessionHello where
  workerId := .str "w"
  workerKind := "sample"
  capabilities := .list [.str "read"]
  allowedTargets := .list [.str "lab"]
  sessionId := .str session
  heartbeatSequence := .int sequence
  observedAt := .float (.fin observed)
  capacity := .int 1

end Sample

end ControlPlane.Autonomy
