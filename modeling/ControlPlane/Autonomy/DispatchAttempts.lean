import ControlPlane.Autonomy.OutboundSpool

/-!
# One dispatch

What a dispatch does where nothing raises, and where it can break down: before the temporary file,
between that and the row, or after the row.
-/

namespace ControlPlane.Autonomy

open Data Interleaving Procedure

/-- Nothing raises. -/
def Smooth (x : SpoolInput) (_ : SpoolWorld) : Prop := x.fails = none

/-- What `dispatch` finds in order, and the envelope it makes of it. -/
inductive Offered (crypto : Crypto) (db : ExternalDb) (task lease : Frame) (sessionId : Json) (now : PyFloat) :
    ℚ → ExternalEnvelope → Prop
  | mk {n : ℚ} {worker taskId leaseId : Identifier} {session : SessionRow} {current : TaskRow} {expires : PyFloat}
      (clock : now.clock? = some n) (worker_ : identifier (lease.get "worker_id") "worker_id" = .ok worker)
      (task_ : identifier (lease.get "task_id") "task_id" = .ok taskId)
      (lease_ : identifier (lease.get "lease_id") "lease_id" = .ok leaseId) (opened : db.sessions.find? worker.1 = some session)
      (found : db.store.tasks.find? (clean taskId.1) = some current)
      (held : session.state = .authenticated ∧ sessionId.str? = some session.sessionId ∧ current.state = .leased ∧
        current.assignedWorkerId = some worker.1 ∧ current.leaseId = some leaseId.1)
      (deadline : current.leaseExpiresAt = some expires)
      (live : ¬ expires ≤ .fin n ∧ task.states "capability" current.capability ∧ task.states "target_project" current.targetProject) :
      Offered crypto db task lease sessionId now n ⟨ExternalGateway.dispatchId crypto taskId.1 worker.1 session.sessionId leaseId.1, taskId.1,
        worker.1, session.sessionId, leaseId.1, expires, current.capability, current.targetProject, af05Protocol⟩

/-- The frame that would be written. -/
def Publishable (crypto : Crypto) (e : ExternalEnvelope) : Prop :=
  isIdentifier e.dispatchId = true ∧ ∃ payload, canonicalJson crypto (.dict e.body) = .ok payload ∧ payload.length ≤ maxFrameBytes

def frameName (id : String) : String := id ++ ".json"

def temporaryName (id : String) : String := id ++ ".tmp"

/-- The statements between the creation of the temporary file and the row of the dispatch. -/
def SpooledStmt.critical {α : Type} : SpooledStmt α → Bool
  | .inl (.write ..) | .inl (.sync _) | .inl (.replace ..) | .inr (.inr (.insertDispatch _)) => true
  | _ => false

/-- It broke down between the frame and the row. -/
def Critical {α : Type} : Ending SpooledStmt α → Prop
  | .inl st => st.2.critical = true
  | .inr _ => False

/-- What is left of a dispatch that is not on record. -/
def send (crypto : Crypto) (n : ℚ) (e : ExternalEnvelope) : Spooled ExternalEnvelope := do
  writeOutbound crypto e.dispatchId e.body
  Procedure.ask (.inr (.inr (.insertDispatch e.row)))
  Procedure.ask (.inr (.inl (.audit e.taskId "DISPATCHED" n s!"worker={e.workerId};session={e.sessionId};lease={e.leaseId}")))
  return e

/-- What is answered where nothing raises. -/
def Replies (crypto : Crypto) (w : SpoolWorld) (e answer : ExternalEnvelope) : Prop :=
  match w.db.dispatches.find? e.dispatchId with
  | some d => answer = e.recorded d
  | none => answer = e ∧ Publishable crypto e ∧ w.outbound.get? (frameName e.dispatchId) = none ∧
      w.outbound.get? (temporaryName e.dispatchId) = none

section

variable {α β : Type} {crypto : Crypto} {task lease : Frame} {sessionId : Json} {now : PyFloat} {w w' : SpoolWorld} {n : ℚ}
  {e answer : ExternalEnvelope} {b : β} {o : Ending SpooledStmt (Answer β)}

/-! ### Without failures -/

theorem will_file {s : SpoolStmt α} {k : α → Spooled β} : spooled.Will Smooth (Spooled.file s >>= k) w b ↔
    ∃ a, (s.perform w.outbound).2 = .ok a ∧ spooled.Will Smooth (k a) { w with outbound := (s.perform w.outbound).1 } b := by
  refine Machine.will_ask ⟨{}, rfl⟩ fun x smooth => ?_
  unfold Smooth at smooth
  simp only [spooled, SpooledStmt.perform, smooth]

/-- A statement of the database that the environment has no part in. -/
theorem will_statement {s : ExternalStmt α} {k : α → Spooled β} {a : α} {db : ExternalDb}
    (one : ∀ x, s.perform x w.db = (db, .ok a)) :
    spooled.Will Smooth (Procedure.ask (.inr s) >>= k) w b ↔ spooled.Will Smooth (k a) { w with db } b := by
  have answers : ∃ x, Smooth x w := ⟨{}, rfl⟩
  have ran : ∀ x, Smooth x w → spooled.exec (.inr s) x w = ({ w with db }, .ok a) := by
    intro x smooth
    unfold Smooth at smooth
    simp only [spooled, SpooledStmt.perform, smooth, one]
  refine (Machine.will_ask answers ran).trans ?_
  simp only [Except.ok.injEq, exists_eq_left']

theorem external_lift {x : Except Err α} : Spooled.external (Procedure.lift x) = Procedure.lift x := by
  cases x <;> rfl

theorem external_sql {s : GatewayStmt α} : Spooled.external (External.sql s) = Procedure.ask (.inr (.inr s)) := interp_ask

theorem external_store {s : Stmt α} : Spooled.external (External.store (Procedure.ask s)) = Procedure.ask (.inr (.inl s)) := by
  rw [External.store, interp_ask]
  exact interp_ask

theorem external_task {id : String} : Spooled.external (External.store (Store.task id)) =
    Procedure.ask (.inr (.inl (.selectTask (clean id)))) >>= fun r => Procedure.lift (found r (.blocked "unknown task")) := by
  unfold Store.task External.store Spooled.external
  rw [interp_bind, interp_bind, interp_ask, interp_ask]
  congr 1
  funext r
  cases r <;> rfl

/-- The dispatch, statement by statement. -/
def plainDispatch (crypto : Crypto) (task lease : Frame) (sessionId : Json) (now : PyFloat) : Spooled ExternalEnvelope := do
  let n ← lift (found now.clock? (.blocked "invalid clock"))
  let worker ← lift (identifier (lease.get "worker_id") "worker_id")
  let taskId ← lift (identifier (lease.get "task_id") "task_id")
  let leaseId ← lift (identifier (lease.get "lease_id") "lease_id")
  let row ← ask (.inr (.inr (.selectSession worker.1)))
  let read ← ask (.inr (.inl (.selectTask (clean taskId.1))))
  let current ← lift (found read (.blocked "unknown task"))
  let unavailable := Err.blocked "dispatch authority unavailable"
  let session ← lift (found row unavailable)
  lift (require (session.state = .authenticated ∧ sessionId.str? = some session.sessionId ∧ current.state = .leased ∧
    current.assignedWorkerId = some worker.1 ∧ current.leaseId = some leaseId.1) unavailable)
  let expires ← lift (found current.leaseExpiresAt (.other "TypeError"))
  lift (require (¬ expires ≤ .fin n ∧ task.states "capability" current.capability ∧
    task.states "target_project" current.targetProject) unavailable)
  let envelope : ExternalEnvelope :=
    ⟨ExternalGateway.dispatchId crypto taskId.1 worker.1 session.sessionId leaseId.1, taskId.1, worker.1, session.sessionId, leaseId.1,
      expires, current.capability, current.targetProject, af05Protocol⟩
  match ← ask (.inr (.inr (.selectDispatch envelope.dispatchId))) with
  | some d => return envelope.recorded d
  | none => send crypto n envelope

theorem dispatch_plain : Spooled.dispatch crypto task lease sessionId now = plainDispatch crypto task lease sessionId now := by
  unfold Spooled.dispatch dispatchBy plainDispatch
  simp only [External.now, external_lift, external_sql, external_task, bind_assoc, Store.audit, external_store]
  rfl

theorem pure_bind {a : α} {k : α → Spooled β} : (pure a : Spooled α) >>= k = k a := rfl

theorem identifier_name {id : String} {i : Identifier} {label : String} :
    identifier (.str id) label = .ok i ↔ i.1 = id ∧ isIdentifier id = true := by
  constructor
  · intro named
    have same := Json.str.inj (identifier_ok named)
    exact ⟨same.symm, same ▸ i.2⟩
  · rintro ⟨rfl, _⟩
    exact identifier_str i label

/-- The directory once the frame is in its place. -/
def published (dir : Directory String) (id payload : String) : Directory String :=
  (((dir.write (temporaryName id) "").write (temporaryName id) payload).remove (temporaryName id)).write (frameName id) payload

theorem will_publishFrame {id payload : String} {k : Unit → Spooled β} (absent : w.outbound.get? (temporaryName id) = none) :
    spooled.Will Smooth (publishFrame (temporaryName id) (frameName id) payload >>= k) w b ↔
      spooled.Will Smooth (k ()) { w with outbound := published w.outbound id payload } b := by
  simp only [publishFrame, bind_assoc, will_file, SpoolStmt.perform, absent, Option.isSome_none, Bool.false_eq_true, if_false,
    Directory.get?_write_self, exists_const, true_and, published]
  constructor
  · rintro ⟨_, will⟩
    exact will
  · exact fun will => ⟨(), will⟩

theorem will_writeOutbound {body : List (String × Json)} {id : String} {k : Unit → Spooled β} :
    spooled.Will Smooth (writeOutbound crypto id body >>= k) w b ↔
      isIdentifier id = true ∧ w.outbound.get? (frameName id) = none ∧ w.outbound.get? (temporaryName id) = none ∧
        ∃ payload, canonicalJson crypto (.dict body) = .ok payload ∧ payload.length ≤ maxFrameBytes ∧
          spooled.Will Smooth (k ()) { w with outbound := published w.outbound id payload } b := by
  simp only [writeOutbound, Spooled.direct, bind_assoc, Machine.will_lift, pure_bind, will_file, SpoolStmt.perform, require_ok,
    identifier_name, Except.ok.injEq, exists_eq_left', exists_and_left, exists_const, true_and, Option.isSome_eq_false_iff,
    Option.isNone_iff_eq_none]
  constructor
  · rintro ⟨payload, canonical, short, destination, ⟨named, identified⟩, temporary, ⟨named', -⟩, absent, absent', will⟩
    rw [named] at absent will
    rw [named'] at absent' will
    exact ⟨identified, absent, absent', payload, canonical, short, (will_publishFrame absent').mp will⟩
  · rintro ⟨identified, absent, absent', payload, canonical, short, will⟩
    exact ⟨payload, canonical, short, ⟨id, identified⟩, ⟨rfl, identified⟩, ⟨id, identified⟩, ⟨rfl, identified⟩, absent, absent',
      (will_publishFrame absent').mpr will⟩

theorem insert_row {db : ExternalDb} (absent : db.dispatches.find? e.dispatchId = none) :
    ∃ dispatches, db.dispatches.insert? e.row = some dispatches ∧ db.insertDispatch e.row = .ok { db with dispatches } := by
  obtain ⟨dispatches, inserted⟩ := Table.insert?_fresh (r := e.row) (Table.find?_none.mp absent)
  refine ⟨dispatches, inserted, ?_⟩
  rw [ExternalDb.insertDispatch, inserted]
  rfl

theorem will_send (absent : w.db.dispatches.find? e.dispatchId = none) : spooled.Will Smooth (send crypto n e) w answer ↔
    answer = e ∧ Publishable crypto e ∧ w.outbound.get? (frameName e.dispatchId) = none ∧
      w.outbound.get? (temporaryName e.dispatchId) = none := by
  obtain ⟨dispatches, -, inserted⟩ := insert_row absent
  unfold send
  rw [will_writeOutbound]
  have recorded {outbound : Directory String} : spooled.Will Smooth (do
      Procedure.ask (.inr (.inr (.insertDispatch e.row)))
      Procedure.ask (.inr (.inl (.audit e.taskId "DISPATCHED" n s!"worker={e.workerId};session={e.sessionId};lease={e.leaseId}")))
      return e : Spooled ExternalEnvelope) ⟨w.db, outbound⟩ answer ↔ answer = e := by
    have done : ∀ x, ExternalStmt.perform (.inr (.insertDispatch e.row)) x w.db = ({ w.db with dispatches }, .ok ()) :=
      fun x => congrArg (update w.db) inserted
    refine (@will_statement _ _ ⟨w.db, outbound⟩ _ _ _ _ _ done).trans ?_
    refine (will_statement fun x => rfl).trans ?_
    exact Machine.will_pure.trans eq_comm
  constructor
  · rintro ⟨identified, frame, temporary, payload, canonical, short, will⟩
    exact ⟨recorded.mp will, ⟨identified, payload, canonical, short⟩, frame, temporary⟩
  · rintro ⟨same, ⟨identified, payload, canonical, short⟩, frame, temporary⟩
    exact ⟨identified, frame, temporary, payload, canonical, short, recorded.mpr same⟩

theorem will_dispatch : spooled.Will Smooth (Spooled.dispatch crypto task lease sessionId now) w answer ↔
    ∃ n e, Offered crypto w.db task lease sessionId now n e ∧ Replies crypto w e answer := by
  have replied {n : ℚ} {e : ExternalEnvelope} : spooled.Will Smooth (do
      match ← Procedure.ask (.inr (.inr (.selectDispatch e.dispatchId))) with
      | some d => return e.recorded d
      | none => send crypto n e : Spooled ExternalEnvelope) w answer ↔ Replies crypto w e answer := by
    refine (will_statement fun x => rfl).trans ?_
    unfold Replies
    cases known : w.db.dispatches.find? e.dispatchId with
    | some d => exact Machine.will_pure.trans eq_comm
    | none => exact will_send known
  rw [dispatch_plain, plainDispatch]
  simp only [Machine.will_lift, found_ok]
  constructor
  · rintro ⟨n, clock, worker, worker_, taskId, task_, leaseId, lease_, will⟩
    rw [will_statement fun _ => rfl, will_statement fun _ => rfl] at will
    simp only [Machine.will_lift, found_ok, require_ok] at will
    obtain ⟨current, found, session, opened, -, held, expires, deadline, -, live, will⟩ := will
    exact ⟨n, _, .mk clock worker_ task_ lease_ opened found held deadline live, replied.mp will⟩
  · rintro ⟨n, e, offered, replies⟩
    cases offered with
    | @mk worker taskId leaseId session current expires clock worker_ task_ lease_ opened found held deadline live =>
      refine ⟨n, clock, worker, worker_, taskId, task_, leaseId, lease_, ?_⟩
      rw [will_statement fun _ => rfl, will_statement fun _ => rfl]
      simp only [Machine.will_lift, found_ok, require_ok]
      exact ⟨current, found, session, opened, (), held, expires, deadline, (), live, replied.mpr replies⟩

/-! ### With failures -/

/-- Nothing has happened. -/
def Unbegun (w w' : SpoolWorld) (o : Ending SpooledStmt (Answer β)) : Prop := w' = w ∧ ¬ Critical o

theorem tries_file {s : SpoolStmt α} {k : α → Spooled β} {a : α} {dir : Directory String}
    (does : s.perform w.outbound = (dir, .ok a)) (tried : spooled.Tries (Spooled.file s >>= k).run w w' o) :
    (∃ left, (left = w.outbound ∨ ∃ written, left = s.torn written w.outbound) ∧ w' = { w with outbound := left } ∧ o = .inl ⟨_, .inl s⟩) ∨
      spooled.Tries (k a).run { w with outbound := dir } w' o := by
  have fine {x : SpoolInput} (fails : x.fails = none) : spooled.exec (.inl s) x w = ({ w with outbound := dir }, .ok a) := by
    simp only [spooled, SpooledStmt.perform, fails, does]
  have raises {x : SpoolInput} {e : Err} (fails : x.fails = some e) :
      spooled.exec (.inl s) x w = ({ w with outbound := s.torn x.written w.outbound }, .error e) := by
    simp only [spooled, SpooledStmt.perform, fails]
  rcases Machine.tries_statement.mp tried with ⟨broken, rfl⟩ | ⟨x, w₁, b, ran, rest⟩
  · left
    rcases broken with rfl | ⟨x, e, ran⟩
    · exact ⟨w'.outbound, .inl rfl, rfl, rfl⟩
    · cases fails : x.fails with
      | none =>
        rw [fine fails] at ran
        cases ran
      | some e' =>
        rw [raises fails] at ran
        exact ⟨_, .inr ⟨x.written, rfl⟩, (Prod.mk.inj ran).1.symm, rfl⟩
  · right
    cases fails : x.fails with
    | none =>
      rw [fine fails] at ran
      obtain ⟨rfl, same⟩ := Prod.mk.inj ran
      obtain rfl := Except.ok.inj same
      exact rest
    | some e' =>
      rw [raises fails] at ran
      cases (Prod.mk.inj ran).2

/-- An operation that only looks. -/
theorem tries_look {s : SpoolStmt α} {k : α → Spooled β} {a : α} (quiet : SpooledStmt.critical (.inl s) = false)
    (looks : s.perform w.outbound = (w.outbound, .ok a)) (whole : ∀ written, s.torn written w.outbound = w.outbound)
    (tried : spooled.Tries (Spooled.file s >>= k).run w w' o) : Unbegun w w' o ∨ spooled.Tries (k a).run w w' o := by
  rcases tries_file looks tried with ⟨left, same, rfl, rfl⟩ | rest
  · refine .inl ⟨?_, fun critical => Bool.false_ne_true (quiet.symm.trans critical)⟩
    rcases same with rfl | ⟨written, rfl⟩
    · rfl
    · rw [whole]
  · exact .inr rest

theorem tries_statement {s : ExternalStmt α} {k : α → Spooled β} {a : α} {db : ExternalDb} (does : ∀ x, s.perform x w.db = (db, .ok a))
    (tried : spooled.Tries (Procedure.ask (.inr s) >>= k).run w w' o) :
    (w' = w ∧ o = .inl ⟨_, .inr s⟩) ∨ spooled.Tries (k a).run { w with db } w' o := by
  have fine {x : SpoolInput} (fails : x.fails = none) : spooled.exec (.inr s) x w = ({ w with db }, .ok a) := by
    simp only [spooled, SpooledStmt.perform, fails, does]
  have raises {x : SpoolInput} {e : Err} (fails : x.fails = some e) : spooled.exec (.inr s) x w = (w, .error e) := by
    simp only [spooled, SpooledStmt.perform, fails]
  rcases Machine.tries_statement.mp tried with ⟨broken, rfl⟩ | ⟨x, w₁, b, ran, rest⟩
  · left
    rcases broken with rfl | ⟨x, e, ran⟩
    · exact ⟨rfl, rfl⟩
    · cases fails : x.fails with
      | none =>
        rw [fine fails] at ran
        cases ran
      | some e' =>
        rw [raises fails] at ran
        exact ⟨(Prod.mk.inj ran).1.symm, rfl⟩
  · right
    cases fails : x.fails with
    | none =>
      rw [fine fails] at ran
      obtain ⟨rfl, same⟩ := Prod.mk.inj ran
      obtain rfl := Except.ok.inj same
      exact rest
    | some e' =>
      rw [raises fails] at ran
      cases (Prod.mk.inj ran).2

theorem tries_query {s : ExternalStmt α} {k : α → Spooled β} {a : α} (quiet : SpooledStmt.critical (.inr s) = false)
    (looks : ∀ x, s.perform x w.db = (w.db, .ok a)) (tried : spooled.Tries (Procedure.ask (.inr s) >>= k).run w w' o) :
    Unbegun w w' o ∨ spooled.Tries (k a).run w w' o := by
  rcases tries_statement looks tried with ⟨same, rfl⟩ | rest
  · exact .inl ⟨same, fun critical => Bool.false_ne_true (quiet.symm.trans critical)⟩
  · exact .inr rest

theorem tries_check {x : Except Err α} {k : α → Spooled β} (tried : spooled.Tries (Procedure.lift x >>= k).run w w' o) :
    Unbegun w w' o ∨ ∃ a, x = .ok a ∧ spooled.Tries (k a).run w w' o := by
  rcases Machine.tries_check.mp tried with ⟨e, _, same, rfl⟩ | rest
  · exact .inl ⟨same, id⟩
  · exact .inr rest

/-- The frame or its temporary file is there. -/
def Occupied (dir : Directory String) (id : String) : Prop :=
  (dir.get? (frameName id)).isSome ∨ (dir.get? (temporaryName id)).isSome

/-- The frame is on its way, and its row is not there. -/
structure Stuck (w w' : SpoolWorld) (id : String) (o : Ending SpooledStmt (Answer β)) : Prop where
  critical : Critical o
  db : w'.db = w.db
  occupied : Occupied w'.outbound id

theorem get?_published {dir : Directory String} {id payload name : String} : (published dir id payload).get? name =
    if frameName id = name then some payload else if temporaryName id = name then none else dir.get? name := by
  rw [published, Directory.get?_write, Directory.get?_remove, Directory.get?_write, Directory.get?_write]
  split_ifs <;> rfl

theorem tries_publishFrame {id payload : String} {k : Unit → Spooled β} (absent : w.outbound.get? (temporaryName id) = none)
    (tried : spooled.Tries (publishFrame (temporaryName id) (frameName id) payload >>= k).run w w' o) :
    Unbegun w w' o ∨ Stuck w w' id o ∨
      spooled.Tries (k ()).run { w with outbound := published w.outbound id payload } w' o := by
  rw [publishFrame] at tried
  simp only [bind_assoc] at tried
  have created : (SpoolStmt.create (temporaryName id)).perform w.outbound = (w.outbound.write (temporaryName id) "", .ok ()) := by
    simp only [SpoolStmt.perform, absent, Option.isSome_none, Bool.false_eq_true, if_false]
  have there {dir : Directory String} {text : String} : Occupied (dir.write (temporaryName id) text) id :=
    .inr (by rw [Directory.get?_write_self]; rfl)
  rcases tries_file created tried with ⟨left, same, rfl, rfl⟩ | tried
  · refine .inl ⟨?_, fun critical => Bool.false_ne_true critical⟩
    rcases same with rfl | ⟨written, rfl⟩ <;> rfl
  right
  rcases tries_file rfl tried with ⟨left, same, rfl, rfl⟩ | tried
  · refine .inl ⟨rfl, rfl, ?_⟩
    rcases same with rfl | ⟨written, rfl⟩
    · exact there
    · exact there
  rcases tries_file rfl tried with ⟨left, same, rfl, rfl⟩ | tried
  · refine .inl ⟨rfl, rfl, ?_⟩
    rcases same with rfl | ⟨written, rfl⟩ <;> exact there
  have replaced : (SpoolStmt.replace (temporaryName id) (frameName id)).perform
      ((w.outbound.write (temporaryName id) "").write (temporaryName id) payload) = (published w.outbound id payload, .ok ()) := by
    simp only [SpoolStmt.perform, Directory.get?_write_self, published]
  rcases tries_file replaced tried with ⟨left, same, rfl, rfl⟩ | tried
  · refine .inl ⟨rfl, rfl, ?_⟩
    rcases same with rfl | ⟨written, rfl⟩ <;> exact there
  · exact .inr tried

/-- What an attempt of a dispatch that is not on record leaves, unless nothing has happened. -/
inductive Began (crypto : Crypto) (w : SpoolWorld) (e : ExternalEnvelope) (w' : SpoolWorld) (o : Ending SpooledStmt (Answer β)) : Prop
  | stuck (stuck : Stuck w w' e.dispatchId o)
  | recorded {payload : String} {dispatches : Table DispatchRow DispatchRow.dispatchId} (calm : ¬ Critical o)
      (inserted : w.db.dispatches.insert? e.row = some dispatches) (db : w'.db.dispatches = dispatches)
      (outbound : w'.outbound = published w.outbound e.dispatchId payload)

/-- Neither the frame nor its temporary file is there. -/
structure Vacant (dir : Directory String) (id : String) : Prop where
  frame : dir.get? (frameName id) = none
  temporary : dir.get? (temporaryName id) = none

theorem tries_direct {id ending : String} {k : String → Spooled β} (tried : spooled.Tries (Spooled.direct id ending >>= k).run w w' o) :
    Unbegun w w' o ∨ isIdentifier id = true ∧ spooled.Tries (k (id ++ ending)).run w w' o := by
  rw [Spooled.direct, bind_assoc] at tried
  rcases tries_check tried with unbegun | ⟨name, named, tried⟩
  · exact .inl unbegun
  obtain ⟨same, identified⟩ := identifier_name.mp named
  rw [bind_assoc] at tried
  rcases tries_look rfl rfl (fun _ => rfl) tried with unbegun | tried
  · exact .inl unbegun
  · rw [same] at tried
    exact .inr ⟨identified, tried⟩

theorem tries_writeOutbound {body : List (String × Json)} {id : String} {k : Unit → Spooled β}
    (tried : spooled.Tries (writeOutbound crypto id body >>= k).run w w' o) :
    Unbegun w w' o ∨ Vacant w.outbound id ∧ isIdentifier id = true ∧
      ∃ payload, canonicalJson crypto (.dict body) = .ok payload ∧ payload.length ≤ maxFrameBytes ∧
        (Stuck w w' id o ∨ spooled.Tries (k ()).run { w with outbound := published w.outbound id payload } w' o) := by
  rw [writeOutbound] at tried
  simp only [bind_assoc] at tried
  rcases tries_check tried with unbegun | ⟨payload, canonical, tried⟩
  · exact .inl unbegun
  rcases tries_check tried with unbegun | ⟨_, short, tried⟩
  · exact .inl unbegun
  rcases tries_direct tried with unbegun | ⟨identified, tried⟩
  · exact .inl unbegun
  rcases tries_direct tried with unbegun | ⟨-, tried⟩
  · exact .inl unbegun
  rcases tries_look rfl rfl (fun _ => rfl) tried with unbegun | tried
  · exact .inl unbegun
  rcases tries_check tried with unbegun | ⟨_, frame, tried⟩
  · exact .inl unbegun
  rcases tries_look rfl rfl (fun _ => rfl) tried with unbegun | tried
  · exact .inl unbegun
  rcases tries_check tried with unbegun | ⟨_, temporary, tried⟩
  · exact .inl unbegun
  have vacant : Vacant w.outbound id :=
    ⟨Option.isSome_eq_false_iff.mp (require_ok.mp frame) |> Option.isNone_iff_eq_none.mp,
      Option.isSome_eq_false_iff.mp (require_ok.mp temporary) |> Option.isNone_iff_eq_none.mp⟩
  rcases tries_publishFrame vacant.temporary tried with unbegun | rest
  · exact .inl unbegun
  · exact .inr ⟨vacant, identified, payload, canonical, require_ok.mp short, rest⟩

theorem tries_send {o : Ending SpooledStmt (Answer ExternalEnvelope)} (absent : w.db.dispatches.find? e.dispatchId = none)
    (tried : spooled.Tries (send crypto n e).run w w' o) :
    Unbegun w w' o ∨ Vacant w.outbound e.dispatchId ∧ Publishable crypto e ∧ Began crypto w e w' o := by
  obtain ⟨dispatches, inserted, done⟩ := insert_row absent
  unfold send at tried
  rcases tries_writeOutbound tried with unbegun | ⟨vacant, identified, payload, canonical, short, rest⟩
  · exact .inl unbegun
  refine .inr ⟨vacant, ⟨identified, payload, canonical, short⟩, ?_⟩
  rcases rest with stuck | tried
  · exact .stuck stuck
  have there : ((published w.outbound e.dispatchId payload).get? (frameName e.dispatchId)).isSome := by
    rw [get?_published, if_pos rfl]
    rfl
  have inserts : ∀ x, ExternalStmt.perform (.inr (.insertDispatch e.row)) x w.db = ({ w.db with dispatches }, .ok ()) :=
    fun x => congrArg (update w.db) done
  rcases tries_statement (w := ⟨w.db, published w.outbound e.dispatchId payload⟩) inserts tried with ⟨rfl, rfl⟩ | tried
  · exact .stuck ⟨rfl, rfl, .inl there⟩
  rcases tries_statement (fun x => rfl) tried with ⟨rfl, rfl⟩ | ⟨rfl, rfl⟩
  · exact .recorded Bool.false_ne_true inserted rfl rfl
  · exact .recorded id inserted rfl rfl

theorem tries_dispatch {o : Ending SpooledStmt (Answer ExternalEnvelope)}
    (tried : spooled.Tries (Spooled.dispatch crypto task lease sessionId now).run w w' o) :
    Unbegun w w' o ∨ ∃ n e, Offered crypto w.db task lease sessionId now n e ∧ w.db.dispatches.find? e.dispatchId = none ∧
      Vacant w.outbound e.dispatchId ∧ Publishable crypto e ∧ Began crypto w e w' o := by
  rw [dispatch_plain, plainDispatch] at tried
  rcases tries_check tried with unbegun | ⟨n, clock, tried⟩
  · exact .inl unbegun
  rcases tries_check tried with unbegun | ⟨worker, worker_, tried⟩
  · exact .inl unbegun
  rcases tries_check tried with unbegun | ⟨taskId, task_, tried⟩
  · exact .inl unbegun
  rcases tries_check tried with unbegun | ⟨leaseId, lease_, tried⟩
  · exact .inl unbegun
  rcases tries_query rfl (fun _ => rfl) tried with unbegun | tried
  · exact .inl unbegun
  rcases tries_query rfl (fun _ => rfl) tried with unbegun | tried
  · exact .inl unbegun
  rcases tries_check tried with unbegun | ⟨current, found, tried⟩
  · exact .inl unbegun
  rcases tries_check tried with unbegun | ⟨session, opened, tried⟩
  · exact .inl unbegun
  rcases tries_check tried with unbegun | ⟨_, held, tried⟩
  · exact .inl unbegun
  rcases tries_check tried with unbegun | ⟨expires, deadline, tried⟩
  · exact .inl unbegun
  rcases tries_check tried with unbegun | ⟨_, live, tried⟩
  · exact .inl unbegun
  dsimp only at tried
  rcases tries_query rfl (fun _ => rfl) tried with unbegun | tried
  · exact .inl unbegun
  have offered : Offered crypto w.db task lease sessionId now n _ := .mk (found_ok.mp clock) worker_ task_ lease_ (found_ok.mp opened) (found_ok.mp found) (require_ok.mp held)
    (found_ok.mp deadline) (require_ok.mp live)
  split at tried
  · obtain ⟨rfl, rfl⟩ := tried
    exact .inl ⟨rfl, id⟩
  · rename_i absent
    rcases tries_send absent tried with unbegun | ⟨vacant, publishable, began⟩
    · exact .inl unbegun
    · exact .inr ⟨n, _, offered, absent, vacant, publishable, began⟩

end

end ControlPlane.Autonomy
