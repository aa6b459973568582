import ControlPlane.Autonomy.LocalCalls

/-!
# Every dispatch starts once and ends once

The two flags of a dispatch are raised by the acknowledgement that starts its task and
by the result that is accepted, and nothing lowers them. What a result finds in the
store it checks there, so other connections may do whatever they do in between.
-/

namespace ControlPlane.Autonomy

open Data Interleaving

namespace LocalCall

/-- The dispatch a message names. -/
def dispatchId? : LocalCall → Option String
  | .acknowledge m _ => m.dispatchId.str?
  | .result m _ => m.dispatchId.str?
  | _ => none

/-- A call of the gateway, not a statement of another connection. -/
def ofGateway : LocalCall → Bool
  | .other _ => false
  | _ => true

end LocalCall

/-- The task goes from LEASED to RUNNING. -/
def Starts (task : String) (t : LocalTransition) : Prop :=
  (∃ r ∈ t.before.db.tasks.rows, r.taskId = task ∧ r.state = .leased) ∧
    ∃ r ∈ t.after.db.tasks.rows, r.taskId = task ∧ r.state = .running

/-- A message that names the dispatch starts the task. -/
def StartsFor (d task : String) (t : LocalTransition) : Prop := t.label.call.dispatchId? = some d ∧ Starts task t

/-- A result of the dispatch is accepted. -/
def AcceptsResult (d : String) (t : LocalTransition) : Prop :=
  ∃ m now, t.label.call = .result m now ∧ m.dispatchId = .str d ∧ t.label.answer = .ok ()

/-- An acknowledgement of the message's dispatch, with the message's task, worker,
session and lease, is accepted. -/
def Acknowledges (m : ResultEnvelope) (t : LocalTransition) : Prop :=
  ∃ a now, t.label.call = .acknowledge a now ∧ a.dispatchId = m.dispatchId ∧ a.toBinding = m.toBinding ∧
    t.label.answer = .ok ()

/-- What is true when a result is accepted. -/
structure ResultJustified (platform : Platform) (past : List LocalTransition) (t : LocalTransition) (m : ResultEnvelope)
    (n : ℚ) : Prop where
  acknowledged : ∃ u ∈ past, Acknowledges m u
  held : ∃ r, t.before.db.tasks.find? m.taskId = some r ∧ r.state = .running ∧ r.assignedWorkerId = some m.workerId ∧
    r.leaseId = some m.leaseId ∧ r.Live n
  evidence : m.status = "SUCCEEDED" → ∃ e i bytes, m.evidence = [e] ∧ e.evidenceId = .str i ∧
    t.before.gateway.evidence i = some (some bytes) ∧
      (⟨m.taskId, i, platform.sha256 bytes, n⟩ : EvidenceRow) ∈ t.after.db.evidence.rows

/-- What is promised of a history, newest first. -/
structure DispatchesSafe (platform : Platform) (past : List LocalTransition) : Prop where
  /-- The gateway starts a task only by an accepted acknowledgement that names it. -/
  starts : ∀ t ∈ past, t.label.call.ofGateway → ∀ task, Starts task t →
    ∃ m now, t.label.call = .acknowledge m now ∧ t.label.answer = .ok () ∧ m.taskId = task
  starts_once : past.Pairwise fun later earlier =>
    ∀ d task task', ¬ (StartsFor d task later ∧ StartsFor d task' earlier)
  results_once : past.Pairwise fun later earlier => ∀ d, ¬ (AcceptsResult d later ∧ AcceptsResult d earlier)
  results : ∀ later t older, past = later ++ t :: older → ∀ m now, t.label.call = .result m now →
    t.label.answer = .ok () → ∃ n, now.clock? = some n ∧ ResultJustified platform older t m n

section

variable {platform : Platform} {g g' : LocalGateway} {db db' : Db} {call : LocalCall} {past : List LocalTransition}
  {w w' : LocalWorld} {e : LocalEvent} {now : PyFloat}

/-! ### Calls that start nothing -/

def Stmt.starts {β : Type} : Stmt β → Bool
  | .start .. => true
  | _ => false

/-- A statement other than a start leaves no task RUNNING that was not. -/
theorem exec_running {β : Type} {s : Stmt β} (other : s.starts = false) (x : Input) {r' : TaskRow}
    (member : r' ∈ (exec s x db).1.tasks.rows) (running : r'.state = .running) :
    ∃ r ∈ db.tasks.rows, r.taskId = r'.taskId ∧ r.state = .running := by
  rcases (exec_tasks s x db).source member with ⟨r, there, rfl | ⟨_, move⟩⟩ | created
  · exact ⟨r', there, rfl, running⟩
  · refine ⟨r, there, move.key.symm, ?_⟩
    cases move with
    | start => cases other
    | renew => exact running
    | reclaim | chargeStale | chargeFailure =>
      have idle : TaskState.working .running = false := running ▸ afterFailure_idle _
      cases idle
    | _ => cases running
  · have idle : TaskState.working .running = false := running ▸ (created_row created).1
    cases idle

/-- The procedure issues no start. -/
abbrev Startless {α : Type} (p : Store α) : Prop := Procedure.All (fun s => s.starts = false) p

theorem startless_ends {α : Type} {p : Store α} {r : Answer α} (startless : Startless p)
    (ends : connections.Ends p.run db db' r) : ∀ r' ∈ db'.tasks.rows, r'.state = .running →
      ∃ r ∈ db.tasks.rows, r.taskId = r'.taskId ∧ r.state = .running := by
  refine ends.keeps (I := fun u => ∀ r' ∈ u.tasks.rows, r'.state = .running →
    ∃ r ∈ db.tasks.rows, r.taskId = r'.taskId ∧ r.state = .running) (startless.mono fun s other x u before r' member running => ?_)
    fun r' member running => ⟨r', member, rfl, running⟩
  obtain ⟨r, there, same, still⟩ := exec_running other x member running
  obtain ⟨r₀, first, same₀, running₀⟩ := before r there still
  exact ⟨r₀, first, same₀.trans same, running₀⟩

section

variable {α : Type}

theorem startless_check {c : Prop} [Decidable c] {x : Err} : Startless (Store.check c x) := by
  unfold Store.check
  split
  · exact Procedure.all_pure _
  · exact Procedure.all_throw _

theorem startless_row {o : Option α} {x : Err} : Startless (Store.row o x) := by
  cases o with
  | none => exact Procedure.all_throw _
  | some a => exact Procedure.all_pure a

theorem startless_now : Startless (Store.now now) := by
  unfold Store.now
  split
  · exact Procedure.all_pure _
  · exact Procedure.all_throw _

theorem startless_task {id : String} : Startless (Store.task id) := (Procedure.all_ask rfl).bind fun _ => startless_row

theorem startless_procedure (other : ∀ m now, call ≠ .acknowledge m now) (own : call.ofGateway) :
    Startless (call.procedure platform g) := by
  cases call with
  | acknowledge m now => exact absurd rfl (other m now)
  | other s => cases own
  | _ =>
    simp only [LocalCall.procedure, LocalGateway.registerLocalHarness, LocalGateway.establish, LocalGateway.heartbeat,
      LocalGateway.dispatch, LocalGateway.result, LocalGateway.version, LocalGateway.holds, Store.registerWorker,
      Store.heartbeatWithCapacity, Store.audit, Store.submitResult, Store.failAttempt]
    repeat' first
      | exact Procedure.all_pure _
      | exact Procedure.all_throw _
      | exact Procedure.all_lift _
      | exact startless_check
      | exact startless_row
      | exact startless_now
      | exact startless_task
      | exact Procedure.all_ask rfl
      | refine Procedure.All.bind ?_ fun _ => ?_
      | split

end

/-! ### Acknowledgements -/

theorem raisesCleanly_acknowledge {m : AckEnvelope} : connections.RaisesCleanly (g.acknowledge platform m now) := by
  refine .bind quiet_check fun _ => .bind quiet_now fun n => .bind Machine.quiet_lift fun observed =>
    .bind Machine.quiet_lift fun bound => .bind quiet_task fun current => .bind quiet_row fun session =>
    .bind quiet_check fun _ => .bind ?_ fun _ => .bind quiet_check fun _ => ?_
  · exact .bind quiet_check fun _ => .bind quiet_row fun _ => quiet_check
  · split
    · exact Machine.quiet_pure.raisesCleanly
    · exact raisesCleanly_startWithAck.then_pure

@[simp] theorem setDispatch_dispatches {id d : String} {x : Dispatch} :
    (g.setDispatch id x).dispatches d = if d = id then some x else g.dispatches d :=
  Function.update_apply ..

/-- The flag of the dispatch is up. -/
def Flagged (flag : Dispatch → Bool) (d : String) (g : LocalGateway) : Prop := ∃ x, g.dispatches d = some x ∧ flag x = true

/-- An accepted acknowledgement starts no task but its own, and only if it is the first. -/
theorem acknowledged_starts {m : AckEnvelope} (acked : Acknowledged g m now db db' g') {r r' : TaskRow}
    (before : r ∈ db.tasks.rows) (leased : r.state = .leased) (after : r' ∈ db'.tasks.rows) (same : r'.taskId = r.taskId)
    (running : r'.state = .running) : m.taskId = r.taskId ∧ ∃ d, m.dispatchId = .str d ∧
      ¬ Flagged Dispatch.acknowledged d g ∧ Flagged Dispatch.acknowledged d g' := by
  cases acked with
  | again _ _ unchanged =>
    subst unchanged
    obtain rfl := Table.eq_of_key after before same
    cases running.symm.trans leased
  | @first n observed id d clock bound fresh started =>
    obtain ⟨details, started⟩ := started
    obtain ⟨named, known, _⟩ := boundDispatch_ok bound
    refine ⟨?_, id.1, named, ?_, ?_⟩
    · rw [(startTask_ok started).2] at after
      obtain ⟨r₀, there, rfl⟩ := List.mem_map.mp after
      split at same
      · rename_i held
        exact held.1.symm.trans same
      · rename_i missed
        rw [if_neg missed] at running
        obtain rfl := Table.eq_of_key there before same
        cases running.symm.trans leased
    · rintro ⟨x, found, up⟩
      obtain rfl := Option.some.inj (known.symm.trans found)
      cases fresh.symm.trans up
    · exact ⟨_, by rw [setDispatch_dispatches, if_pos rfl], rfl⟩

/-! ### How a dispatch can change -/

inductive DispatchMove (g : LocalGateway) (call : LocalCall) (d : String) : Option Dispatch → Prop
  | kept : DispatchMove g call d (g.dispatches d)
  | new {envelope : DispatchEnvelope} (absent : g.dispatches d = none) : DispatchMove g call d (some { envelope })
  | acknowledged {m : AckEnvelope} {now : PyFloat} {x : Dispatch} {observed : Option ℚ} (sent : call = .acknowledge m now)
      (named : m.dispatchId = .str d) (known : g.dispatches d = some x) (bound : m.toBinding = x.envelope.binding) :
      DispatchMove g call d (some { x with acknowledged := true, ackObservedAt := observed })
  | resulted {m : ResultEnvelope} {now : PyFloat} {x : Dispatch} (sent : call = .result m now)
      (named : m.dispatchId = .str d) (known : g.dispatches d = some x) :
      DispatchMove g call d (some { x with resultReceived := true })

theorem returns_dispatches (returned : connections.Returns (call.procedure platform g) db db' g') (d : String) :
    DispatchMove g call d (g'.dispatches d) := by
  cases call with
  | registerLocalHarness hello now => cases returns_registerLocalHarness returned <;> exact .kept
  | heartbeat m now =>
    cases returns_heartbeat returned
    exact .kept
  | dispatch task lease sessionId now =>
    obtain ⟨_, ⟨g₁, envelope⟩, returned, _, rfl⟩ := by
      simpa only [LocalCall.procedure, Machine.returns_bind, Machine.returns_pure] using returned
    cases returns_dispatch returned with
    | known => exact .kept
    | @new id envelope fresh =>
      rw [setDispatch_dispatches]
      split
      · rename_i same
        exact .new (same ▸ fresh)
      · exact .kept
  | acknowledge m now =>
    cases returns_acknowledge returned with
    | again => exact .kept
    | @first _ _ id x _ bound _ _ =>
      obtain ⟨named, known, bound⟩ := boundDispatch_ok bound
      rw [setDispatch_dispatches]
      split
      · rename_i same
        exact .acknowledged rfl (same ▸ named) (same ▸ known) bound
      · exact .kept
  | result m now =>
    cases returns_result returned with
    | @mk _ id x _ _ bound =>
      obtain ⟨named, known, _⟩ := boundDispatch_ok bound
      rw [setDispatch_dispatches]
      split
      · rename_i same
        exact .resulted rfl (same ▸ named) (same ▸ known)
      · exact .kept
  | declare evidenceId content =>
    obtain ⟨_, _, _, _, rfl⟩ := by
      simpa only [LocalCall.procedure, Machine.returns_bind, Machine.returns_pure] using returned
    exact .kept
  | other s =>
    obtain ⟨_, _, _, _, rfl⟩ := by
      simpa only [LocalCall.procedure, Machine.returns_bind, Machine.returns_pure] using returned
    exact .kept

theorem step_dispatches (step : LocalStep platform w e w') (d : String) :
    DispatchMove w.gateway e.call d (w'.gateway.dispatches d) ∧
      (w'.gateway.dispatches d ≠ w.gateway.dispatches d → e.answer = .ok ()) := by
  rcases step.cases with ⟨ok, returned⟩ | ⟨_, _, same, _⟩
  · exact ⟨returns_dispatches returned d, fun _ => ok⟩
  · rw [same]
    exact ⟨.kept, fun changed => absurd rfl changed⟩

/-- No step lowers a flag. -/
theorem step_flagged {flag : Dispatch → Bool} (rises : flag = Dispatch.acknowledged ∨ flag = Dispatch.resultReceived)
    (step : LocalStep platform w e w') {d : String} (up : Flagged flag d w.gateway) : Flagged flag d w'.gateway := by
  obtain ⟨x, known, up⟩ := up
  have move := (step_dispatches step d).1
  generalize after : w'.gateway.dispatches d = x' at move
  cases move with
  | kept => exact ⟨x, after.trans known, up⟩
  | new absent => cases absent.symm.trans known
  | acknowledged _ _ there =>
    obtain rfl := Option.some.inj (known.symm.trans there)
    refine ⟨_, after, ?_⟩
    rcases rises with rfl | rfl
    · rfl
    · exact up
  | resulted _ _ there =>
    obtain rfl := Option.some.inj (known.symm.trans there)
    refine ⟨_, after, ?_⟩
    rcases rises with rfl | rfl
    · exact up
    · rfl

/-! ### Results -/

theorem step_deadlines (step : LocalStep platform w e w') (before : ∀ r ∈ w.db.tasks.rows, r.Deadline) :
    ∀ r ∈ w'.db.tasks.rows, r.Deadline := by
  have keeps {α : Type} {p : Store α} {a : Answer α} (ends : connections.Ends p.run w.db w'.db a) :
      ∀ r ∈ w'.db.tasks.rows, r.Deadline := by
    exact ends.keeps (I := fun db => ∀ r ∈ db.tasks.rows, r.Deadline) (Program.all_of_forall exec_deadlines _) before
  rcases step.cases with ⟨_, returned⟩ | ⟨_, _, _, raised⟩
  · exact keeps returned
  · exact keeps raised

/-! ### Every history is safe -/

theorem acknowledged_by {profiles : List WorkerProfile} {evidence : EvidenceResolver} {init : Db}
    (created : LocalGateway.create platform profiles evidence = .ok g)
    (history : LocalHistory platform ⟨init, g⟩ past w) {m : ResultEnvelope} {d : String} {x : Dispatch}
    (named : m.dispatchId = .str d) (known : w.gateway.dispatches d = some x) (up : x.acknowledged = true)
    (bound : m.toBinding = x.envelope.binding) : ∃ u ∈ past, Acknowledges m u := by
  let Up (v : LocalWorld) : Prop :=
    ∃ x, v.gateway.dispatches d = some x ∧ x.acknowledged = true ∧ m.toBinding = x.envelope.binding
  refine history.raised_by (Acknowledges m) Up ?_ (fun t member down up => ?_) ⟨x, known, up, bound⟩
  · rintro ⟨x, found, _⟩
    rw [(create_empty created).2 d] at found
    cases found
  obtain ⟨x', after, up, bound⟩ := up
  obtain ⟨move, answered⟩ := step_dispatches (history.moved t member) d
  by_cases unchanged : t.after.gateway.dispatches d = t.before.gateway.dispatches d
  · exact absurd ⟨x', unchanged.symm.trans after, up, bound⟩ down
  have ok := answered unchanged
  rw [after] at move
  generalize same : some x' = x'' at move
  cases move with
  | kept => exact absurd (after.trans same) unchanged
  | new absent =>
    cases Option.some.inj same
    cases up
  | acknowledged sent there known own =>
    cases Option.some.inj same
    exact ⟨_, _, sent, there.trans named.symm, own.trans bound.symm, ok⟩
  | resulted sent there known =>
    cases Option.some.inj same
    exact absurd ⟨_, known, up, bound⟩ down

theorem accepted_result {t : LocalTransition} (step : LocalStep platform t.before t.label t.after) {m : ResultEnvelope}
    (sent : t.label.call = .result m now) (ok : t.label.answer = .ok ()) :
    ResultTaken platform t.before.gateway m now t.before.db t.after.db t.after.gateway := by
  rcases step.cases with ⟨_, returned⟩ | ⟨_, raised, _⟩
  · rw [sent] at returned
    exact returns_result returned
  · cases ok.symm.trans raised

/-- Over every history of calls and of statements of other connections: each dispatch
starts its task at most once and ends at most once, and a result is accepted only of
an acknowledged dispatch, under the live lease it was made for, with its evidence stored. -/
theorem dispatches_safe {profiles : List WorkerProfile} {evidence : EvidenceResolver}
    (created : LocalGateway.create platform profiles evidence = .ok g)
    (history : LocalHistory platform ⟨Db.empty, g⟩ past w) : DispatchesSafe platform past := by
  have starts : ∀ t ∈ past, t.label.call.ofGateway → ∀ task, Starts task t →
      ∃ m now, t.label.call = .acknowledge m now ∧ t.label.answer = .ok () ∧ m.taskId = task ∧
        ∃ d, m.dispatchId = .str d ∧ ¬ Flagged Dispatch.acknowledged d t.before.gateway ∧
          Flagged Dispatch.acknowledged d t.after.gateway := by
    rintro t member own task ⟨⟨r, before, rfl, leased⟩, r', after, same, running⟩
    have ends : ∃ a : Answer LocalGateway,
        connections.Ends (t.label.call.procedure platform t.before.gateway).run t.before.db t.after.db a := by
      rcases (history.moved t member).cases with ⟨_, returned⟩ | ⟨_, _, _, raised⟩
      · exact ⟨_, returned⟩
      · exact ⟨_, raised⟩
    by_cases acks : ∃ m now, t.label.call = .acknowledge m now
    · obtain ⟨m, now, sent⟩ := acks
      rcases (history.moved t member).cases with ⟨ok, returned⟩ | ⟨_, _, _, raised⟩
      · rw [sent] at returned
        obtain ⟨named, d, dispatch, down, up⟩ :=
          acknowledged_starts (returns_acknowledge returned) before leased after same running
        exact ⟨m, now, sent, ok, named, d, dispatch, down, up⟩
      · rw [sent] at raised
        rw [raisesCleanly_acknowledge _ _ _ raised] at after
        obtain rfl := Table.eq_of_key after before same
        cases running.symm.trans leased
    · obtain ⟨a, ends⟩ := ends
      have startless : Startless (t.label.call.procedure platform t.before.gateway) :=
        startless_procedure (fun m now sent => acks ⟨m, now, sent⟩) own
      obtain ⟨r₀, there, key, already⟩ := startless_ends startless ends r' after running
      obtain rfl := Table.eq_of_key there before (key.trans same)
      cases already.symm.trans leased
  constructor
  · intro t member own task started
    obtain ⟨m, now, sent, ok, named, _⟩ := starts t member own task started
    exact ⟨m, now, sent, ok, named⟩
  · have once := history.at_most_once (fun d t => ∃ task, StartsFor d task t)
      (fun d w => Flagged Dispatch.acknowledged d w.gateway) ?_ fun t member d =>
        step_flagged (.inl rfl) (history.moved t member)
    · exact once.imp fun never d task task' both => never d ⟨⟨task, both.1⟩, task', both.2⟩
    rintro t member d ⟨task, named, started⟩
    have own : t.label.call.ofGateway := by
      cases sent : t.label.call with
      | other s =>
        rw [sent] at named
        cases named
      | _ => rfl
    obtain ⟨m, now, sent, _, _, d', dispatch, down, up⟩ := starts t member own task started
    rw [sent, LocalCall.dispatchId?, dispatch] at named
    cases named
    exact ⟨down, up⟩
  · refine history.at_most_once AcceptsResult (fun d w => Flagged Dispatch.resultReceived d w.gateway) ?_
      fun t member d => step_flagged (.inr rfl) (history.moved t member)
    rintro t member d ⟨m, now, sent, named, ok⟩
    have taken := accepted_result (history.moved t member) sent ok
    generalize after : t.after.gateway = g' at taken ⊢
    cases taken with
    | @mk n id x current clock bound acknowledged fresh =>
      obtain ⟨same, known, _⟩ := boundDispatch_ok bound
      cases named.symm.trans same
      refine ⟨?_, _, by rw [setDispatch_dispatches, if_pos rfl], rfl⟩
      rintro ⟨x', found, up⟩
      obtain rfl := Option.some.inj (known.symm.trans found)
      cases fresh.symm.trans up
  · rintro later t older rfl m now sent ok
    obtain ⟨before, step⟩ := history.upTo
    obtain ⟨deadlines, _⟩ := before.invariant (I := fun w => ∀ r ∈ w.db.tasks.rows, r.Deadline) (by simp [Db.empty])
      fun u member => step_deadlines (before.moved u member)
    have taken := accepted_result step sent ok
    generalize t.after.gateway = g' at taken
    cases taken with
    | @mk n id x current clock bound acknowledged fresh found running held ahead succeeded =>
      obtain ⟨named, known, own⟩ := boundDispatch_ok bound
      have task : clean m.taskId = m.taskId := by
        have taskId : m.taskId = x.envelope.taskId.1 := congrArg Binding.taskId own
        rw [taskId, clean_identifier]
      rw [task] at found
      obtain ⟨expires, stored, notPast⟩ := ahead
      refine ⟨n, clock, acknowledged_by created before named known acknowledged own, ⟨current, found, running, held.1, held.2,
        (deadlines current (Table.find?_some.mp found).1).live stored notPast⟩, fun success => ?_⟩
      obtain ⟨e, i, bytes, only, evidence, content, received⟩ := succeeded success
      refine ⟨e, i.1, bytes, only, evidence, content, ?_⟩
      rw [(receiveResult_ok received).2, clean_identifier, lower_of_isDigest (platform.digest bytes)]
      exact List.mem_append_right _ List.mem_cons_self

end

namespace Sample

/-- A worker is dispatched to a claimed task, acknowledges twice and reports its result twice. -/
def dispatched : List (LocalCall × List Input) :=
  let binding : Binding := ⟨"t", "w", "s", "lease"⟩
  let id := Json.str (platform.sha256 "t|w|s|lease".toUTF8)
  let ack : LocalCall := .acknowledge { binding with dispatchId := id, observedAt := .int 2 } (.fin 2)
  let report : LocalCall := .result { binding with
    dispatchId := id, observedAt := .int 3, status := "SUCCEEDED"
    evidence := [⟨.str "e", .str (platform.sha256 "report".toUTF8)⟩] } (.fin 3)
  [(.registerLocalHarness (hello "s" 0 0) (.fin 0), []), (.declare (.str "e") (some "report".toUTF8), []),
   (.other (.createTask { taskId := "t", directiveId := none, targetProject := "lab", capability := "read", governanceAllowed := 1 } 0), []),
   (.other (.claim "t" "w" (.fin 30) 1), [{ uuid := "lease" }]),
   (.dispatch [("task_id", .str "t"), ("capability", .str "read"), ("target_project", .str "lab")]
     [("task_id", .str "t"), ("worker_id", .str "w"), ("lease_id", .str "lease")] (.str "s") (.fin 1), []),
   (ack, []), (ack, []), (report, []), (report, [])]

end Sample

theorem dispatches_safe_reported : ∃ g, LocalGateway.create Sample.platform [Sample.profile] (fun _ => none) = .ok g ∧
    DispatchesSafe Sample.platform (playLocal Sample.platform ⟨.empty, g⟩ Sample.dispatched).1 := by
  obtain ⟨g, created⟩ := Sample.gateway_created
  exact ⟨g, created, dispatches_safe created (playLocal_history ..)⟩

end ControlPlane.Autonomy
