import ControlPlane.Autonomy.Effect

/-!
# How a task row can change

`Move` is `Effect` seen by one row: the statement's update of it, with what the
statement itself guarantees about the row it hits.
-/

namespace ControlPlane.Autonomy

open Data Interleaving

/-- The transaction of the grant is in this state. -/
def Db.Transacted (db : Db) (grantId : String) (state : GrantState) : Prop :=
  ∃ tx ∈ db.transactions.rows, tx.grantId = grantId ∧ tx.state = state

instance (db : Db) (grantId : String) (state : GrantState) : Decidable (db.Transacted grantId state) :=
  inferInstanceAs (Decidable (∃ tx ∈ db.transactions.rows, _))

inductive Move : {β : Type} → Stmt β → Input → Db → TaskRow → TaskRow → Prop
  | claim {task worker seconds n x db r w} (named : r.taskId = task) (owner : db.workers.find? worker = some w)
      (open_ : r.state.leaseable ∧ r.requiresHumanApproval = 0 ∧ r.governanceAllowed ≠ 0)
      (room : (db.activeLeases worker n : Int) < w.capacity)
      (unique : ∀ s ∈ db.tasks.rows, s.taskId ≠ task → s.leaseId ≠ some x.uuid) :
      Move (.claim task worker seconds n) x db r (r.claimed worker x.uuid (.fin n + seconds) w.lastHeartbeat n)
  | renew {task worker lease expires n x db r} (held : r.heldBy task worker lease TaskState.working n) :
      Move (.renew task worker lease expires n) x db r (r.renewed expires n)
  | start {ack task worker lease n x db r} (held : r.heldBy task worker lease (· = .leased) n) :
      Move (.start ack task worker lease n) x db r (r.started n)
  | reclaim {task n x db r} (named : r.named task TaskState.working) (lapsed : r.Lapsed n) :
      Move (.reclaim task n) x db r (r.charged n r)
  | chargeStale {task read n x db r} (named : r.taskId = task) :
      Move (.chargeStale task read n) x db r (read.chargedStale n r)
  | chargeFailure {task lease read reason code n x db r} (named : r.taskId = task) :
      Move (.chargeFailure task lease read reason code n) x db r (read.chargedFailure reason code n r)
  | completeTask {task n x db r} (named : r.taskId = task) : Move (.completeTask task n) x db r (r.completed n)
  | waitForCapacity {task n x db r} (named : r.taskId = task) :
      Move (.waitForCapacity task n) x db r (r.waiting n)
  | submitMissing {task worker lease evidence sha n x db r} (named : r.taskId = task)
      (held : (r.state.working ∨ r.state = .evidencePending) ∧ r.assignedWorkerId = some worker ∧ r.leaseId = some lease)
      (ahead : ¬ r.Lapsed n) (missing : evidence = "" ∨ sha = "" ∨ ¬ isHex64 sha) :
      Move (.submitResult task worker lease evidence sha n) x db r r.evidenceMissing
  | submitResult {task worker lease evidence sha n x db r} (named : r.taskId = task)
      (held : (r.state.working ∨ r.state = .evidencePending) ∧ r.assignedWorkerId = some worker ∧ r.leaseId = some lease)
      (ahead : ¬ r.Lapsed n) (hex : isHex64 sha)
      (recorded : ∃ e ∈ (exec (.submitResult task worker lease evidence sha n) x db).1.evidence.rows, e.taskId = task) :
      Move (.submitResult task worker lease evidence sha n) x db r (r.received n)
  | markWaiting {task n x db r} (named : r.named (clean task) TaskState.leaseable)
      (allowed : r.requiresHumanApproval = 0 ∧ r.governanceAllowed = 1) :
      Move (.markWaiting task n) x db r (r.waiting n)
  | finishApply {plan envelope sha now x db r grant} (found : db.grants.find? plan.grantId = some grant)
      (named : r.taskId = grant.taskId) (held : r.state = .running ∧ r.assignedWorkerId = some grant.workerId ∧
        r.leaseId = some grant.leaseId) (ahead : ¬ r.Lapsed now)
      (settled : (exec (.finishApply plan envelope sha now) x db).1.Transacted plan.grantId .applied) :
      Move (.finishApply plan envelope sha now) x db r (r.received now)
  | settleRecovery {grant outcome n x db r} (named : r.taskId = grant.taskId) (running : r.state = .running)
      (applied : outcome.state = .applied) (settled : db.Transacted grant.grantId .applying →
        (exec (.settleRecovery grant outcome n) x db).1.Transacted grant.grantId .applied) : Move (.settleRecovery grant outcome n) x db r (r.received n)

/-- The rows a statement can add. -/
inductive Created : {β : Type} → Stmt β → TaskRow → Prop
  | createTask {t n} : Created (.createTask t n) (t.row n)
  | ingestEntry {e} : Created (.ingestEntry e) e.row

section

variable {β : Type} {s : Stmt β} {x : Input} {db : Db} {r r' : TaskRow}

theorem insertTask_ok {db' : Db} (h : db.insertTask r = .ok db') :
    ∃ tasks, db' = { db with tasks } ∧ (∀ s ∈ db.tasks.rows, s.taskId ≠ r.taskId) ∧
      tasks.rows = db.tasks.rows ++ [r] := by
  simp only [Db.insertTask, require_bind_ok, found_bind_ok, pure_ok] at h
  obtain ⟨_, tasks, inserted, rfl⟩ := h
  obtain ⟨fresh, rows⟩ := Table.insert?_some inserted
  exact ⟨tasks, rfl, fresh, rows⟩

theorem authority_ok {grant : GrantRow} {now : ℚ} (h : db.authority grant now x = .ok ()) :
    ∃ t, db.tasks.find? grant.taskId = some t ∧ (t.state = .running ∧ t.assignedWorkerId = some grant.workerId ∧
      t.leaseId = some grant.leaseId) ∧ ¬ t.Lapsed now := by
  simp only [Db.authority] at h
  obtain ⟨_, h, _⟩ := bind_ok.mp h
  simp only [authority, require_bind_ok, found_bind_ok] at h
  obtain ⟨t, found, _, _, held, expires, expiry, ⟨ahead, _⟩, _⟩ := h
  refine ⟨t, found, held, ?_⟩
  rintro ⟨e, same, past⟩
  cases expiry.symm.trans same
  exact ahead past

theorem insertEvidence_ok {e : EvidenceRow} {db' : Db} (h : db.insertEvidence e = .ok db') :
    ∃ evidence, db' = { db with evidence } ∧ evidence.rows = db.evidence.rows ++ [e] := by
  simp only [Db.insertEvidence, require_bind_ok, found_bind_ok, pure_ok] at h
  obtain ⟨_, evidence, inserted, rfl⟩ := h
  exact ⟨evidence, rfl, (Table.insert?_some inserted).2⟩

/-- Audit events touch no other table. -/
theorem foldl_log (events : List (String × String)) (task : String) (n : ℚ) (db : Db) :
    ∃ audit, events.foldl (fun db e => db.log task e.1 n e.2) db = { db with audit } := by
  induction events generalizing db with
  | nil => exact ⟨db.audit, rfl⟩
  | cons e events ih => exact ih _

/-- A start that commits has found its row under the lease. -/
theorem startTask_ok {message task worker lease : String} {n : ℚ} {events : List (String × String)} {db' : Db}
    (started : startTask message events task worker lease n db = .ok (db', .ok ())) :
    (∃ r ∈ db.tasks.rows, r.heldBy task worker lease (· = .leased) n) ∧
      db'.tasks.rows = db.tasks.rows.map fun r => if r.heldBy task worker lease (· = .leased) n then r.started n else r := by
  simp only [startTask, found_bind_ok, require_bind_ok, pure_ok] at started
  obtain ⟨_, _, _, counted, same⟩ := started
  obtain ⟨rfl, _⟩ := Prod.mk.inj same
  constructor
  · simpa using List.countP_pos_iff.mp (Nat.lt_of_lt_of_eq Nat.one_pos counted.symm)
  · rw [(foldl_log events task n _).choose_spec]
    rfl

theorem receiveResult_ok {task worker lease evidence sha : String} {n : ℚ} {db' : Db}
    (received : receiveResult task worker lease evidence sha n db = .ok (db', .ok ())) :
    (∃ t, db.tasks.find? task = some t ∧ (t.state.working ∨ t.state = .evidencePending) ∧ t.assignedWorkerId = some worker ∧
      t.leaseId = some lease ∧ ∃ expires, t.leaseExpiresAt = some expires ∧ ¬ expires ≤ .fin n) ∧
      db'.evidence.rows = db.evidence.rows ++ [⟨task, clean evidence, lower sha, n⟩] := by
  simp only [receiveResult, require_bind_ok, found_bind_ok] at received
  obtain ⟨t, found, _, _, ⟨open_, worker, lease⟩, expires, stored, ⟨ahead, _⟩, received⟩ := received
  split at received
  · have refused := (Prod.mk.inj (pure_ok.mp received)).2
    cases refused
  · obtain ⟨stored', inserted, received⟩ := bind_ok.mp received
    obtain ⟨rfl, _⟩ := Prod.mk.inj (pure_ok.mp received)
    obtain ⟨evidence, rfl, rows⟩ := insertEvidence_ok inserted
    exact ⟨⟨t, found, open_, worker, lease, expires, stored, ahead⟩, rows⟩

/-- An update by primary key hits the row that was found under it. -/
theorem hits_found {t : TaskRow} {task : String} (found : db.tasks.find? task = some t)
    (member : r ∈ db.tasks.rows) (named : r.taskId = task) : r = t := by
  obtain ⟨there, same⟩ := Table.find?_some.mp found
  exact Table.eq_of_key member there (named.trans same.symm)

theorem exec_tasks (s : Stmt β) (x : Input) (db : Db) :
    db.tasks.Evolves (fun r r' => x.busy = false ∧ Move s x db r r') (Created s) (exec s x db).1.tasks := by
  rcases exec_effect s x db with same | ⟨free, effect⟩
  · rw [same]
    exact Table.evolves_refl
  generalize result : (exec s x db).1 = db' at effect
  cases effect with
  | chargeStale => exact Table.evolves_update rfl fun r _ named => ⟨free, .chargeStale named⟩
  | chargeFailure => exact Table.evolves_update rfl fun r _ named => ⟨free, .chargeFailure named⟩
  | completeTask => exact Table.evolves_update rfl fun r _ named => ⟨free, .completeTask named⟩
  | waitForCapacity => exact Table.evolves_update rfl fun r _ named => ⟨free, .waitForCapacity named⟩
  | renew => exact Table.evolves_update rfl fun r _ held => ⟨free, .renew held⟩
  | markWaiting => exact Table.evolves_update rfl fun r _ waits => ⟨free, .markWaiting waits.1 waits.2⟩
  | claim found owner open_ _ _ room unique =>
    refine Table.evolves_update rfl fun r member named => ?_
    obtain rfl := hits_found found member named.1
    exact ⟨free, .claim named.1 owner open_ room unique⟩
  | @start ack task worker lease n =>
    obtain ⟨audit, logged⟩ := foldl_log (startEvents ack worker) task n
      (db.updateTasks (TaskRow.heldBy task worker lease (· = .leased) n) (TaskRow.started n) fun _ => rfl)
    rw [logged]
    exact Table.evolves_update rfl fun r _ held => ⟨free, .start held⟩
  | reclaim found =>
    refine Table.evolves_update rfl fun r member lapsed => ?_
    obtain rfl := hits_found found member lapsed.1.1
    exact ⟨free, .reclaim lapsed.1 lapsed.2⟩
  | submitMissing found _ held ahead _ missing =>
    refine Table.evolves_update rfl fun r member named => ?_
    obtain rfl := hits_found found member named
    exact ⟨free, .submitMissing named held ahead missing⟩
  | submitResult found _ held ahead _ hex inserted =>
    obtain ⟨evidence, rfl, rows⟩ := insertEvidence_ok inserted
    refine Table.evolves_update rfl fun r member named => ?_
    obtain rfl := hits_found found member named
    refine ⟨free, .submitResult named held ahead hex ?_⟩
    rw [result]
    exact ⟨_, rows ▸ List.mem_append_right _ List.mem_cons_self, rfl⟩
  | finishApply found authority pending =>
    refine Table.evolves_update rfl fun r member running => ?_
    obtain ⟨t, there, held, ahead⟩ := authority_ok authority
    obtain rfl := hits_found there member running.1
    refine ⟨free, .finishApply found running.1 held ahead ?_⟩
    obtain ⟨tx, before, applying⟩ : ∃ tx ∈ db.transactions.rows, tx.grantId = _ ∧ tx.state = .applying := by
      simpa using List.countP_pos_iff.mp (Nat.lt_of_lt_of_eq Nat.one_pos pending.symm)
    rw [result]
    exact ⟨_, List.mem_map.mpr ⟨tx, before, if_pos applying⟩, applying.1, rfl⟩
  | settleRecovery settled =>
    subst settled
    split
    · refine Table.evolves_update rfl fun r member running => ?_
      refine ⟨free, .settleRecovery running.1 (by simpa using running.2) ‹_› ?_⟩
      rintro ⟨tx, before, applying⟩
      rw [result, if_pos ‹_›]
      exact ⟨_, List.mem_map.mpr ⟨tx, before, if_pos applying⟩, applying.1, ‹_›⟩
    · exact Table.evolves_refl
  | createTask inserted =>
    obtain ⟨tasks, rfl, _, rows⟩ := insertTask_ok inserted
    exact Table.evolves_insert rows .createTask
  | ingestNew inserted =>
    obtain ⟨tasks, rfl, _, rows⟩ := insertTask_ok inserted
    exact Table.evolves_insert rows .ingestEntry
  | _ => exact Table.evolves_refl

/-- No update touches the key or the columns a task was created with. -/
theorem Move.identity (move : Move s x db r r') :
    r'.taskId = r.taskId ∧ r'.requiresHumanApproval = r.requiresHumanApproval ∧
      r'.governanceAllowed = r.governanceAllowed ∧ r'.retryBudget = r.retryBudget := by
  cases move <;> exact ⟨rfl, rfl, rfl, rfl⟩

theorem Move.key (move : Move s x db r r') : r'.taskId = r.taskId := move.identity.1

/-- SQLite keeps no `nan`. -/
def TaskRow.Deadline (r : TaskRow) : Prop := r.leaseExpiresAt ≠ some .nan

theorem stored_ne_nan {v : PyFloat} : v.stored ≠ some .nan := by
  cases v <;> simp [PyFloat.stored]

theorem Move.deadline (move : Move s x db r r') (before : r.Deadline) : r'.Deadline := by
  cases move with
  | claim | renew => exact stored_ne_nan
  | reclaim | chargeStale | chargeFailure | completeTask => exact nofun
  | _ => exact before

theorem Created.deadline {β : Type} {s : Stmt β} {r : TaskRow} (created : Created s r) : r.Deadline := by
  cases created <;> exact nofun

theorem exec_deadlines {α : Type} (s : Stmt α) (x : Input) (db : Db) (before : ∀ r ∈ db.tasks.rows, r.Deadline) :
    ∀ r ∈ (exec s x db).1.tasks.rows, r.Deadline :=
  (exec_tasks s x db).all before (fun _ _ _ moved => moved.2.deadline) fun _ => Created.deadline

/-- A lease that is not past is live. -/
theorem TaskRow.Deadline.live {n : ℚ} {expires : PyFloat} (deadline : r.Deadline)
    (held : r.leaseExpiresAt = some expires) (ahead : ¬ expires ≤ .fin n) : r.Live n := by
  refine ⟨expires, held, ?_⟩
  have kept : expires.stored = some expires := by
    cases expires with
    | nan => exact absurd held deadline
    | _ => rfl
  exact (PyFloat.le_or_lt kept).resolve_left ahead

/-- The row of a task after the statement, seen from the row before. -/
theorem exec_successor (member : r ∈ db.tasks.rows) (after : r' ∈ (exec s x db).1.tasks.rows)
    (same : r'.taskId = r.taskId) : r' = r ∨ x.busy = false ∧ Move s x db r r' := by
  obtain ⟨s', there, moved⟩ := (exec_tasks s x db).kept member
  have key : s'.taskId = r.taskId := by
    rcases moved with rfl | ⟨_, move⟩
    · rfl
    · exact move.key
  obtain rfl := Table.eq_of_key after there (same.trans key.symm)
  exact moved

theorem exec_kept (s : Stmt β) (x : Input) (member : r ∈ db.tasks.rows) :
    ∃ r' ∈ (exec s x db).1.tasks.rows, r'.taskId = r.taskId ∧ (r' = r ∨ x.busy = false ∧ Move s x db r r') := by
  obtain ⟨r', there, moved⟩ := (exec_tasks s x db).kept member
  refine ⟨r', there, ?_, moved⟩
  rcases moved with rfl | ⟨_, move⟩
  · rfl
  · exact move.key

theorem exec_find (s : Stmt β) (x : Input) {task : String} (found : db.tasks.find? task = some r) :
    ∃ r', (exec s x db).1.tasks.find? task = some r' ∧ (r' = r ∨ x.busy = false ∧ Move s x db r r') :=
  (exec_tasks s x db).find? (fun _ _ moved => moved.2.key) found

/-- A task that was not there is there only if the statement created it. -/
theorem exec_find_new (s : Stmt β) (x : Input) {task : String} (absent : db.tasks.find? task = none)
    (found : (exec s x db).1.tasks.find? task = some r) : Created s r := by
  obtain ⟨member, named⟩ := Table.find?_some.mp found
  rcases (exec_tasks s x db).source member with ⟨r₀, there, moved⟩ | created
  · have key : r.taskId = r₀.taskId := by
      rcases moved with rfl | ⟨_, move⟩
      · rfl
      · exact move.key
    exact absurd (key.symm.trans named) (Table.find?_none.mp absent r₀ there)
  · exact created

/-- A new task is nobody's: no lease, no attempt. -/
theorem created_row (created : Created s r) :
    r.state.working = false ∧ r.attemptCount = 0 ∧ r.leaseId = none := by
  cases created with
  | @createTask t n =>
    refine ⟨?_, rfl, rfl⟩
    simp only [NewTask.row, NewTask.state]
    split <;> rfl
  | @ingestEntry e =>
    refine ⟨?_, rfl, rfl⟩
    simp only [QueueEntry.row]
    split <;> rfl

theorem exec_free (s : Stmt β) (free : x.busy = false) : exec s x db = perform s x db := by
  simp [exec, free]

theorem after_of_free {t : Taken Stmt Input Db} (free : t.input.busy = false) :
    connections.after t = (perform t.stmt t.input t.before).1 :=
  congrArg Prod.fst (exec_free t.stmt free)

/-- An update outside a transaction hits every row of its name. -/
theorem updateTask_hits {task : String} {f : TaskRow → TaskRow} {keeps : ∀ r, (f r).taskId = r.taskId}
    (member : r ∈ db.tasks.rows) (named : r.taskId = task) : f r ∈ (db.updateTask task f keeps).tasks.rows :=
  List.mem_map.mpr ⟨r, member, if_pos named⟩

/-- A recovery that found the plan applied has its running task reviewed. -/
theorem recovery_reviews {grant : GrantRow} {outcome : Recovered} {n : ℚ} (free : x.busy = false) (member : r ∈ db.tasks.rows)
    (named : r.taskId = grant.taskId) (running : r.state = .running) (applied : outcome.state = .applied) :
    r.received n ∈ (connections.after ⟨.settleRecovery grant outcome n, x, db⟩).tasks.rows := by
  have hit : r.named grant.taskId (· = .running) := ⟨named, by simpa using running⟩
  have one : db.tasks.rowcount (TaskRow.named grant.taskId (· = .running)) = 1 := by
    rw [Table.rowcount_key fun r named => named.1, if_pos ⟨r, Table.find?_some.mpr ⟨member, named⟩, hit⟩]
  rw [after_of_free free]
  simp only [perform, settleRecovery, Db.reviewRecovered, applied, if_true]
  rw [require, if_pos (by exact one)]
  exact List.mem_map.mpr ⟨r, member, if_pos hit⟩

end

/-- Unless the store is locked, every row that is there when the statement runs
meets this condition on the statement and the row. -/
def Finds (condition : {β : Type} → Stmt β → TaskRow → Bool) (t : Taken Stmt Input Db) : Prop :=
  t.input.busy = false → ∀ r ∈ t.before.tasks.rows, condition t.stmt r = true

instance (condition : {β : Type} → Stmt β → TaskRow → Bool) : DecidablePred (Finds condition) :=
  fun _ => inferInstanceAs (Decidable (_ → ∀ r ∈ _, _))

/-! ### Along a run -/

/-- The lease a task holds. -/
def Db.lease? (db : Db) (task : String) : Option String := (db.tasks.find? task).bind (·.leaseId)

section

variable {host : Host} {trace : List (Taken Stmt Input Db)} {c : Config Err Stmt Db}

/-- A property of task rows that holds of created rows and is kept by every move of
the run's statements holds of every row in every state. -/
theorem rows_invariant {I : TaskRow → Prop} (run : Runs host trace c)
    (created : ∀ {β : Type} {s : Stmt β} {r : TaskRow}, Created s r → I r)
    (kept : ∀ t ∈ trace, t.input.busy = false → ∀ r ∈ t.before.tasks.rows, ∀ r',
      Move t.stmt t.input t.before r r' → I r → I r') :
    ∀ db ∈ states trace c.state, ∀ r ∈ db.tasks.rows, I r := by
  refine run.linked.invariant (by simp [Db.empty]) fun t member before => ?_
  exact (exec_tasks t.stmt t.input t.before).all before
    (fun r there r' move => kept t member move.1 r there r' move.2) fun _ => created

end

end ControlPlane.Autonomy
