import ControlPlane.Autonomy.Fencing
import ControlPlane.Autonomy.Grants

/-!
# Leases and the execution of plans

`apply` looks at the lease in the block that has the task reviewed. `recover` looks at
nothing but the state of the task, so it is fenced only as long as nobody has been
given the task since the grant was consumed.
-/

namespace ControlPlane.Autonomy

open Data Interleaving

/-- The task is RUNNING under the worker and the lease of the grant. -/
def TaskRow.runsUnder (g : GrantRow) (r : TaskRow) : Prop :=
  r.state = .running ∧ r.assignedWorkerId = some g.workerId ∧ r.leaseId = some g.leaseId

instance (g : GrantRow) : DecidablePred (TaskRow.runsUnder g) := fun _ => inferInstanceAs (Decidable (_ ∧ _ ∧ _))

/-- The grant whose task an `apply` or a recovery has reviewed. -/
def Stmt.settles? {β : Type} : Stmt β → Option String
  | .finishApply plan .. => some plan.grantId
  | .settleRecovery grant .. => some grant.grantId
  | _ => none

/-- If the statement moves the task of its grant to REVIEW_PENDING, the task runs under
the worker and the lease recorded in the grant. -/
def ReviewsHeld (t : Taken Stmt Input Db) : Prop :=
  ∀ id ∈ t.stmt.settles?, ∀ g ∈ t.before.grants.rows, g.grantId = id → ∀ r ∈ t.before.tasks.rows, r.taskId = g.taskId →
    r.state ≠ .reviewPending → (∃ r' ∈ (connections.after t).tasks.rows, r'.taskId = r.taskId ∧ r'.state = .reviewPending) →
      r.runsUnder g

instance (t : Taken Stmt Input Db) : Decidable (ReviewsHeld t) :=
  inferInstanceAs (Decidable (∀ id ∈ t.stmt.settles?, ∀ g ∈ t.before.grants.rows, _ → ∀ r ∈ t.before.tasks.rows, _ → _ → _ → _))

/-- The step gives out a lease of the task. -/
def Leased (task : String) (t : Taken Stmt Input Db) : Prop :=
  (∃ r ∈ (connections.after t).tasks.rows, r.taskId = task ∧ r.state = .leased) ∧
    ∀ r ∈ t.before.tasks.rows, r.taskId = task → r.state ≠ .leased

instance (task : String) (t : Taken Stmt Input Db) : Decidable (Leased task t) :=
  inferInstanceAs (Decidable ((∃ r ∈ _, _) ∧ ∀ r ∈ t.before.tasks.rows, _))

/-- The grant has been consumed. -/
def Db.Used (db : Db) (grantId : String) : Prop := ∃ g ∈ db.grants.rows, g.grantId = grantId ∧ g.consumedAt.isSome

instance (db : Db) (grantId : String) : Decidable (db.Used grantId) :=
  inferInstanceAs (Decidable (∃ g ∈ db.grants.rows, _))

/-- The grant of a recovery that found every file at its postimage. -/
def Stmt.recovers? {β : Type} : Stmt β → Option GrantRow
  | .settleRecovery grant outcome _ => if outcome.state = .applied then some grant else none
  | _ => none

/-- A recovery that finds the plan applied and the task RUNNING comes before anybody
is given the task again. -/
def RecoversInTime (earlier : List (Taken Stmt Input Db)) (t : Taken Stmt Input Db) : Prop :=
  ∀ g ∈ t.stmt.recovers?, t.input.busy = false → (∃ r ∈ t.before.tasks.rows, r.taskId = g.taskId ∧ r.state = .running) →
    ∀ u ∈ earlier, Leased g.taskId u → ¬ u.before.Used g.grantId

instance (earlier : List (Taken Stmt Input Db)) (t : Taken Stmt Input Db) : Decidable (RecoversInTime earlier t) :=
  inferInstanceAs (Decidable (∀ g ∈ t.stmt.recovers?, _ → _ → ∀ u ∈ earlier, _ → _))

section

variable {β : Type} {s : Stmt β} {x : Input} {db : Db} {g g' : GrantRow} {r r' : TaskRow} {host : Host}
  {trace earlier : List (Taken Stmt Input Db)} {c : Config Err Stmt Db} {t : Taken Stmt Input Db}

/-- A grant is consumed while its task runs under it. -/
theorem exec_consumes (s : Stmt β) (x : Input) (db : Db) :
    db.grants.Evolves (fun g g' => g'.grantId = g.grantId ∧ (g'.consumedAt = g.consumedAt ∨
      ∃ r ∈ (exec s x db).1.tasks.rows, r.taskId = g.taskId ∧ r.runsUnder g)) (fun g => g.consumedAt = none)
      (exec s x db).1.grants := by
  rcases exec_effect s x db with same | ⟨_, effect⟩
  · rw [same]
    exact Table.evolves_refl
  generalize (exec s x db).1 = db' at effect
  cases effect with
  | issueGrant inserted _ _ unused => exact Table.evolves_insert (Table.insert?_some inserted).2 unused
  | expireGrant | finishApply | terminalizeFailure => exact Table.evolves_update rfl fun _ _ _ => ⟨rfl, .inl rfl⟩
  | beginApply found _ authority _ consumed =>
    subst consumed
    obtain ⟨there, named⟩ := Table.find?_some.mp found
    obtain ⟨task, row, held, _⟩ := authority_ok authority
    obtain ⟨member, key⟩ := Table.find?_some.mp row
    refine Table.evolves_update rfl fun g known hit => ⟨rfl, .inr ⟨task, member, ?_⟩⟩
    obtain rfl := Table.eq_of_key known there (hit.1.trans named.symm)
    exact ⟨key, held⟩
  | @start ack task worker lease n =>
    obtain ⟨audit, logged⟩ := foldl_log (startEvents ack worker) task n
      (db.updateTasks (TaskRow.heldBy task worker lease (· = .leased) n) (TaskRow.started n) fun _ => rfl)
    rw [logged]
    exact Table.evolves_refl
  | submitResult _ _ _ _ _ _ inserted =>
    obtain ⟨evidence, rfl, _⟩ := insertEvidence_ok inserted
    exact Table.evolves_refl
  | createTask inserted | ingestNew inserted =>
    obtain ⟨tasks, rfl, _⟩ := insertTask_ok inserted
    exact Table.evolves_refl
  | settleRecovery settled =>
    subst settled
    split <;> exact Table.evolves_update rfl fun _ _ _ => ⟨rfl, .inl rfl⟩
  | _ => exact Table.evolves_refl

/-- Only a claim gives out a lease; every other move of a task that runs under the
grant, or is not worked on, leaves it so. -/
theorem move_runsUnder (move : Move s x db r r') (before : r.runsUnder g ∨ r.state.working = false) :
    r'.runsUnder g ∨ r'.state.working = false ∨ r'.state = .leased ∧ r.state ≠ .leased := by
  have open_ (state : r.state.working = true) : r.runsUnder g := before.resolve_right (by simp [state])
  cases move with
  | claim _ _ open_ =>
    refine .inr (.inr ⟨rfl, fun leased => ?_⟩)
    rw [leased] at open_
    exact absurd open_.1 (by decide)
  | renew held => exact .inl (open_ held.2.2.2.1)
  | start held =>
    have leased : r.state = .leased := by simpa using held.2.2.2.1
    have runs := open_ (by simp [leased, TaskState.working])
    cases leased.symm.trans runs.1
  | reclaim | chargeStale | chargeFailure => exact .inr (.inl (afterFailure_idle _))
  | completeTask | waitForCapacity | submitMissing | submitResult | markWaiting | finishApply | settleRecovery =>
    exact .inr (.inl rfl)

theorem GrantRow.Onward.runsUnder_iff (on : g.Onward g') : r.runsUnder g' ↔ r.runsUnder g := by
  simp only [TaskRow.runsUnder, on.workerId, on.leaseId]

/-- A used grant was used before the step, or its task runs under it after the step. -/
theorem used_source (onward : GrantsOnward t.before (connections.after t)) (member : g' ∈ (connections.after t).grants.rows)
    (used : g'.consumedAt.isSome) : ∃ g ∈ t.before.grants.rows, g.Onward g' ∧ (g.consumedAt.isSome ∨
      ∃ r ∈ (connections.after t).tasks.rows, r.taskId = g'.taskId ∧ r.runsUnder g') := by
  rcases (exec_consumes t.stmt t.input t.before).source member with ⟨g, there, moved⟩ | unused
  · have key : g'.grantId = g.grantId := by
      rcases moved with rfl | ⟨key, _⟩
      · rfl
      · exact key
    obtain ⟨g'', after, on⟩ := onward g there
    obtain rfl := Table.eq_of_key after member (on.grantId.trans key.symm)
    refine ⟨g, there, on, ?_⟩
    rcases moved with rfl | ⟨_, same | ⟨r, reached, named, runs⟩⟩
    · exact .inl used
    · exact .inl (same ▸ used)
    · exact .inr ⟨r, reached, named.trans on.taskId.symm, on.runsUnder_iff.mpr runs⟩
  · rw [unused] at used
    cases used

/-- From the moment a grant is consumed its task runs under it or is not worked on,
until the task is given out again. -/
theorem runsUnder_until_leased (linked : connections.Linked Db.empty trace db)
    (onward : ∀ t ∈ trace, GrantsOnward t.before (connections.after t)) (member : g ∈ db.grants.rows)
    (used : g.consumedAt.isSome) (there : r ∈ db.tasks.rows) (same : r.taskId = g.taskId) :
    (∃ u ∈ trace, Leased g.taskId u ∧ u.before.Used g.grantId) ∨ r.runsUnder g ∨ r.state.working = false := by
  induction trace generalizing db g r with
  | nil =>
    obtain rfl : db = Db.empty := linked
    simp [Db.empty] at member
  | cons t trace ih =>
    obtain ⟨rfl, linked⟩ := linked
    obtain ⟨moved, earlier⟩ := List.forall_mem_cons.mp onward
    obtain ⟨g₀, known, on, usedBefore | ⟨r', reached, named, runs⟩⟩ := used_source moved member used
    · rcases (exec_tasks t.stmt t.input t.before).source there with ⟨r₀, old, change⟩ | created
      · have key : r.taskId = r₀.taskId := by
          rcases change with rfl | ⟨_, move⟩
          · rfl
          · exact move.key
        have task : r₀.taskId = g₀.taskId := key.symm.trans (same.trans on.taskId)
        rcases ih linked earlier known usedBefore old task with ⟨u, before, leased, usedThen⟩ | held
        · exact .inl ⟨u, List.mem_cons_of_mem _ before, on.taskId ▸ leased, on.grantId ▸ usedThen⟩
        rw [← on.runsUnder_iff] at held
        rcases change with rfl | ⟨_, move⟩
        · exact .inr held
        rcases move_runsUnder move held with runs | idle | ⟨leased, before⟩
        · exact .inr (.inl runs)
        · exact .inr (.inr idle)
        · refine .inl ⟨t, List.mem_cons_self, ⟨⟨r, there, same, leased⟩, fun q member named => ?_⟩, g₀, known, on.grantId.symm, usedBefore⟩
          rwa [Table.eq_of_key member old (named.trans (same.symm.trans key))]
      · exact .inr (.inr (created_row created).1)
    · rw [Table.eq_of_key there reached (same.trans named.symm)]
      exact .inr (.inl runs)

/-- A used grant's task has held the grant's lease. -/
theorem used_held (linked : connections.Linked Db.empty trace db)
    (onward : ∀ t ∈ trace, GrantsOnward t.before (connections.after t)) (member : g ∈ db.grants.rows)
    (used : g.consumedAt.isSome) : ∃ s ∈ states trace db, s.lease? g.taskId = some g.leaseId := by
  induction trace generalizing db g with
  | nil =>
    obtain rfl : db = Db.empty := linked
    simp [Db.empty] at member
  | cons t trace ih =>
    obtain ⟨rfl, linked⟩ := linked
    obtain ⟨moved, earlier⟩ := List.forall_mem_cons.mp onward
    obtain ⟨g₀, known, on, usedBefore | ⟨r, reached, named, runs⟩⟩ := used_source moved member used
    · obtain ⟨s, before, holds⟩ := ih linked earlier known usedBefore
      exact ⟨s, List.mem_cons_of_mem _ before, by rw [on.taskId, on.leaseId]; exact holds⟩
    · exact ⟨_, List.mem_cons_self, lease?_eq_some.mpr ⟨r, reached, named, runs.2.2⟩⟩

/-- Only a claim gives out a lease, and it is the one it drew. -/
theorem leased_drawn {task : String} (leased : Leased task t) :
    ∃ lease, t.stmt.drawn t.input = some lease ∧ (connections.after t).lease? task = some lease := by
  obtain ⟨⟨r', reached, named, state⟩, none⟩ := leased
  rcases (exec_tasks t.stmt t.input t.before).source reached with ⟨r, member, rfl | ⟨_, move⟩⟩ | created
  · exact absurd state (none r' member named)
  · have before := none r member (move.key.symm.trans named)
    obtain ⟨stmt, x, db⟩ := t
    cases move with
    | claim => exact ⟨x.uuid, rfl, lease?_eq_some.mpr ⟨_, reached, named, rfl⟩⟩
    | renew => exact absurd state before
    | reclaim | chargeStale | chargeFailure =>
      have working : (afterFailure _).working = true := congrArg TaskState.working state
      exact (Bool.false_ne_true ((afterFailure_idle _).symm.trans working)).elim
    | _ => cases state
  · have idle := (created_row created).1
    rw [state] at idle
    cases idle

/-- A lost lease stays among the lost. -/
theorem LostLease.later {task lease : String} {later : List (Taken Stmt Input Db)}
    (linked : connections.Linked Db.empty (later ++ trace) db)
    (lost : ∀ s, connections.Linked Db.empty trace s → LostLease task lease (states trace s)) :
    LostLease task lease (states (later ++ trace) db) := by
  induction later generalizing db with
  | nil => exact lost db linked
  | cons t later ih => exact .inr (ih linked.2)

/-- The row that a recovery of a known grant settles. -/
theorem settled_grant {grant : GrantRow} {outcome : Recovered} {n : ℚ} (known : SettlesKnown (.settleRecovery grant outcome n) db)
    (member : g ∈ db.grants.rows) (named : g.grantId = grant.grantId) :
    g.taskId = grant.taskId ∧ g.workerId = grant.workerId ∧ g.leaseId = grant.leaseId ∧ g.consumedAt.isSome := by
  obtain ⟨applying, row, there, same, task, worker, lease, _, used⟩ := known
  obtain rfl := Table.eq_of_key member there (named.trans same.symm)
  exact ⟨task, worker, lease, used applying⟩

theorem reviewsHeld_of_inTime (linked : connections.Linked Db.empty earlier t.before)
    (onward : ∀ u ∈ earlier, GrantsOnward u.before (connections.after u))
    (known : t.input.busy = false → SettlesKnown t.stmt t.before) (inTime : RecoversInTime earlier t) : ReviewsHeld t := by
  rintro id settles g member named r there same open_ ⟨r', reached, key, reviewed⟩
  rcases exec_successor there reached key with rfl | ⟨free, move⟩
  · exact absurd reviewed open_
  obtain ⟨stmt, x, db⟩ := t
  cases move with
  | finishApply found task runs =>
    cases settles
    obtain ⟨grant, found'⟩ := Table.find?_some.mp found
    rwa [Table.eq_of_key member grant (named.trans found'.symm)]
  | @settleRecovery grant outcome n _ _ _ task running applied =>
    cases settles
    obtain ⟨task', _, _, used⟩ := settled_grant (known free) member named
    rcases runsUnder_until_leased linked onward member used there same with ⟨u, before, leased, usedThen⟩ | runs | idle
    · rw [named] at usedThen
      rw [task'] at leased
      exact absurd usedThen (inTime grant (if_pos applied) free ⟨r, there, task, running⟩ u before leased)
    · exact runs
    · rw [running] at idle
      cases idle
  | submitResult | claim | renew | start | reclaim | chargeStale | chargeFailure | completeTask | waitForCapacity
  | submitMissing | markWaiting => cases settles

theorem inTime_of_reviewsHeld (linked : connections.Linked Db.empty earlier t.before) (fresh : EachStep FreshClaim earlier)
    (onward : ∀ u ∈ earlier, GrantsOnward u.before (connections.after u))
    (known : t.input.busy = false → SettlesKnown t.stmt t.before) (held : ReviewsHeld t) : RecoversInTime earlier t := by
  rintro grant recovers free ⟨r, there, task, running⟩ u member leased ⟨g₀, before, named₀, used₀⟩
  obtain ⟨stmt, x, db⟩ := t
  cases stmt with
  | settleRecovery grant' outcome n =>
    have applied : outcome.state = .applied := by
      by_contra other
      exact Option.some_ne_none _ (recovers.symm.trans (if_neg other))
    obtain rfl : grant' = grant := Option.some.inj ((if_pos applied).symm.trans recovers)
    obtain ⟨_, row, granted, same, _⟩ := known free
    obtain ⟨task', _, _, used⟩ := settled_grant (known free) granted same
    -- the review finds the grant's lease on the task
    have runs := held _ rfl row granted same r there (task.trans task'.symm) (by simp [running])
      ⟨_, recovery_reviews free there task running applied, rfl, rfl⟩
    -- but the task was given a fresh lease after it had held that one
    obtain ⟨later, older, rfl⟩ := List.append_of_mem member
    obtain ⟨mid, ⟨_, first⟩, _⟩ := linked.append
    obtain ⟨g', reached, on⟩ := (List.pairwise_cons.mp (linked.pairwise_iff.mp onward)).1 u.before (List.mem_map_of_mem member)
      g₀ before
    obtain rfl := Table.eq_of_key reached granted (on.grantId.trans (named₀.trans same.symm))
    obtain ⟨s, past, heldThen⟩ := used_held first (fun v old => onward v (by simp [old])) before used₀
    obtain ⟨lease, drawn, holds⟩ := leased_drawn leased
    have other : g'.leaseId ≠ lease := by
      rintro rfl
      obtain ⟨q, hadIt, _, lease'⟩ := lease?_eq_some.mp heldThen
      exact fresh.at.1 _ drawn s past q hadIt (on.leaseId ▸ lease')
    have lost : LostLease grant'.taskId g'.leaseId (states (later ++ u :: older) db) := by
      refine LostLease.later linked fun s' linked' => .inl ⟨?_, s, past, ?_⟩
      · rw [linked'.1, holds]
        exact fun same => other (Option.some.inj same).symm
      · rw [← task', on.taskId, on.leaseId]
        exact heldThen
    exact lost_stays_lost linked fresh lost (lease?_eq_some.mpr ⟨r, there, task, runs.2.2⟩)
  | _ => cases recovers

/-- In every run whose recoveries are in time, a task is reviewed only under the lease
recorded in its grant; if lease ids are fresh, only in such runs. -/
theorem reviews_respect_leases (run : Runs host trace c) :
    (EachStep RecoversInTime trace → ∀ t ∈ trace, ReviewsHeld t) ∧
      (EachStep FreshClaim trace → (∀ t ∈ trace, ReviewsHeld t) → EachStep RecoversInTime trace) := by
  have known := (runs_grants run).2
  have onward := runs_onward run
  have linked := run.linked
  generalize c.state = db at linked
  clear run
  induction trace generalizing db with
  | nil => exact ⟨fun _ => by simp, fun _ _ => trivial⟩
  | cons t trace ih =>
    obtain ⟨_, linked⟩ := linked
    obtain ⟨here, before⟩ := List.forall_mem_cons.mp known
    obtain ⟨_, earlier⟩ := List.forall_mem_cons.mp onward
    obtain ⟨enough, needed⟩ := ih before earlier _ linked
    constructor
    · rintro ⟨now, inTime⟩
      exact List.forall_mem_cons.mpr ⟨reviewsHeld_of_inTime linked earlier here now, enough inTime⟩
    · rintro ⟨_, fresh⟩ held
      obtain ⟨now, then_⟩ := List.forall_mem_cons.mp held
      exact ⟨inTime_of_reviewsHeld linked fresh earlier here now, needed fresh then_⟩

end

/-- `apply` dies with its only file written. Then come the moves of `between`, and the
recovery at the given time. -/
def recoveredAfter (between : List (Client Unit)) (moved : List (Nat × Input)) (now : ℚ) :
    List (Taken Stmt Input Db) × Config Err Stmt Db :=
  let (plan, host, files) := (RecoveredTooLate.plan, RecoveredTooLate.host, RecoveredTooLate.files)
  let k := between.length
  script host ([Sample.task "t" 5, Sample.worker "w", .call (.claim "t" "w" (.fin 300) (.fin 0)),
      .call (.start "t" "w" "lease" (.fin 0)), .call (.openController [RecoveredTooLate.lab]),
      .call (.issueGrant ⟨"t", "w", "s", "lease", "lab", [.create], [""], .fin 300⟩ (.fin 0)),
      .call (.apply plan (.fin 0)), .call (.recover plan.grantId (.fin now))] ++ between)
    (moves [k + 7, k + 7, k + 6] ++ [(k + 5, { uuid := "lease" })] ++ moves [k + 4, k + 3, k + 3] ++
      (List.replicate 2 (k + 2)).map (·, files "ABSENT") ++ (List.replicate 23 (k + 1)).map (·, files "ABSENT") ++
      moved ++ (List.replicate 8 k).map (·, files "after"))

/-- The worker renews its lease before the recovery. -/
def recoveredInTime : List (Taken Stmt Input Db) × Config Err Stmt Db :=
  recoveredAfter [.call (.renew "t" "w" "lease" (.fin 300) (.fin 200))] (moves [0]) 400

theorem reviews_respect_leases_recoveredInTime :
    (∃ r ∈ recoveredInTime.2.state.tasks.rows, r.state = .reviewPending) ∧
      (∀ t ∈ recoveredInTime.1, ReviewsHeld t) ∧ EachStep RecoversInTime recoveredInTime.1 :=
  have law := reviews_respect_leases (runs_script _ _ _ : Runs RecoveredTooLate.host recoveredInTime.1 recoveredInTime.2)
  have inTime : EachStep RecoversInTime recoveredInTime.1 := by decide +kernel
  ⟨by decide +kernel, law.1 inTime, law.2 (by decide +kernel) (law.1 inTime)⟩

/-- The lease runs out, and another worker is given the task before the recovery. -/
def recoveredFromOther : List (Taken Stmt Input Db) × Config Err Stmt Db :=
  recoveredAfter [.call (.reclaimExpired "t" (.fin 300)), Sample.worker "v" 300,
      .call (.claim "t" "v" (.fin 300) (.fin 300)), .call (.start "t" "v" "second" (.fin 300))]
    (moves [3, 2] ++ [(1, { uuid := "second" })] ++ moves [0]) 310

theorem reviews_ignore_leases :
    ¬ ∀ (host : Host) (trace : List (Taken Stmt Input Db)) (c : Config Err Stmt Db), Runs host trace c →
      EachStep FreshClaim trace → ∀ t ∈ trace, ReviewsHeld t := by
  intro law
  have held := law RecoveredTooLate.host recoveredFromOther.1 recoveredFromOther.2 (runs_script ..) (by decide +kernel)
  exact absurd held (by decide +kernel)

end ControlPlane.Autonomy
