import ControlPlane.Autonomy.ExternalDispatches

/-!
# Where an acknowledgement or a result can be torn

Both write in three commits: the ledger and the session, the store's tables, the flag of
the dispatch. They are all or nothing where the store takes what the gateway has let
through, and where the process does not die between the first commit and the last.
-/

namespace ControlPlane.Autonomy

open Data Interleaving

/-- The call settles a dispatch in several commits. -/
def ExternalCall.settles : ExternalCall → Bool
  | .acknowledge .. | .result .. => true
  | _ => false

/-- The store's own check of a start. -/
def StartAccepted (db : Db) (task worker lease : String) (n : ℚ) : Prop :=
  (∃ w, db.workers.find? worker = some w ∧ ¬ w.Stale n) ∧ ∃ r ∈ db.tasks.rows, r.heldBy task worker lease (· = .leased) n

/-- The store's own check of a result with evidence. -/
def SubmitAccepted (db : Db) (task worker lease evidence sha : String) (n : ℚ) : Prop :=
  (∃ w, db.workers.find? worker = some w ∧ ¬ w.Stale n) ∧ (∃ r, db.tasks.find? task = some r ∧
    (r.state.working ∨ r.state = .evidencePending) ∧ r.assignedWorkerId = some worker ∧ r.leaseId = some lease ∧
    ∃ expires, r.leaseExpiresAt = some expires ∧ ¬ expires ≤ .fin n) ∧
  ∀ e ∈ db.evidence.rows, e.taskId = task → e.evidenceId ≠ evidence ∧ e.sha256 ≠ sha

/-- The frame passes every check of the gateway, and the store would refuse what it asks for. -/
inductive StoreRefuses (crypto : Crypto) (w : ExternalWorld) : ExternalCall → Prop
  | acknowledge {g frame now m row} (running : w.gateway = some g) (admitted : AckAdmitted crypto g w.db frame now m row)
      (refused : ¬ StartAccepted w.db.store row.taskId row.workerId row.leaseId m.time) :
      StoreRefuses crypto w (.acknowledge frame now)
  | result {g frame now m row evidenceId digest} (running : w.gateway = some g)
      (admitted : ResultAdmitted crypto g w.db frame now m row evidenceId digest)
      (refused : ¬ SubmitAccepted w.db.store row.taskId row.workerId row.leaseId evidenceId.1 digest m.time) :
      StoreRefuses crypto w (.result frame now)

/-- The statement comes before or is the first that writes. -/
def beforeWrites (pending : (β : Type) × ExternalStmt β) : Prop := pending.2.role = .read ∨ pending.2.role = .message

/-- No acknowledgement or result is torn in this step. -/
def Whole (crypto : Crypto) (t : ExternalTransition) : Prop :=
  (∀ c answer, t.label = .call c answer → ¬ StoreRefuses crypto t.before c) ∧
    ∀ c pending, t.label = .crash c (some pending) → c.settles → beforeWrites pending

/-- An acknowledgement or a result that raised, or that the process died in. -/
def Interrupted (t : ExternalTransition) : Prop :=
  ∃ c : ExternalCall, c.settles ∧ ((∃ e, t.label = .call c (.error e)) ∨ ∃ pending, t.label = .crash c (some pending))

/-- The tables that an acknowledgement or a result writes. -/
structure SameTables (db db' : ExternalDb) : Prop where
  messages : db'.messages = db.messages
  sessions : db'.sessions = db.sessions
  dispatches : db'.dispatches = db.dispatches
  tasks : db'.store.tasks = db.store.tasks
  evidence : db'.store.evidence = db.store.evidence

/-- An acknowledgement that names the dispatch has put its task from LEASED to RUNNING, under the
lease of the dispatch. -/
def StartedBy (d : DispatchRow) (t : ExternalTransition) : Prop :=
  ∃ frame now, t.label.call? = some (.acknowledge frame now) ∧ frame.field "dispatch_id" = .str d.dispatchId ∧
    ∃ r r', t.before.db.store.tasks.find? d.taskId = some r ∧ r.state = .leased ∧ r.leaseId = some d.leaseId ∧
      t.after.db.store.tasks.find? d.taskId = some r' ∧ r'.state = .running ∧ r'.leaseId = some d.leaseId

/-- A result that names the dispatch has stored evidence for its task. -/
def ReportedBy (d : DispatchRow) (t : ExternalTransition) : Prop :=
  ∃ frame now, t.label.call? = some (.result frame now) ∧ frame.field "dispatch_id" = .str d.dispatchId ∧
    ∃ e, e.taskId = d.taskId ∧ t.after.db.store.evidence.rows = t.before.db.store.evidence.rows ++ [e]

/-- What is promised of a history, newest first, and of the state it has reached. -/
structure AllOrNothing (past : List ExternalTransition) (w : ExternalWorld) : Prop where
  interrupted : ∀ t ∈ past, Interrupted t → SameTables t.before.db t.after.db
  acknowledged : ∀ d ∈ w.db.dispatches.rows, d.acknowledged = true ↔ ∃ t ∈ past, StartedBy d t
  received : ∀ d ∈ w.db.dispatches.rows, d.resultReceived = true ↔ ∃ t ∈ past, ReportedBy d t

section

variable {crypto : Crypto} {g : ExternalGateway} {db db' : ExternalDb} {c : ExternalCall} {next : Pending ExternalStmt}
  {value : Json} {now : PyFloat} {m : Message} {row : DispatchRow} {d : Domain} {st : Stmt Unit} {mark : GatewayStmt Unit}
  {evidenceId : Identifier} {digest : String} {store : Db} {x : Input} {e : Err}

/-! ### The store's statements -/

theorem start_accepted {task worker lease : String} {n : ℚ} {ack : Option String} {sdb : Db}
    (accepted : StartAccepted sdb task worker lease n) : (perform (.start ack task worker lease n) x sdb).2 = .ok () := by
  obtain ⟨⟨w, known, fresh⟩, r, member, held⟩ := accepted
  have counted : sdb.tasks.rowcount (TaskRow.heldBy task worker lease (· = .leased) n) = 1 := by
    rw [Table.rowcount_key fun r held => held.1, if_pos]
    exact ⟨r, Table.find?_some.mpr ⟨member, held.1⟩, held⟩
  have through : ∃ after, startTask (if ack.isSome then "cannot acknowledge" else "cannot run") (startEvents ack worker) task worker
      lease n sdb = .ok (after, .ok ()) :=
    ⟨_, found_bind_ok.mpr ⟨w, known, require_bind_ok.mpr ⟨fresh, require_bind_ok.mpr ⟨counted, rfl⟩⟩⟩⟩
  obtain ⟨after, through⟩ := through
  show (transaction sdb _).2 = _
  rw [through]
  rfl

theorem submit_accepted {task worker lease : String} {n : ℚ} {sdb : Db} (hex : isDigest digest = true)
    (accepted : SubmitAccepted sdb task worker lease evidenceId.1 digest n) :
    (perform (.submitResult task worker lease evidenceId.1 digest n) x sdb).2 = .ok () := by
  obtain ⟨⟨w, known, fresh⟩, ⟨r, found, open_, assigned, held, expires, stored, ahead⟩, unused⟩ := accepted
  have given : ¬ (evidenceId.1 = "" ∨ digest = "" ∨ ¬ isHex64 digest) := by
    rintro (empty | empty | bad)
    · exact absurd (empty ▸ evidenceId.2) (by decide)
    · exact ne_empty_of_isDigest hex empty
    · exact bad (isHex64_of_isDigest hex)
  obtain ⟨evidence, inserted⟩ := Table.insert?_fresh (t := sdb.evidence) (r := ⟨task, clean evidenceId.1, lower digest, n⟩)
    fun e member same => by
      rw [clean_identifier] at same
      exact (unused e member (Prod.mk.inj same).1).1 (Prod.mk.inj same).2
  have recorded : sdb.insertEvidence ⟨task, clean evidenceId.1, lower digest, n⟩ = .ok { sdb with evidence } := by
    refine require_bind_ok.mpr ⟨fun e member same => ?_, found_bind_ok.mpr ⟨evidence, inserted, rfl⟩⟩
    exact (unused e member same.1).2 (same.2.trans (lower_of_isDigest hex))
  have through : ∃ after, receiveResult task worker lease evidenceId.1 digest n sdb = .ok (after, .ok ()) := by
    simp only [receiveResult, found_bind_ok, require_bind_ok, if_neg given, recorded]
    exact ⟨_, r, found, w, known, ⟨open_, assigned, held⟩, expires, stored, ⟨ahead, fresh⟩, rfl⟩
  obtain ⟨after, through⟩ := through
  show (transaction sdb _).2 = _
  rw [through]
  rfl

/-- A start that is refused leaves the store as it was. -/
theorem start_refused {task worker lease : String} {n : ℚ} {ack : Option String} {sdb : Db}
    (refused : perform (.start ack task worker lease n) x sdb = (store, .error e)) : store = sdb := by
  refine (congrArg Prod.fst refused).symm.trans (transaction_error (fun c committed => ?_) (congrArg Prod.snd refused))
  simp only [startTask, found_bind_ok, require_bind_ok, pure_ok] at committed
  obtain ⟨_, _, _, _, rfl⟩ := committed
  exact ⟨(), rfl⟩

/-- A result that is refused stores no evidence. -/
theorem submit_refused {task worker lease evidence sha : String} {n : ℚ} {sdb : Db}
    (refused : perform (.submitResult task worker lease evidence sha n) x sdb = (store, .error e)) :
    store.evidence = sdb.evidence := by
  change transaction sdb (receiveResult task worker lease evidence sha n sdb) = _ at refused
  cases outcome : receiveResult task worker lease evidence sha n sdb with
  | error e' =>
    rw [outcome] at refused
    rw [← (Prod.mk.inj refused).1]
  | ok committed =>
    rw [outcome] at refused
    simp only [receiveResult, require_bind_ok, found_bind_ok] at outcome
    obtain ⟨r, _, w, _, _, expires, _, _, outcome⟩ := outcome
    split at outcome
    · cases outcome
      rw [← (Prod.mk.inj refused).1]
      rfl
    · obtain ⟨_, _, outcome⟩ := bind_ok.mp outcome
      cases outcome
      cases (Prod.mk.inj refused).2

/-! ### One call that is not torn -/

theorem SameTables.refl (db : ExternalDb) : SameTables db db := ⟨rfl, rfl, rfl, rfl, rfl⟩

/-- The store has refused the statement, behind a frame that was accepted. -/
def Rejected (st : Stmt Unit) (db db' : ExternalDb) : Prop :=
  ∃ x e, perform st x db.store = (db'.store, .error e)

theorem Settling.whole (settling : Settling m d st mark db db' next) (marking : Marking mark)
    (whole : ∀ pending, next = some pending → beforeWrites pending) :
    db' = db ∨ next = none ∧ (Rejected st db db' ∨ Marked st mark db db') := by
  cases settling with
  | untouched => exact .inl rfl
  | recorded => rcases whole _ rfl with role | role <;> cases role
  | accepted => rcases whole _ rfl with role | role <;> cases role
  | @refused messages x store e inserted refused => exact .inr ⟨rfl, .inl ⟨x, e, refused⟩⟩
  | stored =>
    have pending := whole _ rfl
    simp only [beforeWrites, ExternalStmt.role] at pending
    rcases marking.role with role | role <;> simp [role] at pending
  | @settled messages x store db' inserted performed marked =>
    refine .inr ⟨rfl, .inr ⟨⟨x, ?_⟩, { db.accept m none messages with store }, rfl, marked⟩⟩
    rw [performed, (marking.same marked).2.2]

theorem acknowledge_whole (cut : externals.Cut (g.acknowledge crypto value now) db db' next)
    (whole : ∀ pending, next = some pending → beforeWrites pending) : db' = db ∨ next = none ∧ ∃ m row,
      AckAdmitted crypto g db value now m row ∧ (Rejected (ackStart m row) db db' ∨ AckMarked m row db db') := by
  rcases runs_acknowledge running_cut cut with same | ⟨m, row, admitted, ran⟩
  · exact .inl same
  · exact ((cut_settle marking_acknowledged ran).whole marking_acknowledged whole).imp_right
      fun ⟨ended, outcome⟩ => ⟨ended, m, row, admitted, outcome⟩

theorem result_whole (cut : externals.Cut (g.result crypto value now) db db' next)
    (whole : ∀ pending, next = some pending → beforeWrites pending) : db' = db ∨ next = none ∧ ∃ m row evidenceId digest,
      ResultAdmitted crypto g db value now m row evidenceId digest ∧
        (Rejected (resultSubmit m row evidenceId digest) db db' ∨ ResultMarked m row evidenceId digest db db') := by
  rcases runs_result running_cut cut with same | ⟨m, row, evidenceId, digest, admitted, ran⟩
  · exact .inl same
  · exact ((cut_settle marking_resultReceived ran).whole marking_resultReceived whole).imp_right
      fun ⟨ended, outcome⟩ => ⟨ended, m, row, evidenceId, digest, admitted, outcome⟩

theorem own_worker (admitted : Admitted crypto g d db value now m) (bound : Bound db m.frame row) :
    m.profile.workerId.1 = row.workerId := Json.str.inj (admitted.worker.symm.trans bound.workerId)

/-- A call that the store would not refuse, and that raises, has written nothing. -/
theorem raises_acknowledge_whole {w : ExternalWorld} (running : w.gateway = some g)
    (taken : ¬ StoreRefuses crypto w (.acknowledge value now)) (raised : externals.Raises (g.acknowledge crypto value now) w.db db' e) :
    db' = w.db := by
  rcases runs_acknowledge running_raises raised with same | ⟨m, row, admitted, ran⟩
  · exact same
  have accepted : StartAccepted w.db.store row.taskId row.workerId row.leaseId m.time :=
    by_contra fun refused => taken (.acknowledge running admitted refused)
  rcases raises_settle marking_acknowledged ran with same | ⟨_, x, store, _, refused, _⟩
  · exact same
  · rw [← own_worker admitted.admitted admitted.bound] at accepted
    cases (start_accepted accepted).symm.trans (congrArg Prod.snd refused)

theorem raises_result_whole {w : ExternalWorld} (running : w.gateway = some g)
    (taken : ¬ StoreRefuses crypto w (.result value now)) (raised : externals.Raises (g.result crypto value now) w.db db' e) :
    db' = w.db := by
  rcases runs_result running_raises raised with same | ⟨m, row, evidenceId, digest, admitted, ran⟩
  · exact same
  have accepted : SubmitAccepted w.db.store row.taskId row.workerId row.leaseId evidenceId.1 digest m.time :=
    by_contra fun refused => taken (.result running admitted refused)
  have hex : isDigest digest = true := by
    obtain ⟨bytes, _, hashed⟩ := admitted.checked.bytes
    exact hashed ▸ crypto.digest bytes
  rcases raises_settle marking_resultReceived ran with same | ⟨_, x, store, _, refused, _⟩
  · exact same
  · rw [← own_worker admitted.admitted admitted.bound] at accepted
    cases (submit_accepted hex accepted).symm.trans (congrArg Prod.snd refused)

variable {t : ExternalTransition} {past : List ExternalTransition} {w : ExternalWorld}

theorem interrupted_same (step : ExternalStep crypto t.before t.label t.after) (whole : Whole crypto t)
    (interrupted : Interrupted t) : SameTables t.before.db t.after.db := by
  suffices same : t.after.db = t.before.db by
    rw [same]
    exact .refl _
  obtain ⟨c, settles, ⟨e, label⟩ | ⟨pending, label⟩⟩ := interrupted
  · have taken := whole.1 c _ label
    rw [label] at step
    cases step.cases with
    | called running same stays ends =>
      cases same
      cases c with
      | acknowledge => exact raises_acknowledge_whole running taken (Machine.raises_then_pure.mp ends)
      | result => exact raises_result_whole running taken (Machine.raises_then_pure.mp ends)
      | _ => cases settles
    | crashed _ same => cases same
    | restarted same => cases same
    | failed same => cases same
    | outside none_ => cases none_
  · have before := whole.2 c pending label settles
    rw [label] at step
    cases step.cases with
    | crashed running same died cut =>
      cases same
      cases c with
      | acknowledge =>
        rcases acknowledge_whole (Machine.cut_then_pure.mp cut) (fun _ same => Option.some.inj same ▸ before) with same | ⟨ended, _⟩
        · exact same
        · cases ended
      | result =>
        rcases result_whole (Machine.cut_then_pure.mp cut) (fun _ same => Option.some.inj same ▸ before) with same | ⟨ended, _⟩
        · exact same
        · cases ended
      | _ => cases settles
    | called _ same => cases same
    | restarted same => cases same
    | failed same => cases same
    | outside none_ => cases none_

/-! ### The flags -/

/-- A call of the history, ended or cut, that is not torn. -/
theorem called_whole (step : ExternalStep crypto t.before t.label t.after) (whole : Whole crypto t)
    (called : t.label.call? = some c) (settles : c.settles) : ∃ g next, t.before.gateway = some g ∧
      externals.Cut (c.procedure crypto g) t.before.db t.after.db next ∧ ∀ pending, next = some pending → beforeWrites pending := by
  cases step.cases with
  | @called g c' answer running label stays ends =>
    rw [label] at called
    cases called
    exact ⟨g, none, running, ends.stops (p := c.procedure crypto g), fun _ impossible => (Option.some_ne_none _ impossible.symm).elim⟩
  | @crashed g c' next running label died cut =>
    rw [label] at called
    cases called
    exact ⟨g, next, running, cut, fun pending same => whole.2 c pending (same ▸ label) settles⟩
  | restarted label => exact nomatch label ▸ called
  | failed label => exact nomatch label ▸ called
  | outside none_ => exact nomatch none_.symm.trans called

theorem startedBy_raises {x : DispatchRow} (step : ExternalStep crypto t.before t.label t.after) (whole : Whole crypto t)
    (started : StartedBy x t) : Raised DispatchRow.acknowledged x.dispatchId t.after := by
  obtain ⟨frame, now, called, named, r, r', found, leased, _, found', running', _⟩ := started
  obtain ⟨g, next, running, cut, before⟩ := called_whole step whole called rfl
  have moved (same : t.after.db.store.tasks = t.before.db.store.tasks) : False := by
    rw [same, found] at found'
    cases found'
    cases leased.symm.trans running'
  rcases acknowledge_whole (Machine.cut_then_pure.mp cut) before with same | ⟨_, m, row, admitted, ⟨y, e, refused⟩ | marked⟩
  · exact (moved (by rw [same])).elim
  · exact (moved (by rw [start_refused refused])).elim
  · have vouched := vouched_of running admitted.admitted admitted.bound
    obtain same := Json.str.inj (vouched.dispatchId.symm.trans named)
    refine ⟨{ row with acknowledged := true, ackAt := some m.observed }, ?_, rfl⟩
    rw [marked.find?, if_pos same, ← same, admitted.bound.found, Option.map_some]

theorem reportedBy_raises {x : DispatchRow} (step : ExternalStep crypto t.before t.label t.after) (whole : Whole crypto t)
    (reported : ReportedBy x t) : Raised DispatchRow.resultReceived x.dispatchId t.after := by
  obtain ⟨frame, now, called, named, e, _, rows⟩ := reported
  obtain ⟨g, next, running, cut, before⟩ := called_whole step whole called rfl
  have grown (same : t.after.db.store.evidence = t.before.db.store.evidence) : False := by
    rw [same] at rows
    exact absurd rows (by simp)
  rcases result_whole (Machine.cut_then_pure.mp cut) before with same |
    ⟨_, m, row, evidenceId, digest, admitted, ⟨y, e, refused⟩ | marked⟩
  · exact (grown (by rw [same])).elim
  · exact (grown (submit_refused refused)).elim
  · have vouched := vouched_of running admitted.admitted admitted.bound
    obtain same := Json.str.inj (vouched.dispatchId.symm.trans named)
    refine ⟨{ row with resultReceived := true }, ?_, rfl⟩
    rw [marked.find?, if_pos same, ← same, admitted.bound.found, Option.map_some]

/-- A flag that a step of the history has put up is up at its end. -/
theorem raised_at_end {flag : DispatchRow → Bool} (rises : flag = DispatchRow.acknowledged ∨ flag = DispatchRow.resultReceived)
    {init : ExternalWorld} (history : ExternalHistory crypto init past w) {x : DispatchRow} (member : t ∈ past)
    (raised : Raised flag x.dispatchId t.after) (there : x ∈ w.db.dispatches.rows) : flag x = true := by
  obtain ⟨newer, older, rfl⟩ := List.append_of_mem member
  obtain ⟨y, found, up⟩ := (history.ever_after (I := Raised flag x.dispatchId) raised fun v inNewer =>
    raised_stays rises (history.moved v (List.mem_append_left _ inNewer)).kept).1
  obtain ⟨known, named⟩ := Table.find?_some.mp found
  obtain rfl := Table.eq_of_key known there named
  exact up

theorem AckStep.started {x : DispatchRow} {frame : Json} (acked : AckStep crypto x frame now t) : StartedBy x t := by
  obtain ⟨g, m, row, same, running, admitted, marked⟩ := acked.done
  simp only [DispatchRow.SameAs, DispatchRow.mk.injEq, and_true] at same
  obtain ⟨_, sameTask, _, _, sameLease, _⟩ := same
  obtain ⟨y, started⟩ := marked.stored
  obtain ⟨⟨r, member, held⟩, rows⟩ := startTask_ok (transaction_ok.mp started)
  have found : t.before.db.store.tasks.find? x.taskId = some r := Table.find?_some.mpr ⟨member, held.1.trans sameTask⟩
  have called : t.label.call? = some (.acknowledge frame now) := by
    rcases acked.through with ⟨reply, label⟩ | ⟨⟨next, label⟩, _⟩ <;> rw [label] <;> rfl
  refine ⟨frame, now, called, acked.justified.vouched.dispatchId, r, r.started m.time, found, by simpa using held.2.2.2.1,
    held.2.2.1.trans (congrArg some sameLease), ?_, rfl, held.2.2.1.trans (congrArg some sameLease)⟩
  rw [Table.find?_update rows (fun _ => rfl), found, Option.map_some, if_pos held]

/-- A dispatch with a result was given it by a frame. -/
theorem received_before {x : DispatchRow} (history : ExternalHistory crypto ⟨.empty, none⟩ past w)
    (found : w.db.dispatches.find? x.dispatchId = some x) (up : x.resultReceived = true) : ∃ u ∈ past, ReportedBy x u := by
  let Up (v : ExternalWorld) : Prop :=
    ∃ y, v.db.dispatches.find? x.dispatchId = some y ∧ y.resultReceived = true ∧ y.SameAs x
  refine history.raised_by (ReportedBy x) Up ?_ (fun u member down after => ?_) ⟨x, found, up, rfl⟩
  · rintro ⟨y, there, _⟩
    cases there
  · obtain ⟨y, there, up, same⟩ := after
    obtain ⟨_, named⟩ := Table.find?_some.mp there
    have step := history.moved u member
    obtain ⟨g, frame, now, m, row, evidenceId, digest, running, ended, admitted, marked, rfl⟩ :=
      raises_received step (lowered step.kept down there same) (named ▸ there) up
    have called : u.label.call? = some (.result frame now) := by
      rcases ended with ⟨reply, label⟩ | ⟨next, label⟩ <;> rw [label] <;> rfl
    have vouched := vouched_of running admitted.admitted admitted.bound
    obtain ⟨z, submitted⟩ := marked.stored
    have rows := (receiveResult_ok (transaction_ok.mp submitted)).2
    simp only [DispatchRow.SameAs, DispatchRow.mk.injEq, and_true] at same
    exact ⟨frame, now, called, vouched.dispatchId.trans (congrArg Json.str named), _, same.2.1, rows⟩

/-- Over every history whose steps are not torn, an acknowledgement or a result that fails leaves
the tables as they were, and the flags of a dispatch say what has happened to its task. -/
theorem all_or_nothing (history : ExternalHistory crypto ⟨.empty, none⟩ past w) (whole : ∀ t ∈ past, Whole crypto t) :
    AllOrNothing past w where
  interrupted t member := interrupted_same (history.moved t member) (whole t member)
  acknowledged x there := by
    constructor
    · intro up
      obtain ⟨u, member, frame, now, acked⟩ := acknowledged_before history (Table.find?_some.mpr ⟨there, rfl⟩) up
      exact ⟨u, member, acked.started⟩
    · rintro ⟨t, member, started⟩
      exact raised_at_end (.inl rfl) history member (startedBy_raises (history.moved t member) (whole t member) started) there
  received x there := by
    constructor
    · exact received_before history (Table.find?_some.mpr ⟨there, rfl⟩)
    · rintro ⟨t, member, reported⟩
      exact raised_at_end (.inr rfl) history member (reportedBy_raises (history.moved t member) (whole t member) reported) there

end

instance (db : Db) (task worker lease : String) (n : ℚ) : Decidable (StartAccepted db task worker lease n) :=
  inferInstanceAs (Decidable (_ ∧ _))

namespace Sample

/-- The acknowledgement arrives at `now`. -/
def acknowledgedAt (now : ℚ) : List (Option ExternalAct) := connect ++ send ++ [some <| .call (.acknowledge ack (.fin now)) []]

/-- An acknowledgement raised, and the ledger has grown. -/
def torn (t : ExternalTransition) : Bool :=
  match t.label with
  | .call (.acknowledge ..) (.error _) => t.after.db.messages.rows ≠ t.before.db.messages.rows
  | _ => false

theorem torn_interrupted {t : ExternalTransition} (is : torn t = true) :
    Interrupted t ∧ t.after.db.messages ≠ t.before.db.messages := by
  unfold torn at is
  split at is
  · rename_i frame now e label
    exact ⟨⟨_, rfl, .inl ⟨e, label⟩⟩, fun same => of_decide_eq_true is (congrArg _ same)⟩
  · cases is

/-- Whatever is acknowledged in the step, the store takes. -/
def taken (t : ExternalTransition) : Bool :=
  match t.label with
  | .call (.acknowledge _ (.fin n)) _ =>
    t.before.db.dispatches.rows.all fun d => decide (StartAccepted t.before.db.store d.taskId d.workerId d.leaseId n)
  | .call (.acknowledge ..) _ | .call (.result ..) _ | .crash .. => false
  | _ => true

theorem taken_whole {t : ExternalTransition} (is : taken t = true) : Whole crypto t := by
  constructor
  · rintro c answer label refuses
    cases refuses with
    | @acknowledge g frame now m row running admitted refused =>
      have read : now = .fin m.time := fin_of_clock? admitted.admitted.clock
      simp only [taken, label, read, List.all_eq_true, decide_eq_true_eq] at is
      exact refused (is row (Table.find?_some.mp admitted.bound.found).1)
    | result => simp [taken, label] at is
  · rintro c pending label
    simp [taken, label] at is

end Sample

theorem all_or_nothing_acknowledged : AllOrNothing (Sample.played (Sample.acknowledgedAt 14)).1
    (Sample.played (Sample.acknowledgedAt 14)).2 := by
  have taken : (Sample.played (Sample.acknowledgedAt 14)).1.all Sample.taken = true := by decide +kernel
  exact all_or_nothing (Sample.played_history _) fun t member => Sample.taken_whole (List.all_eq_true.mp taken t member)

/-- At 42 the worker's heartbeat in the store is stale: the ledger has the frame, the task is not started. -/
theorem not_all_or_nothing : ∃ past w, ExternalHistory Sample.crypto ⟨.empty, none⟩ past w ∧ ¬ AllOrNothing past w := by
  have last : (Sample.played (Sample.acknowledgedAt 42)).1.any Sample.torn = true := by decide +kernel
  obtain ⟨t, member, torn⟩ := List.any_eq_true.mp last
  obtain ⟨interrupted, grown⟩ := Sample.torn_interrupted torn
  exact ⟨_, _, Sample.played_history _, fun whole => grown (whole.interrupted t member interrupted).messages⟩

end ControlPlane.Autonomy
