import ControlPlane.Autonomy.ExternalOutcomes
import ControlPlane.Autonomy.ExternalRuns
import Mathlib.Data.Int.ConditionallyCompleteOrder
import Mathlib.Order.ConditionallyCompleteLattice.Basic

/-!
# Frames and challenges are used once

How one call can move the session of one worker, and what follows for whole runs:
message ids and challenges are spent for good, and between two authentications of a
worker its sequence numbers only grow.
-/

namespace ControlPlane.Autonomy

open Data Interleaving

namespace ExternalCall

/-- A frame for `_message`, with its domain and the time of the call. -/
def message? : ExternalCall → Option (Domain × Json × PyFloat)
  | .heartbeat frame now => some (.heartbeat, frame, now)
  | .acknowledge frame now => some (.ack, frame, now)
  | .result frame now => some (.result, frame, now)
  | _ => none

/-- The signed frame a call is handed. -/
def frame? : ExternalCall → Option Json
  | .authenticateSession frame _ | .heartbeat frame _ | .acknowledge frame _ | .result frame _
  | .acceptProviderStatus frame _ => some frame
  | _ => none

end ExternalCall

/-- How a call can move the session of a worker, wherever it ends or is cut. -/
inductive SessionChange (crypto : Crypto) (g : ExternalGateway) (db : ExternalDb) (c : ExternalCall) (worker : String) :
    Option SessionRow → Prop
  | kept : SessionChange crypto g db c worker (db.sessions.find? worker)
  | advanced {d value now m beat} (sent : c.message? = some (d, value, now)) (admitted : Admitted crypto g d db value now m)
      (own : m.profile.workerId.1 = worker) : SessionChange crypto g db c worker (some (m.advance beat m.session))
  | opened {value now r frame p} (sent : c = .authenticateSession value now)
      (requested : Requested crypto g db value now r frame p) (own : p.workerId.1 = worker) :
      SessionChange crypto g db c worker (some r.row)
  | dropped {value now r frame p s} (sent : c = .authenticateSession value now)
      (requested : Requested crypto g db value now r frame p) (other : p.workerId.1 ≠ worker)
      (found : db.sessions.find? worker = some s) (clash : s.sessionId = r.row.sessionId) :
      SessionChange crypto g db c worker none
  | revoked {s} (sent : c = .revoke (.str worker)) (found : db.sessions.find? worker = some s) :
      SessionChange crypto g db c worker (some { s with state := .revoked })

section

variable {crypto : Crypto} {g : ExternalGateway} {db db' : ExternalDb} {c : ExternalCall} {next : Pending ExternalStmt}
  {d : Domain} {value : Json} {now : PyFloat} {m : Message} {beat : Option (ℚ × Int)}
  {messages : Table MessageRow MessageRow.messageId} {worker : String} {st : Stmt Unit} {mark : GatewayStmt Unit}

theorem accept_session (admitted : Admitted crypto g d db value now m) :
    (db.accept m beat messages).sessions.find? worker =
      if m.profile.workerId.1 = worker then some (m.advance beat m.session) else db.sessions.find? worker := by
  refine (Table.find?_update_key (t := db.sessions) (f := m.advance beat) fun _ => rfl).trans ?_
  split
  · rename_i own
    rw [← own, admitted.current, Option.map_some]
  · rfl

theorem accepted_own (admitted : Admitted crypto g d db value now m) :
    (db.accept m beat messages).sessions.find? m.profile.workerId.1 = some (m.advance beat m.session) :=
  (accept_session admitted).trans (if_pos rfl)

/-- What settling a frame does to the sessions. -/
theorem Settling.sessions (settling : Settling m d st mark db db' next) (marking : Marking mark) :
    db'.sessions = db.sessions ∨ ∃ messages, db'.sessions = (db.accept m none messages).sessions := by
  cases settling with
  | untouched => exact .inl rfl
  | recorded => exact .inl rfl
  | accepted | refused | stored => exact .inr ⟨_, rfl⟩
  | @settled messages x store db' inserted performed marked =>
    refine .inr ⟨messages, ?_⟩
    exact (marking.same marked).2.1

theorem Settling.session (settling : Settling m d st mark db db' next) (marking : Marking mark)
    (admitted : Admitted crypto g d db value now m) (sent : c.message? = some (d, value, now)) (worker : String) :
    SessionChange crypto g db c worker (db'.sessions.find? worker) := by
  rcases settling.sessions marking with same | ⟨messages, same⟩
  · rw [same]
    exact .kept
  · rw [same, accept_session admitted]
    split
    · exact .advanced sent admitted ‹_›
    · exact .kept

theorem cut_acknowledge (cut : externals.Cut (g.acknowledge crypto value now) db db' next) :
    db' = db ∨ ∃ m row, AckAdmitted crypto g db value now m row ∧ AckSettling m row db db' next := by
  refine (runs_acknowledge running_cut cut).imp_right ?_
  rintro ⟨m, row, admitted, ran⟩
  exact ⟨m, row, admitted, cut_settle marking_acknowledged ran⟩

theorem cut_result (cut : externals.Cut (g.result crypto value now) db db' next) :
    db' = db ∨ ∃ m row evidenceId digest, ResultAdmitted crypto g db value now m row evidenceId digest ∧
      Settling m .result (resultSubmit m row evidenceId digest) (.markResultReceived row.dispatchId) db db' next := by
  refine (runs_result running_cut cut).imp_right ?_
  rintro ⟨m, row, evidenceId, digest, admitted, ran⟩
  exact ⟨m, row, evidenceId, digest, admitted, cut_settle marking_resultReceived ran⟩

/-- What one call does to one session. -/
theorem call_session (cut : externals.Cut (c.procedure crypto g) db db' next) (worker : String) :
    SessionChange crypto g db c worker (db'.sessions.find? worker) := by
  have untouched (apart : ∀ role ∈ c.writes, role ∉ [Role.authenticate, .advance, .reauthenticate, .revokeSession]) :
      SessionChange crypto g db c worker (db'.sessions.find? worker) := by
    rw [(confined_call c).sessions cut apart]
    exact .kept
  have unchanged (same : db' = db) : SessionChange crypto g db c worker (db'.sessions.find? worker) := by
    rw [same]
    exact .kept
  cases c with
  | issueChallenge | eligibleSessions | dispatch | acceptProviderStatus | providerEligibleSessions =>
    exact untouched (by simp [ExternalCall.writes])
  | acknowledge value now =>
    rcases cut_acknowledge (Machine.cut_then_pure.mp cut) with same | ⟨m, row, admitted, settling⟩
    · exact unchanged same
    · exact settling.session marking_acknowledged admitted.admitted rfl worker
  | result value now =>
    rcases cut_result (Machine.cut_then_pure.mp cut) with same | ⟨m, row, evidenceId, digest, admitted, settling⟩
    · exact unchanged same
    · exact settling.session marking_resultReceived admitted.admitted rfl worker
  | heartbeat value now =>
    rcases runs_heartbeat running_cut (Machine.cut_then_pure.mp cut) with same | ⟨m, capacity, admitted, ran⟩
    · exact unchanged same
    · obtain ⟨store, rfl | ⟨messages, _, ⟨rfl, _⟩ | ⟨rfl, _⟩⟩⟩ := cut_recordBeat ran
      · exact .kept
      · exact .kept
      · rw [show (ExternalDb.accept { db with store } m _ messages).sessions = (db.accept m _ messages).sessions from rfl,
          accept_session admitted]
        split
        · exact .advanced rfl admitted ‹_›
        · exact .kept
  | authenticateSession value now =>
    rcases cut_authenticateSession (Machine.cut_then_pure.mp cut) with same | ⟨r, frame, p, requested, _, written⟩
    · exact unchanged same
    · obtain ⟨_, store, _, rfl⟩ := written
      obtain ⟨capacity, row⟩ := requested.row
      have keyed : r.row.workerId = p.workerId.1 := by rw [row]
      rw [Table.find?_replace, keyed]
      split
      · exact .opened rfl requested ‹_›
      · rename_i other
        cases found : db.sessions.find? worker with
        | none =>
          rw [Option.filter_none, ← found]
          exact .kept
        | some s =>
          rw [Option.filter_some]
          split
          · rw [← found]
            exact .kept
          · rename_i clash
            exact .dropped rfl requested other found (by simpa using clash)
  | revoke value =>
    rcases cut_revoke (Machine.cut_then_pure.mp cut) with same | ⟨id, rfl, ⟨rfl, _⟩ | ⟨_, written⟩⟩
    · exact unchanged same
    · exact .kept
    · obtain rfl := written
      refine (Table.find?_update_key (t := db.sessions) (f := fun s => { s with state := .revoked }) fun _ => rfl) ▸ ?_
      split
      · rename_i own
        subst own
        cases found : db.sessions.find? id.1 with
        | none =>
          rw [Option.map_none, ← found]
          exact .kept
        | some s => exact .revoked rfl found
      · exact .kept

/-! ### The ledger of messages -/

theorem Settling.ledger (settling : Settling m d st mark db db' next) (marking : Marking mark) :
    db'.messages = db.messages ∨ db.messages.insert? (m.row d) = some db'.messages := by
  cases settling with
  | untouched => exact .inl rfl
  | recorded inserted | accepted inserted | refused inserted | stored inserted => exact .inr inserted
  | settled inserted _ marked => exact .inr (inserted.trans (congrArg some (marking.same marked).1.symm))

/-- The ledger gains at most the row of the frame that was handed in. -/
theorem call_messages (cut : externals.Cut (c.procedure crypto g) db db' next) :
    db'.messages = db.messages ∨ ∃ d value now m, c.message? = some (d, value, now) ∧ Admitted crypto g d db value now m ∧
      db.messages.insert? (m.row d) = some db'.messages := by
  cases c with
  | acknowledge value now =>
    rcases cut_acknowledge (Machine.cut_then_pure.mp cut) with rfl | ⟨m, row, admitted, settling⟩
    · exact .inl rfl
    · exact (settling.ledger marking_acknowledged).imp_right fun inserted => ⟨_, _, _, m, rfl, admitted.admitted, inserted⟩
  | result value now =>
    rcases cut_result (Machine.cut_then_pure.mp cut) with rfl | ⟨m, row, evidenceId, digest, admitted, settling⟩
    · exact .inl rfl
    · exact (settling.ledger marking_resultReceived).imp_right fun inserted => ⟨_, _, _, m, rfl, admitted.admitted, inserted⟩
  | heartbeat value now =>
    rcases runs_heartbeat running_cut (Machine.cut_then_pure.mp cut) with rfl | ⟨m, capacity, admitted, ran⟩
    · exact .inl rfl
    · obtain ⟨store, rfl | ⟨messages, inserted, ⟨rfl, _⟩ | ⟨rfl, _⟩⟩⟩ := cut_recordBeat ran
      · exact .inl rfl
      · exact .inr ⟨_, _, _, m, rfl, admitted, inserted⟩
      · exact .inr ⟨_, _, _, m, rfl, admitted, inserted⟩
  | _ => exact .inl ((confined_call _).messages cut (by simp [ExternalCall.writes]))

theorem ends_settle {r : Answer Unit} (marking : Marking mark) (ends : externals.Ends (settle m d st mark).run db db' r) :
    (db' = db ∧ ∃ e, r = .error e) ∨ db.messages.insert? (m.row d) = some db'.messages ∧
      ∃ messages, db'.sessions = (db.accept m none messages).sessions := by
  cases r with
  | ok u =>
    obtain ⟨messages, _, _, inserted, _, marked⟩ := returns_settle marking ends
    obtain ⟨ledger, sessions, _⟩ := marking.same marked
    exact .inr ⟨inserted.trans (congrArg some ledger.symm), messages, sessions⟩
  | error e =>
    rcases raises_settle marking ends with same | ⟨messages, _, store, inserted, _, rfl⟩
    · exact .inl ⟨same, e, rfl⟩
    · exact .inr ⟨inserted, messages, rfl⟩

/-- A frame of `_message` that came to its end is refused, or is in the ledger and has
moved its session. -/
structure Taken (crypto : Crypto) (g : ExternalGateway) (d : Domain) (db : ExternalDb) (value : Json) (now : PyFloat)
    (db' : ExternalDb) (m : Message) : Prop where
  admitted : Admitted crypto g d db value now m
  recorded : db.messages.insert? (m.row d) = some db'.messages
  advanced : ∃ beat, db'.sessions.find? m.profile.workerId.1 = some (m.advance beat m.session)

theorem taken_of_settle {r : Answer Unit} (marking : Marking mark) (admitted : Admitted crypto g d db value now m)
    (ends : externals.Ends (settle m d st mark).run db db' r) :
    (db'.messages = db.messages ∧ ∃ e, r = .error e) ∨ ∃ m, Taken crypto g d db value now db' m := by
  rcases ends_settle marking ends with ⟨rfl, refused⟩ | ⟨inserted, messages, same⟩
  · exact .inl ⟨rfl, refused⟩
  · refine .inr ⟨m, admitted, inserted, none, ?_⟩
    rw [same, accepted_own admitted]

theorem ends_message {answer : Answer Reply} (sent : c.message? = some (d, value, now))
    (ends : externals.Ends (c.procedure crypto g).run db db' answer) :
    (db'.messages = db.messages ∧ ∃ e, answer = .error e) ∨ ∃ m, Taken crypto g d db value now db' m := by
  have finish {r : Answer Unit} {reply : Reply} (same : answer = r.map fun _ => reply)
      (outcome : (db'.messages = db.messages ∧ ∃ e, r = .error e) ∨ ∃ m, Taken crypto g d db value now db' m) :
      (db'.messages = db.messages ∧ ∃ e, answer = .error e) ∨ ∃ m, Taken crypto g d db value now db' m := by
    refine outcome.imp_left ?_
    rintro ⟨kept, e, rfl⟩
    exact ⟨kept, e, same⟩
  cases c with
  | acknowledge frame time =>
    cases sent
    obtain ⟨r, ends, same⟩ := ends_done ends
    refine finish same ?_
    rcases runs_acknowledge running_ends ends with ⟨rfl, refused⟩ | ⟨m, row, admitted, ran⟩
    · exact .inl ⟨rfl, refused⟩
    · exact taken_of_settle marking_acknowledged admitted.admitted ran
  | result frame time =>
    cases sent
    obtain ⟨r, ends, same⟩ := ends_done ends
    refine finish same ?_
    rcases runs_result running_ends ends with ⟨rfl, refused⟩ | ⟨m, row, _, _, admitted, ran⟩
    · exact .inl ⟨rfl, refused⟩
    · exact taken_of_settle marking_resultReceived admitted.admitted ran
  | heartbeat frame time =>
    cases sent
    obtain ⟨r, ends, same⟩ := ends_done ends
    refine finish same ?_
    rcases runs_heartbeat running_ends ends with ⟨rfl, refused⟩ | ⟨m, capacity, admitted, ran⟩
    · exact .inl ⟨rfl, refused⟩
    obtain ⟨store, ⟨rfl, refused⟩ | ⟨messages, inserted, rfl⟩⟩ := ends_recordBeat ran
    · exact .inl ⟨rfl, refused⟩
    · refine .inr ⟨m, admitted, inserted, some (m.observed, capacity), ?_⟩
      show (db.accept m (some (m.observed, capacity)) messages).sessions.find? _ = _
      exact accepted_own admitted
  | _ => cases sent

theorem challenge_of_find {id : String} {c : ChallengeRow} (found : db.challenges.find? id = some c) :
    c ∈ db.challenges.rows ∧ c.challengeId = id := Table.find?_some.mp found

/-- An authentication that is through has found its challenge open and has spent it. -/
theorem spends {r : SessionRequest} {frame : Frame} {p : VerifiedProfile} (requested : Requested crypto g db value now r frame p)
    (written : Written db (.authenticate r.challengeId.1 r.time r.row r.worker) db') :
    (∀ c ∈ db.challenges.rows, c.challengeId = r.challengeId.1 → c.consumed = false) ∧
      ∃ c ∈ db'.challenges.rows, c.challengeId = r.challengeId.1 ∧ c.consumed = true := by
  obtain ⟨c, nonce, found, answered⟩ := requested.challenge
  obtain ⟨member, same⟩ := challenge_of_find found
  refine ⟨fun c' there named => ?_, ?_⟩
  · obtain rfl := Table.eq_of_key member there (same.trans named.symm)
    exact answered.1
  · obtain ⟨_, store, _, rfl⟩ := written
    have open_ : ExternalDb.open_ r.challengeId.1 r.time c :=
      ⟨same, answered.1, answered.2.1, answered.2.2.2.2.2.2.2.2.2.1⟩
    refine ⟨_, List.mem_map_of_mem member, ?_⟩
    rw [if_pos open_]
    exact ⟨same, rfl⟩

/-- An authentication that returns is through. -/
theorem returns_authenticateSession {u : Unit} (returned : externals.Returns (g.authenticateSession crypto value now) db db' u) :
    ∃ r frame p, Requested crypto g db value now r frame p ∧
      Written db (.authenticate r.challengeId.1 r.time r.row r.worker) db' := by
  obtain ⟨db₁, r, checked, last⟩ := Machine.returns_bind.mp returned
  obtain ⟨rfl, frame, p, requested⟩ := returns_requestSession checked
  obtain ⟨x, last⟩ := Machine.returns_ask.mp last
  refine ⟨r, frame, p, requested, ?_⟩
  exact authenticate_ok (update_ok.mp last)

end

/-! ### Runs -/

/-- The call handed in this frame, and returned. -/
def Returned (frame : Json) (t : ExternalTransition) : Prop :=
  ∃ c d now reply, t.label = .call c (.ok reply) ∧ c.message? = some (d, frame, now)

/-- The frame was accepted: the call returned, or the ledger has changed. -/
def Accepted (frame : Json) (t : ExternalTransition) : Prop :=
  ∃ c d now, t.label.call? = some c ∧ c.message? = some (d, frame, now) ∧
    ((∃ reply, t.label = .call c (.ok reply)) ∨ t.after.db.messages ≠ t.before.db.messages)

/-- The frame authenticated a session: the call returned, or the database has changed. -/
def Authenticates (frame : Json) (t : ExternalTransition) : Prop :=
  ∃ now, t.label.call? = some (.authenticateSession frame now) ∧
    ((∃ reply, t.label = .call (.authenticateSession frame now) (.ok reply)) ∨ t.after.db ≠ t.before.db)

/-- What is promised of a history, newest first. -/
structure SingleUse (past : List ExternalTransition) : Prop where
  frames : past.Pairwise fun later earlier => ∀ frame frame', Returned frame later → Returned frame' earlier →
    frame.field "message_id" ≠ frame'.field "message_id"
  challenges : past.Pairwise fun later earlier => ∀ frame frame', Authenticates frame later → Authenticates frame' earlier →
    frame.field "challenge_id" ≠ frame'.field "challenge_id"
  /-- Two accepted frames of a worker, with no authentication of it in between. -/
  sequences : ∀ worker newer t between u older, past = newer ++ t :: (between ++ u :: older) →
    (∀ v ∈ between, ∀ frame, Authenticates frame v → frame.field "worker_id" ≠ .str worker) →
    ∀ frame frame', Accepted frame t → Accepted frame' u → frame.field "worker_id" = .str worker →
      frame'.field "worker_id" = .str worker → ∃ i j, frame.field "sequence" = .int i ∧
        frame'.field "sequence" = .int j ∧ j < i

section

variable {crypto : Crypto} {w w' : ExternalWorld} {e : ExternalEvent} {t : ExternalTransition} {past : List ExternalTransition}
  {frame : Json}

/-- The frame's message is in the ledger. -/
def Recorded (id : Json) (w : ExternalWorld) : Prop := ∃ r ∈ w.db.messages.rows, id = .str r.messageId

/-- The frame's challenge is spent. -/
def Spent (id : Json) (w : ExternalWorld) : Prop := ∃ c ∈ w.db.challenges.rows, id = .str c.challengeId ∧ c.consumed = true

theorem recorded_stays (kept : Kept w.db w'.db) {id : Json} (recorded : Recorded id w) : Recorded id w' := by
  obtain ⟨r, member, same⟩ := recorded
  exact ⟨r, kept.messages r member, same⟩

theorem spent_stays (kept : Kept w.db w'.db) {id : Json} (spent : Spent id w) : Spent id w' := by
  obtain ⟨c, member, same, consumed⟩ := spent
  obtain ⟨c', there, named, spent⟩ := kept.challenges c member
  exact ⟨c', there, named ▸ same, spent consumed⟩

/-- A frame that is accepted was admitted by the gateway that runs. -/
theorem accepted_admitted (step : ExternalStep crypto t.before t.label t.after) (accepted : Accepted frame t) :
    ∃ g d now m, t.before.gateway = some g ∧ Admitted crypto g d t.before.db frame now m ∧
      t.before.db.messages.insert? (m.row d) = some t.after.db.messages ∧
        (t.after.gateway = none ∨ ∃ beat,
          t.after.db.sessions.find? m.profile.workerId.1 = some (m.advance beat m.session)) := by
  obtain ⟨c, d, now, called, sent, through⟩ := accepted
  cases step.cases with
  | @called g c' answer running label stays ends =>
    rw [label] at called
    cases called
    rcases ends_message sent ends with ⟨same, e, refused⟩ | ⟨m, taken⟩
    · rcases through with ⟨reply, returned⟩ | changed
      · rw [label, refused] at returned
        cases returned
      · exact absurd same changed
    · exact ⟨g, d, now, m, running, taken.admitted, taken.recorded, .inr taken.advanced⟩
  | @crashed g c' next running label died cut =>
    rw [label] at called
    cases called
    rcases call_messages cut with same | ⟨d', value, now', m, sent', admitted, inserted⟩
    · rcases through with ⟨reply, returned⟩ | changed
      · rw [label] at returned
        cases returned
      · exact absurd same changed
    · cases sent.symm.trans sent'
      exact ⟨g, d, now, m, running, admitted, inserted, .inl died⟩
  | restarted label => rw [label] at called; cases called
  | failed label => rw [label] at called; cases called
  | outside none_ => rw [none_] at called; cases called

/-- The least sequence number that a frame of the worker must exceed; none will do
while the worker has no session to speak for it. -/
def rank (worker : String) (w : ExternalWorld) : WithTop ℤ :=
  match w.gateway, w.db.sessions.find? worker with
  | some _, some s => if s.state = .authenticated then s.lastSequence else ⊤
  | _, _ => ⊤

theorem rank_down {worker : String} (down : w.gateway = none) : rank worker w = ⊤ := by
  unfold rank
  rw [down]

theorem rank_closed {worker : String} (closed : ∀ s, w.db.sessions.find? worker = some s → s.state ≠ .authenticated) :
    rank worker w = ⊤ := by
  unfold rank
  split
  · rename_i s _ found
    exact if_neg (closed s found)
  · rfl

theorem rank_open {worker : String} {g : ExternalGateway} {s : SessionRow} (running : w.gateway = some g)
    (found : w.db.sessions.find? worker = some s) (authenticated : s.state = .authenticated) :
    rank worker w = s.lastSequence := by
  unfold rank
  rw [running, found]
  exact if_pos authenticated

/-- A step raises the rank, unless it authenticates the worker. -/
theorem rank_grows {worker : String} (step : ExternalStep crypto t.before t.label t.after)
    (apart : ∀ frame, Authenticates frame t → frame.field "worker_id" ≠ .str worker) : rank worker t.before ≤ rank worker t.after := by
  have level (gateway : t.after.gateway = t.before.gateway)
      (found : t.after.db.sessions.find? worker = t.before.db.sessions.find? worker) : rank worker t.before ≤ rank worker t.after := by
    unfold rank
    rw [gateway, found]
  cases step.cases with
  | @called g c answer running label stays ends =>
    by_cases same : t.after.db = t.before.db
    · exact level (stays.trans running.symm) (by rw [same])
    have move := call_session (c := c) (g := g) ends.stops worker
    generalize found : t.after.db.sessions.find? worker = now at move
    cases move with
    | kept => exact level (stays.trans running.symm) found
    | @advanced d value time m beat sent admitted own =>
      subst own
      rw [rank_open running admitted.current admitted.authenticated, rank_open stays found admitted.authenticated]
      exact WithTop.coe_le_coe.mpr admitted.newer.le
    | @opened value time r frame p sent requested own =>
      refine absurd ?_ (apart value ⟨time, by rw [label, sent]; rfl, .inr same⟩)
      rw [requested.shape, ← own]
      exact requested.worker
    | dropped =>
      refine le_top.trans (rank_closed fun s there => ?_).ge
      cases found.symm.trans there
    | revoked =>
      refine le_top.trans (rank_closed fun s there => ?_).ge
      cases found.symm.trans there
      simp
  | crashed _ _ died => exact le_top.trans (rank_down died).ge
  | failed _ died => exact le_top.trans (rank_down died).ge
  | restarted _ _ returned =>
    have closed : rank worker t.after = ⊤ :=
      rank_closed fun s found => returns_create returned s (Table.find?_some.mp found).1
    exact le_top.trans closed.ge
  | outside _ gateway tables =>
    obtain ⟨store, spool, same⟩ := tables
    exact level gateway (by rw [same])

/-- A frame that returned has spent its message id. -/
theorem returned_records (step : ExternalStep crypto t.before t.label t.after) (returned : Returned frame t) :
    ¬ Recorded (frame.field "message_id") t.before ∧ Recorded (frame.field "message_id") t.after := by
  obtain ⟨c, d, now, reply, label, sent⟩ := returned
  have accepted : Accepted frame t := ⟨c, d, now, by rw [label]; rfl, sent, .inl ⟨reply, label⟩⟩
  obtain ⟨g, d, now, m, _, admitted, inserted, _⟩ := accepted_admitted step accepted
  have named : frame.field "message_id" = .str m.messageId.1 := by
    rw [admitted.shape]
    exact admitted.messageId
  rw [named]
  refine ⟨?_, m.row d, (Table.mem_inserted inserted).mpr (.inr rfl), rfl⟩
  rintro ⟨r, member, same⟩
  exact Table.find?_none.mp admitted.fresh r member (Json.str.inj same).symm

/-- A frame that authenticated a session has spent its challenge. -/
theorem authenticates_spends (step : ExternalStep crypto t.before t.label t.after) (through : Authenticates frame t) :
    ¬ Spent (frame.field "challenge_id") t.before ∧ Spent (frame.field "challenge_id") t.after := by
  obtain ⟨now, called, through⟩ := through
  have conclude {g : ExternalGateway} {r : SessionRequest} {entries : Frame} {p : VerifiedProfile}
      (requested : Requested crypto g t.before.db frame now r entries p)
      (written : Written t.before.db (.authenticate r.challengeId.1 r.time r.row r.worker) t.after.db) :
      ¬ Spent (frame.field "challenge_id") t.before ∧ Spent (frame.field "challenge_id") t.after := by
    have named : frame.field "challenge_id" = .str r.challengeId.1 := by
      rw [requested.shape]
      exact requested.challengeId
    obtain ⟨unspent, c, member, same, consumed⟩ := spends requested written
    rw [named]
    refine ⟨?_, c, member, by rw [same], consumed⟩
    rintro ⟨c', there, same', consumed'⟩
    cases (unspent c' there (Json.str.inj same').symm).symm.trans consumed'
  cases step.cases with
  | @called g c answer running label stays ends =>
    rw [label] at called
    cases called
    cases answer with
    | ok reply =>
      obtain ⟨_, u, returned⟩ := Machine.returns_then_pure.mp ends
      obtain ⟨r, entries, p, requested, written⟩ := returns_authenticateSession returned
      exact conclude requested written
    | error e =>
      rcases through with ⟨reply, returned⟩ | changed
      · rw [label] at returned
        cases returned
      rcases cut_authenticateSession (Machine.raises_then_pure.mp ends).stops with same | ⟨r, entries, p, requested, _, written⟩
      · exact absurd same changed
      · exact conclude requested written
  | crashed running label died cut =>
    rw [label] at called
    cases called
    rcases through with ⟨reply, returned⟩ | changed
    · rw [label] at returned
      cases returned
    rcases cut_authenticateSession (Machine.cut_then_pure.mp cut) with same | ⟨r, entries, p, requested, _, written⟩
    · exact absurd same changed
    · exact conclude requested written
  | restarted label => rw [label] at called; cases called
  | failed label => rw [label] at called; cases called
  | outside none_ => rw [none_] at called; cases called

theorem frames_single_use {init : ExternalWorld} (history : ExternalHistory crypto init past w) : SingleUse past where
  frames := by
    have once := history.at_most_once (fun id t => ∃ frame, Returned frame t ∧ frame.field "message_id" = id) Recorded
      (fun t member id ⟨frame, returned, same⟩ => same ▸ returned_records (history.moved t member) returned)
      fun t member id => recorded_stays (history.moved t member).kept
    exact once.imp fun apart frame frame' later earlier same => apart _ ⟨⟨frame, later, rfl⟩, frame', earlier, same.symm⟩
  challenges := by
    have once := history.at_most_once (fun id t => ∃ frame, Authenticates frame t ∧ frame.field "challenge_id" = id) Spent
      (fun t member id ⟨frame, through, same⟩ => same ▸ authenticates_spends (history.moved t member) through)
      fun t member id => spent_stays (history.moved t member).kept
    exact once.imp fun apart frame frame' later earlier same => apart _ ⟨⟨frame, later, rfl⟩, frame', earlier, same.symm⟩
  sequences := by
    rintro worker newer t between u older rfl apart frame frame' accepted accepted' own own'
    obtain ⟨earlier, step⟩ := history.upTo
    -- between the two the rank of the worker only grows
    have ranks := (earlier.ever_after (I := fun v => rank worker u.after ≤ rank worker v) le_rfl fun v member below =>
      below.trans (rank_grows (earlier.moved v (List.mem_append_left _ member)) (apart v member))).1
    have step' := earlier.moved u (List.mem_append_right _ List.mem_cons_self)
    obtain ⟨g, d, now, m, running, admitted, _, _⟩ := accepted_admitted step accepted
    obtain ⟨g', d', now', m', running', admitted', _, moved⟩ := accepted_admitted step' accepted'
    rw [admitted.shape] at own ⊢
    rw [admitted'.shape] at own' ⊢
    obtain rfl : m.profile.workerId.1 = worker := Json.str.inj (admitted.worker.symm.trans own)
    have same : m'.profile.workerId.1 = m.profile.workerId.1 := Json.str.inj (admitted'.worker.symm.trans own')
    refine ⟨m.sequence, m'.sequence, admitted.sequence, admitted'.sequence, ?_⟩
    have before : rank m.profile.workerId.1 t.before = m.session.lastSequence :=
      rank_open running admitted.current admitted.authenticated
    have after : (m'.sequence : WithTop ℤ) ≤ rank m.profile.workerId.1 u.after := by
      rcases moved with died | ⟨beat, found⟩
      · exact le_top.trans (rank_down died).ge
      · cases gateway : u.after.gateway with
        | none => exact le_top.trans (rank_down gateway).ge
        | some g'' =>
          have open_ := rank_open gateway found (s := m'.advance beat m'.session) admitted'.authenticated
          rw [same] at open_
          exact open_.ge
    have below := WithTop.coe_le_coe.mp (after.trans (ranks.trans before.le))
    exact lt_of_le_of_lt below admitted.newer

end

theorem frames_single_use_work : SingleUse (Sample.played Sample.work).1 :=
  frames_single_use (Sample.played_history _)

end ControlPlane.Autonomy
