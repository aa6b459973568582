import ControlPlane.Autonomy.Calls
import ControlPlane.Autonomy.ExternalSchema

/-!
# What the statements of the gateways do

Every statement either leaves the tables as they were or has written what `Written`
says; nothing else about statements is needed later.
-/

namespace ControlPlane.Autonomy

open Data Interleaving

variable {α : Type} {db db' : ExternalDb}

/-- What a statement that writes has written. -/
def Written (db : ExternalDb) : GatewayStmt α → ExternalDb → Prop
  | .insertProfile row, db' => ∃ profiles, db.profiles.insert? row = some profiles ∧ db' = { db with profiles }
  | .revokeProfile worker, db' => db' = db.revokeProfile worker
  | .requireReauthentication, db' => db' = db.requireReauthentication
  | .revokeSession worker, db' => db' = db.revokeSession worker
  | .insertChallenge row, db' => ∃ challenges, db.challenges.insert? row = some challenges ∧ db' = { db with challenges }
  | .insertMessage row, db' => storable row.sequence ∧
      ∃ messages, db.messages.insert? row = some messages ∧ db' = { db with messages }
  | .advanceSession worker sequence message beat, db' =>
      db' = db.advanceSession worker sequence message beat
  | .insertDispatch row, db' => ∃ dispatches, db.dispatches.insert? row = some dispatches ∧ db' = { db with dispatches }
  | .markAcknowledged id at_, db' => db' = db.markAcknowledged id at_
  | .markResultReceived id, db' => db' = db.markResultReceived id
  | .authenticate challenge n row worker, db' =>
      db.challenges.rowcount (ExternalDb.open_ challenge n) = 1 ∧
        ∃ store, upsertWorker worker db.store = .ok (store, .ok ()) ∧ db' = { db with
          challenges := db.consumed challenge n
          sessions := db.sessions.replace row fun s => s.sessionId = row.sessionId, store }
  | .acceptProviderStatus row n, db' =>
      (∀ old ∈ db.providerStatus.find? row.workerId, old.sessionId = row.sessionId → old.sequence < row.sequence) ∧
        ∃ providerMessages, db.providerMessages.insert?
            ⟨row.lastMessageId, row.workerId, row.sessionId, row.sequence, n⟩ = some providerMessages ∧
          db' = { db with providerMessages, providerStatus := db.providerStatus.replace row fun _ => False }
  | _, _ => False

theorem update_ok {result : Except Err ExternalDb} {u : Unit} : update db result = (db', .ok u) ↔ result = .ok db' := by
  cases result with
  | ok after => exact ⟨fun same => congrArg Except.ok (Prod.mk.inj same).1, fun same => Except.ok.inj same ▸ rfl⟩
  | error e => exact iff_of_false (fun same => nomatch (Prod.mk.inj same).2) nofun

theorem update_written {s : GatewayStmt Unit} {result : Except Err ExternalDb}
    (ok : ∀ db', result = .ok db' → Written db s db') : (update db result).1 = db ∨ Written db s (update db result).1 := by
  cases result with
  | ok db' => exact .inr (ok db' rfl)
  | error e => exact .inl rfl

theorem insertProfile_ok {row : ProfileRow} (inserted : db.insertProfile row = .ok db') : Written db (.insertProfile row) db' := by
  simp only [ExternalDb.insertProfile, require_bind_ok, found_bind_ok, pure_ok] at inserted
  obtain ⟨_, profiles, inserted, rfl⟩ := inserted
  exact ⟨profiles, inserted, rfl⟩

theorem insertChallenge_ok {row : ChallengeRow} (inserted : db.insertChallenge row = .ok db') :
    Written db (.insertChallenge row) db' := by
  simp only [ExternalDb.insertChallenge, found_bind_ok, pure_ok] at inserted
  obtain ⟨challenges, inserted, rfl⟩ := inserted
  exact ⟨challenges, inserted, rfl⟩

theorem insertMessage_ok {row : MessageRow} (inserted : db.insertMessage row = .ok db') :
    Written db (.insertMessage row) db' := by
  simp only [ExternalDb.insertMessage, require_bind_ok, found_bind_ok, pure_ok] at inserted
  obtain ⟨stored, messages, inserted, rfl⟩ := inserted
  exact ⟨stored, messages, inserted, rfl⟩

theorem insertDispatch_ok {row : DispatchRow} (inserted : db.insertDispatch row = .ok db') :
    Written db (.insertDispatch row) db' := by
  simp only [ExternalDb.insertDispatch, found_bind_ok, pure_ok] at inserted
  obtain ⟨dispatches, inserted, rfl⟩ := inserted
  exact ⟨dispatches, inserted, rfl⟩

theorem upsertWorker_ok {w : WorkerRow} {store : Db} {c : Committed Unit} (h : upsertWorker w store = .ok c) :
    c.2 = .ok () := by
  simp only [upsertWorker, require_bind_ok, pure_ok] at h
  exact h.2 ▸ rfl

theorem authenticate_ok {challenge : String} {n : ℚ} {row : SessionRow} {worker : WorkerRow}
    (opened : db.authenticate challenge n row worker = .ok db') : Written db (.authenticate challenge n row worker) db' := by
  simp only [ExternalDb.authenticate, require_bind_ok] at opened
  obtain ⟨unused, opened⟩ := opened
  obtain ⟨⟨store, answer⟩, registered, same⟩ := bind_ok.mp opened
  obtain rfl := pure_ok.mp same
  obtain rfl : answer = .ok () := upsertWorker_ok registered
  exact ⟨unused, store, registered, rfl⟩

theorem acceptProviderStatus_ok {row : ProviderRow} {n : ℚ} (accepted : db.acceptProviderStatus row n = .ok db') :
    Written db (.acceptProviderStatus row n) db' := by
  simp only [ExternalDb.acceptProviderStatus, require_bind_ok, found_bind_ok, pure_ok] at accepted
  obtain ⟨newer, _, _, providerMessages, inserted, rfl⟩ := accepted
  exact ⟨newer, providerMessages, inserted, rfl⟩

theorem performed (s : GatewayStmt α) (x : ExternalInput) (db : ExternalDb) :
    (s.perform x db).1 = db ∨ Written db s (s.perform x db).1 := by
  cases s with
  | insertProfile row => exact update_written fun _ => insertProfile_ok
  | insertChallenge row => exact update_written fun _ => insertChallenge_ok
  | insertMessage row => exact update_written fun _ => insertMessage_ok
  | insertDispatch row => exact update_written fun _ => insertDispatch_ok
  | authenticate challenge n row worker => exact update_written fun _ => authenticate_ok
  | acceptProviderStatus row n => exact update_written fun _ => acceptProviderStatus_ok
  | revokeProfile | requireReauthentication | revokeSession | advanceSession | markAcknowledged | markResultReceived =>
    exact .inr rfl
  | _ => exact .inl rfl

/-! ### What no statement takes back -/

/-- The dispatch later on: only its flags move, and they only go up. -/
structure DispatchRow.Later (d d' : DispatchRow) : Prop where
  same : { d' with acknowledged := d.acknowledged, resultReceived := d.resultReceived, ackAt := d.ackAt } = d
  acknowledged : d.acknowledged = true → d'.acknowledged = true
  resultReceived : d.resultReceived = true → d'.resultReceived = true

theorem DispatchRow.Later.refl (d : DispatchRow) : d.Later d := ⟨rfl, id, id⟩

theorem DispatchRow.Later.trans {d d' d'' : DispatchRow} (first : d.Later d') (second : d'.Later d'') : d.Later d'' := by
  refine ⟨?_, second.acknowledged ∘ first.acknowledged, second.resultReceived ∘ first.resultReceived⟩
  rw [← first.same, ← second.same]

structure Kept (db db' : ExternalDb) : Prop where
  messages : ∀ r ∈ db.messages.rows, r ∈ db'.messages.rows
  providerMessages : ∀ r ∈ db.providerMessages.rows, r ∈ db'.providerMessages.rows
  challenges : ∀ c ∈ db.challenges.rows, ∃ c' ∈ db'.challenges.rows,
    c'.challengeId = c.challengeId ∧ (c.consumed = true → c'.consumed = true)
  profiles : ∀ p ∈ db.profiles.rows, ∃ p' ∈ db'.profiles.rows, p' = p ∨ p' = { p with revoked := true }
  dispatches : ∀ d ∈ db.dispatches.rows, ∃ d' ∈ db'.dispatches.rows, d.Later d'

theorem Kept.refl (db : ExternalDb) : Kept db db :=
  ⟨fun _ => id, fun _ => id, fun c member => ⟨c, member, rfl, id⟩, fun p member => ⟨p, member, .inl rfl⟩,
    fun d member => ⟨d, member, .refl d⟩⟩

theorem Kept.trans {db'' : ExternalDb} (first : Kept db db') (second : Kept db' db'') : Kept db db'' := by
  refine ⟨fun r => second.messages r ∘ first.messages r, fun r => second.providerMessages r ∘ first.providerMessages r,
    fun c member => ?_, fun p member => ?_, fun d member => ?_⟩
  · obtain ⟨c', there, same, consumed⟩ := first.challenges c member
    obtain ⟨c'', there, same', consumed'⟩ := second.challenges c' there
    exact ⟨c'', there, same'.trans same, consumed' ∘ consumed⟩
  · obtain ⟨p', there, rfl | rfl⟩ := first.profiles p member
    · exact second.profiles _ there
    · obtain ⟨p'', there, rfl | rfl⟩ := second.profiles _ there
      · exact ⟨_, there, .inr rfl⟩
      · exact ⟨_, there, .inr rfl⟩
  · obtain ⟨d', there, later⟩ := first.dispatches d member
    obtain ⟨d'', there, later'⟩ := second.dispatches d' there
    exact ⟨d'', there, later.trans later'⟩

section

variable {s : GatewayStmt α}

theorem Written.kept (written : Written db s db') : Kept db db' := by
  have still := Kept.refl db
  cases s with
  | insertProfile row =>
    obtain ⟨_, inserted, rfl⟩ := written
    exact { still with profiles := fun p member => ⟨p, (Table.mem_inserted inserted).mpr (.inl member), .inl rfl⟩ }
  | insertChallenge row =>
    obtain ⟨_, inserted, rfl⟩ := written
    exact { still with challenges := fun c member => ⟨c, (Table.mem_inserted inserted).mpr (.inl member), rfl, id⟩ }
  | insertMessage row =>
    obtain ⟨_, _, inserted, rfl⟩ := written
    exact { still with messages := fun r member => (Table.mem_inserted inserted).mpr (.inl member) }
  | insertDispatch row =>
    obtain ⟨_, inserted, rfl⟩ := written
    exact { still with dispatches := fun d member => ⟨d, (Table.mem_inserted inserted).mpr (.inl member), .refl d⟩ }
  | acceptProviderStatus row n =>
    obtain ⟨_, _, inserted, rfl⟩ := written
    exact { still with providerMessages := fun r member => (Table.mem_inserted inserted).mpr (.inl member) }
  | revokeProfile worker =>
    obtain rfl := written
    refine { still with profiles := fun p member => ⟨_, List.mem_map_of_mem member, ?_⟩ }
    split
    · exact .inr rfl
    · exact .inl rfl
  | authenticate challenge n row worker =>
    obtain ⟨_, _, _, rfl⟩ := written
    refine { still with challenges := fun c member => ⟨_, List.mem_map_of_mem member, ?_⟩ }
    split
    · exact ⟨rfl, fun _ => rfl⟩
    · exact ⟨rfl, id⟩
  | markAcknowledged dispatch at_ =>
    obtain rfl := written
    refine { still with dispatches := fun d member => ⟨_, List.mem_map_of_mem member, ?_⟩ }
    split
    · exact ⟨rfl, fun _ => rfl, id⟩
    · exact .refl d
  | markResultReceived dispatch =>
    obtain rfl := written
    refine { still with dispatches := fun d member => ⟨_, List.mem_map_of_mem member, ?_⟩ }
    split
    · exact ⟨rfl, id, fun _ => rfl⟩
    · exact .refl d
  | requireReauthentication | revokeSession | advanceSession =>
    obtain rfl := written
    exact { still with }
  | _ => exact written.elim

theorem performed_kept (st : ExternalStmt α) (x : ExternalInput) (db : ExternalDb) : Kept db (externals.exec st x db).1 := by
  cases st with
  | inl s => exact { Kept.refl db with }
  | inr s =>
    show Kept db (s.perform x db).1
    rcases performed s x db with same | written
    · rw [same]
      exact .refl db
    · exact written.kept

end

/-- What every statement of the store keeps, the gateways' statements keep. -/
theorem performed_store {I : Db → Prop} (kept : ∀ {β : Type} (s : Stmt β) (x : Input) (db : Db), I db → I (exec s x db).1)
    (st : ExternalStmt α) (x : ExternalInput) (db : ExternalDb) (before : I db.store) : I (externals.exec st x db).1.store := by
  have performs {β : Type} (s : Stmt β) : I (perform s { x.toInput with busy := false } db.store).1 := by
    rw [← exec_free s rfl]
    exact kept s _ db.store before
  cases st with
  | inl s =>
    show I (perform s x.toInput db.store).1
    rw [show perform s x.toInput db.store = perform s { x.toInput with busy := false } db.store by cases s <;> rfl]
    exact performs s
  | inr s =>
    show I (s.perform x db).1.store
    rcases performed s x db with same | written
    · rwa [same]
    generalize (s.perform x db).1 = db' at written
    cases s with
    | authenticate challenge n row worker =>
      obtain ⟨_, store, registered, rfl⟩ := written
      have registers : perform (.registerWorker worker) { x.toInput with busy := false } db.store = (store, .ok ()) :=
        transaction_ok.mpr registered
      have through := performs (.registerWorker worker)
      rwa [registers] at through
    | insertProfile | insertChallenge | insertDispatch =>
      obtain ⟨_, _, rfl⟩ := written
      exact before
    | insertMessage | acceptProviderStatus =>
      obtain ⟨_, _, _, rfl⟩ := written
      exact before
    | revokeProfile | requireReauthentication | revokeSession | advanceSession | markAcknowledged | markResultReceived =>
      obtain rfl := written
      exact before
    | _ => exact written.elim

/-! ### Which statements write where -/

/-- What a statement is for. -/
inductive Role where
  | read | store | enroll | revokeProfile | reauthenticate | revokeSession | challenge | message | advance | dispatch
  | acknowledged | resultReceived | authenticate | provider
  deriving DecidableEq

def GatewayStmt.role : GatewayStmt α → Role
  | .insertProfile _ => .enroll
  | .revokeProfile _ => .revokeProfile
  | .requireReauthentication => .reauthenticate
  | .revokeSession _ => .revokeSession
  | .insertChallenge _ => .challenge
  | .insertMessage _ => .message
  | .advanceSession .. => .advance
  | .insertDispatch _ => .dispatch
  | .markAcknowledged .. => .acknowledged
  | .markResultReceived _ => .resultReceived
  | .authenticate .. => .authenticate
  | .acceptProviderStatus .. => .provider
  | _ => .read

def ExternalStmt.role : ExternalStmt α → Role
  | .inl _ => .store
  | .inr s => s.role

/-- The tables a kind of statement can write. -/
structure Untouched (role : Role) (db db' : ExternalDb) : Prop where
  profiles : role ≠ .enroll → role ≠ .revokeProfile → db'.profiles = db.profiles
  challenges : role ≠ .challenge → role ≠ .authenticate → db'.challenges = db.challenges
  sessions : role ≠ .authenticate → role ≠ .advance → role ≠ .reauthenticate → role ≠ .revokeSession →
    db'.sessions = db.sessions
  messages : role ≠ .message → db'.messages = db.messages
  dispatches : role ≠ .dispatch → role ≠ .acknowledged → role ≠ .resultReceived → db'.dispatches = db.dispatches
  provider : role ≠ .provider → db'.providerStatus = db.providerStatus ∧ db'.providerMessages = db.providerMessages
  store : role ≠ .store → role ≠ .authenticate → db'.store = db.store
  spool : db'.spool = db.spool

theorem Untouched.refl (role : Role) (db : ExternalDb) : Untouched role db db := by constructor <;> simp

theorem Written.untouched {s : GatewayStmt α} (written : Written db s db') : Untouched s.role db db' := by
  cases s <;> first
    | exact written.elim
    | obtain ⟨_, _, _, rfl⟩ := written
      constructor <;> simp [GatewayStmt.role]
    | obtain ⟨_, _, rfl⟩ := written
      constructor <;> simp [GatewayStmt.role]
    | obtain rfl := written
      constructor <;> simp [GatewayStmt.role, ExternalDb.revokeProfile, ExternalDb.requireReauthentication,
        ExternalDb.revokeSession, ExternalDb.advanceSession, ExternalDb.markAcknowledged, ExternalDb.markResultReceived,
        ExternalDb.updateSessions, ExternalDb.updateDispatch]

theorem untouched (st : ExternalStmt α) (x : ExternalInput) (db : ExternalDb) :
    Untouched st.role db (externals.exec st x db).1 := by
  cases st with
  | inl s => constructor <;> simp [ExternalStmt.role, externals, ExternalStmt.perform]
  | inr s =>
    show Untouched s.role db (s.perform x db).1
    rcases performed s x db with same | written
    · rw [same]
      exact .refl _ db
    · exact written.untouched

end ControlPlane.Autonomy
