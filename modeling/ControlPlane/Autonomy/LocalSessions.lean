import ControlPlane.Autonomy.LocalCalls

/-!
# Registrations and heartbeats are not replayed

A session's time of observation grows with every message that changes the session.
A heartbeat checks this; for a registration it follows from the two deadlines: the old
session has outlived the time that the new one is still within.
-/

namespace ControlPlane.Autonomy

open Data Interleaving

namespace LocalCall

/-- The worker a registration or heartbeat is for. -/
def worker? : LocalCall → Option String
  | .registerLocalHarness hello _ => hello.workerId.str?
  | .heartbeat m _ => m.workerId.str?
  | _ => none

/-- When its message was observed. -/
def observed? (platform : Platform) : LocalCall → Option ℚ
  | .registerLocalHarness hello _ => (observedTime platform hello.observedAt).toOption
  | .heartbeat m _ => (observedTime platform m.observedAt).toOption
  | _ => none

def sequence? : LocalCall → Option Int
  | .registerLocalHarness hello _ => hello.heartbeatSequence.int?
  | .heartbeat m _ => m.sequence.int?
  | _ => none

end LocalCall

def LocalWorld.session? (w : LocalWorld) (worker : String) : Option Session := w.gateway.sessions worker

def LocalWorld.sessionId? (w : LocalWorld) (worker : String) : Option Identifier :=
  (w.session? worker).map Session.sessionId

/-- The call changes the worker's session. -/
def ChangesSession (worker : String) (t : LocalTransition) : Prop := t.after.session? worker ≠ t.before.session? worker

/-- It leaves the worker in the same session, changed or not. -/
def StaysInSession (worker : String) (t : LocalTransition) : Prop :=
  t.after.sessionId? worker = t.before.sessionId? worker

/-- An accepted message that says what the session says. -/
def Repeats (platform : Platform) (g : LocalGateway) (call : LocalCall) (worker : String) : Prop :=
  ∃ s, g.sessions worker = some s ∧ call.observed? platform = some s.observedAt ∧ call.sequence? = some s.sequence

/-- What is promised of the messages of one worker over a whole history, newest first. -/
structure SessionsInOrder (platform : Platform) (worker : String) (past : List LocalTransition) : Prop where
  /-- Only an accepted message of the worker changes its session. -/
  own : ∀ t ∈ past, ChangesSession worker t → t.label.answer = .ok () ∧ t.label.call.worker? = some worker
  /-- An accepted message changes the session or says what it says already. -/
  accepted : ∀ t ∈ past, t.label.answer = .ok () → t.label.call.worker? = some worker → ¬ ChangesSession worker t →
    Repeats platform t.before.gateway t.label.call worker
  observed : past.Pairwise fun later earlier => ChangesSession worker later → ChangesSession worker earlier →
    ∃ o o', earlier.label.call.observed? platform = some o ∧ later.label.call.observed? platform = some o' ∧ o < o'
  sequences : ∀ newer between older later earlier, past = newer ++ later :: between ++ earlier :: older →
    ChangesSession worker later → ChangesSession worker earlier → (∀ t ∈ later :: between, StaysInSession worker t) →
    ∃ i j, earlier.label.call.sequence? = some i ∧ later.label.call.sequence? = some j ∧ i < j

section

variable {platform : Platform} {g g' : LocalGateway} {db db' : Db} {call : LocalCall} {past : List LocalTransition}
  {w w' : LocalWorld} {e : LocalEvent} {worker : String}

@[simp] theorem setSession_sessions {id : String} {s : Session} :
    (g.setSession id s).sessions worker = if worker = id then some s else g.sessions worker :=
  Function.update_apply ..

/-- Every session was opened under the worker's configured profile. -/
def SessionsEnrolled (g : LocalGateway) : Prop :=
  ∀ worker s, g.sessions worker = some s → g.profiles worker = some s.profile

/-- How an accepted message can change a worker's session. -/
structure SessionMove (platform : Platform) (g : LocalGateway) (call : LocalCall) (worker : String) (after : Session) :
    Prop where
  named : call.worker? = some worker
  observed : call.observed? platform = some after.observedAt
  counted : call.sequence? = some after.sequence
  enrolled : g.profiles worker = some after.profile
  later : ∀ s, g.sessions worker = some s → s.observedAt < after.observedAt ∧
    (s.sessionId = after.sessionId → s.sequence < after.sequence)

theorem moved_session {id : Identifier} {session : Session} (move : SessionMove platform g call id.1 session)
    (worker : String) : (g.setSession id.1 session).sessions worker = g.sessions worker ∧ call.worker? ≠ some worker ∨
      ∃ after, (g.setSession id.1 session).sessions worker = some after ∧ SessionMove platform g call worker after := by
  by_cases own : worker = id.1
  · subst own
    exact .inr ⟨session, by simp, move⟩
  · refine .inl ⟨by simp [own], fun named => own ?_⟩
    exact (Option.some.inj (move.named.symm.trans named)).symm

theorem returns_session (returned : connections.Returns (call.procedure platform g) db db' g')
    (enrolled : SessionsEnrolled g) (worker : String) : g'.profiles = g.profiles ∧
      (g'.sessions worker = g.sessions worker ∧ (call.worker? = some worker → Repeats platform g call worker) ∨
        ∃ after, g'.sessions worker = some after ∧ SessionMove platform g call worker after) := by
  have moved {id : Identifier} {session : Session} (move : SessionMove platform g call id.1 session) :
      (g.setSession id.1 session).profiles = g.profiles ∧ ((g.setSession id.1 session).sessions worker =
        g.sessions worker ∧ (call.worker? = some worker → Repeats platform g call worker) ∨
          ∃ after, (g.setSession id.1 session).sessions worker = some after ∧
            SessionMove platform g call worker after) := by
    refine ⟨rfl, ?_⟩
    rcases moved_session move worker with ⟨same, other⟩ | after
    · exact .inl ⟨same, fun named => absurd named other⟩
    · exact .inr after
  have unnamed (none_ : call.worker? = none) (own : call.worker? = some worker) : Repeats platform g call worker := by
    rw [none_] at own
    cases own
  cases call with
  | registerLocalHarness hello now =>
    cases returns_registerLocalHarness returned with
    | @opened id session named read counted profile later =>
      refine moved ⟨by rw [LocalCall.worker?, named]; rfl, by rw [LocalCall.observed?, read]; rfl,
        by rw [LocalCall.sequence?, counted]; rfl, profile, fun s current => ?_⟩
      obtain ⟨other, older⟩ := later s current
      have same := Option.some.inj ((enrolled id.1 s current).symm.trans profile)
      exact ⟨older same, fun kept => absurd kept other⟩
    | @repeated id session named current read counted =>
      refine ⟨rfl, .inl ⟨rfl, fun own => ?_⟩⟩
      rw [LocalCall.worker?, named] at own
      cases own
      exact ⟨session, current, by rw [LocalCall.observed?, read]; rfl, by rw [LocalCall.sequence?, counted]; rfl⟩
  | heartbeat m now =>
    cases returns_heartbeat returned with
    | @mk id session sequence observed capacity named current bound counted read newer later =>
      refine moved ⟨by rw [LocalCall.worker?, named]; rfl, by rw [LocalCall.observed?, read]; rfl,
        by rw [LocalCall.sequence?, counted]; rfl, enrolled id.1 session current, fun s found => ?_⟩
      obtain rfl := Option.some.inj (current.symm.trans found)
      exact ⟨later, fun _ => newer⟩
  | dispatch task lease sessionId now =>
    obtain ⟨_, ⟨g₁, envelope⟩, returned, _, rfl⟩ := by
      simpa only [LocalCall.procedure, Machine.returns_bind, Machine.returns_pure] using returned
    cases returns_dispatch returned <;> exact ⟨rfl, .inl ⟨rfl, unnamed rfl⟩⟩
  | acknowledge m now => cases returns_acknowledge returned <;> exact ⟨rfl, .inl ⟨rfl, unnamed rfl⟩⟩
  | result m now =>
    cases returns_result returned
    exact ⟨rfl, .inl ⟨rfl, unnamed rfl⟩⟩
  | declare evidenceId content =>
    obtain ⟨_, _, _, _, rfl⟩ := by
      simpa only [LocalCall.procedure, Machine.returns_bind, Machine.returns_pure] using returned
    exact ⟨rfl, .inl ⟨rfl, unnamed rfl⟩⟩
  | other s =>
    obtain ⟨_, _, _, _, rfl⟩ := by
      simpa only [LocalCall.procedure, Machine.returns_bind, Machine.returns_pure] using returned
    exact ⟨rfl, .inl ⟨rfl, unnamed rfl⟩⟩

theorem step_session (step : LocalStep platform w e w') (enrolled : SessionsEnrolled w.gateway) (worker : String) :
    w'.gateway.profiles = w.gateway.profiles ∧ (w'.session? worker = w.session? worker ∧
        (e.answer = .ok () → e.call.worker? = some worker → Repeats platform w.gateway e.call worker) ∨
      e.answer = .ok () ∧ ∃ after, w'.session? worker = some after ∧ SessionMove platform w.gateway e.call worker after) := by
  rcases step.cases with ⟨ok, returned⟩ | ⟨x, raised, same, _⟩
  · obtain ⟨profiles, kept | moved⟩ := returns_session returned enrolled worker
    · exact ⟨profiles, .inl ⟨kept.1, fun _ => kept.2⟩⟩
    · exact ⟨profiles, .inr ⟨ok, moved⟩⟩
  · rw [raised]
    exact ⟨by rw [same], .inl ⟨by rw [LocalWorld.session?, same]; rfl, nofun⟩⟩

theorem step_enrolled (step : LocalStep platform w e w') (enrolled : SessionsEnrolled w.gateway) :
    SessionsEnrolled w'.gateway := by
  intro worker s found
  obtain ⟨profiles, ⟨same, _⟩ | ⟨_, after, there, move⟩⟩ := step_session step enrolled worker
  · rw [profiles]
    exact enrolled worker s (same.symm.trans found)
  · obtain rfl := Option.some.inj (there.symm.trans found)
    rw [profiles]
    exact move.enrolled

/-- What the worker's session was last observed at. -/
def LocalWorld.observedAt (w : LocalWorld) (worker : String) : WithBot ℚ := (w.session? worker).elim ⊥ fun s => s.observedAt

/-- Whatever is delivered, in any order and at any times: the observations of the
messages that change a worker's session grow over the whole history, and the
sequence numbers grow within each session. -/
theorem sessions_in_order {profiles : List WorkerProfile} {evidence : EvidenceResolver}
    (created : LocalGateway.create platform profiles evidence = .ok g)
    (history : LocalHistory platform ⟨Db.empty, g⟩ past w) (worker : String) : SessionsInOrder platform worker past := by
  have initial : SessionsEnrolled (LocalWorld.mk Db.empty g).gateway := fun worker s found => by
    rw [(create_empty created).1 worker] at found
    cases found
  obtain ⟨_, enrolled⟩ := history.invariant (I := fun w => SessionsEnrolled w.gateway) initial
    fun t member => step_enrolled (history.moved t member)
  have moves : ∀ t ∈ past, ChangesSession worker t → t.label.answer = .ok () ∧
      ∃ after, t.after.session? worker = some after ∧ SessionMove platform t.before.gateway t.label.call worker after := by
    intro t member changes
    obtain ⟨_, ⟨same, _⟩ | moved⟩ := step_session (history.moved t member) (enrolled t member).1 worker
    · exact absurd same changes
    · exact moved
  have grown : ∀ t ∈ past, ChangesSession worker t → t.before.observedAt worker < t.after.observedAt worker := by
    intro t member changes
    obtain ⟨_, after, there, move⟩ := moves t member changes
    unfold LocalWorld.observedAt
    rw [there]
    cases found : t.before.session? worker with
    | none => exact WithBot.bot_lt_coe _
    | some s => exact WithBot.coe_lt_coe.mpr (move.later s found).1
  have kept : ∀ t ∈ past, t.before.observedAt worker ≤ t.after.observedAt worker := by
    intro t member
    by_cases changes : ChangesSession worker t
    · exact (grown t member changes).le
    · unfold LocalWorld.observedAt
      rw [Classical.not_not.mp changes]
  constructor
  · intro t member changes
    obtain ⟨ok, after, _, move⟩ := moves t member changes
    exact ⟨ok, move.named⟩
  · intro t member ok named unchanged
    obtain ⟨_, ⟨_, repeats⟩ | ⟨_, after, there, move⟩⟩ := step_session (history.moved t member) (enrolled t member).1 worker
    · exact repeats ok named
    · have same : t.before.session? worker = some after := (Classical.not_not.mp unchanged).symm.trans there
      exact absurd (move.later after same).1 (lt_irrefl _)
  · refine (history.grows (ChangesSession worker) (·.observedAt worker) kept grown).imp_of_mem fun {later earlier} memberLater memberEarlier growth => ?_
    intro changesLater changesEarlier
    obtain ⟨_, s', there', move'⟩ := moves later memberLater changesLater
    obtain ⟨_, s, there, move⟩ := moves earlier memberEarlier changesEarlier
    refine ⟨s.observedAt, s'.observedAt, move.observed, move'.observed, ?_⟩
    have growth := growth changesLater
    unfold LocalWorld.observedAt at growth
    rw [there, there'] at growth
    exact WithBot.coe_lt_coe.mp growth
  · rintro newer between older later earlier rfl changesLater changesEarlier stays
    obtain ⟨_, s, there, move⟩ := moves earlier (by simp) changesEarlier
    obtain ⟨_, s₂, there₂, move₂⟩ := moves later (by simp) changesLater
    rw [List.append_assoc, List.cons_append] at history
    obtain ⟨before, _⟩ := history.upTo
    -- from the earlier message to the later one the session stays, and its sequence never falls
    obtain ⟨⟨s₁, there₁, same₁, reached⟩, _⟩ := before.ever_after (I := fun v => ∃ s₁, v.session? worker = some s₁ ∧
        s₁.sessionId = s.sessionId ∧ s.sequence ≤ s₁.sequence) ⟨s, there, rfl, le_rfl⟩ fun u member => by
      rintro ⟨s₁, found, same, reached⟩
      by_cases changes : ChangesSession worker u
      · obtain ⟨_, after, next, move⟩ := moves u (by simp [member]) changes
        have stayed := stays u (List.mem_cons_of_mem _ member)
        simp only [StaysInSession, LocalWorld.sessionId?, next, found, Option.map_some, Option.some.injEq] at stayed
        exact ⟨after, next, stayed.trans same, reached.trans ((move.later s₁ found).2 stayed.symm).le⟩
      · exact ⟨s₁, (Classical.not_not.mp changes).trans found, same, reached⟩
    have stayed := stays later List.mem_cons_self
    simp only [StaysInSession, LocalWorld.sessionId?, there₂, there₁, Option.map_some, Option.some.injEq] at stayed
    exact ⟨s.sequence, s₂.sequence, move.counted, move₂.counted,
      lt_of_le_of_lt reached ((move₂.later s₁ there₁).2 stayed.symm)⟩

end

namespace Sample

/-- A worker registers, beats, is lost, and registers a second session. -/
def reconnect : List (LocalCall × List Input) := [
  (.registerLocalHarness (hello "s" 0 0) (.fin 0), []),
  (.heartbeat ⟨.str "w", .str "s", .int 1, .float (.fin 1), .int 1, protocolVersion⟩ (.fin 1), []),
  (.registerLocalHarness (hello "s2" 0 100) (.fin 100), [])]

end Sample

theorem sessions_in_order_reconnected : ∃ g, LocalGateway.create Sample.platform [Sample.profile] (fun _ => none) = .ok g ∧
    SessionsInOrder Sample.platform "w" (playLocal Sample.platform ⟨.empty, g⟩ Sample.reconnect).1 := by
  obtain ⟨g, created⟩ := Sample.gateway_created
  exact ⟨g, created, sessions_in_order created (playLocal_history ..) "w"⟩

end ControlPlane.Autonomy
