import ControlPlane.Autonomy.Calls
import ControlPlane.Autonomy.ExternalEffect
import ControlPlane.Autonomy.ProviderGateway
import ControlPlane.Interleaving.Crash
import ControlPlane.Interleaving.History

/-!
# Calls of the external gateways

Calls run one at a time, and the process can die between any two statements of one; a
restart runs the constructor on the same database. Between two calls any statement of
another connection may run and any evidence file may change.
-/

namespace ControlPlane.Autonomy

open Data Interleaving

structure ExternalWorld where
  db : ExternalDb
  /-- none while no gateway runs -/
  gateway : Option ExternalGateway

inductive ExternalCall where
  | issueChallenge (workerId keyId : Json) (now : PyFloat)
  | authenticateSession (frame : Json) (now : PyFloat)
  | heartbeat (frame : Json) (now : PyFloat)
  | eligibleSessions (capability target : String) (now : PyFloat)
  | dispatch (task lease : Frame) (sessionId : Json) (now : PyFloat)
  | acknowledge (frame : Json) (now : PyFloat)
  | result (frame : Json) (now : PyFloat)
  | revoke (workerId : Json)
  | acceptProviderStatus (frame : Json) (now : PyFloat)
  | providerEligibleSessions (capability target : String) (now : PyFloat)

/-- What a call returns. -/
inductive Reply where
  | done
  | challenge (c : SessionChallenge)
  | sessions (pairs : List (String × String))
  | envelope (e : ExternalEnvelope)

def ExternalCall.procedure (crypto : Crypto) (g : ExternalGateway) : ExternalCall → External Reply
  | .issueChallenge workerId keyId now => do return .challenge (← g.issueChallenge crypto workerId keyId now)
  | .authenticateSession frame now => do
    g.authenticateSession crypto frame now
    return .done
  | .heartbeat frame now => do
    g.heartbeat crypto frame now
    return .done
  | .eligibleSessions capability target now => do return .sessions (← g.eligibleSessions capability target now)
  | .dispatch task lease sessionId now => do
    return .envelope (← ExternalGateway.dispatch crypto task lease sessionId now)
  | .acknowledge frame now => do
    g.acknowledge crypto frame now
    return .done
  | .result frame now => do
    g.result crypto frame now
    return .done
  | .revoke workerId => do
    ExternalGateway.revoke workerId
    return .done
  | .acceptProviderStatus frame now => do
    g.acceptProviderStatus crypto frame now
    return .done
  | .providerEligibleSessions capability target now => do
    return .sessions (← g.providerEligibleSessions capability target now)

inductive ExternalEvent : Type 1 where
  /-- the call came to its end -/
  | call (c : ExternalCall) (answer : Answer Reply)
  /-- the process died in the call -/
  | crash (c : ExternalCall) (next : Pending ExternalStmt)
  | restart (c : Configuration)
  /-- the constructor raised, or the process died in it -/
  | failedRestart (c : Configuration)
  /-- a statement of another connection -/
  | other {α : Type} (s : Stmt α)
  | spool (files : String → Option ByteArray)

/-- The call of a step, ended or cut. -/
def ExternalEvent.call? : ExternalEvent → Option ExternalCall
  | .call c _ | .crash c _ => some c
  | _ => none

inductive ExternalStep (crypto : Crypto) : ExternalWorld → ExternalEvent → ExternalWorld → Prop
  | call {g db db' c answer} (ends : externals.Ends (c.procedure crypto g).run db db' answer) :
      ExternalStep crypto ⟨db, some g⟩ (.call c answer) ⟨db', some g⟩
  | crash {g db db' c next} (cut : externals.Cut (c.procedure crypto g) db db' next) :
      ExternalStep crypto ⟨db, some g⟩ (.crash c next) ⟨db', none⟩
  | restart {g db db' old c} (returned : externals.Returns (ExternalGateway.create crypto c) db db' g) :
      ExternalStep crypto ⟨db, old⟩ (.restart c) ⟨db', some g⟩
  | failedRestart {db db' old c next} (cut : externals.Cut (ExternalGateway.create crypto c) db db' next) :
      ExternalStep crypto ⟨db, old⟩ (.failedRestart c) ⟨db', none⟩
  | other {α g db} {s : Stmt α} (x : Input) :
      ExternalStep crypto ⟨db, g⟩ (.other s) ⟨{ db with store := (perform s x db.store).1 }, g⟩
  | spool {g db files} : ExternalStep crypto ⟨db, g⟩ (.spool files) ⟨{ db with spool := files }, g⟩

abbrev ExternalTransition := Transition ExternalWorld ExternalEvent

abbrev ExternalHistory (crypto : Crypto) := History (ExternalStep crypto)

/-! ### Which statements a call can issue -/

variable {α β : Type}

namespace ExternalCall

/-- The statements of a call that write. -/
def writes : ExternalCall → List Role
  | .issueChallenge .. => [.challenge]
  | .authenticateSession .. => [.authenticate]
  | .heartbeat .. => [.message, .advance]
  | .dispatch .. => [.dispatch]
  | .acknowledge .. => [.message, .advance, .acknowledged]
  | .result .. => [.message, .advance, .resultReceived]
  | .revoke _ => [.revokeProfile, .revokeSession]
  | .acceptProviderStatus .. => [.provider]
  | .eligibleSessions .. | .providerEligibleSessions .. => []

end ExternalCall

def writesOfRestart : List Role := [.enroll, .revokeProfile, .reauthenticate]

/-- The procedure only reads the gateway's tables. -/
abbrev Reads (p : External α) : Prop := Procedure.All (fun st => st.role = .read) p

/-- The procedure writes to the gateway's tables in these ways only. -/
abbrev Confined (roles : List Role) (p : External α) : Prop :=
  Procedure.All (fun st => st.role = .read ∨ st.role = .store ∨ st.role ∈ roles) p

section

variable {roles : List Role} {crypto : Crypto} {g : ExternalGateway} {now : PyFloat} {value : Json} {d : Domain}
  {frame : Frame} {m : Message} {row : DispatchRow}

theorem reads_sql {s : GatewayStmt α} (h : s.role = .read) : Reads (External.sql s) := Procedure.all_ask h

theorem reads_trusted {worker : Json} : Reads (g.trusted worker) :=
  .bind (Procedure.all_lift _) fun _ => .bind (reads_sql rfl) fun _ =>
    .bind (Procedure.all_lift _) fun _ => Procedure.all_pure _

theorem reads_message : Reads (g.message crypto d value now) := by
  unfold ExternalGateway.message External.now
  repeat' first
    | exact Procedure.all_lift _
    | exact Procedure.all_pure _
    | exact reads_trusted
    | exact reads_sql rfl
    | refine Procedure.All.bind ?_ fun _ => ?_

theorem reads_requestSession : Reads (g.requestSession crypto value now) := by
  unfold ExternalGateway.requestSession External.now
  repeat' first
    | exact Procedure.all_lift _
    | exact Procedure.all_pure _
    | exact reads_trusted
    | exact reads_sql rfl
    | refine Procedure.All.bind ?_ fun _ => ?_

theorem reads_providerStatus : Reads (g.providerStatus crypto value now) := by
  unfold ExternalGateway.providerStatus External.now
  repeat' first
    | exact Procedure.all_lift _
    | exact Procedure.all_pure _
    | exact reads_trusted
    | exact reads_sql rfl
    | refine Procedure.All.bind ?_ fun _ => ?_

theorem reads_bound : Reads (ExternalGateway.bound frame) :=
  .bind (Procedure.all_lift _) fun _ => .bind (reads_sql rfl) fun _ => .bind (Procedure.all_lift _) fun _ =>
    .bind (Procedure.all_lift _) fun _ => Procedure.all_pure _

theorem reads_checkResult : Reads (ExternalGateway.checkResult crypto m row) :=
  .bind (Procedure.all_lift _) fun _ => .bind (Procedure.all_lift _) fun _ => .bind (Procedure.all_lift _) fun _ =>
    .bind (Procedure.all_lift _) fun _ => .bind (reads_sql rfl) fun _ => .bind (Procedure.all_lift _) fun _ =>
    Procedure.all_pure _

theorem Reads.confined {p : External α} (reads : Reads p) : Confined roles p :=
  Program.All.mono (fun _ read => .inl read) reads

theorem Reads.still {p : External α} (reads : Reads p) : externals.Still p := by
  refine Program.All.mono (fun st read x s => ?_) reads
  cases st with
  | inl s => cases read
  | inr s =>
    cases s
    all_goals first
      | rfl
      | cases read

theorem confined_read {s : GatewayStmt α} (h : s.role = .read) : Confined roles (External.sql s) :=
  Procedure.all_ask (.inl h)

theorem confined_write {s : GatewayStmt α} (h : s.role ∈ roles) : Confined roles (External.sql s) :=
  Procedure.all_ask (.inr (.inr h))

theorem confined_store {p : Store α} : Confined roles (External.store p) :=
  Program.All.interp (fun _ => Procedure.all_ask (.inr (.inl rfl))) p.run

theorem confined_eligibleOf {capability target : String} {n : ℚ} (profiles : List VerifiedProfile) :
    Confined roles (ExternalGateway.eligibleOf capability target n profiles) := by
  induction profiles with
  | nil => exact Procedure.all_pure _
  | cons p rest ih =>
    refine .bind ?_ fun _ => .bind ih fun _ => Procedure.all_pure _
    unfold ExternalGateway.eligible
    repeat' first
      | exact Procedure.all_lift _
      | exact Procedure.all_pure _
      | exact confined_store
      | exact confined_read rfl
      | refine Procedure.All.bind ?_ fun _ => ?_
      | split

theorem confined_providerEligibleOf {n : ℚ} (pairs : List (String × String)) :
    Confined roles (g.providerEligibleOf n pairs) := by
  induction pairs with
  | nil => exact Procedure.all_pure _
  | cons pair rest ih =>
    exact .bind (confined_read rfl) fun _ => .bind reads_trusted.confined fun _ => .bind ih fun _ => Procedure.all_pure _

theorem confined_accept {beat : Option (ℚ × Int)} (message : .message ∈ roles) (advance : .advance ∈ roles) :
    Confined roles (ExternalGateway.accept m d beat) :=
  .bind (confined_write message) fun _ => confined_write advance

theorem confined_issueChallenge {workerId keyId : Json} :
    Confined [.challenge] (g.issueChallenge crypto workerId keyId now) := by
  refine .bind (Procedure.all_lift _) fun _ => .bind reads_trusted.confined fun _ => .bind (Procedure.all_lift _) fun _ =>
    .bind (confined_read rfl) fun _ => .bind ?_ fun _ => ?_
  · exact Program.All.bind (confined_write (.head _)) fun _ => trivial
  · split
    · exact Procedure.all_pure _
    · exact Procedure.all_throw _

theorem confined_dispatch {task lease : Frame} {sessionId : Json} :
    Confined [.dispatch] (ExternalGateway.dispatch crypto task lease sessionId now) := by
  unfold ExternalGateway.dispatch External.now
  repeat' first
    | exact Procedure.all_lift _
    | exact Procedure.all_pure _
    | exact confined_store
    | exact confined_read rfl
    | exact confined_write (.head _)
    | refine Procedure.All.bind ?_ fun _ => ?_
    | split

theorem confined_call (c : ExternalCall) : Confined c.writes (c.procedure crypto g) := by
  cases c with
  | issueChallenge => exact .bind confined_issueChallenge fun _ => Procedure.all_pure _
  | authenticateSession =>
    exact .bind (.bind reads_requestSession.confined fun _ => confined_write (.head _)) fun _ => Procedure.all_pure _
  | heartbeat =>
    exact .bind (.bind reads_message.confined fun _ => .bind (Procedure.all_lift _) fun _ => .bind (Procedure.all_lift _) fun _ =>
      .bind (Procedure.all_lift _) fun _ => .bind confined_store fun _ => confined_accept (.head _) (.tail _ (.head _)))
      fun _ => Procedure.all_pure _
  | eligibleSessions =>
    exact .bind (.bind (Procedure.all_lift _) fun _ => .bind (confined_eligibleOf _) fun _ => Procedure.all_pure _) fun _ =>
      Procedure.all_pure _
  | dispatch => exact .bind confined_dispatch fun _ => Procedure.all_pure _
  | acknowledge =>
    exact .bind (.bind reads_message.confined fun _ => .bind reads_bound.confined fun _ => .bind (Procedure.all_lift _) fun _ =>
      .bind (confined_accept (.head _) (.tail _ (.head _))) fun _ => .bind confined_store fun _ =>
      confined_write (.tail _ (.tail _ (.head _)))) fun _ => Procedure.all_pure _
  | result =>
    exact .bind (.bind reads_message.confined fun _ => .bind reads_bound.confined fun _ => .bind reads_checkResult.confined fun _ =>
      .bind (confined_accept (.head _) (.tail _ (.head _))) fun _ => .bind confined_store fun _ =>
      confined_write (.tail _ (.tail _ (.head _)))) fun _ => Procedure.all_pure _
  | revoke =>
    exact .bind (.bind (Procedure.all_lift _) fun _ => .bind (confined_write (.head _)) fun _ =>
      .bind (Procedure.all_lift _) fun _ => confined_write (.tail _ (.head _))) fun _ => Procedure.all_pure _
  | acceptProviderStatus =>
    exact .bind (.bind reads_providerStatus.confined fun _ => confined_write (.head _)) fun _ => Procedure.all_pure _
  | providerEligibleSessions =>
    exact .bind (.bind (Procedure.all_lift _) fun _ => .bind (.bind (Procedure.all_lift _) fun _ =>
      .bind (confined_eligibleOf _) fun _ => Procedure.all_pure _) fun _ => .bind (confined_providerEligibleOf _) fun _ =>
      Procedure.all_pure _) fun _ => Procedure.all_pure _

theorem confined_persistProfiles (profiles : List VerifiedProfile) : Confined writesOfRestart (persistProfiles profiles) := by
  induction profiles with
  | nil => exact Procedure.all_pure _
  | cons p rest ih =>
    refine .bind (.bind (confined_read rfl) fun row => ?_) fun _ => ih
    cases row with
    | none => exact confined_write (.head _)
    | some actual =>
      refine .bind (Procedure.all_lift _) fun _ => ?_
      split
      · exact .bind (confined_write (.tail _ (.head _))) fun _ => Procedure.all_pure _
      · exact Procedure.all_pure _

theorem confined_create {c : Configuration} : Confined writesOfRestart (ExternalGateway.create crypto c) :=
  .bind (Procedure.all_lift _) fun _ => .bind (Procedure.all_lift _) fun _ => .bind (confined_read rfl) fun _ =>
    .bind (Procedure.all_lift _) fun _ => .bind (confined_persistProfiles _) fun _ =>
    .bind (confined_write (.tail _ (.tail _ (.head _)))) fun _ => Procedure.all_pure _

/-! ### What a confined procedure leaves alone -/

variable {p : External α} {db db' : ExternalDb} {next : Pending ExternalStmt}

/-- A table that no statement of the procedure writes is the same wherever it is cut. -/
theorem Confined.same {τ : Type} (table : ExternalDb → τ) (confined : Confined roles p)
    (apart : ∀ role, role = .read ∨ role = .store ∨ role ∈ roles → ∀ u u', Untouched role u u' → table u' = table u)
    (cut : externals.Cut p db db' next) : table db' = table db :=
  cut.keeps (I := fun u => table u = table db)
    (Program.All.mono (fun st role x u here => (apart _ role u _ (untouched st x u)).trans here) confined) rfl

/-- The roles are none of these. -/
abbrev Apart (roles others : List Role) : Prop := ∀ role, role = .read ∨ role = .store ∨ role ∈ roles → role ∉ others

theorem apart_of {others : List Role} (read : .read ∉ others) (store : .store ∉ others)
    (listed : ∀ role ∈ roles, role ∉ others) : Apart roles others := by
  rintro role (rfl | rfl | member)
  · exact read
  · exact store
  · exact listed role member

theorem Confined.sessions (confined : Confined roles p) (cut : externals.Cut p db db' next)
    (apart : ∀ role ∈ roles, role ∉ [Role.authenticate, .advance, .reauthenticate, .revokeSession]) :
    db'.sessions = db.sessions :=
  confined.same (·.sessions) (fun role listed u u' un => by
    have other := apart_of (by decide) (by decide) apart role listed
    simp only [List.mem_cons, List.not_mem_nil, not_or, or_false] at other
    exact un.sessions other.1 other.2.1 other.2.2.1 other.2.2.2) cut

theorem Confined.profiles (confined : Confined roles p) (cut : externals.Cut p db db' next)
    (apart : ∀ role ∈ roles, role ∉ [Role.enroll, .revokeProfile]) : db'.profiles = db.profiles :=
  confined.same (·.profiles) (fun role listed u u' un => by
    have other := apart_of (by decide) (by decide) apart role listed
    simp only [List.mem_cons, List.not_mem_nil, not_or, or_false] at other
    exact un.profiles other.1 other.2) cut

theorem Confined.messages (confined : Confined roles p) (cut : externals.Cut p db db' next)
    (apart : ∀ role ∈ roles, role ∉ [Role.message]) : db'.messages = db.messages :=
  confined.same (·.messages) (fun role listed u u' un => by
    have other := apart_of (by decide) (by decide) apart role listed
    exact un.messages (by simpa using other)) cut

theorem Confined.challenges (confined : Confined roles p) (cut : externals.Cut p db db' next)
    (apart : ∀ role ∈ roles, role ∉ [Role.challenge, .authenticate]) : db'.challenges = db.challenges :=
  confined.same (·.challenges) (fun role listed u u' un => by
    have other := apart_of (by decide) (by decide) apart role listed
    simp only [List.mem_cons, List.not_mem_nil, not_or, or_false] at other
    exact un.challenges other.1 other.2) cut

theorem Confined.dispatches (confined : Confined roles p) (cut : externals.Cut p db db' next)
    (apart : ∀ role ∈ roles, role ∉ [Role.dispatch, .acknowledged, .resultReceived]) : db'.dispatches = db.dispatches :=
  confined.same (·.dispatches) (fun role listed u u' un => by
    have other := apart_of (by decide) (by decide) apart role listed
    simp only [List.mem_cons, List.not_mem_nil, not_or, or_false] at other
    exact un.dispatches other.1 other.2.1 other.2.2) cut

theorem Confined.provider (confined : Confined roles p) (cut : externals.Cut p db db' next)
    (apart : ∀ role ∈ roles, role ∉ [Role.provider]) :
    db'.providerStatus = db.providerStatus ∧ db'.providerMessages = db.providerMessages := by
  have fixed {role : Role} (listed : role = .read ∨ role = .store ∨ role ∈ roles) : role ≠ .provider := by
    simpa using apart_of (by decide) (by decide) apart role listed
  exact ⟨confined.same (·.providerStatus) (fun role listed u u' un => (un.provider (fixed listed)).1) cut,
    confined.same (·.providerMessages) (fun role listed u u' un => (un.provider (fixed listed)).2) cut⟩

/-- No call writes evidence files. -/
theorem cut_spool (cut : externals.Cut p db db' next) : db'.spool = db.spool :=
  cut.keeps (I := fun u => u.spool = db.spool)
    (Program.all_of_forall (fun st x u here => (untouched st x u).spool.trans here) _) rfl

/-- Nothing is taken back wherever a procedure is cut. -/
theorem cut_kept (cut : externals.Cut p db db' next) : Kept db db' :=
  cut.keeps (I := Kept db) (Program.all_of_forall (fun st x u before => before.trans (performed_kept st x u)) _) (.refl db)

end

section

variable {crypto : Crypto} {w w' : ExternalWorld} {e : ExternalEvent}

theorem ExternalStep.kept (step : ExternalStep crypto w e w') : Kept w.db w'.db := by
  cases step with
  | @call g db db' c answer ends => exact cut_kept (p := c.procedure crypto g) ends.stops
  | crash cut => exact cut_kept cut
  | @restart g db db' old c returned => exact cut_kept (p := ExternalGateway.create crypto c) returned.stops
  | failedRestart cut => exact cut_kept cut
  | other x => exact { Kept.refl _ with }
  | spool => exact { Kept.refl _ with }

/-- Only calls touch the gateways' tables while a gateway runs. -/
inductive ExternalStep.Cases (crypto : Crypto) (w : ExternalWorld) (e : ExternalEvent) (w' : ExternalWorld) : Prop
  | called {g c answer} (running : w.gateway = some g) (label : e = .call c answer) (stays : w'.gateway = some g)
      (ends : externals.Ends (c.procedure crypto g).run w.db w'.db answer)
  | crashed {g c next} (running : w.gateway = some g) (label : e = .crash c next) (died : w'.gateway = none)
      (cut : externals.Cut (c.procedure crypto g) w.db w'.db next)
  | restarted {g c} (label : e = .restart c) (runs : w'.gateway = some g)
      (returned : externals.Returns (ExternalGateway.create crypto c) w.db w'.db g)
  | failed {c next} (label : e = .failedRestart c) (died : w'.gateway = none)
      (cut : externals.Cut (ExternalGateway.create crypto c) w.db w'.db next)
  | outside (none_ : e.call? = none) (same : w'.gateway = w.gateway)
      (tables : ∃ store spool, w'.db = { w.db with store, spool })

theorem ExternalStep.cases (step : ExternalStep crypto w e w') : ExternalStep.Cases crypto w e w' := by
  cases step with
  | call ends => exact .called rfl rfl rfl ends
  | crash cut => exact .crashed rfl rfl rfl cut
  | restart returned => exact .restarted rfl rfl returned
  | failedRestart cut => exact .failed rfl rfl cut
  | @other α g db s x => exact .outside rfl rfl ⟨(perform s x db.store).1, db.spool, rfl⟩
  | @spool g db files => exact .outside rfl rfl ⟨db.store, files, rfl⟩

/-- What every statement of the store keeps, every step keeps. -/
theorem ExternalStep.store {I : Db → Prop} (kept : ∀ {β : Type} (s : Stmt β) (x : Input) (db : Db), I db → I (exec s x db).1)
    (step : ExternalStep crypto w e w') (before : I w.db.store) : I w'.db.store := by
  have cut_store {α : Type} {p : External α} {db db' : ExternalDb} {next : Pending ExternalStmt}
      (cut : externals.Cut p db db' next) (before : I db.store) : I db'.store :=
    cut.keeps (I := fun u => I u.store) (Program.all_of_forall (fun st x u => performed_store kept st x u) _) before
  cases step with
  | @call g db db' c answer ends => exact cut_store (p := c.procedure crypto g) ends.stops before
  | crash cut => exact cut_store cut before
  | @restart g db db' old c returned => exact cut_store (p := ExternalGateway.create crypto c) returned.stops before
  | failedRestart cut => exact cut_store cut before
  | @other α g db s x => exact performed_store kept (.inl s) { x with } db before
  | spool => exact before

/-- A call that returned. -/
theorem ExternalStep.returned {c : ExternalCall} {reply : Reply} (step : ExternalStep crypto w (.call c (.ok reply)) w') :
    ∃ g, w.gateway = some g ∧ externals.Returns (c.procedure crypto g) w.db w'.db reply := by
  cases step with
  | @call g db db' c answer ends => exact ⟨g, rfl, ends⟩

end

end ControlPlane.Autonomy
