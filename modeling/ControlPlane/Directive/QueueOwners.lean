import ControlPlane.Directive.QueueAudit
import Mathlib.Logic.Function.Basic

/-!
# Who advances a directive

The calls of one queue and its restarts. A claimed record keeps the name of its claimant, but
no transition asks for it: the run of a directive stays in one hand exactly if nobody else
requests a transition that the state machine allows.
-/

namespace ControlPlane.Directive

open ControlPlane.Data ControlPlane.Interleaving

/-- A call, or a restart that loads the file. -/
inductive QueueLife (host : Host) : Queue → Option Called → Queue → Prop
  | call {q q' : Queue} {c : Called} (step : QueueStep host q c q') : QueueLife host q (some c) q'
  | restart {q : Queue} : QueueLife host q none ⟨(loadQueue host q.file).2, q.file⟩

/-- The transitions that led to a record, newest first: who requested each, and its target. -/
abbrev RunOf := List (String × DirectiveState)

/-- The runs behind the records in memory, and behind those in the file. -/
structure Runs where
  memory : String → RunOf
  file : String → RunOf

def Runs.after (runs : Runs) (t : Transition Queue (Option Called)) : Runs :=
  match t.label with
  | none => ⟨runs.file, runs.file⟩
  | some c =>
    match stateOf t.after.records c.call.directiveId with
    | none => runs
    | some s =>
      if stateOf t.before.records c.call.directiveId = some s then runs
      else
        let run := if s = .queued then [] else (c.call.workerId, s) :: runs.memory c.call.directiveId
        let memory := Function.update runs.memory c.call.directiveId run
        ⟨memory, if c.answers.saved then memory else runs.file⟩

def runsOf : List (Transition Queue (Option Called)) → Runs
  | [] => ⟨fun _ => [], fun _ => []⟩
  | t :: past => (runsOf past).after t

/-- The record of the directive is locked by this worker. -/
def LockedBy (records : Records) (d w : String) : Prop :=
  ∃ rec, records.get? (.str d) = some rec ∧ Record.field rec "lock_owner" = .str w

/-- A transition requested by another worker than the one that holds the lock fails and changes nothing. -/
def Guarded (t : Transition Queue (Option Called)) : Prop :=
  ∀ c d target worker payload w, t.label = some c → c.call = .transition d target worker payload →
    LockedBy t.before.records d w → worker ≠ w →
      t.after = t.before ∧ ∃ reason, c.outcome.result = .ok (some reason)

/-- A completed run was claimed, validated, dispatched, executed and completed by one worker. -/
def OneWorker (past : List (Transition Queue (Option Called))) (q : Queue) : Prop :=
  ∀ d, stateOf q.records d = some .completed → ∃ w, (∀ m ∈ (runsOf past).memory d, m.1 = w) ∧
    ∀ s ∈ [DirectiveState.claimed, .preExecValidated, .dispatchAuthorized, .executing, .completed],
      (w, s) ∈ (runsOf past).memory d

/-- Nobody but the holder of the lock requests a transition that the state machine allows. -/
def OwnerOnly (t : Transition Queue (Option Called)) : Prop :=
  ∀ c d target worker payload w, t.label = some c → c.call = .transition d target worker payload →
    LockedBy t.before.records d w → Enabled t.before c.call → worker = w

/-! ### The run of a claimant -/

/-- A run that this worker claimed and led to this state. -/
inductive RunBy (w : String) : RunOf → DirectiveState → Prop
  | claimed : RunBy w [(w, .claimed)] .claimed
  | moved {run s t} (led : RunBy w run s) (valid : t ∈ s.validTransitions) : RunBy w ((w, t) :: run) t

/-- The states on every way from the claim. -/
def waypoints : DirectiveState → List DirectiveState
  | .claimed | .indeterminate => [.claimed]
  | .preExecValidated | .waitingHuman => [.claimed, .preExecValidated]
  | .dispatchAuthorized => [.claimed, .preExecValidated, .dispatchAuthorized]
  | .executing | .failedFinal => [.claimed, .preExecValidated, .dispatchAuthorized, .executing]
  | .completed => [.claimed, .preExecValidated, .dispatchAuthorized, .executing, .completed]
  | .authenticated | .queued | .rejected => []

theorem waypoints_valid {s t : DirectiveState} (valid : t ∈ s.validTransitions) (claimed : s ≠ .queued) :
    ∀ u ∈ waypoints t, u = t ∨ u ∈ waypoints s := by
  cases s <;> cases t <;> first | exact absurd valid (by decide) | exact absurd rfl claimed | decide

variable {host : Host} {answers : Answers} {q q' : Queue} {call : Call} {o : Outcome} {d w : String} {run : RunOf}
  {s : DirectiveState} {records : Records} {past : List (Transition Queue (Option Called))} {l : Option Called}

theorem RunBy.later (led : RunBy w run s) : s ≠ .queued ∧ s ≠ .authenticated := by
  induction led with
  | claimed => decide
  | moved led valid ih => exact later_of_valid valid ih.2

theorem RunBy.all (led : RunBy w run s) : ∀ m ∈ run, m.1 = w := by
  induction led with
  | claimed => simp
  | moved led valid ih => exact List.forall_mem_cons.mpr ⟨rfl, ih⟩

theorem RunBy.passed (led : RunBy w run s) : ∀ u ∈ waypoints s, (w, u) ∈ run := by
  induction led with
  | claimed => simp [waypoints]
  | moved led valid ih =>
    intro u on
    rcases waypoints_valid valid led.later.1 u on with rfl | earlier
    · exact List.mem_cons_self
    · exact List.mem_cons_of_mem _ (ih u earlier)

/-- The runs behind these records each belong to the holder of the lock, if there is one. -/
def Owned (records : Records) (runs : String → RunOf) : Prop :=
  ∀ d s, stateOf records d = some s → (s = .queued ∧ runs d = []) ∨ s = .rejected ∨
    ∃ w, RunBy w (runs d) s ∧ (s ∉ DirectiveState.terminal → LockedBy records d w)

theorem Owned.oneWorker (owned : Owned q.records (runsOf past).memory) : OneWorker past q := by
  intro d completed
  rcases owned d _ completed with ⟨wrong, -⟩ | wrong | ⟨w, led, -⟩
  · cases wrong
  · cases wrong
  · exact ⟨w, led.all, led.passed⟩

theorem lockedBy_frame {rec : Record} {d' : String} (other : d' ≠ d) :
    LockedBy (records.set (.str d') rec) d w ↔ LockedBy records d w := by
  unfold LockedBy
  rw [Dict.get?_set_of_ne fun same => other (Json.Key.str.inj same)]

/-- A record that takes the place of another, with its run. -/
theorem Owned.set {runs : String → RunOf} {rec : Record} (owned : Owned records runs)
    (state : stateOf (records.set (.str d) rec) d = some s)
    (here : (s = .queued ∧ run = []) ∨ s = .rejected ∨
      ∃ w, RunBy w run s ∧ (s ∉ DirectiveState.terminal → LockedBy (records.set (.str d) rec) d w)) :
    Owned (records.set (.str d) rec) (Function.update runs d run) := by
  intro d' s' state'
  by_cases same : d = d'
  · subst same
    rw [state] at state'
    cases state'
    rwa [Function.update_self]
  · rw [stateOf_set_of_ne same] at state'
    rw [Function.update_of_ne (Ne.symm same)]
    rcases owned d' s' state' with queued | rejected | ⟨w, led, locked⟩
    · exact .inl queued
    · exact .inr (.inl rejected)
    · exact .inr (.inr ⟨w, led, fun live => (lockedBy_frame same).mpr (locked live)⟩)

/-! ### What every step keeps -/

/-- Memory and file each belong, run by run, to the holders of the locks. -/
structure Hands (host : Host) (q : Queue) (runs : Runs) : Prop where
  wf : Wellformed q.records
  memory : Owned q.records runs.memory
  file : ∃ saved, Holds host q.file saved ∧ Wellformed saved ∧ Owned saved runs.file

section

variable {runs : Runs} {t : Transition Queue (Option Called)} {c : Called}

theorem after_same (label : t.label = some c)
    (same : stateOf t.after.records c.call.directiveId = stateOf t.before.records c.call.directiveId) : runs.after t = runs := by
  unfold Runs.after
  rw [label]
  dsimp only
  rw [same]
  cases stateOf t.before.records c.call.directiveId with
  | none => rfl
  | some s => exact if_pos rfl

theorem after_changed (run : RunOf) (label : t.label = some c) (state : stateOf t.after.records c.call.directiveId = some s)
    (changed : stateOf t.before.records c.call.directiveId ≠ some s)
    (here : (if s = .queued then [] else (c.call.workerId, s) :: runs.memory c.call.directiveId) = run) :
    runs.after t = ⟨Function.update runs.memory c.call.directiveId run,
      if c.answers.saved then Function.update runs.memory c.call.directiveId run else runs.file⟩ := by
  unfold Runs.after
  rw [label]
  dsimp only
  rw [state]
  dsimp only
  rw [if_neg changed, here]

/-- A record that was written, and what of it is in the file. -/
theorem Hands.write {rec : Record} (hands : Hands host q runs) (wf : Wellformed (q.records.set (.str d) rec))
    (state : stateOf (q.records.set (.str d) rec) d = some s)
    (here : (s = .queued ∧ run = []) ∨ s = .rejected ∨
      ∃ w, RunBy w run s ∧ (s ∉ DirectiveState.terminal → LockedBy (q.records.set (.str d) rec) d w)) :
    Hands host ⟨q.records.set (.str d) rec, saveQueueAtomic host answers (q.records.set (.str d) rec) q.file⟩
      ⟨Function.update runs.memory d run, if answers.saved then Function.update runs.memory d run else runs.file⟩ := by
  have owned := hands.memory.set state here
  obtain ⟨saved, holds, savedWf, savedOwned⟩ := hands.file
  have written : Holds host (saveQueueAtomic host answers (q.records.set (.str d) rec) q.file)
      (if answers.saved then q.records.set (.str d) rec else saved) := holds.save
  refine ⟨wf, owned, _, written, ?_⟩
  by_cases success : answers.saved = true
  · rw [if_pos success, if_pos success]
    exact ⟨wf, owned⟩
  · rw [if_neg success, if_neg success]
    exact ⟨savedWf, savedOwned⟩

/-- A transition by the holder of the lock extends the run it leads. -/
theorem Hands.advance {rec : Record} {curr target : DirectiveState} {worker : String} (hands : Hands host q runs) (now : String)
    (found : q.records.get? (.str d) = some rec) (record : RecordOf d rec) (state : stateOf q.records d = some curr)
    (valid : target ∈ curr.validTransitions) (owner : ∀ w, LockedBy q.records d w → worker = w) :
    target = .rejected ∨ ∃ w, RunBy w ((worker, target) :: runs.memory d) target ∧
      (target ∉ DirectiveState.terminal → LockedBy (q.records.set (.str d) (advanced now worker target rec)) d w) := by
  have locked (w : String) (owner : Record.field (advanced now worker target rec) "lock_owner" = .str w) :
      LockedBy (q.records.set (.str d) (advanced now worker target rec)) d w := ⟨_, Dict.get?_set_self, owner⟩
  rcases hands.memory d curr state with ⟨rfl, run⟩ | rfl | ⟨w, led, live⟩
  · by_cases claim : target = .claimed
    · subst claim
      right
      refine ⟨worker, ?_, fun _ => locked worker ?_⟩
      · rw [run]
        exact .claimed
      · rw [advanced_owner record, if_pos rfl]
    · left
      have two : target = .claimed ∨ target = .rejected := by
        simpa [DirectiveState.validTransitions] using valid
      exact two.resolve_left claim
  · exact absurd valid (by simp [DirectiveState.validTransitions])
  · right
    have held := live (DirectiveState.not_terminal_of_valid valid)
    obtain rfl := owner w held
    refine ⟨worker, led.moved valid, fun open' => locked worker ?_⟩
    obtain ⟨rec', found', owner'⟩ := held
    rw [found] at found'
    cases found'
    have claim : target ≠ .claimed := by
      intro same
      subst same
      exact led.later.1 (queued_of_claimed valid)
    rw [advanced_owner record, if_neg claim, if_neg open', owner']

theorem Hands.step (hands : Hands host q runs) (step : QueueLife host q l q') (owner : OwnerOnly ⟨q, l, q'⟩) :
    Hands host q' (runs.after ⟨q, l, q'⟩) := by
  cases step with
  | restart =>
    obtain ⟨saved, holds, wf, owned⟩ := hands.file
    have loaded := holds.load wf
    refine ⟨?_, ?_, saved, holds, wf, owned⟩
    · rw [loaded]
      exact wf
    · rw [loaded]
      exact owned
  | @call _ c step =>
    have performed := step.performed hands.wf
    have wf := performed.wellformed hands.wf
    obtain ⟨made, rfl⟩ := step.inv
    obtain ⟨answers, call, o⟩ := c
    dsimp only at performed made wf
    clear made step
    cases performed with
    | refused reason stuck =>
      rw [after_same rfl rfl]
      exact hands
    | @created d commitSha payloadSha256 signerFp worker named fresh =>
      rw [conclude_records] at wf
      have state : stateOf (q.records.set (.str d) (newRecord answers.now d commitSha payloadSha256 signerFp)) d = some .queued :=
        stateOf_set_self rfl
      have changed : stateOf q.records d ≠ some .queued := by simp [stateOf, fresh]
      rw [after_changed (s := .queued) [] rfl (by exact (congrArg (stateOf · d) conclude_records).trans state) changed
        (if_pos rfl), Outcome.queue, conclude_records, conclude_file]
      exact hands.write wf state (.inl ⟨rfl, rfl⟩)
    | @rejected d worker target curr payload rec found record state valid other =>
      have rejected : stateOf (q.records.set (.str d) (rec.set "queue_state" (.str DirectiveState.rejected.value))) d =
          some .rejected := stateOf_set_self Dict.get?_set_self
      have changed : stateOf q.records d ≠ some .rejected := by
        rw [state]
        intro same
        cases same
        exact absurd valid (by simp [DirectiveState.validTransitions])
      rw [after_changed (s := .rejected) _ rfl rejected changed rfl, Outcome.queue]
      exact hands.write wf rejected (.inr (.inl rfl))
    | @moved d worker target curr payload rec found record state valid same =>
      rw [conclude_records] at wf
      have reached : stateOf (q.records.set (.str d) (advanced answers.now worker target rec)) d = some target :=
        stateOf_set_self advanced_state
      have changed : stateOf q.records d ≠ some target := by
        rw [state]
        exact fun same => DirectiveState.valid_ne valid (Option.some.inj same).symm
      have later := later_of_valid valid (notAuthenticated hands.wf state)
      have advance := hands.advance answers.now found record state valid fun w held =>
        owner _ d target worker payload w rfl rfl held ⟨curr, state, valid⟩
      rw [after_changed (s := target) _ rfl (by exact (congrArg (stateOf · d) conclude_records).trans reached) changed
        (if_neg later.1), Outcome.queue, conclude_records, conclude_file]
      exact hands.write wf reached (.inr advance)

theorem hands_of_history (history : History (QueueLife host) emptyQueue past q) (owner : ∀ t ∈ past, OwnerOnly t) :
    Hands host q (runsOf past) := by
  induction history with
  | start =>
    have none (runs : String → RunOf) : Owned [] runs := by
      intro d s state
      cases state
    exact ⟨RecordsOf.nil, none _, [], .inl ⟨rfl, rfl⟩, RecordsOf.nil, none _⟩
  | step history step ih =>
    obtain ⟨here, earlier⟩ := List.forall_mem_cons.mp owner
    exact (ih earlier).step step here

theorem life_sound (history : History (QueueLife host) emptyQueue past q) :
    (Wellformed q.records ∧ Sound host q.file) ∧ ∀ t ∈ past, (Wellformed t.before.records ∧ Sound host t.before.file) ∧
      Wellformed t.after.records ∧ Sound host t.after.file := by
  refine history.invariant (I := fun q => Wellformed q.records ∧ Sound host q.file) ⟨RecordsOf.nil, sound_none⟩ ?_
  intro t member kept
  obtain ⟨wf, sound⟩ := kept
  obtain ⟨before, label, after⟩ := t
  have step : QueueLife host before label after := history.moved _ member
  cases step with
  | restart => exact ⟨sound.load, sound⟩
  | call step =>
    have performed := step.performed wf
    obtain ⟨-, rfl⟩ := step.inv
    exact ⟨performed.wellformed wf, performed.sound wf sound⟩

theorem life_wellformed (history : History (QueueLife host) emptyQueue past q) : ∀ t ∈ past, Wellformed t.before.records :=
  fun t member => ((life_sound history).2 t member).1.1

/-- Only the claimant advances a claimed directive exactly if nobody else requests a transition of
it that the state machine allows. -/
theorem guarded_iff (history : History (QueueLife host) emptyQueue past q) :
    ((∀ t ∈ past, Guarded t) ∧ OneWorker past q) ↔ ∀ t ∈ past, OwnerOnly t := by
  constructor
  · intro given t member c d target worker payload w label call locked enabled
    by_contra other
    obtain ⟨same, -⟩ := given.1 t member c d target worker payload w label call locked other
    have step := history.moved t member
    rw [label] at step
    cases step with
    | call step =>
      have changed := (step.performed (life_wellformed history t member)).changes enabled
      have after : t.after.records = c.outcome.records := by rw [step.inv.2]; rfl
      exact changed (after ▸ congrArg (fun q => stateOf q.records c.call.directiveId) same)
  · intro owner
    refine ⟨?_, (hands_of_history history owner).memory.oneWorker⟩
    intro t member c d target worker payload w label call locked other
    have step := history.moved t member
    rw [label] at step
    cases step with
    | call step =>
      have stuck : ¬ Enabled t.before c.call := fun enabled =>
        other (owner t member c d target worker payload w label call locked enabled)
      obtain ⟨reason, refused⟩ := (step.performed (life_wellformed history t member)).stuck stuck
      rw [step.inv.2, refused]
      exact ⟨rfl, reason, rfl⟩

end

/-- A call, or a restart. -/
def nextLife (host : Host) (q : Queue) : Option (Answers × Call) → Option Called × Queue
  | some c => (some (nextCall host q c).1, (nextCall host q c).2)
  | none => (none, ⟨(loadQueue host q.file).2, q.file⟩)

theorem nextLife_step (host : Host) (q : Queue) (c : Option (Answers × Call)) :
    QueueLife host q (nextLife host q c).1 (nextLife host q c).2 := by
  cases c with
  | some c => exact .call (.call c.1 c.2)
  | none => exact .restart

/-- One worker claims, and another validates. -/
def takenOver : List (Option (Answers × Call)) :=
  [some (answered, .enqueue "DIR-1" "c0ffee" "aa" "FP" "WORKER-01"),
    some (answered, .transition "DIR-1" .claimed "WORKER-01" none),
    some (answered, .transition "DIR-1" .preExecValidated "WORKER-02" (some "aa"))]

theorem guarded_iff_taken :
    ((∀ t ∈ (History.replay (nextLife sampleHost) emptyQueue takenOver).1, Guarded t) ∧
      OneWorker (History.replay (nextLife sampleHost) emptyQueue takenOver).1
        (History.replay (nextLife sampleHost) emptyQueue takenOver).2) ↔
    ∀ t ∈ (History.replay (nextLife sampleHost) emptyQueue takenOver).1, OwnerOnly t :=
  guarded_iff (History.history_replay _ (nextLife_step sampleHost) _ _)

/-- The lock of the first worker does not keep the second from going on. -/
theorem taken_over : ¬ ((∀ t ∈ (History.replay (nextLife sampleHost) emptyQueue takenOver).1, Guarded t) ∧
    OneWorker (History.replay (nextLife sampleHost) emptyQueue takenOver).1
      (History.replay (nextLife sampleHost) emptyQueue takenOver).2) := by
  intro given
  obtain ⟨same, -⟩ := given.1 _ List.mem_cons_self _ "DIR-1" .preExecValidated "WORKER-02" (some "aa") "WORKER-01" rfl rfl
    ⟨_, rfl, rfl⟩ (by decide)
  have before := congrArg (fun q => stateOf q.records "DIR-1") same
  exact absurd before (by decide)

end ControlPlane.Directive
