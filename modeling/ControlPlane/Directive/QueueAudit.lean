import ControlPlane.Directive.QueueCalls
import ControlPlane.Interleaving.History

/-!
# Records and audit trail

The calls of one queue, one after another. The events of a directive and its record tell one
story as long as every call that gets past its checks can save and append, and brings the payload
hash of the record.
-/

namespace ControlPlane.Directive

open ControlPlane.Data ControlPlane.Interleaving

/-- A call that was made. -/
structure Called where
  answers : Answers
  call : Call
  outcome : Outcome

def Outcome.queue (o : Outcome) : Queue := ⟨o.records, o.file⟩

inductive QueueStep (host : Host) : Queue → Called → Queue → Prop
  | call {q : Queue} (answers : Answers) (call : Call) :
      QueueStep host q ⟨answers, call, perform host answers q call⟩ (perform host answers q call).queue

/-- A queue whose file is not there yet. -/
def emptyQueue : Queue := ⟨[], none⟩

/-- The events of a directive, newest first. -/
def eventsOf (d : String) (past : List (Transition Queue Called)) : List Record :=
  (past.filterMap fun t => t.label.outcome.event).filter fun e => decide ((Record.field e "directive_id").str? = some d)

/-- The name of a state in the audit trail. -/
def stateName : Option DirectiveState → String
  | none => "NONE"
  | some s => s.value

/-- The event says that this directive went from one state to the other. -/
structure Reports (e : Record) (d : String) (source target : Option DirectiveState) : Prop where
  directive : Record.field e "directive_id" = .str d
  source : Record.field e "from_state" = .str (stateName source)
  target : Record.field e "to_state" = .str (stateName target)

/-- Events, newest first, that lead from `NONE` along the transitions to this state. -/
inductive Path (d : String) : List Record → Option DirectiveState → Prop
  | start : Path d [] none
  | created {e} (reports : Reports e d none (some .queued)) : Path d [e] (some .queued)
  | moved {es e s t} (path : Path d es (some s)) (valid : t ∈ s.validTransitions) (reports : Reports e d (some s) (some t)) :
      Path d (e :: es) (some t)

/-- A state change has its event, and a call that fails for another reason than the payload
changes nothing. -/
structure Story (t : Transition Queue Called) : Prop where
  told : ∀ d, stateOf t.after.records d ≠ stateOf t.before.records d →
    ∃ e, t.label.outcome.event = some e ∧ Reports e d (stateOf t.before.records d) (stateOf t.after.records d)
  failed : ∀ reason, t.label.outcome.result = .ok (some reason) → reason ≠ "QUEUE_PAYLOAD_MUTATION_REJECTED" →
    t.after = t.before

/-- Records in a terminal state are unlocked and have the time of their end. -/
def Ended (records : Records) : Prop := ∀ d rec s, records.get? (.str d) = some rec → stateOf records d = some s →
  s ∈ DirectiveState.terminal → Record.field rec "lock_owner" = .null ∧ ∃ time, Record.field rec "completed_at" = .str time

/-- The trail and the records agree. -/
structure Consistent (past : List (Transition Queue Called)) (q : Queue) : Prop where
  paths : ∀ d, Path d (eventsOf d past) (stateOf q.records d)
  story : ∀ t ∈ past, Story t
  ended : Ended q.records

/-- An event can be appended. -/
def Audits (host : Host) (answers : Answers) : Prop :=
  isCorrupted (getLastEventHash host answers.auditFile) = false ∧ answers.appended = true

/-- A transition does not bring another payload hash than the record's. -/
def PayloadKept (q : Queue) : Call → Prop
  | .enqueue .. => True
  | .transition d _ _ currentPayload => ∀ rec, q.records.get? (.str d) = some rec → mutated rec currentPayload = false

/-- If the call gets past the checks, then it saves, appends, and brings the right payload hash. -/
def Smooth (host : Host) (t : Transition Queue Called) : Prop :=
  Enabled t.before t.label.call →
    t.label.answers.saved = true ∧ Audits host t.label.answers ∧ PayloadKept t.before t.label.call

section

variable {host : Host} {answers : Answers} {q q' : Queue} {call : Call} {o : Outcome} {d : String} {e : Record}
  {past : List (Transition Queue Called)} {l : Called}

theorem appendEvent_ok {eventId fromState toState workerId : String} {payload commit : Json} (audits : Audits host answers) :
    appendEvent host answers eventId d fromState toState workerId payload commit = .ok (some (auditRecord host answers eventId
      d fromState toState workerId payload commit (getLastEventHash host answers.auditFile))) := by
  simp [appendEvent, audits.1, audits.2]

theorem appendEvent_some {eventId fromState toState workerId : String} {payload commit : Json}
    (appended : appendEvent host answers eventId d fromState toState workerId payload commit = .ok (some e)) :
    Audits host answers := by
  unfold appendEvent at appended
  dsimp only at appended
  split at appended
  · cases appended
  · rename_i sound
    split at appended
    · exact ⟨by simpa using sound, ‹_›⟩
    · cases appended

theorem QueueStep.inv (step : QueueStep host q l q') : l.outcome = perform host l.answers q l.call ∧ q' = l.outcome.queue := by
  cases step
  exact ⟨rfl, rfl⟩

theorem QueueStep.performed (step : QueueStep host q l q') (wf : Wellformed q.records) :
    Performed host l.answers q l.call l.outcome := by
  rw [step.inv.1]
  exact Directive.performed _ _ _ wf

theorem QueueStep.wellformed (step : QueueStep host q l q') (wf : Wellformed q.records) : Wellformed q'.records := by
  have performed := step.performed wf
  rw [step.inv.2]
  exact performed.wellformed wf

theorem history_wellformed (history : History (QueueStep host) emptyQueue past q) :
    Wellformed q.records ∧ ∀ t ∈ past, Wellformed t.before.records ∧ Wellformed t.after.records :=
  history.invariant (I := fun q => Wellformed q.records) RecordsOf.nil fun t member => (history.moved t member).wellformed

/-- The state a call leads to, where it gets past the checks. -/
theorem Performed.changes (performed : Performed host answers q call o) (enabled : Enabled q call) :
    stateOf o.records call.directiveId ≠ stateOf q.records call.directiveId := by
  cases performed with
  | refused reason stuck => exact absurd enabled stuck
  | created named fresh =>
    rw [conclude_records, Call.directiveId, stateOf_set_self (s := .queued) rfl]
    simp [stateOf, fresh]
  | @rejected d workerId target curr _ rec found record state valid =>
    rw [Call.directiveId, stateOf_set_self (s := .rejected) Dict.get?_set_self, state]
    intro same
    cases same
    exact absurd valid (by simp [DirectiveState.validTransitions])
  | moved found record state valid =>
    rw [conclude_records, Call.directiveId, stateOf_set_self advanced_state, state]
    exact fun same => DirectiveState.valid_ne valid (Option.some.inj same)

/-- A state change that has its event was saved and brought the right payload hash. -/
theorem Performed.smooth (performed : Performed host answers q call o) (enabled : Enabled q call) (told : o.event = some e) :
    answers.saved = true ∧ Audits host answers ∧ PayloadKept q call := by
  cases performed with
  | refused reason stuck => exact absurd enabled stuck
  | created named fresh =>
    obtain ⟨saved, appended⟩ := conclude_event told
    exact ⟨saved, appendEvent_some appended, trivial⟩
  | rejected => cases told
  | moved found record state valid same =>
    obtain ⟨saved, appended⟩ := conclude_event told
    refine ⟨saved, appendEvent_some appended, ?_⟩
    intro rec other
    rw [found] at other
    cases other
    exact same

/-- A smooth call that gets past the checks appends its event. -/
theorem Performed.told (performed : Performed host answers q call o)
    (smooth : Enabled q call → answers.saved = true ∧ Audits host answers ∧ PayloadKept q call) :
    (o.queue = q ∧ o.event = none) ∨ ∃ e, o.event = some e ∧ o.result = .ok none ∧
      Reports e call.directiveId (stateOf q.records call.directiveId) (stateOf o.records call.directiveId) ∧
      ∀ es, Path call.directiveId es (stateOf q.records call.directiveId) →
        Path call.directiveId (e :: es) (stateOf o.records call.directiveId) := by
  cases performed with
  | refused reason stuck => exact .inl ⟨rfl, rfl⟩
  | @created d commitSha payloadSha256 signerFp workerId named fresh =>
    obtain ⟨saved, audits, -⟩ := smooth ⟨named, fresh⟩
    obtain ⟨e, appended, reports⟩ : ∃ e, appendEvent host answers ("EVT-ENQUEUE-" ++ toString answers.timeNs) d "NONE"
        DirectiveState.queued.value workerId (.str payloadSha256) (.str commitSha) = .ok (some e) ∧
        Reports e d none (some .queued) := ⟨_, appendEvent_ok audits, rfl, rfl, rfl⟩
    right
    have before : stateOf q.records d = none := by simp [stateOf, fresh]
    rw [conclude_records, Call.directiveId, stateOf_set_self (s := .queued) rfl, before]
    refine ⟨e, (conclude_ok saved appended).1, (conclude_ok saved appended).2, reports, ?_⟩
    intro es path
    cases path
    exact .created reports
  | rejected found record state valid other =>
    obtain ⟨-, -, kept⟩ := smooth ⟨_, state, valid⟩
    rw [kept _ found] at other
    cases other
  | @moved d workerId target curr currentPayload rec found record state valid same =>
    obtain ⟨saved, audits, -⟩ := smooth ⟨_, state, valid⟩
    obtain ⟨e, appended, reports⟩ : ∃ e, appendEvent host answers ("EVT-TRANS-" ++ toString answers.timeNs) d curr.value target.value
        workerId (Record.field (advanced answers.now workerId target rec) "authenticated_payload_sha256")
        (Record.field (advanced answers.now workerId target rec) "authenticated_payload_commit_sha") = .ok (some e) ∧
        Reports e d (some curr) (some target) := ⟨_, appendEvent_ok audits, rfl, rfl, rfl⟩
    right
    rw [conclude_records, Call.directiveId, stateOf_set_self advanced_state, state]
    refine ⟨e, (conclude_ok saved appended).1, (conclude_ok saved appended).2, reports, ?_⟩
    intro es path
    exact .moved path valid reports

theorem Performed.ended (performed : Performed host answers q call o) (ended : Ended q.records)
    (smooth : Enabled q call → answers.saved = true ∧ Audits host answers ∧ PayloadKept q call) : Ended o.records := by
  intro d rec s found state terminal
  by_cases same : call.directiveId = d
  · subst same
    cases performed with
    | refused => exact ended _ rec s found state terminal
    | created =>
      rw [conclude_records, Call.directiveId, stateOf_set_self (s := .queued) rfl] at state
      cases state
      exact absurd terminal (by decide)
    | rejected present record current valid other =>
      obtain ⟨-, -, kept⟩ := smooth ⟨_, current, valid⟩
      rw [kept _ present] at other
      cases other
    | moved _ record =>
      rw [conclude_records, Call.directiveId] at found state
      rw [stateOf_set_self advanced_state] at state
      rw [Dict.get?_set_self] at found
      cases state
      cases found
      have claim : s ≠ .claimed := by
        intro same
        subst same
        exact absurd terminal (by decide)
      rw [advanced_owner record, advanced_completed record, if_neg claim, if_pos terminal, if_pos terminal]
      exact ⟨rfl, _, rfl⟩
  · rw [performed.frame same] at found
    rw [performed.stateOf_frame same] at state
    exact ended d rec s found state terminal

theorem eventsOf_cons {t : Transition Queue Called} : eventsOf d (t :: past) =
    match t.label.outcome.event with
    | none => eventsOf d past
    | some e => if (Record.field e "directive_id").str? = some d then e :: eventsOf d past else eventsOf d past := by
  unfold eventsOf
  cases told : t.label.outcome.event with
  | none => simp [told]
  | some e =>
    rw [List.filterMap_cons, told]
    simp [List.filter_cons]

/-- Smooth calls keep the trail and the records in agreement. -/
theorem consistent_of_smooth (history : History (QueueStep host) emptyQueue past q) (smooth : ∀ t ∈ past, Smooth host t) :
    Consistent past q := by
  induction history with
  | start =>
    refine ⟨fun d => .start, by simp, ?_⟩
    intro d rec s found
    cases found
  | @step past q l q' history step ih =>
    obtain ⟨here, earlier⟩ := List.forall_mem_cons.mp smooth
    have consistent := ih earlier
    obtain ⟨wf, -⟩ := history_wellformed history
    have performed := step.performed wf
    obtain ⟨-, rfl⟩ := step.inv
    have told := performed.told here
    refine ⟨fun d => ?_, List.forall_mem_cons.mpr ⟨?_, consistent.story⟩, performed.ended consistent.ended here⟩
    · -- the events of the directive of the call, and of every other one
      have path := consistent.paths d
      rw [eventsOf_cons]
      rcases told with ⟨same, event⟩ | ⟨e, event, -, reports, extend⟩
      · rw [event]
        dsimp only
        rwa [same]
      · rw [event]
        dsimp only
        by_cases same : l.call.directiveId = d
        · subst same
          rw [if_pos (by rw [reports.directive]; rfl)]
          exact extend _ path
        · rw [if_neg (by rw [reports.directive]; exact fun found => same (Option.some.inj found))]
          have frame := performed.stateOf_frame same
          change Path d (eventsOf d past) (stateOf l.outcome.records d)
          rwa [frame]
    · refine ⟨fun d changed => ?_, fun reason failed other => ?_⟩
      · have same : l.call.directiveId = d := by
          by_contra other
          exact changed (performed.stateOf_frame other)
        subst same
        rcases told with ⟨same, -⟩ | ⟨e, event, -, reports, -⟩
        · exact absurd (congrArg (fun q => stateOf q.records l.call.directiveId) same) changed
        · exact ⟨e, event, reports⟩
      · rcases told with ⟨same, -⟩ | ⟨e, -, result, -, -⟩
        · exact same
        · rw [result] at failed
          cases failed

/-- The audit trail and the records of a queue tell one story exactly if every call that gets past
its checks saves, appends, and brings the payload hash of the record. -/
theorem consistent_iff (history : History (QueueStep host) emptyQueue past q) :
    Consistent past q ↔ ∀ t ∈ past, Smooth host t := by
  constructor
  · intro consistent t member enabled
    obtain ⟨wf, -⟩ := (history_wellformed history).2 t member
    have step := history.moved t member
    have performed := step.performed wf
    have changed := performed.changes enabled
    have after : t.after.records = t.label.outcome.records := by rw [step.inv.2]; rfl
    obtain ⟨e, told, -⟩ := (consistent.story t member).told t.label.call.directiveId (after ▸ changed)
    exact performed.smooth enabled told
  · exact consistent_of_smooth history

end

/-! ### Runs -/

/-- One call of a queue, and where it leads. -/
def nextCall (host : Host) (q : Queue) (c : Answers × Call) : Called × Queue :=
  (⟨c.1, c.2, perform host c.1 q c.2⟩, (perform host c.1 q c.2).queue)

/-- The calls one after another, with what was done, newest first. -/
def play (host : Host) (calls : List (Answers × Call)) : List (Transition Queue Called) × Queue :=
  History.replay (nextCall host) emptyQueue calls

theorem play_history (host : Host) (calls : List (Answers × Call)) :
    History (QueueStep host) emptyQueue (play host calls).1 (play host calls).2 :=
  History.history_replay _ (fun _ c => .call c.1 c.2) _ _

def answered : Answers where
  now := "2026-01-01T00:00:00Z"
  eventTime := "2026-01-01T00:00:00Z"
  timeNs := 1767225600000000000
  saved := true
  auditFile := none
  appended := true

/-- A directive, and a claim of it that brings another payload hash. -/
def mutatedClaim : List (Answers × Call) :=
  [(answered, .enqueue "DIR-1" "c0ffee" "aa" "FP" "WORKER-01"),
    (answered, .transition "DIR-1" .claimed "WORKER-01" (some "bb"))]

theorem consistent_iff_enqueued :
    Consistent (play sampleHost (mutatedClaim.take 1)).1 (play sampleHost (mutatedClaim.take 1)).2 ↔
      ∀ t ∈ (play sampleHost (mutatedClaim.take 1)).1, Smooth sampleHost t :=
  consistent_iff (play_history sampleHost _)

/-- The rejection for the payload has no event, and no time of its end. -/
theorem mutation_untold : ¬ Consistent (play sampleHost mutatedClaim).1 (play sampleHost mutatedClaim).2 := by
  intro consistent
  have rejected : stateOf (play sampleHost mutatedClaim).2.records "DIR-1" = some .rejected := rfl
  obtain ⟨-, time, set⟩ := consistent.ended "DIR-1" _ .rejected rfl rejected (by decide)
  cases set

end ControlPlane.Directive
