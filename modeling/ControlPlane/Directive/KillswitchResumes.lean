import ControlPlane.Directive.KillswitchRuns

/-!
# Resumes

One killswitch at a time, restarted at will. A resume ends an incident that was triggered since the last
one. That its approval is for this incident and was not used before depends on the callers: they have to put
the incident into every approval, and to mark the approvals they have used.
-/

namespace ControlPlane.Directive

open ControlPlane.Data ControlPlane.Interleaving

/-- An instance is opened only when there is no other. -/
def SoloStep (host : Host) (w : Switches) (l : SwitchLabel) (w' : Switches) : Prop :=
  SwitchStep host w l w' ∧ ∀ i, l = .opened i → ∀ j, w.instances j = none

/-- A resume has succeeded with this approval. -/
def SwitchLabel.resumes : SwitchLabel → Option (String × Option RecoveryApproval)
  | .returned _ (.executeControlledResume incidentId approvalRec _ _) _ => some (incidentId, approvalRec)
  | _ => none

/-- An earlier resume succeeded with the same approval object. -/
def Used (object : Nat) (past : SwitchPast) : Prop :=
  ∃ t ∈ past, ∃ incidentId approval, t.label.resumes = some (incidentId, some approval) ∧ approval.object = object

/-- The steps since the last resume. -/
def sinceResume : SwitchPast → SwitchPast
  | [] => []
  | t :: past => if t.label.resumes.isSome then [] else t :: sinceResume past

/-- The incident was triggered, and no resume has succeeded since. -/
def TriggeredSince (host : Host) (incidentId : String) (past : SwitchPast) : Prop :=
  ∃ t ∈ sinceResume past, ∃ i now reason actor details begun, t.label = .began i now (.trigger reason actor details) begun ∧
    deriveIncidentId host reason actor now = incidentId

/-- The incident was active in the instance when the call was made. -/
def ActiveAtCall (i : Nat) (call : SwitchCall) (incidentId : String) (past : SwitchPast) : Prop :=
  ∃ t ∈ past, ∃ now begun, ∃ state : Record, t.label = .began i now call begun ∧ t.before.instances i = some ⟨.dict state, none⟩ ∧
    state.get? "active_incident_id" = some (.str incidentId)

/-- What a resume rests on: an approval for the active incident, not used before, and an incident that no resume has ended. -/
def Entitled (host : Host) (i : Nat) (call : SwitchCall) (incidentId : String) (approvalRec : Option RecoveryApproval)
    (past : SwitchPast) : Prop :=
  ∃ approval, approvalRec = some approval ∧ Record.field approval.content "state" = .str "APPROVED" ∧
    Record.field approval.content "incident_id" = .str incidentId ∧ ActiveAtCall i call incidentId past ∧
    ¬ Used approval.object past ∧ TriggeredSince host incidentId past

/-- Every successful resume is entitled to it. -/
def ResumesProperly (host : Host) (earlier : SwitchPast) (t : Transition Switches SwitchLabel) : Prop :=
  ∀ i incidentId approvalRec revalidated actor record,
    t.label = .returned i (.executeControlledResume incidentId approvalRec revalidated actor) record →
    Entitled host i (.executeControlledResume incidentId approvalRec revalidated actor) incidentId approvalRec earlier

/-- The killswitch is ready for a resume of this incident. -/
structure Resumable (state : Record) (incidentId : String) : Prop where
  pending : state.get? "killswitch_state" = some (.str KillswitchState.recoveryPending.value)
  active : state.get? "active_incident_id" = some (.str incidentId)
  resolved : ((state.get? "root_cause_resolved").getD (.bool false)).truthy = true

/-- An approval that is handed to a resume names an incident, and is marked if a resume has succeeded with it. -/
def ApprovalsMarked (earlier : SwitchPast) (t : Transition Switches SwitchLabel) : Prop :=
  ∀ i now incidentId approval actor begun state,
    t.label = .began i now (.executeControlledResume incidentId (some approval) true actor) begun →
    t.before.instances i = some ⟨Json.dict state, none⟩ → Resumable state incidentId →
    Record.field approval.content "state" = .str "APPROVED" →
    (Record.field approval.content "incident_id").truthy = true ∧
      (Used approval.object earlier → ((approval.content.get? "consumed").getD (.bool false)).truthy = true)

variable {host : Host} {w w' : Switches} {past : SwitchPast} {l : SwitchLabel} {i j : Nat} {state state' : Record} {call : SwitchCall}
  {event : Incident} {now : ℚ} {incidentId actor : String} {approvalRec : Option RecoveryApproval} {revalidated : Bool}
  {inst : Switch} {t : Transition Switches SwitchLabel}

/-! ### The steps since the last resume -/

theorem sinceResume_cons (quiet : t.label.resumes = none) : sinceResume (t :: past) = t :: sinceResume past := by
  rw [sinceResume, quiet]
  rfl

theorem TriggeredSince.later (triggered : TriggeredSince host incidentId past) (quiet : t.label.resumes = none) :
    TriggeredSince host incidentId (t :: past) := by
  obtain ⟨u, member, told⟩ := triggered
  refine ⟨u, ?_, told⟩
  rw [sinceResume_cons quiet]
  exact List.mem_cons_of_mem _ member

theorem Used.earlier {object : Nat} (used : Used object (t :: past)) (quiet : t.label.resumes = none) : Used object past := by
  obtain ⟨u, member, incidentId, approval, resumed, same⟩ := used
  rcases List.mem_cons.mp member with is | member
  · rw [is, quiet] at resumed
    cases resumed
  · exact ⟨u, member, incidentId, approval, resumed, same⟩

theorem Entitled.later (entitled : Entitled host i call incidentId approvalRec past) (quiet : t.label.resumes = none) :
    Entitled host i call incidentId approvalRec (t :: past) := by
  obtain ⟨approval, is, approved, bound, ⟨u, member, active⟩, fresh, triggered⟩ := entitled
  exact ⟨approval, is, approved, bound, ⟨u, List.mem_cons_of_mem _ member, active⟩, fun used => fresh (used.earlier quiet),
    triggered.later quiet⟩

/-! ### The calls -/

/-- A trigger activates its own incident. -/
theorem active_trigger {reason : String} {details : Option Record}
    (begun : beginCall host now (.dict state) (.trigger reason actor details) = .changed state' event) :
    state'.get? "active_incident_id" = some (.str (deriveIncidentId host reason actor now)) := by
  unfold beginCall beginTrigger at begun
  dsimp only at begun
  split at begun
  · cases begun
  split at begun
  · cases begun
  cases begun
  simp [Dict.get?_set_of_ne]

/-- A recovery leaves the active incident. -/
theorem active_recovery {resolved : Bool}
    (begun : beginCall host now (.dict state) (.enterRecoveryPending resolved actor) = .changed state' event) :
    state'.get? "active_incident_id" = state.get? "active_incident_id" := by
  unfold beginCall beginRecovery at begun
  dsimp only at begun
  split at begun
  · cases begun
  split at begun
  · cases begun
  split at begun
  · cases begun
  split at begun
  · cases begun
  cases begun
  simp [Dict.get?_set_of_ne]

theorem recovery_accepted (accepted : recoveryRejection incidentId approvalRec = none) : ∃ approval, approvalRec = some approval ∧
    Record.field approval.content "state" = .str "APPROVED" ∧
    ((Record.field approval.content "incident_id").truthy = true → Record.field approval.content "incident_id" = .str incidentId) ∧
    ((approval.content.get? "consumed").getD (.bool false)).truthy = false := by
  unfold recoveryRejection at accepted
  dsimp only at accepted
  split at accepted
  · cases accepted
  rename_i approved
  split at accepted
  · cases accepted
  rename_i bound
  split at accepted
  · cases accepted
  rename_i fresh
  rw [not_or, ne_eq, Decidable.not_not] at approved
  cases approvalRec with
  | none => exact absurd rfl approved.1
  | some approval =>
    refine ⟨approval, rfl, Json.str?_some approved.2, ?_, Bool.not_eq_true _ ▸ fresh⟩
    intro carried
    rw [not_and, ne_eq, Decidable.not_not] at bound
    exact Json.str?_some (bound carried)

/-- What a resume that gets through its checks has found, and what it leaves. -/
theorem resume_began
    (begun : beginCall host now (.dict state) (.executeControlledResume incidentId approvalRec revalidated actor) = .changed state' event) :
    Resumable state incidentId ∧ recoveryRejection incidentId approvalRec = none ∧ revalidated = true ∧
      state'.get? "active_incident_id" = some .null := by
  unfold beginCall beginResume at begun
  dsimp only at begun
  split at begun
  · cases begun
  rename_i v pending
  split at begun
  · cases begun
  rename_i isPending
  split at begun
  · cases begun
  rename_i a active
  split at begun
  · cases begun
  rename_i isActive
  split at begun
  · cases begun
  rename_i resolved
  split at begun
  · cases begun
  rename_i accepted
  split at begun
  · cases begun
  rename_i success
  cases begun
  rw [ne_eq, Decidable.not_not] at isPending isActive
  rw [Bool.not_eq_false] at resolved success
  refine ⟨⟨?_, ?_, resolved⟩, accepted, success, ?_⟩
  · rw [pending, Json.str?_some isPending]
  · rw [active, Json.str?_some isActive]
  · simp [Dict.get?_set_of_ne]

/-! ### Runs -/

/-- An incident that is active in this state can still be resumed. -/
def OpenIn (host : Host) (past : SwitchPast) (state : Record) : Prop :=
  ∀ incidentId, state.get? "active_incident_id" = some (.str incidentId) → TriggeredSince host incidentId past

/-- Where an instance is, and what its call rests on. -/
structure InstanceOf (host : Host) (past : SwitchPast) (i : Nat) (inst : Switch) : Prop where
  open' : ∀ state, inst.state = .dict state → OpenIn host past state
  armed : ∀ busy, ∀ state : Record, inst.busy = some busy → busy.call.target = .armed → inst.state = .dict state →
    state.get? "active_incident_id" = some .null
  entitled : ∀ busy incidentId approvalRec revalidated actor, inst.busy = some busy →
    busy.call = .executeControlledResume incidentId approvalRec revalidated actor → Entitled host i busy.call incidentId approvalRec past
  logged : ∀ busy state, inst.busy = some busy → busy.stage = .logging → inst.state = .dict state →
    lastWrite host past = .torn ∨ lastWrite host past = .whole busy.call state

structure SoloRunning (host : Host) (past : SwitchPast) (w : Switches) : Prop where
  running : Running host past w
  solo : ∀ i j, w.instances i ≠ none → w.instances j ≠ none → i = j
  instance' : ∀ i inst, w.instances i = some inst → InstanceOf host past i inst
  file : ∀ call state, lastWrite host past = .whole call state → OpenIn host past state

theorem OpenIn.later (open' : OpenIn host past state) (quiet : t.label.resumes = none) : OpenIn host (t :: past) state :=
  fun incidentId active => (open' incidentId active).later quiet

/-- No incident is active. -/
theorem OpenIn.closed (closed : state.get? "active_incident_id" = some .null) : OpenIn host past state := by
  intro incidentId active
  rw [closed] at active
  cases active

theorem openIn_default : OpenIn host past (defaultState now) := OpenIn.closed rfl

theorem InstanceOf.later (of : InstanceOf host past i inst) (quiet : t.label.resumes = none)
    (same : lastWrite host (t :: past) = lastWrite host past) : InstanceOf host (t :: past) i inst where
  open' state is := (of.open' state is).later quiet
  armed := of.armed
  entitled busy incidentId approvalRec revalidated actor is resume :=
    (of.entitled busy incidentId approvalRec revalidated actor is resume).later quiet
  logged busy state is stage holds := by
    rw [same]
    exact of.logged busy state is stage holds

/-- Nothing rests on an instance between its calls but its state. -/
theorem InstanceOf.idle {json : Json} (open' : ∀ state, json = .dict state → OpenIn host past state) :
    InstanceOf host past i ⟨json, none⟩ where
  open' := open'
  armed busy state is := by cases is
  entitled busy incidentId approvalRec revalidated actor is := by cases is
  logged busy state is := by cases is

theorem SoloRunning.alone (solo : SoloRunning host past w) (here : w.instances i = some inst) (other : j ≠ i) : w.instances j = none := by
  by_contra there
  exact other (solo.solo j i there (by rw [here]; simp))

/-- A step of one instance, while there is no other. -/
theorem SoloRunning.put {inst' : Option Switch} {file : Option (List Char)} (alone : ∀ j, j ≠ i → w.instances j = none)
    (running : Running host (t :: past) { w.put i inst' with file := file })
    (here : ∀ inst, inst' = some inst → InstanceOf host (t :: past) i inst)
    (holds : ∀ call state, lastWrite host (t :: past) = .whole call state → OpenIn host (t :: past) state) :
    SoloRunning host (t :: past) { w.put i inst' with file := file } := by
  have only (j : Nat) (there : ({ w.put i inst' with file := file } : Switches).instances j ≠ none) : j = i := by
    by_contra other
    exact there ((switch_put_of_ne other).trans (alone j other))
  refine ⟨running, ?_, ?_, holds⟩
  · intro j k there there'
    rw [only j there, only k there']
  · intro j inst found
    have same := only j (by rw [found]; simp)
    subst same
    exact here inst (switch_put_self.symm.trans found)

/-- What a call rests on that gets through its checks. -/
theorem InstanceOf.began (of : InstanceOf host past i ⟨.dict state, none⟩) (here : w.instances i = some ⟨.dict state, none⟩)
    (begun : beginCall host now (.dict state) call = .changed state' event)
    (marked : ApprovalsMarked past ⟨w, .began i now call (.changed state' event), w'⟩) :
    InstanceOf host (⟨w, .began i now call (.changed state' event), w'⟩ :: past) i ⟨.dict state', some ⟨call, event, .opening⟩⟩ := by
  have quiet : (⟨w, .began i now call (.changed state' event), w'⟩ : Transition Switches SwitchLabel).label.resumes = none := rfl
  refine ⟨?_, ?_, ?_, ?_⟩
  · intro state'' is
    cases is
    cases call with
    | trigger reason actor details =>
      intro incidentId active
      rw [active_trigger begun] at active
      cases active
      refine ⟨⟨w, .began i now (.trigger reason actor details) (.changed state' event), w'⟩, ?_, i, now, reason, actor, details, _,
        rfl, rfl⟩
      rw [sinceResume_cons quiet]
      exact List.mem_cons_self
    | enterRecoveryPending resolved actor =>
      intro incidentId active
      rw [active_recovery begun] at active
      exact (of.open' state rfl incidentId active).later quiet
    | executeControlledResume incidentId approvalRec revalidated actor => exact .closed (resume_began begun).2.2.2
  · intro busy state'' is armed holds
    cases is
    cases holds
    cases call with
    | executeControlledResume incidentId approvalRec revalidated actor => exact (resume_began begun).2.2.2
    | trigger => cases armed
    | enterRecoveryPending => cases armed
  · intro busy incidentId approvalRec revalidated actor is resume
    cases is
    dsimp only at resume ⊢
    subst resume
    obtain ⟨resumable, accepted, success, -⟩ := resume_began begun
    subst success
    obtain ⟨approval, is, approved, bound, fresh⟩ := recovery_accepted accepted
    subst is
    obtain ⟨carried, used⟩ := marked i now incidentId approval actor _ state rfl here resumable approved
    refine ⟨approval, rfl, approved, bound carried, ⟨_, List.mem_cons_self, now, _, state, rfl, here, resumable.active⟩, ?_,
      (of.open' state rfl incidentId resumable.active).later quiet⟩
    intro again
    rw [used (again.earlier quiet)] at fresh
    cases fresh
  · intro busy state'' is stage
    cases is
    cases stage

/-- What a resume that returns leaves is closed, in memory and in the file. -/
theorem returned_open {record : Record} (of : InstanceOf host past i inst)
    (busy : inst.busy = some ⟨call, event, .logging⟩) (is : inst.state = .dict state)
    (holds : ∀ call state, lastWrite host past = .whole call state → OpenIn host past state) :
    OpenIn host (⟨w, .returned i call record, w'⟩ :: past) state ∧ ∀ call' state', lastWrite host past = .whole call' state' →
      OpenIn host (⟨w, .returned i call record, w'⟩ :: past) state' := by
  cases call with
  | executeControlledResume incidentId approvalRec revalidated actor =>
    have closed := of.armed _ state busy rfl is
    refine ⟨.closed closed, ?_⟩
    intro call' state' whole
    rcases of.logged _ state busy rfl is with torn | wrote
    · rw [torn] at whole
      cases whole
    · rw [wrote] at whole
      cases whole
      exact .closed closed
  | trigger | enterRecoveryPending =>
    exact ⟨(of.open' state is).later rfl, fun call' state' whole => (holds call' state' whole).later rfl⟩

theorem lastWrite_wrote (label : t.label = .wrote i call state) :
    lastWrite host (t :: past) = .torn ∨ lastWrite host (t :: past) = .whole call state := by
  unfold lastWrite
  rw [label]
  dsimp only
  split
  · exact .inr rfl
  · exact .inl rfl

theorem wrote_whole {call' : SwitchCall} (label : t.label = .wrote i call state) (whole : lastWrite host (t :: past) = .whole call' state') :
    state' = state := by
  have either : lastWrite host (t :: past) = .torn ∨ lastWrite host (t :: past) = .whole call state := lastWrite_wrote label
  rw [whole] at either
  rcases either with torn | wrote
  · cases torn
  · cases wrote
    rfl

theorem SoloRunning.step (solo : SoloRunning host past w) (step : SoloStep host w l w') (marked : ApprovalsMarked past ⟨w, l, w'⟩) :
    SoloRunning host (⟨w, l, w'⟩ :: past) w' := by
  obtain ⟨step, first⟩ := step
  have running := solo.running.step step
  cases step with
  | @opened i now free =>
    have none' := first i rfl
    have quiet : (⟨w, .opened i, w.put i (some ⟨loadState host now w.file, none⟩)⟩ : Transition Switches SwitchLabel).label.resumes = none := rfl
    refine SoloRunning.put (fun j _ => none' j) running ?_ fun call state whole => (solo.file call state whole).later quiet
    intro inst is
    cases is
    refine .idle ?_
    intro state loaded
    rw [solo.running.file.load.1] at loaded
    cases loaded
    cases last : lastWrite host past with
    | whole call state => exact (solo.file call state last).later quiet
    | never | torn => exact openIn_default
  | @began i json now call here =>
    obtain ⟨s, state, is, -, -⟩ := solo.running.kept _ _ here
    dsimp only at is
    subst is
    have of := solo.instance' _ _ here
    cases begun : beginCall host now (.dict state) call with
    | raised fault =>
      rw [begun] at running
      exact ⟨running, solo.solo, fun j inst there => (solo.instance' j inst there).later rfl rfl,
        fun call state whole => (solo.file call state whole).later rfl⟩
    | refused reason =>
      rw [begun] at running
      exact ⟨running, solo.solo, fun j inst there => (solo.instance' j inst there).later rfl rfl,
        fun call state whole => (solo.file call state whole).later rfl⟩
    | changed state' event =>
      rw [begun] at running marked
      refine SoloRunning.put (fun j => solo.alone here) running ?_ fun call state whole => (solo.file call state whole).later rfl
      intro inst is
      cases is
      exact of.began here begun marked
  | @emptied i state call event now here =>
    have of := solo.instance' _ _ here
    refine SoloRunning.put (fun j => solo.alone here) running ?_ ?_
    · intro inst is
      cases is
      refine ⟨?_, ?_, ?_, ?_⟩
      · intro state' is incidentId active
        cases is
        rw [Dict.get?_set_of_ne (by decide)] at active
        exact (of.open' state rfl incidentId active).later rfl
      · intro busy state' is armed holds
        cases is
        cases holds
        rw [Dict.get?_set_of_ne (by decide)]
        exact of.armed _ state rfl armed rfl
      · intro busy incidentId approvalRec revalidated actor is resume
        cases is
        exact (of.entitled _ incidentId approvalRec revalidated actor rfl resume).later rfl
      · intro busy state' is stage
        cases is
        cases stage
    · intro call' state' whole
      cases whole
  | @wrote i state call event here =>
    have of := solo.instance' _ _ here
    refine SoloRunning.put (fun j => solo.alone here) running ?_ ?_
    · intro inst is
      cases is
      refine ⟨fun state' is => (of.open' state' is).later rfl, ?_, ?_, ?_⟩
      · intro busy state' is armed holds
        cases is
        exact of.armed _ state' rfl armed holds
      · intro busy incidentId approvalRec revalidated actor is resume
        cases is
        exact (of.entitled _ incidentId approvalRec revalidated actor rfl resume).later rfl
      · intro busy state' is _ holds
        cases is
        cases holds
        exact lastWrite_wrote rfl
    · intro call' state' whole
      rw [wrote_whole rfl whole]
      exact (of.open' state rfl).later rfl
  | @returned i json call event ts auditFile here =>
    obtain ⟨s, state, is, -, -⟩ := solo.running.kept _ _ here
    dsimp only at is
    subst is
    obtain ⟨memory, file⟩ := returned_open (solo.instance' _ _ here) rfl rfl solo.file
    refine SoloRunning.put (fun j => solo.alone here) running ?_ file
    intro inst is
    cases is
    refine .idle ?_
    intro state' is
    cases is
    exact memory
  | @crashed i inst here =>
    refine SoloRunning.put (fun j => solo.alone here) running ?_ fun call state whole => (solo.file call state whole).later rfl
    intro inst is
    cases is

theorem soloRunning (history : History (SoloStep host) noSwitches past w) (marked : Along ApprovalsMarked past) :
    SoloRunning host past w := by
  induction history with
  | start =>
    refine ⟨running .start, ?_, ?_, ?_⟩
    · intro i j there
      exact absurd rfl there
    · intro i inst there
      cases there
    · intro call state whole
      cases whole
  | step history step ih => exact (ih marked.2).step step marked.1

/-- If approvals name their incidents and are marked once they are used, every resume is proper. -/
theorem resumes_properly (history : History (SoloStep host) noSwitches past w) (marked : Along ApprovalsMarked past) :
    Along (ResumesProperly host) past := by
  induction history with
  | start => trivial
  | @step past w l w' history step ih =>
    refine ⟨?_, ih marked.2⟩
    intro i incidentId approvalRec revalidated actor record label
    dsimp only at label
    obtain ⟨step, -⟩ := step
    cases step with
    | returned ts auditFile here =>
      cases label
      exact ((soloRunning history marked.2).instance' _ _ here).entitled _ incidentId approvalRec revalidated actor rfl rfl
    | opened | began | emptied | wrote | crashed => cases label

/-! ### Two runs -/

/-- An incident from its trigger to its resume, by instance 0. -/
def incidentMoves (reason : String) (now : ℚ) (approval : RecoveryApproval) : List SwitchMove :=
  [.call 0 now (.trigger reason "WATCHDOG" none), .proceed 0 now, .proceed 0 now, .proceed 0 now,
    .call 0 now (.enterRecoveryPending true "SEC_ADMIN_1"), .proceed 0 now, .proceed 0 now, .proceed 0 now,
    .call 0 now (.executeControlledResume (deriveIncidentId sampleHost reason "WATCHDOG" now) (some approval) true "SEC_ADMIN_1"),
    .proceed 0 now, .proceed 0 now, .proceed 0 now]

def SwitchLabel.isOpened : SwitchLabel → Bool
  | .opened _ => true
  | _ => false

/-- The moves of an instance that is the only one. -/
def tryCall (host : Host) (w : Switches) (move : SwitchMove) : Option (SwitchLabel × Switches) :=
  (trySwitch host w move).filter fun made => !made.1.isOpened

theorem tryCall_step (w : Switches) (move : SwitchMove) (made : SwitchLabel × Switches) (possible : tryCall host w move = some made) :
    SoloStep host w made.1 made.2 := by
  obtain ⟨possible, other⟩ := Option.filter_eq_some_iff.mp possible
  refine ⟨trySwitch_step w move made possible, ?_⟩
  intro i label
  rw [label] at other
  cases other

/-- Instance 0 has been opened, and makes these moves. -/
def soloRun (moves : List SwitchMove) : SwitchPast × Switches :=
  let opened := noSwitches.put 0 (some ⟨loadState sampleHost 0 none, none⟩)
  moves.foldl (History.tried (tryCall sampleHost)) ([⟨noSwitches, .opened 0, opened⟩], opened)

theorem soloRun_history (moves : List SwitchMove) : History (SoloStep sampleHost) noSwitches (soloRun moves).1 (soloRun moves).2 :=
  History.history_tried _ tryCall_step moves _ (.step .start ⟨.opened 0 rfl, fun _ _ _ => rfl⟩)

def failIncident : String := deriveIncidentId sampleHost "FAIL" "WATCHDOG" 1

/-- An approval for one incident, and one that names none. -/
def boundApproval : RecoveryApproval := ⟨0, [("state", .str "APPROVED"), ("incident_id", .str failIncident)]⟩

def looseRecovery : RecoveryApproval := ⟨0, [("state", .str "APPROVED")]⟩

theorem ApprovalsMarked.other (other : ∀ i now incidentId approvalRec revalidated actor begun,
    t.label ≠ .began i now (.executeControlledResume incidentId approvalRec revalidated actor) begun) : ApprovalsMarked past t := by
  intro i now incidentId approval actor begun state label
  exact absurd label (other i now incidentId (some approval) true actor begun)


theorem unused {object : Nat} (none' : past.all fun t => t.label.resumes.isNone) : ¬ Used object past := by
  intro used
  obtain ⟨t, member, incidentId, approval, resumed, -⟩ := used
  have quiet := List.all_eq_true.mp none' t member
  rw [resumed] at quiet
  cases quiet

theorem resumes_properly_bound : Along (ResumesProperly sampleHost) (soloRun (incidentMoves "FAIL" 1 boundApproval)).1 := by
  refine resumes_properly (soloRun_history _) ?_
  refine ⟨.other ?_, .other ?_, .other ?_, ?_, .other ?_, .other ?_, .other ?_, .other ?_, .other ?_, .other ?_, .other ?_, .other ?_,
    .other ?_, trivial⟩
  case refine_4 =>
    intro i now incidentId approval actor begun state label here resumable approved
    cases label
    exact ⟨rfl, fun used => absurd used (unused rfl)⟩
  all_goals
    intro i now incidentId approvalRec revalidated actor begun label
    cases label

/-- The same approval, which names no incident, serves for two. -/
theorem resumes_improperly :
    ¬ Along (ResumesProperly sampleHost) (soloRun (incidentMoves "FAIL" 1 looseRecovery ++ incidentMoves "FAIL" 2 looseRecovery)).1 := by
  intro proper
  obtain ⟨here, -⟩ := proper
  obtain ⟨approval, same, -, bound, -⟩ := here 0 (deriveIncidentId sampleHost "FAIL" "WATCHDOG" 2) (some looseRecovery) true "SEC_ADMIN_1" _ rfl
  cases same
  cases bound

end ControlPlane.Directive
