import ControlPlane.Directive.ApprovalCalls
import ControlPlane.Interleaving.History
import ControlPlane.Data.Colons

/-!
# The life of an approval

The calls of one engine and its reloads. No two requests get the same identifier as long as their
clock readings differ and no two of the hashed texts collide; then every record has one life, from
`REQUESTED` on, and the audit chain tells it.
-/

namespace ControlPlane.Directive

open ControlPlane.Data ControlPlane.Interleaving

/-- A call that was made. -/
structure EngineCalled where
  moment : Moment
  call : EngineCall
  outcome : EngineOutcome

def EngineOutcome.engine (o : EngineOutcome) : Engine := ⟨o.records, o.file⟩

/-- A call, or a reload from the file. -/
inductive EngineStep (host : Host) : Engine → Option EngineCalled → Engine → Prop
  | call {e : Engine} (moment : Moment) (call : EngineCall) :
      EngineStep host e (some ⟨moment, call, performEngine host moment e call⟩) (performEngine host moment e call).engine
  | reload {e : Engine} : EngineStep host e none ⟨loadEngine host e.file, e.file⟩

abbrev EnginePast := List (Transition Engine (Option EngineCalled))

def emptyEngine : Engine := ⟨[], none⟩

/-! ### What is said of a run -/

/-- A change of the state of an approval, and what brought it about. -/
structure Change where
  source : Option ApprovalState
  target : Option ApprovalState
  label : Option EngineCalled

/-- The state changes of an approval, newest first. -/
def changesOf (id : String) : EnginePast → List Change
  | [] => []
  | t :: past =>
    if approvalState t.after.records id = approvalState t.before.records id then changesOf id past
    else ⟨approvalState t.before.records id, approvalState t.after.records id, t.label⟩ :: changesOf id past

/-- The audit events of an approval, newest first. -/
def approvalEvents (id : String) (past : EnginePast) : List Record :=
  (past.filterMap fun t => t.label.bind fun c => c.outcome.event).filter fun event =>
    decide ((Record.field event "approval_request_id").str? = some id)

def approvalStateName : Option ApprovalState → String
  | none => "NONE"
  | some s => s.value

/-- The event tells this change. -/
def Tells (event : Record) (change : Change) : Prop :=
  Record.field event "from_state" = .str (approvalStateName change.source) ∧
  Record.field event "to_state" = .str (approvalStateName change.target)

/-- The clock reading is not after the `expires_at` of the record. -/
def InTime (rec : Record) (now : ℚ) : Prop := ∃ x, rec.get? "expires_at" = some (.float x) ∧ ¬ x < .fin now

/-- The fields an approval is bound to. -/
def boundFields : List String := ["directive_id", "capability_id", "parameter_hash", "target", "risk_class"]

/-- The text that a call of `create_request` hashes. -/
def hashedSeed (host : Host) (t : Transition Engine (Option EngineCalled)) : Option (String × ℚ) :=
  t.label.bind fun c => match c.call with
    | .create directiveId capabilityId parameterHash target riskClass _ _ =>
      some (approvalSeed host directiveId capabilityId parameterHash target riskClass c.moment.now, c.moment.now)
    | .transition .. => none

/-- No two requests read the clock at the same time. -/
def DistinctClocks (host : Host) (past : EnginePast) : Prop :=
  past.Pairwise fun later earlier => ∀ s s' n, hashedSeed host later = some (s, n) → hashedSeed host earlier ≠ some (s', n)

/-- The prefix of the hash tells the texts of the requests apart. -/
def NoCollision (host : Host) (past : EnginePast) : Prop :=
  past.Pairwise fun later earlier => ∀ s s' n n', hashedSeed host later = some (s, n) → hashedSeed host earlier = some (s', n') →
    approvalId host s = approvalId host s' → s = s'

/-! ### Identifiers -/

theorem repr_plain (floats : Json.Floats) (q : ℚ) : ':' ∉ floats.repr q := by
  intro member
  have number := (Json.numeric_float (floats.written q)).all _ member
  exact absurd number (by decide)

theorem repr_injective (floats : Json.Floats) {q q' : ℚ} (same : floats.repr q = floats.repr q') : q = q' := by
  have first := floats.read q
  rw [same, floats.read q'] at first
  exact (PyFloat.fin.inj first).symm

/-- Texts that are equal were made at the same time. -/
theorem approvalSeed_now {host : Host} {d c p t r d' c' p' t' r' : String} {n n' : ℚ}
    (same : approvalSeed host d c p t r n = approvalSeed host d' c' p' t' r' n') : n = n' := by
  have lists := congrArg String.toList same
  simp only [approvalSeed, String.toList_append, String.toList_ofList] at lists
  have colon : ":".toList = [':'] := by decide
  rw [colon] at lists
  exact repr_injective host.floats (behind_colon lists (repr_plain _ _) (repr_plain _ _))

/-! ### Stages -/

/-- How far an approval is that expires at `x`: its changes, its state, and its approver. -/
inductive Stage (x : PyFloat) : List Change → ApprovalState → Json → Prop
  | requested (l : Option EngineCalled) : Stage x [⟨none, some .requested, l⟩] .requested .null
  | notified {cs a} (l : Option EngineCalled) (stage : Stage x cs .requested a) :
      Stage x (⟨some .requested, some .notified, l⟩ :: cs) .notified a
  | approved {cs a c id actor approver} (stage : Stage x cs .notified a)
      (call : c.call = .transition id .approved actor (some approver)) (authorized : approver ∈ authorizedApprovers)
      (other : approver ≠ actor) (inTime : ¬ x < .fin c.moment.now) :
      Stage x (⟨some .notified, some .approved, some c⟩ :: cs) .approved (.str approver)
  | consumed {cs a c} (stage : Stage x cs .approved a) (inTime : ¬ x < .fin c.moment.now) :
      Stage x (⟨some .approved, some .consumed, some c⟩ :: cs) .consumed a
  | ended {cs a s t} (l : Option EngineCalled) (stage : Stage x cs s a) (finished : t ∈ [ApprovalState.rejected, .expired, .revoked]) :
      Stage x (⟨some s, some t, l⟩ :: cs) t a

theorem source_of_valid {s t : ApprovalState} (valid : t ∈ s.validTransitions) :
    (t = .notified ∧ s = .requested) ∨ (t = .approved ∧ s = .notified) ∨ (t = .consumed ∧ s = .approved) ∨
      t ∈ [ApprovalState.rejected, .expired, .revoked] := by
  cases s <;> cases t <;> first | exact absurd valid (by decide) | decide

structure Lives (host : Host) (past : EnginePast) (e : Engine) : Prop where
  wf : Approvals e.records
  loads : loadEngine host e.file = e.records
  stages : ∀ id, (e.records.get? (.str id) = none ∧ changesOf id past = []) ∨
    ∃ rec x s, e.records.get? (.str id) = some rec ∧ rec.get? "expires_at" = some (.float x) ∧
      rec.get? "state" = some (.str s.value) ∧ Stage x (changesOf id past) s (Record.field rec "approver_id")
  named : ∀ id, e.records.get? (.str id) ≠ none → ∃ t ∈ past, ∃ s n, hashedSeed host t = some (s, n) ∧ id = approvalId host s
  events : ∀ id, List.Forall₂ Tells (approvalEvents id past) (changesOf id past)

variable {host : Host} {moment : Moment} {e e' : Engine} {past : EnginePast} {l : Option EngineCalled} {c : EngineCalled}
  {id id' : String} {rec event : Record} {s target curr : ApprovalState} {x : PyFloat} {t : Transition Engine (Option EngineCalled)}

theorem changesOf_same (same : approvalState t.after.records id = approvalState t.before.records id) :
    changesOf id (t :: past) = changesOf id past := by
  rw [changesOf, if_pos same]

theorem approvalEvents_cons : approvalEvents id (t :: past) =
    match t.label.bind fun c => c.outcome.event with
    | none => approvalEvents id past
    | some event => if (Record.field event "approval_request_id").str? = some id then event :: approvalEvents id past
      else approvalEvents id past := by
  unfold approvalEvents
  cases told : t.label.bind fun c => c.outcome.event with
  | none => simp [told]
  | some event =>
    rw [List.filterMap_cons, told]
    simp [List.filter_cons]

/-- A step that leaves the records and tells nothing. -/
theorem Lives.quiet (lives : Lives host past e) (records : e'.records = e.records) (file : e'.file = e.file)
    (silent : (l.bind fun c => c.outcome.event) = none) : Lives host (⟨e, l, e'⟩ :: past) e' := by
  have changes (id : String) : changesOf id (⟨e, l, e'⟩ :: past) = changesOf id past := changesOf_same (by rw [records])
  have events (id : String) : approvalEvents id (⟨e, l, e'⟩ :: past) = approvalEvents id past := by
    rw [approvalEvents_cons, silent]
  refine ⟨?_, ?_, ?_, ?_, ?_⟩
  · rw [records]
    exact lives.wf
  · rw [records, file]
    exact lives.loads
  · intro id
    rw [changes, records]
    exact lives.stages id
  · intro id known
    rw [records] at known
    obtain ⟨t, member, seed⟩ := lives.named id known
    exact ⟨t, List.mem_cons_of_mem _ member, seed⟩
  · intro id
    rw [changes, events]
    exact lives.events id

/-- A step that puts one record. -/
theorem Lives.put {result : Option String} (lives : Lives host past e) (made : c.outcome = e.put host id rec event result)
    (approval : ApprovalOf id rec) (state : rec.get? "state" = some (.str s.value)) (changed : approvalState e.records id ≠ some s)
    (about : Record.field event "approval_request_id" = .str id)
    (tells : Tells event ⟨approvalState e.records id, some s, some c⟩) (expires : rec.get? "expires_at" = some (.float x))
    (stage : Stage x (⟨approvalState e.records id, some s, some c⟩ :: changesOf id past) s (Record.field rec "approver_id"))
    (named : ∃ t ∈ (⟨e, some c, c.outcome.engine⟩ :: past : EnginePast), ∃ s n, hashedSeed host t = some (s, n) ∧ id = approvalId host s) :
    Lives host (⟨e, some c, c.outcome.engine⟩ :: past) c.outcome.engine := by
  have records : c.outcome.engine.records = e.records.set (.str id) rec := by rw [made]; rfl
  have file : c.outcome.engine.file = some (queueText host (e.records.set (.str id) rec)) := by rw [made]; rfl
  have silent : c.outcome.event = some event := by rw [made]; rfl
  have after : approvalState c.outcome.engine.records id = some s := by
    rw [records]
    exact approvalState_set_self state
  have wf := lives.wf.set approval
  have here : changesOf id (⟨e, some c, c.outcome.engine⟩ :: past) =
      ⟨approvalState e.records id, some s, some c⟩ :: changesOf id past := by
    rw [changesOf, if_neg (by rw [after]; exact Ne.symm changed), after]
  have other (id' : String) (ne : id ≠ id') : changesOf id' (⟨e, some c, c.outcome.engine⟩ :: past) = changesOf id' past :=
    changesOf_same (by rw [records]; exact approvalState_set_of_ne ne)
  have get (id' : String) (ne : id ≠ id') : c.outcome.engine.records.get? (.str id') = e.records.get? (.str id') := by
    rw [records]
    exact Dict.get?_set_of_ne fun same => ne (Json.Key.str.inj same)
  refine ⟨?_, ?_, ?_, ?_, ?_⟩
  · rw [records]
    exact wf
  · rw [file, records]
    exact load_approvals wf
  · intro id'
    by_cases same : id = id'
    · subst same
      right
      rw [here]
      exact ⟨rec, x, s, by rw [records, Dict.get?_set_self], expires, state, stage⟩
    · rw [other id' same, get id' same]
      exact lives.stages id'
  · intro id' known
    by_cases same : id = id'
    · subst same
      exact named
    · rw [get id' same] at known
      obtain ⟨t, member, seed⟩ := lives.named id' known
      exact ⟨t, List.mem_cons_of_mem _ member, seed⟩
  · intro id'
    rw [approvalEvents_cons]
    simp only [Option.bind_some, silent]
    by_cases same : id = id'
    · subst same
      rw [here, if_pos (by rw [about]; rfl)]
      exact .cons tells (lives.events id)
    · rw [other id' same, if_neg (by rw [about]; exact fun found => same (Option.some.inj found))]
      exact lives.events id'

/-- No terminal state is left, and what an approval is bound to stays. -/
structure Steady (e e' : Engine) : Prop where
  final : ∀ id s, s ∈ ApprovalState.terminal → approvalState e.records id = some s → approvalState e'.records id = some s
  fixed : ∀ id rec, e.records.get? (.str id) = some rec →
    ∃ rec', e'.records.get? (.str id) = some rec' ∧ ∀ k ∈ boundFields, rec'.get? k = rec.get? k

theorem Steady.of_records (records : e'.records = e.records) : Steady e e' := by
  refine ⟨fun id s _ state => ?_, fun id rec found => ⟨rec, ?_, fun _ _ => rfl⟩⟩
  · rw [records]
    exact state
  · rw [records]
    exact found

theorem Steady.put {result : Option String} (open' : ∀ s, approvalState e.records id = some s → s ∉ ApprovalState.terminal)
    (bound : ∀ rec', e.records.get? (.str id) = some rec' → ∀ k ∈ boundFields, rec.get? k = rec'.get? k) :
    Steady e (e.put host id rec event result).engine := by
  have records : (e.put host id rec event result).engine.records = e.records.set (.str id) rec := rfl
  refine ⟨fun id' s terminal state => ?_, fun id' rec' found => ?_⟩
  · by_cases same : id = id'
    · subst same
      exact absurd terminal (open' s state)
    · rw [records, approvalState_set_of_ne same]
      exact state
  · by_cases same : id = id'
    · subst same
      exact ⟨rec, by rw [records, Dict.get?_set_self], bound rec' found⟩
    · refine ⟨rec', ?_, fun _ _ => rfl⟩
      rw [records, Dict.get?_set_of_ne fun keys => same (Json.Key.str.inj keys)]
      exact found

theorem settled_bound {now : ℚ} {approverId : Option String} {k : String} (bound : k ∈ boundFields) :
    (settled now target approverId rec).get? k = rec.get? k := by
  refine settled_get? ?_
  revert k
  decide

theorem live_of_state (found : e.records.get? (.str id) = some rec) (state : rec.get? "state" = some (.str curr.value))
    (live : curr ∉ ApprovalState.terminal) : ∀ s, approvalState e.records id = some s → s ∉ ApprovalState.terminal := by
  intro s known
  rw [approvalState_found found state] at known
  cases known
  exact live

/-- The approver of a record after its approval, and otherwise. -/
theorem settled_approver {now : ℚ} {approverId : Option String} : Record.field (settled now target approverId rec) "approver_id" =
    if target = .approved then optionText approverId else Record.field rec "approver_id" := by
  unfold settled noted
  cases target <;> simp

theorem approver_accepted {actor : String} {approverId : Option String} (accepted : approverRejection rec actor approverId = none) :
    ∃ approver, approverId = some approver ∧ approver ∈ authorizedApprovers ∧ approver ≠ actor := by
  cases approverId with
  | none => cases accepted
  | some approver =>
    unfold approverRejection at accepted
    dsimp only at accepted
    split at accepted
    · cases accepted
    split at accepted
    · cases accepted
    split at accepted
    · cases accepted
    · rename_i authorized self
      exact ⟨approver, rfl, Decidable.not_not.mp authorized, fun same => self (.inr same)⟩

/-- The known stage of a record that is there. -/
theorem Lives.stage (lives : Lives host past e) (found : e.records.get? (.str id) = some rec)
    (state : rec.get? "state" = some (.str curr.value)) (expires : rec.get? "expires_at" = some (.float x)) :
    Stage x (changesOf id past) curr (Record.field rec "approver_id") := by
  rcases lives.stages id with ⟨fresh, -⟩ | ⟨rec', x', s, found', expires', state', stage⟩
  · rw [fresh] at found
    cases found
  · rw [found] at found'
    cases found'
    rw [expires] at expires'
    cases expires'
    have first := approvalState_found found state
    rw [approvalState_found found state'] at first
    cases first
    exact stage

theorem Lives.did (lives : Lives host past e) (did : EngineDid host c.moment e c.call c.outcome)
    (fresh : ∀ s n, hashedSeed host ⟨e, some c, c.outcome.engine⟩ = some (s, n) → e.records.get? (.str (approvalId host s)) = none) :
    Lives host (⟨e, some c, c.outcome.engine⟩ :: past) c.outcome.engine ∧ Steady e c.outcome.engine := by
  obtain ⟨moment, call, o⟩ := c
  dsimp only at did
  cases did with
  | refused reason => exact ⟨lives.quiet rfl rfl rfl, .of_records rfl⟩
  | @created d cap hash tgt risk actor ttl id named =>
    have new := fresh _ moment.now rfl
    have unknown : e.records.get? (.str id) = none := by
      rw [named]
      exact new
    have before : approvalState e.records id = none := by
      unfold approvalState
      rw [unknown]
      rfl
    have nothing : changesOf id past = [] := by
      rcases lives.stages id with ⟨-, nothing⟩ | ⟨rec, x, s, found, -⟩
      · exact nothing
      · rw [unknown] at found
        cases found
    refine ⟨lives.put (s := .requested) (x := .fin moment.now + ttl) rfl approvalOf_new rfl (by rw [before]; simp) rfl ?_ rfl ?_
      ⟨_, List.mem_cons_self, _, moment.now, rfl, named⟩, .put ?_ ?_⟩
    · rw [before]
      exact ⟨rfl, rfl⟩
    · rw [before, nothing]
      exact .requested _
    · intro s known
      rw [before] at known
      cases known
    · intro rec' found
      rw [unknown] at found
      cases found
  | @expired id actor target curr approver rec x found approval state live expires late =>
    have stage := lives.stage found state expires
    have before := approvalState_found found state
    have changed : curr ≠ .expired := by
      intro same
      rw [same] at live
      exact live (by decide)
    refine ⟨lives.put (s := .expired) (x := x) rfl (approvalOf_settled approval state live) settled_state ?_ rfl ?_ ?_ ?_ ?_,
      .put (live_of_state found state live) ?_⟩
    · rw [before]
      exact fun same => changed (Option.some.inj same)
    · rw [before]
      exact ⟨rfl, rfl⟩
    · rw [settled_get? (by decide)]
      exact expires
    · rw [before, settled_approver, if_neg (by decide)]
      exact .ended _ stage (by decide)
    · obtain ⟨t, member, seed⟩ := lives.named id (by rw [found]; simp)
      exact ⟨t, List.mem_cons_of_mem _ member, seed⟩
    · intro rec' known k bound
      rw [found] at known
      cases known
      exact settled_bound bound
  | @moved id actor target curr approverId rec x found approval state valid expires inTime approver =>
    have stage := lives.stage found state expires
    have before := approvalState_found found state
    obtain ⟨live, changed, -⟩ := ApprovalState.valid_cases valid
    refine ⟨lives.put (s := target) (x := x) rfl (approvalOf_settled approval state live) settled_state ?_ rfl ?_ ?_ ?_ ?_,
      .put (live_of_state found state live) ?_⟩
    · rw [before]
      exact fun same => changed (Option.some.inj same).symm
    · rw [before]
      exact ⟨rfl, rfl⟩
    · rw [settled_get? (by decide)]
      exact expires
    · rw [before, settled_approver]
      rcases source_of_valid valid with ⟨rfl, rfl⟩ | ⟨rfl, rfl⟩ | ⟨rfl, rfl⟩ | finished
      · exact .notified _ stage
      · obtain ⟨name, rfl, authorized, other⟩ := approver_accepted (approver rfl)
        exact .approved stage rfl authorized other inTime
      · exact .consumed stage inTime
      · have notApproved : target ≠ .approved := by
          intro same
          rw [same] at finished
          exact absurd finished (by decide)
        rw [if_neg notApproved]
        exact .ended _ stage finished
    · obtain ⟨t, member, seed⟩ := lives.named id (by rw [found]; simp)
      exact ⟨t, List.mem_cons_of_mem _ member, seed⟩
    · intro rec' known k bound
      rw [found] at known
      cases known
      exact settled_bound bound

/-! ### Runs -/

theorem hashedSeed_some {s : String} {n : ℚ} (hashed : hashedSeed host t = some (s, n)) :
    ∃ d cap hash tgt risk, s = approvalSeed host d cap hash tgt risk n := by
  obtain ⟨c, -, seed⟩ := Option.bind_eq_some_iff.mp hashed
  cases call : c.call with
  | create d cap hash tgt risk ttl actor =>
    rw [call] at seed
    cases seed
    exact ⟨d, cap, hash, tgt, risk, rfl⟩
  | transition =>
    rw [call] at seed
    cases seed

/-- A request gets an identifier that no record has. -/
theorem Lives.fresh (lives : Lives host past e) (clocks : DistinctClocks host (t :: past)) (collision : NoCollision host (t :: past)) :
    ∀ s n, hashedSeed host t = some (s, n) → e.records.get? (.str (approvalId host s)) = none := by
  intro s n hashed
  by_contra known
  obtain ⟨u, member, s', n', hashed', same⟩ := lives.named _ known
  obtain rfl := (List.pairwise_cons.mp collision).1 u member s s' n n' hashed hashed' same
  obtain ⟨d, cap, hash, tgt, risk, made⟩ := hashedSeed_some hashed
  obtain ⟨d', cap', hash', tgt', risk', made'⟩ := hashedSeed_some hashed'
  obtain rfl := approvalSeed_now (made.symm.trans made')
  exact (List.pairwise_cons.mp clocks).1 u member s s n hashed hashed'

theorem Lives.step (lives : Lives host past e) (step : EngineStep host e l e') (clocks : DistinctClocks host (⟨e, l, e'⟩ :: past))
    (collision : NoCollision host (⟨e, l, e'⟩ :: past)) : Lives host (⟨e, l, e'⟩ :: past) e' ∧ Steady e e' := by
  cases step with
  | reload =>
    have same := lives.loads
    exact ⟨lives.quiet same rfl rfl, .of_records same⟩
  | call moment call => exact lives.did (engineDid host moment call lives.wf) (lives.fresh clocks collision)

/-- A call, or a reload. -/
def nextEngine (host : Host) (e : Engine) : Option (Moment × EngineCall) → Option EngineCalled × Engine
  | some (moment, call) => (some ⟨moment, call, performEngine host moment e call⟩, (performEngine host moment e call).engine)
  | none => (none, ⟨loadEngine host e.file, e.file⟩)

theorem nextEngine_step (host : Host) (e : Engine) (next : Option (Moment × EngineCall)) :
    EngineStep host e (nextEngine host e next).1 (nextEngine host e next).2 := by
  cases next with
  | some c => exact .call c.1 c.2
  | none => exact .reload

end ControlPlane.Directive
