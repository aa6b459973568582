import ControlPlane.Directive.ApprovalLifecycle

/-!
# Who asked, and who approved

The record of a request keeps no name of the requester, so the engine can only compare the approver
with the actor of the approving call. An approval is never the requester's own exactly if no call that
passes the other checks names the requester as its approver.
-/

namespace ControlPlane.Directive

open ControlPlane.Data ControlPlane.Interleaving

def EngineCall.actor : EngineCall → String
  | .create _ _ _ _ _ _ actor | .transition _ _ actor _ => actor

/-- The actor of a call that makes this request. -/
def requesterIn (host : Host) (id : String) (c : EngineCalled) : Option String :=
  match c.call with
  | .create d cap hash tgt risk _ actor => if deriveApprovalRequestId host d cap hash tgt risk c.moment.now = id then some actor else none
  | .transition .. => none

/-- The actor under whose name the request was made last. -/
def requesterOf (host : Host) (id : String) : EnginePast → Option String
  | [] => none
  | t :: past => (t.label.bind (requesterIn host id)).or (requesterOf host id past)

/-- An approval that reaches `APPROVED` has an approver who is neither the actor of this step nor the requester. -/
def Separate (host : Host) (earlier : EnginePast) (t : Transition Engine (Option EngineCalled)) : Prop :=
  ∀ id, approvalState t.before.records id ≠ some .approved → approvalState t.after.records id = some .approved →
    ∃ c rec requester approver, t.label = some c ∧ t.after.records.get? (.str id) = some rec ∧
      Record.field rec "approver_id" = .str approver ∧ approver ≠ c.call.actor ∧
      requesterOf host id earlier = some requester ∧ approver ≠ requester

/-- The approval waits for a decision, is in time, and this approver is accepted. -/
def Approvable (e : Engine) (now : ℚ) (id actor approver : String) : Prop :=
  ∃ rec, e.records.get? (.str id) = some rec ∧ approvalState e.records id = some .notified ∧ InTime rec now ∧
    approverRejection rec actor (some approver) = none

/-- A call that could approve does not name the requester. -/
def Independent (host : Host) (earlier : EnginePast) (t : Transition Engine (Option EngineCalled)) : Prop :=
  ∀ c id actor approver, t.label = some c → c.call = .transition id .approved actor (some approver) →
    Approvable t.before c.moment.now id actor approver → requesterOf host id earlier ≠ some approver

variable {host : Host} {moment : Moment} {e e' : Engine} {past : EnginePast} {l : Option EngineCalled} {c : EngineCalled}
  {call : EngineCall} {o : EngineOutcome} {id : String} {rec : Record} {s : ApprovalState} {x : PyFloat}

/-- Memory and file agree, and every record has a requester. -/
structure Synced (host : Host) (past : EnginePast) (e : Engine) : Prop where
  wf : Approvals e.records
  loads : loadEngine host e.file = e.records
  requested : ∀ id, e.records.get? (.str id) ≠ none → requesterOf host id past ≠ none

theorem requesterOf_cons {t : Transition Engine (Option EngineCalled)} (known : requesterOf host id past ≠ none) :
    requesterOf host id (t :: past) ≠ none := by
  unfold requesterOf
  cases t.label.bind (requesterIn host id) with
  | none => exact known
  | some actor => simp

theorem Synced.put {event : Record} {result : Option String} {t : Transition Engine (Option EngineCalled)} (synced : Synced host past e)
    (approval : ApprovalOf id rec) (requested : requesterOf host id (t :: past) ≠ none) :
    Synced host (t :: past) (e.put host id rec event result).engine := by
  have wf := synced.wf.set approval
  refine ⟨wf, load_approvals wf, ?_⟩
  intro id' known
  by_cases same : id = id'
  · subst same
    exact requested
  · have get : (e.put host id rec event result).engine.records.get? (.str id') = e.records.get? (.str id') :=
      Dict.get?_set_of_ne fun keys => same (Json.Key.str.inj keys)
    rw [get] at known
    exact requesterOf_cons (synced.requested id' known)

theorem Synced.did (synced : Synced host past e) (did : EngineDid host c.moment e c.call c.outcome) :
    Synced host (⟨e, some c, c.outcome.engine⟩ :: past) c.outcome.engine := by
  obtain ⟨moment, call, o⟩ := c
  dsimp only at did
  have known {id : String} {rec : Record} (found : e.records.get? (.str id) = some rec) (t : Transition Engine (Option EngineCalled)) :
      requesterOf host id (t :: past) ≠ none := requesterOf_cons (synced.requested id (by rw [found]; simp))
  cases did with
  | refused => exact ⟨synced.wf, synced.loads, fun id known => requesterOf_cons (synced.requested id known)⟩
  | created named =>
    refine synced.put approvalOf_new ?_
    unfold requesterOf
    simp only [Option.bind_some, requesterIn]
    rw [if_pos named.symm]
    simp
  | expired found approval state live => exact synced.put (approvalOf_settled approval state live) (known found _)
  | moved found approval state valid =>
    exact synced.put (approvalOf_settled approval state (ApprovalState.valid_cases valid).1) (known found _)

theorem Synced.step (synced : Synced host past e) (step : EngineStep host e l e') : Synced host (⟨e, l, e'⟩ :: past) e' := by
  cases step with
  | reload =>
    have same : (⟨loadEngine host e.file, e.file⟩ : Engine) = e := by rw [synced.loads]
    rw [same]
    exact ⟨synced.wf, synced.loads, fun id known => requesterOf_cons (synced.requested id known)⟩
  | call moment call => exact synced.did (engineDid host moment call synced.wf)

/-! ### The approving call -/

theorem put_state {event : Record} {result : Option String} {id' : String} (state : rec.get? "state" = some (.str s.value)) :
    approvalState (e.put host id rec event result).records id' = if id = id' then some s else approvalState e.records id' := by
  by_cases same : id = id'
  · subst same
    rw [if_pos rfl]
    exact approvalState_set_self state
  · rw [if_neg same]
    exact approvalState_set_of_ne same

/-- Only a call that could approve brings an approval to `APPROVED`, with the approver it names. -/
theorem approved_by (did : EngineDid host c.moment e c.call c.outcome) (before : approvalState e.records id ≠ some .approved)
    (after : approvalState c.outcome.records id = some .approved) : ∃ actor approver rec,
      c.call = .transition id .approved actor (some approver) ∧ Approvable e c.moment.now id actor approver ∧
      c.outcome.records.get? (.str id) = some rec ∧ Record.field rec "approver_id" = .str approver := by
  obtain ⟨moment, call, o⟩ := c
  dsimp only at did after ⊢
  cases did with
  | refused => exact absurd after before
  | created =>
    rw [put_state (s := .requested) rfl] at after
    split at after
    · cases after
    · exact absurd after before
  | expired =>
    rw [put_state settled_state] at after
    split at after
    · cases after
    · exact absurd after before
  | @moved id' actor target curr approverId rec x found approval state valid expires inTime approver =>
    rw [put_state settled_state] at after
    split at after
    · rename_i same
      subst same
      cases after
      have curr' : curr = .notified := by
        cases curr <;> first | rfl | exact absurd valid (by decide)
      subst curr'
      have accepted := approver rfl
      obtain ⟨name, rfl, -, -⟩ := approver_accepted accepted
      refine ⟨actor, name, _, rfl, ⟨rec, found, approvalState_found found state, ⟨x, expires, inTime⟩, accepted⟩,
        Dict.get?_set_self, ?_⟩
      rw [settled_approver, if_pos rfl]
      rfl
    · exact absurd after before

/-- A call that could approve does so. -/
theorem transition_approves {actor approver : String} (wf : Approvals e.records) (approvable : Approvable e moment.now id actor approver) :
    ∃ rec, (transitionApproval host moment e id .approved actor (some approver)).records.get? (.str id) = some rec ∧
      approvalState (transitionApproval host moment e id .approved actor (some approver)).records id = some .approved ∧
      Record.field rec "approver_id" = .str approver := by
  obtain ⟨rec, found, notified, ⟨x, expires, inTime⟩, accepted⟩ := approvable
  have filled : rec.isEmpty = false := by
    cases rec with
    | nil => cases expires
    | cons entry rest => rfl
  obtain ⟨s, state, -, -⟩ := (wf.record found).state
  rw [approvalState_found found state] at notified
  cases notified
  have made : transitionApproval host moment e id .approved actor (some approver) =
      e.put host id (settled moment.now .approved (some approver) rec)
        (approvalEvent host moment id (Record.field rec "directive_id") ApprovalState.notified.value ApprovalState.approved.value actor
          [("approver", optionText (some approver))]) none := by
    unfold transitionApproval
    rw [found]
    dsimp only
    rw [filled, if_neg (by decide), state]
    dsimp only
    rw [ApprovalState.ofValue?_value]
    dsimp only
    rw [expires]
    dsimp only [Json.number?]
    rw [if_neg (fun late => inTime late.1), if_neg (by decide), if_neg (by decide), if_pos rfl, accepted]
    rfl
  rw [made, put_state settled_state, if_pos rfl]
  refine ⟨_, Dict.get?_set_self, rfl, ?_⟩
  rw [settled_approver, if_pos rfl]
  rfl

/-! ### Runs -/

/-- No approval is the requester's own exactly if no call that could approve names the requester. -/
theorem separate_iff (history : History (EngineStep host) emptyEngine past e) :
    Along (Separate host) past ↔ Along (Independent host) past := by
  suffices both : Synced host past e ∧ (Along (Separate host) past ↔ Along (Independent host) past) from both.2
  induction history with
  | start => exact ⟨⟨RecordsOf.nil, rfl, fun id known => absurd rfl known⟩, Iff.rfl⟩
  | @step past e l e' history step ih =>
    obtain ⟨synced, earlier⟩ := ih
    refine ⟨synced.step step, and_congr ?_ earlier⟩
    constructor
    · intro separate c id actor approver label call approvable named
      dsimp only at label approvable
      subst label
      cases step with
      | call moment call' =>
        dsimp only at call approvable
        subst call
        have ready : Approvable e moment.now id actor approver := by assumption
        obtain ⟨rec, found, approved, field⟩ := @transition_approves host moment _ _ _ _ synced.wf ready
        have notYet : approvalState e.records id ≠ some .approved := by
          obtain ⟨-, -, notified, -⟩ := ready
          rw [notified]
          decide
        obtain ⟨c, rec', requester, approver', -, found', field', -, asked, other⟩ := separate id notYet approved
        have same : some rec = some rec' := found.symm.trans found'
        cases same
        rw [field] at field'
        cases field'
        rw [asked] at named
        exact other (Option.some.inj named).symm
    · intro independent id before after
      dsimp only at before after
      cases step with
      | reload =>
        rw [synced.loads] at after
        exact absurd after before
      | call moment call =>
        obtain ⟨actor, approver, rec, named, approvable, found, field⟩ :=
          approved_by (c := ⟨moment, call, performEngine host moment e call⟩) (engineDid host moment call synced.wf) before after
        have free := independent _ id actor approver rfl named approvable
        obtain ⟨rec', found', -, -, accepted⟩ := approvable
        obtain ⟨requester, asked⟩ := Option.ne_none_iff_exists'.mp (synced.requested id (by rw [found']; simp))
        obtain ⟨name, same, -, other⟩ := approver_accepted accepted
        cases same
        refine ⟨_, rec, requester, approver, rfl, found, field, ?_, asked, ?_⟩
        · dsimp only at named ⊢
          rw [named]
          exact other
        · intro same
          rw [asked, same] at free
          exact free rfl

/-- The requester approves under another actor's name. -/
def selfApproved : List (Option (Moment × EngineCall)) :=
  let id := deriveApprovalRequestId sampleHost "DIR-1" "CAP-RISK-LIMIT-UPDATE" "aa" "AI-CONTROL-PLANE" "CRITICAL" 1767225600
  [some (⟨1767225600, "2026-01-01T00:00:00Z", none⟩,
      .create "DIR-1" "CAP-RISK-LIMIT-UPDATE" "aa" "AI-CONTROL-PLANE" "CRITICAL" (.fin 3600) "SEC_ADMIN_1"),
    some (⟨1767225601, "2026-01-01T00:00:01Z", none⟩, .transition id .notified "SYSTEM" none),
    some (⟨1767225602, "2026-01-01T00:00:02Z", none⟩, .transition id .approved "SYSTEM" (some "SEC_ADMIN_1"))]

theorem separate_iff_self : Along (Separate sampleHost) (History.replay (nextEngine sampleHost) emptyEngine selfApproved).1 ↔
    Along (Independent sampleHost) (History.replay (nextEngine sampleHost) emptyEngine selfApproved).1 :=
  separate_iff (History.history_replay _ (nextEngine_step sampleHost) _ _)

/-- The engine does not notice. -/
theorem self_approval_passes : ¬ Along (Separate sampleHost) (History.replay (nextEngine sampleHost) emptyEngine selfApproved).1 := by
  intro separate
  obtain ⟨here, -⟩ := separate
  obtain ⟨c, rec, requester, approver, -, found, field, -, asked, other⟩ := here
    (deriveApprovalRequestId sampleHost "DIR-1" "CAP-RISK-LIMIT-UPDATE" "aa" "AI-CONTROL-PLANE" "CRITICAL" 1767225600)
    (by decide +kernel) (by decide +kernel)
  have same : requester = "SEC_ADMIN_1" := Option.some.inj (asked.symm.trans (by decide +kernel))
  have its : (some rec).bind (fun rec : Record => (Record.field rec "approver_id").str?) = some "SEC_ADMIN_1" := by
    rw [← found]
    decide +kernel
  rw [Option.bind_some, field] at its
  exact other ((Option.some.inj its).trans same.symm)

end ControlPlane.Directive
