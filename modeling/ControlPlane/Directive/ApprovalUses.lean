import ControlPlane.Directive.ApprovalDuties
import ControlPlane.Directive.Authorization

/-!
# How often an approval is used

The calls of an engine, and evaluations that are handed its live records. Evaluating a record leaves no
mark on it: a record gives one token exactly if whoever takes a token from it has the engine move it on.
-/

namespace ControlPlane.Directive

open ControlPlane.Data ControlPlane.Interleaving

/-- What is done with an engine and its records. -/
inductive UseLabel where
  | engine (l : Option EngineCalled)
  | evaluated (id : String) (moment : AuthorizationMoment) (request : AuthorizationRequest) (outcome : AuthorizationOutcome)

inductive UseStep (host : Host) (lower : String → String) : Engine → UseLabel → Engine → Prop
  | engine {e e' : Engine} {l : Option EngineCalled} (step : EngineStep host e l e') : UseStep host lower e (.engine l) e'
  | evaluate {e : Engine} {id : String} {rec data : Record} (moment : AuthorizationMoment) (r : AuthorizationRequest)
      (found : e.records.get? (.str id) = some rec) (given : r.humanApprovalData = some data)
      (live : Record.field data "rec" = .dict rec) :
      UseStep host lower e (.evaluated id moment r (evaluateExecutionAuthorization host lower moment r)) e

abbrev UsePast := List (Transition Engine UseLabel)

/-- The step makes a new record under this identifier. -/
def UseLabel.creates (host : Host) (id : String) : UseLabel → Bool
  | .engine (some c) => (requesterIn host id c).isSome
  | _ => false

/-- The step takes a token from this record. -/
def UseLabel.issues (id : String) : UseLabel → Bool
  | .evaluated id' _ r outcome => id' = id && needsApproval r.capabilityId &&
    match outcome.result with
    | .ok (.ok _) => true
    | _ => false
  | .engine _ => false

/-- How many tokens a record gave since it was made. -/
def tokensOf (host : Host) (id : String) : UsePast → Nat
  | [] => 0
  | t :: past => if t.label.creates host id then 0 else (if t.label.issues id then 1 else 0) + tokensOf host id past

/-- No record has given a second token. -/
def SingleUse (host : Host) (earlier : UsePast) (t : Transition Engine UseLabel) : Prop := ∀ id, tokensOf host id (t :: earlier) ≤ 1

/-- The request passes the policy, and it is the one this record, still in time, was made for. -/
structure Fits (host : Host) (lower : String → String) (rec : Record) (moment : AuthorizationMoment) (r : AuthorizationRequest) : Prop where
  allowed : policyRejection host lower r = none
  critical : needsApproval r.capabilityId = true
  scope : Record.field (r.humanApprovalData.getD []) "directive_id" = .str r.directiveId ∧
    Record.field (r.humanApprovalData.getD []) "parameter_hash" = .str (paramHash host r.parameters)
  directive : Record.field rec "directive_id" = .str r.directiveId
  capability : Record.field rec "capability_id" = .str r.capabilityId
  parameters : Record.field rec "parameter_hash" = .str (paramHash host r.parameters)
  target : Record.field rec "target" = .str r.requestedTarget
  risk : Record.field rec "risk_class" = .str (deriveRiskClass r.capabilityId r.selfDeclaredRisk).1.value
  inTime : InTime rec moment.checked
  logged : ∀ trail, moment.auditTrail = some trail → trail.2.2 = true

/-- A fitting request for this record is evaluated. -/
def Requests (host : Host) (lower : String → String) (id : String) (t : Transition Engine UseLabel) : Prop :=
  ∃ moment r outcome rec, t.label = .evaluated id moment r outcome ∧ t.before.records.get? (.str id) = some rec ∧
    Fits host lower rec moment r

/-- Since it was made the record was approved when a fitting request came, and it has stayed so. -/
def InUse (host : Host) (lower : String → String) (id : String) : UsePast → Prop
  | [] => False
  | t :: past => t.label.creates host id = false ∧ approvalState t.after.records id = some .approved ∧
    (Requests host lower id t ∨ InUse host lower id past)

/-- A record in use is not asked for again. -/
def RetiredFirst (host : Host) (lower : String → String) (earlier : UsePast) (t : Transition Engine UseLabel) : Prop :=
  ∀ id, Requests host lower id t → ¬ InUse host lower id earlier

variable {host : Host} {lower : String → String} {e e' : Engine} {past : UsePast} {l : UseLabel} {id : String} {rec data : Record}
  {r : AuthorizationRequest} {s : ApprovalState}

/-! ### Evaluating a live record -/

theorem field_bool {k : String} {b : Bool} {v : Json} (flag : Record.field rec k = .bool b) : (rec.get? k).getD v = .bool b := by
  unfold Record.field at flag
  cases found : rec.get? k with
  | none =>
    rw [found] at flag
    cases flag
  | some w =>
    rw [found] at flag
    exact flag

/-- Of the records of an engine, the approved ones are live, for what they were made for and as long as they are in time. -/
theorem live_iff {now : ℚ} {directiveId capabilityId parameterHash target riskClass : String} (approval : ApprovalOf id rec)
    (state : rec.get? "state" = some (.str s.value)) :
    LiveApproval host now rec directiveId capabilityId parameterHash target riskClass ↔
      s = .approved ∧ InTime rec now ∧ Record.field rec "directive_id" = .str directiveId ∧
        Record.field rec "capability_id" = .str capabilityId ∧ Record.field rec "parameter_hash" = .str parameterHash ∧
        Record.field rec "target" = .str target ∧ Record.field rec "risk_class" = .str riskClass := by
  obtain ⟨x, expires⟩ := approval.expires
  constructor
  · intro live
    have value : s.value = ApprovalState.approved.value := by
      have shown := live.approved
      rw [state, Option.getD_some, host.shown_str] at shown
      exact shown
    have approved : s = .approved := by
      cases s <;> first | rfl | exact absurd value (by decide)
    obtain ⟨y, number, inTime⟩ := live.inTime
    rw [expires, Option.getD_some] at number
    cases number
    exact ⟨approved, ⟨x, expires, inTime⟩, live.directive, live.capability, live.parameters, live.target, live.risk⟩
  · intro fits
    obtain ⟨approved, inTime, directive, capability, parameters, target, risk⟩ := fits
    subst approved
    obtain ⟨y, expires', inTime⟩ := inTime
    obtain ⟨t, state', consumed, revoked⟩ := approval.state
    rw [state] at state'
    have value : t.value = ApprovalState.approved.value := by simpa using state'.symm
    have approved : t = .approved := by
      cases t <;> first | rfl | exact absurd value (by decide)
    subst approved
    refine ⟨?_, ?_, ?_, ⟨y, ?_, inTime⟩, directive, capability, parameters, target, risk⟩
    · rw [state, Option.getD_some, host.shown_str]
    · rw [field_bool consumed]
      rfl
    · rw [field_bool revoked]
      rfl
    · rw [expires']
      rfl

theorem filled_of_field {k t : String} (text : Record.field rec k = .str t) : rec.isEmpty = false := by
  cases rec with
  | nil => cases text
  | cons entry rest => rfl

theorem truthy_dict : (Json.dict rec).truthy = !rec.isEmpty := rfl

/-- The approval of a fitting request is accepted. -/
theorem fits_approved {moment : AuthorizationMoment} (approval : ApprovalOf id rec)
    (state : rec.get? "state" = some (.str ApprovalState.approved.value)) (given : r.humanApprovalData = some data)
    (live : Record.field data "rec" = .dict rec) (fits : Fits host lower rec moment r) :
    approvalRejection host moment.checked r = .ok none := by
  obtain ⟨scope, parameters⟩ := fits.scope
  rw [given, Option.getD_some] at scope parameters
  have accepted : revalidateApproval host moment.checked rec r.directiveId r.capabilityId (paramHash host r.parameters)
      r.requestedTarget (deriveRiskClass r.capabilityId r.selfDeclaredRisk).1.value = .ok none :=
    revalidate_iff.mpr ((live_iff approval state).mpr ⟨rfl, fits.inTime, fits.directive, fits.capability, fits.parameters, fits.target, fits.risk⟩)
  have truthy : (Json.dict rec).truthy = true := by
    rw [truthy_dict, filled_of_field fits.directive]
    rfl
  unfold approvalRejection recordRejection
  dsimp only
  rw [given, Option.getD_some, filled_of_field scope, live, if_neg (by decide), if_pos truthy]
  dsimp only
  rw [accepted]
  dsimp only
  rw [scope, parameters, Json.str?, Json.str?, if_neg (fun differ => differ rfl), if_neg (fun differ => differ rfl)]

theorem issueToken_ok {moment : AuthorizationMoment} :
    (∃ token, (issueToken host moment r).result = .ok (.ok token)) ↔ ∀ trail, moment.auditTrail = some trail → trail.2.2 = true := by
  unfold issueToken
  cases trail : moment.auditTrail with
  | none =>
    refine ⟨?_, fun _ => ⟨_, rfl⟩⟩
    intro _ trail absent
    cases absent
  | some given =>
    obtain ⟨ts, file, appended⟩ := given
    cases appended with
    | false =>
      constructor
      · intro issued
        obtain ⟨token, issued⟩ := issued
        cases issued
      · intro logged
        cases logged _ rfl
    | true =>
      refine ⟨?_, fun _ => ⟨_, rfl⟩⟩
      intro _ trail same
      cases same
      rfl

/-- A live record gives a token exactly to the fitting requests, while it is approved. -/
theorem issues_iff {moment : AuthorizationMoment} (approval : ApprovalOf id rec) (state : rec.get? "state" = some (.str s.value))
    (given : r.humanApprovalData = some data) (live : Record.field data "rec" = .dict rec) :
    (UseLabel.evaluated id moment r (evaluateExecutionAuthorization host lower moment r)).issues id = true ↔
      s = .approved ∧ Fits host lower rec moment r := by
  have unfolded : (UseLabel.evaluated id moment r (evaluateExecutionAuthorization host lower moment r)).issues id = true ↔
      needsApproval r.capabilityId = true ∧
        ∃ token, (evaluateExecutionAuthorization host lower moment r).result = .ok (.ok token) := by
    unfold UseLabel.issues
    dsimp only
    rw [decide_eq_true rfl, Bool.true_and, Bool.and_eq_true]
    refine and_congr_right fun _ => ?_
    cases (evaluateExecutionAuthorization host lower moment r).result with
    | error fault => simp
    | ok verdict =>
      cases verdict with
      | error reason => simp
      | ok token => simp
  rw [unfolded]
  constructor
  · intro issued
    obtain ⟨critical, token, issued⟩ := issued
    obtain ⟨allowed, approved, -⟩ := token_passed critical issued
    have logged : ∃ token, (issueToken host moment r).result = .ok (.ok token) := by
      refine ⟨token, ?_⟩
      unfold evaluateExecutionAuthorization at issued
      rw [allowed] at issued
      dsimp only at issued
      rw [if_pos critical, approved] at issued
      exact issued
    obtain ⟨data', given', bound⟩ := approval_bound critical approved
    rw [given] at given'
    cases given'
    have filled : rec.isEmpty = false := by
      cases rec with
      | nil => cases state
      | cons entry rest => rfl
    obtain ⟨rec', live', -, accepted⟩ := bound.record (by rw [live, truthy_dict, filled]; rfl)
    rw [live] at live'
    cases live'
    obtain ⟨isApproved, inTime, directive, capability, parameters, target, risk⟩ := (live_iff approval state).mp accepted
    refine ⟨isApproved, allowed, critical, ?_, directive, capability, parameters, target, risk, inTime, issueToken_ok.mp logged⟩
    rw [given]
    exact ⟨bound.directive, bound.parameters⟩
  · intro both
    obtain ⟨isApproved, fits⟩ := both
    subst isApproved
    obtain ⟨token, issued⟩ := issueToken_ok.mpr fits.logged
    refine ⟨fits.critical, token, ?_⟩
    unfold evaluateExecutionAuthorization
    rw [fits.allowed]
    dsimp only
    rw [if_pos fits.critical, fits_approved approval state given live fits]
    exact issued

/-! ### The state of a record that was used -/

/-- Approved, or over. -/
def Committed (e : Engine) (id : String) : Prop :=
  ∃ s, approvalState e.records id = some s ∧ (s = .approved ∨ s ∈ ApprovalState.terminal)

theorem engine_state {moment : Moment} {call : EngineCall} {o : EngineOutcome} (did : EngineDid host moment e call o)
    (kept : requesterIn host id ⟨moment, call, o⟩ = none) :
    approvalState o.records id = approvalState e.records id ∨ ∃ curr target, approvalState e.records id = some curr ∧
      curr ∉ ApprovalState.terminal ∧ approvalState o.records id = some target ∧
      (target = .expired ∨ target ∈ curr.validTransitions) := by
  cases did with
  | refused => exact .inl rfl
  | @created d cap hash tgt risk actor ttl id' named =>
    left
    rw [put_state (s := .requested) rfl, if_neg]
    intro same
    subst same
    unfold requesterIn at kept
    dsimp only at kept
    rw [if_pos named.symm] at kept
    cases kept
  | @expired id' actor target curr approverId rec x found approval state live =>
    rw [put_state settled_state]
    by_cases same : id' = id
    · subst same
      rw [if_pos rfl]
      exact .inr ⟨curr, _, approvalState_found found state, live, rfl, .inl rfl⟩
    · rw [if_neg same]
      exact .inl rfl
  | @moved id' actor target curr approverId rec x found approval state valid =>
    rw [put_state settled_state]
    by_cases same : id' = id
    · subst same
      rw [if_pos rfl]
      exact .inr ⟨curr, target, approvalState_found found state, (ApprovalState.valid_cases valid).1, rfl, .inr valid⟩
    · rw [if_neg same]
      exact .inl rfl

/-- A record that is approved or over is so after the next step too, and approved only if it was. -/
theorem Committed.step {l : Option EngineCalled} (committed : Committed e id) (wf : Approvals e.records)
    (loads : loadEngine host e.file = e.records) (step : EngineStep host e l e') (kept : (UseLabel.engine l).creates host id = false) :
    Committed e' id ∧ (approvalState e'.records id = some .approved → approvalState e.records id = some .approved) := by
  cases step with
  | reload =>
    have same : (⟨loadEngine host e.file, e.file⟩ : Engine) = e := by rw [loads]
    rw [same]
    exact ⟨committed, fun approved => approved⟩
  | call moment call =>
    have silent : requesterIn host id ⟨moment, call, performEngine host moment e call⟩ = none := by
      unfold UseLabel.creates at kept
      dsimp only at kept
      exact Option.not_isSome_iff_eq_none.mp (by rw [kept]; decide)
    have records : (performEngine host moment e call).engine.records = (performEngine host moment e call).records := rfl
    rw [Committed, records]
    rcases engine_state (engineDid host moment call wf) silent with same | ⟨curr, target, before, open', after, moved⟩
    · rw [same]
      exact ⟨committed, fun approved => approved⟩
    · obtain ⟨s, state, decided⟩ := committed
      rw [before] at state
      cases state
      have approved : curr = .approved := decided.resolve_right open'
      subst approved
      have ends : target ∈ ApprovalState.terminal := by
        rcases moved with expired | valid
        · rw [expired]
          decide
        · revert valid
          cases target <;> decide
      exact ⟨⟨target, after, .inr ends⟩, fun _ => before⟩

/-! ### Runs -/

/-- What the past of a record says about it. -/
structure Accounted (host : Host) (lower : String → String) (past : UsePast) (e : Engine) : Prop where
  wf : Approvals e.records
  loads : loadEngine host e.file = e.records
  given : ∀ id, 0 < tokensOf host id past → Committed e id
  inUse : ∀ id, InUse host lower id past ↔ 0 < tokensOf host id past ∧ approvalState e.records id = some .approved

theorem engine_sound {l : Option EngineCalled} (wf : Approvals e.records) (loads : loadEngine host e.file = e.records)
    (step : EngineStep host e l e') : Approvals e'.records ∧ loadEngine host e'.file = e'.records := by
  cases step with
  | reload =>
    dsimp only
    rw [loads]
    exact ⟨wf, rfl⟩
  | call moment call =>
    have written {id : String} {rec event : Record} {result : Option String} (approval : ApprovalOf id rec) :
        Approvals (e.put host id rec event result).engine.records ∧
          loadEngine host (e.put host id rec event result).engine.file = (e.put host id rec event result).engine.records :=
      ⟨wf.set approval, load_approvals (wf.set approval)⟩
    have did := engineDid host moment call wf
    generalize performEngine host moment e call = o at did
    cases did with
    | refused => exact ⟨wf, loads⟩
    | created => exact written approvalOf_new
    | expired found approval state live => exact written (approvalOf_settled approval state live)
    | moved found approval state valid => exact written (approvalOf_settled approval state (ApprovalState.valid_cases valid).1)

theorem requests_evaluated {id' : String} {moment : AuthorizationMoment} {o : AuthorizationOutcome}
    (found : e.records.get? (.str id') = some rec) :
    Requests host lower id ⟨e, .evaluated id' moment r o, e'⟩ ↔ id' = id ∧ Fits host lower rec moment r := by
  constructor
  · intro requests
    obtain ⟨moment', r', o', rec', label, found', fits⟩ := requests
    cases label
    rw [found] at found'
    cases found'
    exact ⟨rfl, fits⟩
  · intro both
    obtain ⟨same, fits⟩ := both
    subst same
    exact ⟨moment, r, o, rec, rfl, found, fits⟩

/-- The tokens of a step are those of the fitting requests for approved records. -/
theorem issues_requests (wf : Approvals e.records) (step : UseStep host lower e l e') : l.issues id = true ↔
    approvalState e.records id = some .approved ∧ Requests host lower id ⟨e, l, e'⟩ := by
  cases step with
  | engine =>
    constructor
    · intro issued
      cases issued
    · intro both
      obtain ⟨-, moment, r, o, rec, label, -⟩ := both
      cases label
  | @evaluate id' rec data moment r found given live =>
    rw [requests_evaluated found]
    by_cases same : id' = id
    · subst same
      have approval := wf.record found
      obtain ⟨s, state, -, -⟩ := approval.state
      rw [issues_iff approval state given live, approvalState_found found state, Option.some_inj]
      exact and_congr_right fun _ => ⟨fun fits => ⟨rfl, fits⟩, fun both => both.2⟩
    · constructor
      · intro issued
        unfold UseLabel.issues at issued
        simp [same] at issued
      · intro both
        exact absurd both.2.1 same

theorem Accounted.step (accounted : Accounted host lower past e) (step : UseStep host lower e l e') :
    Accounted host lower (⟨e, l, e'⟩ :: past) e' := by
  have issues {id : String} : l.issues id = true ↔ approvalState e.records id = some .approved ∧ Requests host lower id ⟨e, l, e'⟩ :=
    issues_requests accounted.wf step
  cases step with
  | @engine _ l step =>
    obtain ⟨wf, loads⟩ := engine_sound accounted.wf accounted.loads step
    have quiet {id : String} : (UseLabel.engine l).issues id = false := rfl
    refine ⟨wf, loads, ?_, ?_⟩
    · intro id some'
      unfold tokensOf at some'
      dsimp only at some'
      cases made : (UseLabel.engine l).creates host id with
      | true =>
        rw [made] at some'
        cases some'
      | false =>
        rw [made, quiet] at some'
        have before : 0 < tokensOf host id past := by simpa using some'
        exact ((accounted.given id before).step accounted.wf accounted.loads step made).1
    · intro id
      unfold InUse tokensOf
      dsimp only
      cases made : (UseLabel.engine l).creates host id with
      | true => simp
      | false =>
        have unasked : ¬ Requests host lower id ⟨e, UseLabel.engine l, e'⟩ := by
          intro requests
          obtain ⟨moment, r, o, rec, label, -⟩ := requests
          cases label
        rw [quiet, if_neg (by decide), if_neg (by decide), Nat.zero_add, accounted.inUse id]
        constructor
        · intro used
          obtain ⟨-, after, requests | ⟨some', -⟩⟩ := used
          · exact absurd requests unasked
          · exact ⟨some', after⟩
        · intro used
          obtain ⟨some', after⟩ := used
          have before := ((accounted.given id some').step accounted.wf accounted.loads step made).2 after
          exact ⟨rfl, after, .inr ⟨some', before⟩⟩
  | @evaluate id' rec data moment r found given live =>
    have made {id : String} : (UseLabel.evaluated id' moment r (evaluateExecutionAuthorization host lower moment r)).creates host id = false := rfl
    refine ⟨accounted.wf, accounted.loads, ?_, ?_⟩
    · intro id some'
      unfold tokensOf at some'
      dsimp only at some'
      rw [made, if_neg (by decide)] at some'
      by_cases issued : (UseLabel.evaluated id' moment r (evaluateExecutionAuthorization host lower moment r)).issues id = true
      · exact ⟨.approved, (issues.mp issued).1, .inl rfl⟩
      · rw [if_neg issued, Nat.zero_add] at some'
        exact accounted.given id some'
    · intro id
      unfold InUse tokensOf
      dsimp only
      rw [made, if_neg (by decide), accounted.inUse id]
      by_cases issued : (UseLabel.evaluated id' moment r (evaluateExecutionAuthorization host lower moment r)).issues id = true
      · obtain ⟨approved, requests⟩ := issues.mp issued
        rw [if_pos issued]
        exact ⟨fun used => ⟨Nat.le_add_right 1 _, used.2.1⟩, fun used => ⟨rfl, used.2, .inl requests⟩⟩
      · rw [if_neg issued, Nat.zero_add]
        constructor
        · intro used
          obtain ⟨-, approved, requests | used⟩ := used
          · exact absurd (issues.mpr ⟨approved, requests⟩) issued
          · exact used
        · intro used
          exact ⟨rfl, used.2, .inr used⟩

/-- A request for a record in use is a second token, and the only one. -/
theorem second_iff (accounted : Accounted host lower past e) (step : UseStep host lower e l e')
    (once : ∀ id, tokensOf host id past ≤ 1) :
    SingleUse host past ⟨e, l, e'⟩ ↔ RetiredFirst host lower past ⟨e, l, e'⟩ := by
  have issues {id : String} : l.issues id = true ↔ approvalState e.records id = some .approved ∧ Requests host lower id ⟨e, l, e'⟩ :=
    issues_requests accounted.wf step
  constructor
  · intro single id requests used
    obtain ⟨some', approved⟩ := (accounted.inUse id).mp used
    have two := single id
    have made : l.creates host id = false := by
      obtain ⟨moment, r, o, rec, label, -⟩ := requests
      dsimp only at label
      rw [label]
      rfl
    unfold tokensOf at two
    dsimp only at two
    rw [made, if_neg (by decide), if_pos (issues.mpr ⟨approved, requests⟩)] at two
    omega
  · intro retired id
    unfold tokensOf
    dsimp only
    split
    · exact Nat.zero_le 1
    by_cases issued : l.issues id = true
    · obtain ⟨approved, requests⟩ := issues.mp issued
      have none' : tokensOf host id past = 0 := by
        by_contra given
        exact retired id requests ((accounted.inUse id).mpr ⟨Nat.pos_of_ne_zero given, approved⟩)
      rw [if_pos issued, none']
    · rw [if_neg issued, Nat.zero_add]
      exact once id

theorem once_of_single (single : Along (SingleUse host) past) : ∀ id, tokensOf host id past ≤ 1 := by
  cases past with
  | nil => exact fun id => Nat.zero_le 1
  | cons t past => exact single.1

/-- Every approval gives at most one token exactly if no record in use is asked for again. -/
theorem single_use_iff (history : History (UseStep host lower) emptyEngine past e) :
    Along (SingleUse host) past ↔ Along (RetiredFirst host lower) past := by
  suffices both : Accounted host lower past e ∧ (Along (SingleUse host) past ↔ Along (RetiredFirst host lower) past) from both.2
  induction history with
  | start =>
    refine ⟨⟨RecordsOf.nil, rfl, ?_, ?_⟩, Iff.rfl⟩
    · intro id some'
      cases some'
    · intro id
      simp [InUse, tokensOf]
  | @step past e l e' history step ih =>
    obtain ⟨accounted, earlier⟩ := ih
    refine ⟨accounted.step step, ?_⟩
    constructor
    · intro along
      obtain ⟨here, before⟩ := along
      exact ⟨(second_iff accounted step (once_of_single before)).mp here, earlier.mp before⟩
    · intro along
      obtain ⟨here, before⟩ := along
      have single := earlier.mpr before
      exact ⟨(second_iff accounted step (once_of_single single)).mpr here, single⟩

/-! ### One run -/

inductive UseMove where
  | engine (next : Option (Moment × EngineCall))
  | evaluate (id : String) (moment : AuthorizationMoment) (r : AuthorizationRequest)

/-- An evaluation is handed the live record. -/
def nextUse (host : Host) (lower : String → String) (e : Engine) : UseMove → UseLabel × Engine
  | .engine next => (.engine (nextEngine host e next).1, (nextEngine host e next).2)
  | .evaluate id moment r =>
    match e.records.get? (.str id) with
    | none => (.engine (nextEngine host e none).1, (nextEngine host e none).2)
    | some rec =>
      let r' := { r with humanApprovalData := some ((r.humanApprovalData.getD []).set "rec" (.dict rec)) }
      (.evaluated id moment r' (evaluateExecutionAuthorization host lower moment r'), e)

theorem nextUse_step (host : Host) (lower : String → String) (e : Engine) (next : UseMove) :
    UseStep host lower e (nextUse host lower e next).1 (nextUse host lower e next).2 := by
  cases next with
  | engine next => exact .engine (nextEngine_step host e next)
  | evaluate id moment r =>
    unfold nextUse
    dsimp only
    split
    · exact .engine (nextEngine_step host e none)
    · rename_i rec found
      exact .evaluate moment _ found rfl Record.field_set_self

/-- A worker asks for a token and asks again. -/
def usedTwice : List UseMove :=
  let id := deriveApprovalRequestId sampleHost "DIR-227" "CAP-RISK-LIMIT-UPDATE" (paramHash sampleHost riskLimit) "AI-CONTROL-PLANE"
    "CRITICAL" 0
  [.engine (some (⟨0, "1970-01-01T00:00:00Z", none⟩, .create "DIR-227" "CAP-RISK-LIMIT-UPDATE" (paramHash sampleHost riskLimit)
      "AI-CONTROL-PLANE" "CRITICAL" (.fin 3600) "SYSTEM")),
    .engine (some (⟨1, "1970-01-01T00:00:01Z", none⟩, .transition id .notified "SYSTEM" none)),
    .engine (some (⟨2, "1970-01-01T00:00:02Z", none⟩, .transition id .approved "SYSTEM" (some "SEC_ADMIN_1"))),
    .evaluate id ⟨3, 3, none⟩ (riskLimitRequest looseApproval), .evaluate id ⟨4, 4, none⟩ (riskLimitRequest looseApproval)]

theorem single_use_iff_twice : Along (SingleUse sampleHost) (History.replay (nextUse sampleHost fun s => s) emptyEngine usedTwice).1 ↔
    Along (RetiredFirst sampleHost fun s => s) (History.replay (nextUse sampleHost fun s => s) emptyEngine usedTwice).1 :=
  single_use_iff (History.history_replay _ (nextUse_step sampleHost _) _ _)

/-- Both times it gets one. -/
theorem used_twice : ¬ Along (SingleUse sampleHost) (History.replay (nextUse sampleHost fun s => s) emptyEngine usedTwice).1 := by
  intro single
  have once := once_of_single single
    (deriveApprovalRequestId sampleHost "DIR-227" "CAP-RISK-LIMIT-UPDATE" (paramHash sampleHost riskLimit) "AI-CONTROL-PLANE" "CRITICAL" 0)
  exact absurd once (by decide +kernel)

end ControlPlane.Directive
