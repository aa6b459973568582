import ControlPlane.Directive.Approval
import ControlPlane.Directive.QueueCalls

/-!
# What the calls of an approval engine do

The records an engine writes are well formed and are read back as they were; on such
records a call is refused, creates a record, lets one expire, or moves one on.
-/

namespace ControlPlane.Directive

open ControlPlane.Data

/-- A record as the engine makes them. -/
structure ApprovalOf (id : String) (rec : Record) : Prop where
  identity : rec.get? "approval_request_id" = some (.str id)
  flat : Record.Flat rec
  directive : ∃ d, rec.get? "directive_id" = some (.str d)
  expires : ∃ x, rec.get? "expires_at" = some (.float x)
  state : ∃ s : ApprovalState, rec.get? "state" = some (.str s.value) ∧
    Record.field rec "consumed" = .bool (s = .consumed) ∧ Record.field rec "revoked" = .bool (s = .revoked)

abbrev Approvals : Records → Prop := RecordsOf ApprovalOf

/-- The state an approval is in. -/
def approvalState (records : Records) (id : String) : Option ApprovalState :=
  (records.get? (.str id)).bind fun rec => ApprovalState.ofValue? (Record.field rec "state")

variable {host : Host} {moment : Moment} {e : Engine} {records : Records} {rec : Record} {id id' : String} {s target : ApprovalState}

theorem approvalState_found (found : records.get? (.str id) = some rec) (state : rec.get? "state" = some (.str s.value)) :
    approvalState records id = some s := by
  unfold approvalState Record.field
  rw [found, Option.bind_some, state, Option.getD_some, ApprovalState.ofValue?_value]

theorem approvalState_set_self (state : rec.get? "state" = some (.str s.value)) :
    approvalState (records.set (.str id) rec) id = some s := approvalState_found Dict.get?_set_self state

theorem approvalState_set_of_ne (other : id ≠ id') : approvalState (records.set (.str id) rec) id' = approvalState records id' := by
  unfold approvalState
  rw [Dict.get?_set_of_ne fun same => other (Json.Key.str.inj same)]

/-! ### The file -/

theorem loadApprovals_eq (found : Records) (read : List (Option Json)) :
    loadApprovals found read = loadBy "approval_request_id" found read := by
  induction read generalizing found with
  | nil => rfl
  | cons v rest ih =>
    cases v with
    | none => rfl
    | some v =>
      cases v with
      | dict rec =>
        cases key : (Dict.get? rec "approval_request_id").bind Json.key? with
        | none => simp only [loadApprovals, loadBy, key]
        | some k => simp only [loadApprovals, loadBy, key, ih]
      | _ => rfl

/-- What an engine wrote is loaded. -/
theorem load_approvals (wf : Approvals records) : loadEngine host (some (queueText host records)) = records := by
  rw [loadEngine, loadApprovals_eq]
  exact wf.reload (fun _ _ approval => approval.identity) fun _ _ approval => approval.flat

/-! ### The records a call writes -/

theorem approvalOf_new {now : ℚ} {directiveId capabilityId parameterHash target riskClass : String} {ttlSeconds : PyFloat} :
    ApprovalOf id (newApproval now id directiveId capabilityId parameterHash target riskClass ttlSeconds) where
  identity := rfl
  flat := by
    refine ⟨?_, ?_⟩
    · simp [Dict.Distinct, Dict.keys, newApproval]
    · intro e member
      simp only [newApproval, List.mem_cons, List.not_mem_nil, or_false] at member
      rcases member with rfl | rfl | rfl | rfl | rfl | rfl | rfl | rfl | rfl | rfl | rfl | rfl <;> trivial
  directive := ⟨_, rfl⟩
  expires := ⟨_, rfl⟩
  state := ⟨.requested, rfl, rfl, rfl⟩

/-- The record after a transition. -/
def settled (now : ℚ) (target : ApprovalState) (approverId : Option String) (rec : Record) : Record :=
  (noted now target approverId rec).set "state" (.str target.value)

theorem settled_state {now : ℚ} {approverId : Option String} :
    (settled now target approverId rec).get? "state" = some (.str target.value) := Dict.get?_set_self

/-- The fields a transition may change. -/
def changeable : List String := ["state", "approver_id", "approval_timestamp", "revoked", "consumed"]

/-- A transition leaves every other field as it is. -/
theorem settled_get? {now : ℚ} {approverId : Option String} {k : String} (fixed : k ∉ changeable) :
    (settled now target approverId rec).get? k = rec.get? k := by
  simp only [changeable, List.mem_cons, List.not_mem_nil, or_false, not_or] at fixed
  obtain ⟨state, approver, timestamp, revoked, consumed⟩ := fixed
  unfold settled noted
  rw [Dict.get?_set_of_ne (Ne.symm state)]
  split
  · rw [Dict.get?_set_of_ne (Ne.symm timestamp), Dict.get?_set_of_ne (Ne.symm approver)]
  split
  · rw [Dict.get?_set_of_ne (Ne.symm revoked)]
  split
  · rw [Dict.get?_set_of_ne (Ne.symm consumed)]
  · rfl

theorem optionText_scalar (o : Option String) : Record.Scalar (optionText o) := by
  cases o <;> trivial

theorem noted_flat {now : ℚ} {approverId : Option String} (flat : Record.Flat rec) : Record.Flat (noted now target approverId rec) := by
  unfold noted
  split
  · exact (flat.set (optionText_scalar _)).set trivial
  split
  · exact flat.set trivial
  split
  · exact flat.set trivial
  · exact flat

/-- A transition raises the flag of its target, and that one only. -/
theorem settled_flags (now : ℚ) (target : ApprovalState) (approverId : Option String) (live : s ∉ ApprovalState.terminal)
    (consumed : Record.field rec "consumed" = .bool (s = .consumed)) (revoked : Record.field rec "revoked" = .bool (s = .revoked)) :
    Record.field (settled now target approverId rec) "consumed" = .bool (target = .consumed) ∧
    Record.field (settled now target approverId rec) "revoked" = .bool (target = .revoked) := by
  have notConsumed : s ≠ .consumed := by
    intro same
    rw [same] at live
    exact live (by decide)
  have notRevoked : s ≠ .revoked := by
    intro same
    rw [same] at live
    exact live (by decide)
  unfold settled noted
  cases target <;> simp [consumed, revoked, notConsumed, notRevoked]

theorem approvalOf_settled {now : ℚ} {approverId : Option String} (approval : ApprovalOf id rec)
    (state : rec.get? "state" = some (.str s.value)) (live : s ∉ ApprovalState.terminal) :
    ApprovalOf id (settled now target approverId rec) := by
  obtain ⟨t, state', consumed, revoked⟩ := approval.state
  rw [state] at state'
  obtain rfl : s = t := by
    have values : s.value = t.value := by simpa using state'
    have first := ApprovalState.ofValue?_value s
    rw [values, ApprovalState.ofValue?_value] at first
    exact (Option.some.inj first).symm
  obtain ⟨consumed', revoked'⟩ := settled_flags now target approverId live consumed revoked
  refine ⟨?_, (noted_flat approval.flat).set trivial, ?_, ?_, target, settled_state, consumed', revoked'⟩
  · rw [settled_get? (by decide)]
    exact approval.identity
  · rw [settled_get? (by decide)]
    exact approval.directive
  · rw [settled_get? (by decide)]
    exact approval.expires

/-! ### The cases of a call -/

/-- What a call on well-formed records does. -/
inductive EngineDid (host : Host) (moment : Moment) (e : Engine) : EngineCall → EngineOutcome → Prop
  | refused {call : EngineCall} (reason : String) : EngineDid host moment e call (e.refuse reason)
  | created {directiveId capabilityId parameterHash target riskClass actor : String} {ttlSeconds : PyFloat} {id : String}
      (named : id = deriveApprovalRequestId host directiveId capabilityId parameterHash target riskClass moment.now) :
      EngineDid host moment e (.create directiveId capabilityId parameterHash target riskClass ttlSeconds actor)
        (e.put host id (newApproval moment.now id directiveId capabilityId parameterHash target riskClass ttlSeconds)
          (approvalEvent host moment id (.str directiveId) "NONE" ApprovalState.requested.value actor []) none)
  | expired {id actor : String} {target curr : ApprovalState} {approverId : Option String} {rec : Record} {x : PyFloat}
      (found : e.records.get? (.str id) = some rec) (approval : ApprovalOf id rec)
      (state : rec.get? "state" = some (.str curr.value)) (live : curr ∉ ApprovalState.terminal)
      (expires : rec.get? "expires_at" = some (.float x)) (late : x < .fin moment.now) :
      EngineDid host moment e (.transition id target actor approverId)
        (e.put host id (settled moment.now .expired none rec)
          (approvalEvent host moment id (Record.field rec "directive_id") curr.value ApprovalState.expired.value "SYSTEM_TTL" [])
          (some "EXPIRED_APPROVAL_REJECTED"))
  | moved {id actor : String} {target curr : ApprovalState} {approverId : Option String} {rec : Record} {x : PyFloat}
      (found : e.records.get? (.str id) = some rec) (approval : ApprovalOf id rec)
      (state : rec.get? "state" = some (.str curr.value)) (valid : target ∈ curr.validTransitions)
      (expires : rec.get? "expires_at" = some (.float x)) (inTime : ¬ x < .fin moment.now)
      (approver : target = .approved → approverRejection rec actor approverId = none) :
      EngineDid host moment e (.transition id target actor approverId)
        (e.put host id (settled moment.now target approverId rec)
          (approvalEvent host moment id (Record.field rec "directive_id") curr.value target.value actor
            [("approver", optionText approverId)]) none)

theorem transition_did {actor : String} {approverId : Option String} (wf : Approvals e.records) :
    EngineDid host moment e (.transition id target actor approverId) (transitionApproval host moment e id target actor approverId) := by
  unfold transitionApproval
  cases found : e.records.get? (.str id) with
  | none => exact .refused _
  | some rec =>
    have approval := wf.record found
    obtain ⟨curr, state, -, -⟩ := approval.state
    obtain ⟨x, expires⟩ := approval.expires
    have filled : rec.isEmpty = false := by
      cases rec with
      | nil => cases state
      | cons entry rest => rfl
    dsimp only
    rw [filled, if_neg (by decide), state]
    dsimp only
    rw [ApprovalState.ofValue?_value]
    dsimp only
    rw [expires]
    dsimp only [Json.number?]
    split
    · rename_i late
      exact .expired found approval state late.2 expires late.1
    rename_i inTime
    split
    · exact .refused _
    rename_i live
    split
    · exact .refused _
    rename_i valid
    rw [Decidable.not_not] at valid
    have early : ¬ x < .fin moment.now := fun late => inTime ⟨late, live⟩
    by_cases approve : target = .approved
    · rw [if_pos approve]
      cases rejection : approverRejection rec actor approverId with
      | some reason => exact .refused reason
      | none => exact .moved found approval state valid expires early fun _ => rejection
    · rw [if_neg approve]
      exact .moved found approval state valid expires early fun same => absurd same approve

theorem engineDid (host : Host) (moment : Moment) {e : Engine} (call : EngineCall) (wf : Approvals e.records) :
    EngineDid host moment e call (performEngine host moment e call) := by
  cases call with
  | create => exact .created rfl
  | transition => exact transition_did wf

end ControlPlane.Directive
