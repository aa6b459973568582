import ControlPlane.Directive.Capability

/-!
# What stands behind a token

A token for a critical capability was asked for with approval data that name its directive and its
parameters. The record of the approval is optional in these data, and checked wherever it is there.
-/

namespace ControlPlane.Directive

open ControlPlane.Data

variable {host : Host} {lower : String → String} {moment : AuthorizationMoment} {r : AuthorizationRequest}
  {token : ExecutionAuthorizationToken} {now : ℚ} {rec : Record} {directiveId capabilityId parameterHash target riskClass : String}

/-- The record is approved, in time, neither used nor revoked, and made for exactly this. -/
structure LiveApproval (host : Host) (now : ℚ) (rec : Record) (directiveId capabilityId parameterHash target riskClass : String) :
    Prop where
  approved : host.shown ((rec.get? "state").getD (.str "")) = ApprovalState.approved.value
  unused : ((rec.get? "consumed").getD (.bool false)).truthy = false
  standing : ((rec.get? "revoked").getD (.bool false)).truthy = false
  inTime : ∃ x, ((rec.get? "expires_at").getD (.int 0)).number? = some x ∧ ¬ x < .fin now
  directive : Record.field rec "directive_id" = .str directiveId
  capability : Record.field rec "capability_id" = .str capabilityId
  parameters : Record.field rec "parameter_hash" = .str parameterHash
  target : Record.field rec "target" = .str target
  risk : Record.field rec "risk_class" = .str riskClass

/-- Revalidation accepts exactly the live approvals. -/
theorem revalidate_iff : revalidateApproval host now rec directiveId capabilityId parameterHash target riskClass = .ok none ↔
    LiveApproval host now rec directiveId capabilityId parameterHash target riskClass := by
  have named {k s : String} : (Record.field rec k).str? = some s ↔ Record.field rec k = .str s := by
    constructor
    · exact Json.str?_some
    · intro same
      rw [same]
      rfl
  constructor
  · intro accepted
    unfold revalidateApproval at accepted
    dsimp only at accepted
    split at accepted
    · cases accepted
    split at accepted
    · cases accepted
    rename_i unused
    split at accepted
    · cases accepted
    rename_i standing
    split at accepted
    · cases accepted
    rename_i approved
    split at accepted
    · cases accepted
    rename_i x expires
    split at accepted
    · cases accepted
    rename_i inTime
    split at accepted
    · cases accepted
    rename_i directive
    split at accepted
    · cases accepted
    rename_i capability
    split at accepted
    · cases accepted
    rename_i parameters
    split at accepted
    · cases accepted
    rename_i target
    split at accepted
    · cases accepted
    rename_i risk
    rw [not_or] at unused standing
    rw [ne_eq, Decidable.not_not] at approved
    rw [ne_eq, Decidable.not_not, named] at directive capability parameters target risk
    exact ⟨approved, Bool.not_eq_true _ ▸ unused.1, Bool.not_eq_true _ ▸ standing.1, ⟨x, expires, inTime⟩, directive, capability,
      parameters, target, risk⟩
  · intro live
    obtain ⟨x, expires, inTime⟩ := live.inTime
    have filled : rec.isEmpty = false := by
      cases rec with
      | nil => cases live.directive
      | cons entry rest => rfl
    unfold revalidateApproval
    dsimp only
    rw [filled, if_neg (by decide), live.approved, live.unused, live.standing, if_neg (by decide), if_neg (by decide),
      if_neg (by decide), expires]
    dsimp only
    rw [if_neg inTime, live.directive, live.capability, live.parameters, live.target, live.risk]
    simp [Json.str?]

/-- The approval data name this directive and these parameters, and a record in them is a live approval. -/
structure Bound (host : Host) (now : ℚ) (r : AuthorizationRequest) (token : ExecutionAuthorizationToken) (data : Record) : Prop where
  directive : Record.field data "directive_id" = .str r.directiveId
  parameters : Record.field data "parameter_hash" = .str (paramHash host r.parameters)
  approval : token.approvalId = Record.field data "approval_id"
  record : (Record.field data "rec").truthy = true → ∃ rec, Record.field data "rec" = .dict rec ∧
    revalidateApproval host now rec r.directiveId r.capabilityId (paramHash host r.parameters) r.requestedTarget token.riskClass =
      .ok none ∧
    LiveApproval host now rec r.directiveId r.capabilityId (paramHash host r.parameters) r.requestedTarget token.riskClass

theorem issued_token (issued : (issueToken host moment r).result = .ok (.ok token)) : token = tokenFor host moment.created r := by
  unfold issueToken at issued
  dsimp only at issued
  split at issued
  · cases issued
    rfl
  · split at issued
    · cases issued
      rfl
    · cases issued

theorem token_passed (critical : needsApproval r.capabilityId = true)
    (issued : (evaluateExecutionAuthorization host lower moment r).result = .ok (.ok token)) :
    policyRejection host lower r = none ∧ approvalRejection host moment.checked r = .ok none ∧
      token = tokenFor host moment.created r := by
  unfold evaluateExecutionAuthorization at issued
  split at issued
  · cases issued
  rename_i allowed
  rw [if_pos critical] at issued
  split at issued
  · cases issued
  · cases issued
  rename_i approved
  exact ⟨allowed, approved, issued_token issued⟩

theorem approval_bound (critical : needsApproval r.capabilityId = true) (approved : approvalRejection host moment.checked r = .ok none) :
    ∃ data, r.humanApprovalData = some data ∧ Bound host moment.checked r (tokenFor host moment.created r) data := by
  unfold approvalRejection at approved
  dsimp only at approved
  split at approved
  · cases approved
  rename_i filled
  split at approved
  · cases approved
  · cases approved
  rename_i record
  split at approved
  · cases approved
  rename_i directive
  split at approved
  · cases approved
  rename_i parameters
  cases given : r.humanApprovalData with
  | none =>
    rw [given] at filled
    exact absurd rfl filled
  | some data =>
    rw [given] at record directive parameters
    rw [ne_eq, Decidable.not_not] at directive parameters
    refine ⟨data, rfl, Json.str?_some directive, Json.str?_some parameters, ?_, ?_⟩
    · unfold tokenFor
      dsimp only
      rw [given, if_pos critical]
      rfl
    · intro there
      unfold recordRejection at record
      rw [Option.getD_some, if_pos there] at record
      split at record
      · rename_i fields is
        exact ⟨fields, is, record, revalidate_iff.mp record⟩
      · cases record

/-- The parameters of a new risk limit. -/
def riskLimit : Record := [("max_limit", .int 500), ("reason", .str "test")]

/-- A request for a new risk limit, with these approval data. -/
def riskLimitRequest (data : Record) : AuthorizationRequest :=
  ⟨"DIR-227", "CAP-RISK-LIMIT-UPDATE", riskLimit, "AI-CONTROL-PLANE", some data, none⟩

/-- Approval data that name the directive and the parameters, and carry no record. -/
def looseApproval : Record :=
  [("directive_id", .str "DIR-227"), ("parameter_hash", .str (paramHash sampleHost riskLimit)), ("approval_id", .str "APP-227")]

end ControlPlane.Directive
