import ControlPlane.Directive.Approval
import Mathlib.Data.List.Infix

/-!
# Execution authorization

`capability_policy.py`: the closed list of capabilities, the checks a request has to pass, and the
token it gets. A critical capability also needs human approval.
-/

namespace ControlPlane.Directive

open ControlPlane.Data

inductive RiskClass where
  | readOnly
  | lowRiskWrite
  | controlledWrite
  | critical
  deriving DecidableEq

def RiskClass.value : RiskClass → String
  | readOnly => "READ_ONLY"
  | lowRiskWrite => "LOW_RISK_WRITE"
  | controlledWrite => "CONTROLLED_WRITE"
  | critical => "CRITICAL"

/-- The types that occur in a schema. -/
inductive ParamType where
  | str
  | int

/-- `isinstance(value, expected_type)`, where a boolean is an integer. -/
def ParamType.isInstance : ParamType → Json → Bool
  | str, .str _ => true
  | int, .int _ => true
  | int, .bool _ => true
  | _, _ => false

structure Capability where
  allowedTargets : List String
  riskClass : RiskClass
  humanApprovalRequired : Bool
  parametersSchema : Dict String ParamType

/-- `CAPABILITY_ALLOWLIST` -/
def capabilityAllowlist : Dict String Capability :=
  [("CAP-GIT-STATUS", ⟨["AI-CONTROL-PLANE", "Oracle", "Micro"], .readOnly, false, []⟩),
    ("CAP-GIT-FETCH", ⟨["AI-CONTROL-PLANE"], .readOnly, false, [("remote", .str)]⟩),
    ("CAP-QUEUE-RECONCILE", ⟨["AI-CONTROL-PLANE"], .lowRiskWrite, false, [("queue_file", .str)]⟩),
    ("CAP-RISK-LIMIT-UPDATE", ⟨["AI-CONTROL-PLANE"], .critical, true, [("max_limit", .int), ("reason", .str)]⟩)]

/-- `FORBIDDEN_WILDCARDS` -/
def forbiddenWildcards : List String := ["*", "ANY", "ALL", "shell", "arbitrary_command", "exec", "eval"]

/-- The characters of `SHELL_METACHARS_PATTERN`. -/
def shellMetachars : String := ";&|`$><()\\"

/-- `FORBIDDEN_PRIVILEGE_KEYWORDS` -/
def forbiddenPrivilegeKeywords : List String :=
  ["sudo", "admin", "root", "chmod", "chown", "password", "secret", "disable_security", "override_governance", "bypass_policy"]

/-- `kw in s` -/
def occursIn (kw s : String) : Bool := decide (kw.toList <:+: s.toList)

/-- `derive_risk_class` -/
def deriveRiskClass (capabilityId : String) (selfDeclaredRisk : Option String) : RiskClass × Bool :=
  match capabilityAllowlist.get? capabilityId with
  | none => (.critical, false)
  | some capInfo =>
    let declared := selfDeclaredRisk.getD ""
    (capInfo.riskClass, declared = "" ∨ declared = capInfo.riskClass.value)

/-- The checks of one parameter, in the order of the source; none where they all pass. -/
def parameterRejection (lower : String → String) (schema : Dict String ParamType) (paramName : String) (value : Json) : Option String :=
  match schema.get? paramName with
  | none => some "UNKNOWN_PARAMETER_REJECTED"
  | some expectedType =>
    if expectedType.isInstance value = false then some "INVALID_PARAMETER_TYPE_REJECTED"
    else match value.str? with
      | none => none
      | some s =>
        if s.toList.any (· ∈ shellMetachars.toList) then some "SHELL_INJECTION_REJECTED"
        else if occursIn ".." s then some "PATH_TRAVERSAL_REJECTED"
        else if forbiddenPrivilegeKeywords.any (occursIn · (lower s)) then some "PRIVILEGE_ESCALATION_REJECTED"
        else if paramName = "remote" ∧ ¬ (s = "origin" ∨ s = "upstream" ∨ "refs/heads/".toList.isPrefixOf s.toList) then
          some "UNAUTHORIZED_REMOTE_REJECTED"
        else none

/-- The immutable token an executor gets. -/
structure ExecutionAuthorizationToken where
  directiveId : String
  capabilityId : String
  parameterHash : String
  target : String
  riskClass : String
  approvalId : Json
  createdAt : ℚ
  tokenHash : String

/-- What a request asks for; `lower` is `str.lower`. -/
structure AuthorizationRequest where
  directiveId : String
  capabilityId : String
  parameters : Record
  requestedTarget : String
  humanApprovalData : Option Record
  selfDeclaredRisk : Option String

/-- What the call learns from outside: two readings of `time.time()`, and what it meets in the audit trail, if it was given one. -/
structure AuthorizationMoment where
  checked : ℚ
  created : ℚ
  auditTrail : Option (String × Option String × Bool)

structure AuthorizationOutcome where
  result : Except Fault (Except String ExecutionAuthorizationToken)
  decision : Option Record

section

variable (host : Host) (lower : String → String)

/-- `param_str` -/
def paramText (parameters : Record) : String := Json.dumps host.floats.repr { sortKeys := true } (.dict parameters)

def paramHash (parameters : Record) : String := host.sha256 (paramText host parameters)

/-- The checks before the human approval; none where they all pass. -/
def policyRejection (r : AuthorizationRequest) : Option String :=
  if r.directiveId = "" ∨ r.capabilityId = "" then some "DENY_BY_DEFAULT_MISSING_IDENTIFIER"
  else if r.capabilityId ∈ forbiddenWildcards then some "WILDCARD_CAPABILITY_REJECTED"
  else match capabilityAllowlist.get? r.capabilityId with
    | none => some "UNKNOWN_CAPABILITY_REJECTED"
    | some capInfo =>
      if 65536 < (paramText host r.parameters).length then some "OVERSIZED_INPUT_REJECTED"
      else match r.parameters.findSome? fun e => parameterRejection lower capInfo.parametersSchema e.1 e.2 with
        | some reason => some reason
        | none =>
          if capInfo.parametersSchema.any fun e => e.1 ∉ r.parameters.keys then some "STRICT_PARAMETER_SCHEMA_ENFORCED"
          else if r.requestedTarget ∉ capInfo.allowedTargets then some "OUT_OF_SCOPE_TARGET_REJECTED"
          else if (deriveRiskClass r.capabilityId r.selfDeclaredRisk).2 = false then
            some "SELF_DECLARED_LOW_RISK_BYPASS_REJECTED"
          else none

/-- The capability needs human approval. -/
def needsApproval (capabilityId : String) : Bool :=
  match capabilityAllowlist.get? capabilityId with
  | none => false
  | some capInfo => capInfo.humanApprovalRequired || capInfo.riskClass = .critical

/-- The check of `rec`, made only if there is one. -/
def recordRejection (now : ℚ) (rec : Json) (directiveId capabilityId parameterHash target riskClass : String) :
    Except Fault (Option String) :=
  if rec.truthy then
    match rec with
    | .dict fields => revalidateApproval host now fields directiveId capabilityId parameterHash target riskClass
    | _ => .error .attributeError
  else .ok none

/-- The checks of the human approval; none where they all pass. -/
def approvalRejection (now : ℚ) (r : AuthorizationRequest) : Except Fault (Option String) :=
  let data := r.humanApprovalData.getD []
  let computed := paramHash host r.parameters
  if data.isEmpty then .ok (some "MISSING_HUMAN_APPROVAL_BLOCKED")
  else match recordRejection host now (Record.field data "rec") r.directiveId r.capabilityId computed r.requestedTarget
      (deriveRiskClass r.capabilityId r.selfDeclaredRisk).1.value with
    | .error fault => .error fault
    | .ok (some reason) => .ok (some reason)
    | .ok none =>
      if (Record.field data "directive_id").str? ≠ some r.directiveId then .ok (some "APPROVAL_SCOPE_BOUND_TO_ACTION")
      else if (Record.field data "parameter_hash").str? ≠ some computed then .ok (some "APPROVAL_SCOPE_BOUND_TO_PARAMETERS")
      else .ok none

def pyBool (b : Bool) : String := if b then "True" else "False"

/-- The token of a request that passed. -/
def tokenFor (created : ℚ) (r : AuthorizationRequest) : ExecutionAuthorizationToken :=
  let risk := (deriveRiskClass r.capabilityId r.selfDeclaredRisk).1.value
  let approvalId := if needsApproval r.capabilityId then Record.field (r.humanApprovalData.getD []) "approval_id" else .null
  let hash := paramHash host r.parameters
  let raw := r.directiveId ++ ":" ++ r.capabilityId ++ ":" ++ hash ++ ":" ++ r.requestedTarget ++ ":" ++ risk ++ ":" ++
    host.shown approvalId ++ ":" ++ String.ofList (host.floats.repr created)
  ⟨r.directiveId, r.capabilityId, hash, r.requestedTarget, risk, approvalId, created, host.sha256 raw⟩

/-- `AuthorizationAuditTrail.append_decision` for a token: the record it appends. -/
def decisionRecord (token : ExecutionAuthorizationToken) (humanApprovalRequired : Bool) (ts : String) (auditFile : Option String) : Record :=
  let prevHash := previousHash host auditFile
  let body := token.directiveId ++ ":" ++ token.capabilityId ++ ":" ++ token.target ++ ":" ++ token.parameterHash ++ ":" ++
    token.riskClass ++ ":" ++ pyBool humanApprovalRequired ++ ":" ++ host.shown token.approvalId ++ ":" ++ pyBool true ++ ":" ++
    "None" ++ ":" ++ ts ++ ":" ++ host.shown prevHash
  [("directive_id", .str token.directiveId), ("capability_id", .str token.capabilityId), ("requested_target", .str token.target),
    ("parameter_hash", .str token.parameterHash), ("derived_risk_class", .str token.riskClass),
    ("human_approval_required", .bool humanApprovalRequired), ("approval_id", token.approvalId), ("authorized", .bool true),
    ("rejection_reason", .null), ("timestamp", .str ts), ("previous_event_hash", prevHash), ("event_hash", .str (host.sha256 body))]

/-- A request that passed: its decision is recorded, where there is an audit trail, and its token returned. -/
def issueToken (moment : AuthorizationMoment) (r : AuthorizationRequest) : AuthorizationOutcome :=
  let token := tokenFor host moment.created r
  match moment.auditTrail with
  | none => ⟨.ok (.ok token), none⟩
  | some (ts, auditFile, appended) =>
    let required := ((capabilityAllowlist.get? r.capabilityId).map (·.humanApprovalRequired)).getD false
    if appended then ⟨.ok (.ok token), some (decisionRecord host token required ts auditFile)⟩
    else ⟨.error .osError, none⟩

/-- `evaluate_execution_authorization` -/
def evaluateExecutionAuthorization (moment : AuthorizationMoment) (r : AuthorizationRequest) : AuthorizationOutcome :=
  match policyRejection host lower r with
  | some reason => ⟨.ok (.error reason), none⟩
  | none =>
    if needsApproval r.capabilityId then
      match approvalRejection host moment.checked r with
      | .error fault => ⟨.error fault, none⟩
      | .ok (some reason) => ⟨.ok (.error reason), none⟩
      | .ok none => issueToken host moment r
    else issueToken host moment r

end

end ControlPlane.Directive
