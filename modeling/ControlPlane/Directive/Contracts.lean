import ControlPlane.Data.Check
import ControlPlane.Directive.Capability

/-!
# Directives: their schema and their parsers

`schema_validator.py`, and of `contracts.py` the payload and the envelope of a directive with
`from_dict`. The watcher validates one document and parses two dictionaries inside it.
-/

namespace ControlPlane.Directive

open ControlPlane.Data

section

variable (host : Host)

/-! ### Conversions -/

/-- `list(v)` -/
def listOf : Json → Except Fault (List Json)
  | .list xs => .ok xs
  | .str s => .ok (s.toList.map fun c => .str (String.singleton c))
  | .dict es => .ok (es.map fun e => .str e.1)
  | _ => .error .typeError

/-- A key of a dictionary as `json.dumps` writes it. -/
def keyText : Json → String
  | .str s => s
  | v => Json.dumps host.floats.repr {} v

/-- The loop of `dict(items)`: every item is a key and its value. -/
def dictOfItems : Dict Json.Key (String × Json) → List Json → Except Fault Record
  | d, [] => .ok (d.map (·.2))
  | d, item :: rest =>
    match listOf item with
    | .error fault => .error fault
    | .ok [k, v] =>
      match k.key? with
      | none => .error .typeError
      | some key =>
        -- a key that is there stays as it was first written
        let text := ((d.get? key).map (·.1)).getD (keyText host k)
        dictOfItems (d.set key (text, v)) rest
    | .ok _ => .error .valueError

/-- `dict(v)` -/
def dictOf : Json → Except Fault Record
  | .dict es => .ok es
  | v =>
    match listOf v with
    | .error fault => .error fault
    | .ok items => dictOfItems host [] items

/-- `str(d.get(key, ""))` -/
def textOf (d : Record) (key : String) : String := host.shown ((Dict.get? d key).getD (.str ""))

/-- `str(d.get(key, d.get(other, "")))` -/
def aliasOf (d : Record) (key other : String) : String :=
  host.shown ((Dict.get? d key).getD ((Dict.get? d other).getD (.str "")))

/-- `bool(d.get(key, False))` -/
def flagOf (d : Record) (key : String) : Bool := ((Dict.get? d key).getD (.bool false)).truthy

/-- The dictionary under `key`, if there is one. -/
def under (key : String) (d : Record) : Record :=
  match Dict.get? d key with
  | some (.dict inner) => inner
  | _ => d

/-- How both parsers choose their dictionary. -/
def chosen (key : String) : Json → Except Fault Record
  | .dict d => .ok (under key d)
  | .str s => .error (if occursIn key s then .typeError else .attributeError)
  | .list xs => .error (if xs.any fun x => x.str? = some key then .typeError else .attributeError)
  | _ => .error .typeError

/-! ### Contracts -/

inductive ValidationStatus where
  | authentic
  | invalidSource
  | commitNotFound
  | commitExistsButDirectiveAbsent
  | notInApprovedBranch
  | contentMismatch
  | replayDetected
  | expired
  | clockSkewExceeded
  | schemaInvalid
  | actionNotAllowed
  | failClosedGithubUnavailable
  | commitSignatureMissing
  | commitSignatureInvalid
  | untrustedCommitSigner
  | payloadCommitNotReachable
  | remoteBranchUnavailable
  | stateConflict
  | queueCorruption
  | queuePersistenceFailure
  | queueRecordMismatch
  | toctouRevalidationFailed
  deriving DecidableEq

def ValidationStatus.value : ValidationStatus → String
  | authentic => "AUTHENTIC"
  | invalidSource => "INVALID_SOURCE"
  | commitNotFound => "COMMIT_NOT_FOUND"
  | commitExistsButDirectiveAbsent => "COMMIT_EXISTS_BUT_DIRECTIVE_ABSENT"
  | notInApprovedBranch => "NOT_IN_APPROVED_BRANCH"
  | contentMismatch => "CONTENT_MISMATCH"
  | replayDetected => "REPLAY_DETECTED"
  | expired => "EXPIRED"
  | clockSkewExceeded => "CLOCK_SKEW_EXCEEDED"
  | schemaInvalid => "SCHEMA_INVALID"
  | actionNotAllowed => "ACTION_NOT_ALLOWED"
  | failClosedGithubUnavailable => "FAIL_CLOSED_GITHUB_UNAVAILABLE"
  | commitSignatureMissing => "COMMIT_SIGNATURE_MISSING"
  | commitSignatureInvalid => "COMMIT_SIGNATURE_INVALID"
  | untrustedCommitSigner => "UNTRUSTED_COMMIT_SIGNER"
  | payloadCommitNotReachable => "PAYLOAD_COMMIT_NOT_REACHABLE"
  | remoteBranchUnavailable => "REMOTE_BRANCH_UNAVAILABLE"
  | stateConflict => "STATE_CONFLICT"
  | queueCorruption => "QUEUE_CORRUPTION"
  | queuePersistenceFailure => "QUEUE_PERSISTENCE_FAILURE"
  | queueRecordMismatch => "QUEUE_RECORD_MISMATCH"
  | toctouRevalidationFailed => "TOCTOU_REVALIDATION_FAILED"

structure DirectivePayload where
  directiveVersion : String
  directiveId : String
  project : String
  targetProject : String
  targetStage : String
  actionType : String
  action : String
  createdAt : String
  expiresAt : String
  issuedBy : String
  requiresHumanApproval : Bool
  allowedScope : List Json
  preconditions : Record
  successCriteria : Record
  failurePolicy : String
  rollbackPolicy : String
  payload : Record

def DirectivePayload.toDict (p : DirectivePayload) : Record :=
  [("directive_version", .str p.directiveVersion), ("directive_id", .str p.directiveId), ("project", .str p.project),
    ("target_project", .str p.targetProject), ("target_stage", .str p.targetStage), ("action_type", .str p.actionType),
    ("action", .str p.action), ("created_at", .str p.createdAt), ("expires_at", .str p.expiresAt),
    ("issued_by", .str p.issuedBy), ("requires_human_approval", .bool p.requiresHumanApproval),
    ("allowed_scope", .list p.allowedScope), ("preconditions", .dict p.preconditions),
    ("success_criteria", .dict p.successCriteria), ("failure_policy", .str p.failurePolicy),
    ("rollback_policy", .str p.rollbackPolicy), ("payload", .dict p.payload)]

/-- The fields of a payload that are converted by `str`. -/
def DirectivePayload.texts : List (String × (DirectivePayload → String)) :=
  [("directive_version", (·.directiveVersion)), ("directive_id", (·.directiveId)), ("project", (·.project)),
    ("target_project", (·.targetProject)), ("target_stage", (·.targetStage)), ("action_type", (·.actionType)),
    ("action", (·.action)), ("created_at", (·.createdAt)), ("expires_at", (·.expiresAt)), ("issued_by", (·.issuedBy)),
    ("failure_policy", (·.failurePolicy)), ("rollback_policy", (·.rollbackPolicy))]

/-- The fields of a payload that are converted by `dict`. -/
def DirectivePayload.dicts : List (String × (DirectivePayload → Record)) :=
  [("preconditions", (·.preconditions)), ("success_criteria", (·.successCriteria)), ("payload", (·.payload))]

/-- The payload of a dictionary, its list and its dictionaries converted. -/
def DirectivePayload.ofFields (d : Record) (allowedScope : List Json) (preconditions successCriteria payload : Record) :
    DirectivePayload where
  directiveVersion := textOf host d "directive_version"
  directiveId := textOf host d "directive_id"
  project := textOf host d "project"
  targetProject := textOf host d "target_project"
  targetStage := textOf host d "target_stage"
  actionType := textOf host d "action_type"
  action := textOf host d "action"
  createdAt := textOf host d "created_at"
  expiresAt := textOf host d "expires_at"
  issuedBy := textOf host d "issued_by"
  requiresHumanApproval := flagOf d "requires_human_approval"
  allowedScope := allowedScope
  preconditions := preconditions
  successCriteria := successCriteria
  failurePolicy := textOf host d "failure_policy"
  rollbackPolicy := textOf host d "rollback_policy"
  payload := payload

/-- `dict(d.get(key, {}))` -/
def dictField (d : Record) (key : String) : Except Fault Record := dictOf host ((Dict.get? d key).getD (.dict []))

/-- `list(d.get(key, []))` -/
def listField (d : Record) (key : String) : Except Fault (List Json) := listOf ((Dict.get? d key).getD (.list []))

/-- `DirectivePayload.from_dict` -/
def DirectivePayload.fromDict (v : Json) : Except Fault DirectivePayload := do
  let d ← chosen "payload_object" v
  let allowedScope ← listField d "allowed_scope"
  let preconditions ← dictField host d "preconditions"
  let successCriteria ← dictField host d "success_criteria"
  let payload ← dictField host d "payload"
  return ofFields host d allowedScope preconditions successCriteria payload

structure DirectiveEnvelope where
  directiveId : String
  payloadCommitSha : String
  payloadBlobSha : String
  payloadSha256 : String
  trustedRemote : String
  trustedBranch : String
  authenticationVersion : String := "2.0"
  signaturePresent : Bool := false
  signatureValid : Bool := false
  signerIdentity : String := ""
  signerAllowed : Bool := false

def DirectiveEnvelope.ofFields (d : Record) : DirectiveEnvelope where
  directiveId := textOf host d "directive_id"
  payloadCommitSha := aliasOf host d "payload_commit_sha" "source_commit_sha"
  payloadBlobSha := textOf host d "payload_blob_sha"
  payloadSha256 := textOf host d "payload_sha256"
  trustedRemote := aliasOf host d "trusted_remote" "source_repository"
  trustedBranch := aliasOf host d "trusted_branch" "source_branch"
  authenticationVersion := host.shown ((Dict.get? d "authentication_version").getD (.str "2.0"))
  signaturePresent := flagOf d "signature_present"
  signatureValid := flagOf d "signature_valid"
  signerIdentity := textOf host d "signer_identity"
  signerAllowed := flagOf d "signer_allowed"

/-- `DirectiveEnvelope.from_dict` -/
def DirectiveEnvelope.fromDict (v : Json) : Except Fault DirectiveEnvelope := do
  let d ← chosen "envelope" v
  return ofFields host d

/-- What `poll_inbox` parses of a document it has validated. -/
def built (raw : Record) : Except Fault (DirectivePayload × DirectiveEnvelope) := do
  let payload ← DirectivePayload.fromDict host ((Dict.get? raw "payload_object").getD (.dict raw))
  let envelope ← DirectiveEnvelope.fromDict host ((Dict.get? raw "envelope").getD (.dict raw))
  return (payload, envelope)

/-! ### The schema -/

/-- `REQUIRED_DIRECTIVE_FIELDS` -/
def requiredDirectiveFields : List String :=
  ["directive_version", "directive_id", "project", "target_project", "target_stage", "action_type", "action", "created_at",
    "expires_at", "issued_by", "source_repository", "source_branch", "source_commit_sha", "requires_human_approval",
    "allowed_scope", "preconditions", "success_criteria", "failure_policy", "rollback_policy", "payload"]

def stringFields : List String :=
  ["directive_version", "directive_id", "project", "target_project", "target_stage", "action_type", "action", "created_at",
    "expires_at", "issued_by", "source_repository", "source_branch", "source_commit_sha", "failure_policy",
    "rollback_policy"]

def dictFields : List String := ["preconditions", "success_criteria", "payload"]

/-- `isinstance(v, str) and v.strip()` -/
def isText : Json → Bool
  | .str s => s.toList.any fun c => !isSpace c
  | _ => false

def isBool : Json → Bool
  | .bool _ => true
  | _ => false

def isList : Json → Bool
  | .list _ => true
  | _ => false

def isDict : Json → Bool
  | .dict _ => true
  | _ => false

def missingFields (raw : Record) : List String := requiredDirectiveFields.filter fun f => (Dict.get? raw f).isNone

/-- The fields of `DirectiveSchemaValidator.validate`. -/
def validateFields (raw : Record) : Except String String :=
  if !(missingFields raw).isEmpty then
    .error ("SCHEMA_INVALID: Missing required directive fields: " ++ ", ".intercalate (missingFields raw))
  else
    match stringFields.find? fun sf => !isText (Record.field raw sf) with
    | some sf => .error ("SCHEMA_INVALID: Field '" ++ sf ++ "' must be a non-empty string")
    | none =>
      if !isBool (Record.field raw "requires_human_approval") then
        .error "SCHEMA_INVALID: Field 'requires_human_approval' must be a boolean"
      else if !isList (Record.field raw "allowed_scope") then
        .error "SCHEMA_INVALID: Field 'allowed_scope' must be a list"
      else
        match dictFields.find? fun df => !isDict (Record.field raw df) with
        | some df => .error ("SCHEMA_INVALID: Field '" ++ df ++ "' must be a JSON object (dict)")
        | none => .ok "SCHEMA_VALID"

/-- `DirectiveSchemaValidator.validate`: its message, as an error where it answers `False`. -/
def validate : Json → Except String String
  | .dict raw => validateFields raw
  | _ => .error "SCHEMA_INVALID: Directive content is not a valid JSON object"

end

/-! ### What a document that is accepted has -/

/-- The fields of a document that was accepted. -/
structure Valid (raw : Record) : Prop where
  texts : ∀ f ∈ stringFields, ∃ s, Dict.get? raw f = some (.str s)
  human : ∃ b, Dict.get? raw "requires_human_approval" = some (.bool b)
  scope : ∃ xs, Dict.get? raw "allowed_scope" = some (.list xs)
  dicts : ∀ f ∈ dictFields, ∃ es, Dict.get? raw f = some (.dict es)

section

variable {raw : Record} {f message : String} {v : Json}

theorem get?_of_field (found : Record.field raw f = v) (other : v ≠ .null) : Dict.get? raw f = some v := by
  unfold Record.field at found
  cases entry : Dict.get? raw f with
  | none =>
    rw [entry, Option.getD_none] at found
    exact absurd found.symm other
  | some w => rw [← found, entry, Option.getD_some]

theorem isText_some (text : isText (Record.field raw f) = true) : ∃ s, Dict.get? raw f = some (.str s) := by
  cases value : Record.field raw f with
  | str s => exact ⟨s, get?_of_field value (by simp)⟩
  | _ => simp [value, isText] at text

theorem isBool_some (bool : isBool (Record.field raw f) = true) : ∃ b, Dict.get? raw f = some (.bool b) := by
  cases value : Record.field raw f with
  | bool b => exact ⟨b, get?_of_field value (by simp)⟩
  | _ => simp [value, isBool] at bool

theorem isList_some (list : isList (Record.field raw f) = true) : ∃ xs, Dict.get? raw f = some (.list xs) := by
  cases value : Record.field raw f with
  | list xs => exact ⟨xs, get?_of_field value (by simp)⟩
  | _ => simp [value, isList] at list

theorem isDict_some (dict : isDict (Record.field raw f) = true) : ∃ es, Dict.get? raw f = some (.dict es) := by
  cases value : Record.field raw f with
  | dict es => exact ⟨es, get?_of_field value (by simp)⟩
  | _ => simp [value, isDict] at dict

theorem validateFields_valid (accepted : validateFields raw = .ok message) : Valid raw := by
  unfold validateFields at accepted
  split at accepted
  · cases accepted
  split at accepted
  · cases accepted
  rename_i texts
  split at accepted
  · cases accepted
  rename_i human
  split at accepted
  · cases accepted
  rename_i scope
  split at accepted
  · cases accepted
  rename_i dicts
  refine ⟨fun g member => ?_, isBool_some (by simpa using human), isList_some (by simpa using scope), fun g member => ?_⟩
  · have text := List.find?_eq_none.mp texts g member
    exact isText_some (by simpa using text)
  · have dict := List.find?_eq_none.mp dicts g member
    exact isDict_some (by simpa using dict)

theorem validate_dict {v : Json} (accepted : validate v = .ok message) : ∃ raw, v = .dict raw ∧ Valid raw := by
  cases v with
  | dict raw => exact ⟨raw, rfl, validateFields_valid accepted⟩
  | _ => cases accepted

end

/-! ### What is validated is what is used -/

/-- Every field of the payload and of the source in the envelope has the validated value. -/
structure Mirrors (raw : Record) (p : DirectivePayload) (e : DirectiveEnvelope) : Prop where
  texts : ∀ f ∈ DirectivePayload.texts, Dict.get? raw f.1 = some (.str (f.2 p))
  human : Dict.get? raw "requires_human_approval" = some (.bool p.requiresHumanApproval)
  scope : Dict.get? raw "allowed_scope" = some (.list p.allowedScope)
  dicts : ∀ f ∈ DirectivePayload.dicts, Dict.get? raw f.1 = some (.dict (f.2 p))
  commit : Dict.get? raw "source_commit_sha" = some (.str e.payloadCommitSha)
  repository : Dict.get? raw "source_repository" = some (.str e.trustedRemote)
  branch : Dict.get? raw "source_branch" = some (.str e.trustedBranch)

/-- The dictionary a document names by `key`: itself where the key is missing, and else the one under
the key, or the one under the key in that. -/
inductive Names (key : String) (raw : Record) : Record → Prop where
  | top (missing : Dict.get? raw key = none) : Names key raw raw
  | below {d : Record} (found : Dict.get? raw key = some (.dict d)) : Names key raw (under key d)

/-- A dictionary whose fields, each converted as the parser converts it, are those of the document. -/
structure Repeats (host : Host) (raw d : Record) : Prop where
  texts : ∀ f ∈ DirectivePayload.texts, textOf host d f.1 = textOf host raw f.1
  human : flagOf d "requires_human_approval" = flagOf raw "requires_human_approval"
  scope : listField d "allowed_scope" = listField raw "allowed_scope"
  dicts : ∀ f ∈ DirectivePayload.dicts, dictField host d f.1 = dictField host raw f.1

/-- A dictionary that names the source of the document. -/
structure SameSource (host : Host) (raw d : Record) : Prop where
  commit : aliasOf host d "payload_commit_sha" "source_commit_sha" = textOf host raw "source_commit_sha"
  repository : aliasOf host d "trusted_remote" "source_repository" = textOf host raw "source_repository"
  branch : aliasOf host d "trusted_branch" "source_branch" = textOf host raw "source_branch"

section

variable {host : Host} {raw d : Record} {key message : String} {v : Json} {p : DirectivePayload} {e : DirectiveEnvelope}

theorem chosen_names : chosen key ((Dict.get? raw key).getD (.dict raw)) = .ok d ↔ Names key raw d := by
  cases entry : Dict.get? raw key with
  | none =>
    have same : under key raw = raw := by simp [under, entry]
    rw [Option.getD_none, chosen, same, Except.ok.injEq]
    constructor
    · rintro rfl
      exact .top entry
    · intro names
      cases names with
      | top => rfl
      | below found => simp [entry] at found
  | some v =>
    rw [Option.getD_some]
    constructor
    · intro run
      cases v with
      | dict inner =>
        obtain rfl := Except.ok.inj run
        exact .below entry
      | _ => cases run
    · intro names
      cases names with
      | top missing => simp [entry] at missing
      | below found =>
        obtain rfl := Option.some.inj (entry.symm.trans found)
        rfl

/-- What the parser makes of the dictionary it chose. -/
theorem fromDict_ok : DirectivePayload.fromDict host v = .ok p ↔ ∃ d scope preconditions criteria payload,
    chosen "payload_object" v = .ok d ∧ listField d "allowed_scope" = .ok scope ∧
    dictField host d "preconditions" = .ok preconditions ∧ dictField host d "success_criteria" = .ok criteria ∧
    dictField host d "payload" = .ok payload ∧ p = .ofFields host d scope preconditions criteria payload := by
  simp only [DirectivePayload.fromDict, bind_ok, pure, Except.pure, Except.ok.injEq]
  constructor
  · rintro ⟨d, names, scope, list, preconditions, first, criteria, second, payload, third, same⟩
    exact ⟨d, scope, preconditions, criteria, payload, names, list, first, second, third, same.symm⟩
  · rintro ⟨d, scope, preconditions, criteria, payload, names, list, first, second, third, same⟩
    exact ⟨d, names, scope, list, preconditions, first, criteria, second, payload, third, same.symm⟩

theorem ofFields_texts {scope : List Json} {preconditions criteria payload : Record} : ∀ f ∈ DirectivePayload.texts,
    f.2 (.ofFields host d scope preconditions criteria payload) = textOf host d f.1 := by
  simp only [DirectivePayload.texts, List.forall_mem_cons]
  simp [DirectivePayload.ofFields]

theorem textOf_str {s : String} (found : Dict.get? raw key = some (.str s)) : textOf host raw key = s := by
  rw [textOf, found, Option.getD_some, host.shown_str]

theorem valid_text (valid : Valid raw) (member : key ∈ stringFields) :
    Dict.get? raw key = some (.str (textOf host raw key)) := by
  obtain ⟨s, found⟩ := valid.texts key member
  rw [textOf_str found, found]

theorem texts_validated : ∀ f ∈ DirectivePayload.texts, f.1 ∈ stringFields := by
  simp only [DirectivePayload.texts, List.forall_mem_cons]
  simp [stringFields]

theorem dicts_validated : ∀ f ∈ DirectivePayload.dicts, f.1 ∈ dictFields := by
  simp only [DirectivePayload.dicts, List.forall_mem_cons]
  simp [dictFields]

theorem dictField_dict {es : Record} (found : Dict.get? raw key = some (.dict es)) : dictField host raw key = .ok es := by
  rw [dictField, found, Option.getD_some, dictOf]

/-- A payload mirrors the document where the dictionary it is parsed from repeats it. -/
theorem payload_mirrors (valid : Valid raw) (parsed : DirectivePayload.fromDict host v = .ok p)
    (names : chosen "payload_object" v = .ok d) : Repeats host raw d ↔
      (∀ f ∈ DirectivePayload.texts, Dict.get? raw f.1 = some (.str (f.2 p))) ∧
      Dict.get? raw "requires_human_approval" = some (.bool p.requiresHumanApproval) ∧
      Dict.get? raw "allowed_scope" = some (.list p.allowedScope) ∧
      ∀ f ∈ DirectivePayload.dicts, Dict.get? raw f.1 = some (.dict (f.2 p)) := by
  obtain ⟨d', scope, preconditions, criteria, payload, names', list, first, second, third, rfl⟩ := fromDict_ok.mp parsed
  obtain rfl := Except.ok.inj (names.symm.trans names')
  obtain ⟨b, human⟩ := valid.human
  obtain ⟨xs, listed⟩ := valid.scope
  have flag : flagOf raw "requires_human_approval" = b := by simp [flagOf, human, Json.truthy]
  have items : listField raw "allowed_scope" = .ok xs := by simp [listField, listed, listOf]
  have parsedDicts : ∀ f ∈ DirectivePayload.dicts,
      dictField host d f.1 = .ok (f.2 (.ofFields host d scope preconditions criteria payload)) := by
    simp only [DirectivePayload.dicts, List.forall_mem_cons]
    exact ⟨first, second, third, List.forall_mem_nil _⟩
  constructor
  · intro repeats
    refine ⟨fun f member => ?_, ?_, ?_, fun f member => ?_⟩
    · rw [ofFields_texts f member, repeats.texts f member, ← valid_text valid (texts_validated f member)]
    · rw [human, ← flag, ← repeats.human]
      rfl
    · have same := list.symm.trans (repeats.scope.trans items)
      rw [listed, ← Except.ok.inj same]
      rfl
    · obtain ⟨es, found⟩ := valid.dicts f.1 (dicts_validated f member)
      have same := (parsedDicts f member).symm.trans ((repeats.dicts f member).trans (dictField_dict found))
      rw [found, Except.ok.inj same]
  · intro mirrors
    obtain ⟨texts, approval, allowed, dicts⟩ := mirrors
    refine ⟨fun f member => ?_, ?_, ?_, fun f member => ?_⟩
    · rw [textOf_str (texts f member), ofFields_texts f member]
    · rw [flagOf, flagOf, approval]
      rfl
    · rw [list, listField, allowed]
      rfl
    · rw [parsedDicts f member, dictField_dict (dicts f member)]

theorem envelope_mirrors (valid : Valid raw) : SameSource host raw d ↔
    Dict.get? raw "source_commit_sha" = some (.str (DirectiveEnvelope.ofFields host d).payloadCommitSha) ∧
    Dict.get? raw "source_repository" = some (.str (DirectiveEnvelope.ofFields host d).trustedRemote) ∧
    Dict.get? raw "source_branch" = some (.str (DirectiveEnvelope.ofFields host d).trustedBranch) := by
  have texts : ∀ {f s}, f ∈ stringFields → (s = textOf host raw f ↔ Dict.get? raw f = some (.str s)) := by
    intro f s member
    rw [@valid_text host _ _ valid member]
    simp [eq_comm]
  constructor
  · intro same
    exact ⟨(texts (by decide)).mp same.commit, (texts (by decide)).mp same.repository, (texts (by decide)).mp same.branch⟩
  · intro mirrors
    obtain ⟨commit, repository, branch⟩ := mirrors
    exact ⟨(texts (by decide)).mpr commit, (texts (by decide)).mpr repository, (texts (by decide)).mpr branch⟩

theorem built_ok : built host raw = .ok (p, e) ↔
    DirectivePayload.fromDict host ((Dict.get? raw "payload_object").getD (.dict raw)) = .ok p ∧
    ∃ d, Names "envelope" raw d ∧ e = .ofFields host d := by
  simp only [built, DirectiveEnvelope.fromDict, bind_ok, pure, Except.pure, Except.ok.injEq, Prod.mk.injEq, chosen_names]
  constructor
  · rintro ⟨p', payload, e', ⟨d, names, rfl⟩, rfl, rfl⟩
    exact ⟨payload, d, names, rfl⟩
  · rintro ⟨payload, d, names, rfl⟩
    exact ⟨p, payload, _, ⟨d, names, rfl⟩, rfl, rfl⟩

/-- A dictionary that repeats the document can be parsed. -/
theorem repeats_parsed (valid : Valid raw) (names : Names "payload_object" raw d) (repeats : Repeats host raw d) :
    ∃ p, DirectivePayload.fromDict host ((Dict.get? raw "payload_object").getD (.dict raw)) = .ok p := by
  obtain ⟨xs, listed⟩ := valid.scope
  have items : listField raw "allowed_scope" = .ok xs := by simp [listField, listed, listOf]
  have dicts : ∀ f ∈ DirectivePayload.dicts, ∃ es, dictField host d f.1 = .ok es := by
    intro f member
    obtain ⟨es, found⟩ := valid.dicts f.1 (dicts_validated f member)
    exact ⟨es, (repeats.dicts f member).trans (dictField_dict found)⟩
  simp only [DirectivePayload.dicts, List.forall_mem_cons] at dicts
  obtain ⟨⟨preconditions, first⟩, ⟨criteria, second⟩, ⟨payload, third⟩, -⟩ := dicts
  exact ⟨_, fromDict_ok.mpr ⟨d, xs, preconditions, criteria, payload, chosen_names.mpr names, repeats.scope.trans items, first,
    second, third, rfl⟩⟩

/-- What is used of a document that was accepted is what was validated, where the dictionaries that
it names for the payload and for the envelope repeat its own fields. -/
theorem used_validated_iff {v : Json} (accepted : validate v = .ok message) : ∃ raw, v = .dict raw ∧
    ((∃ p e, built host raw = .ok (p, e) ∧ Mirrors raw p e) ↔
      (∃ d, Names "payload_object" raw d ∧ Repeats host raw d) ∧ ∃ d, Names "envelope" raw d ∧ SameSource host raw d) := by
  obtain ⟨raw, rfl, valid⟩ := validate_dict accepted
  refine ⟨raw, rfl, ?_⟩
  constructor
  · rintro ⟨p, e, parsed, mirrors⟩
    obtain ⟨payload, d, names, rfl⟩ := built_ok.mp parsed
    obtain ⟨d', -, -, -, -, chose, -⟩ := fromDict_ok.mp payload
    refine ⟨⟨d', chosen_names.mp chose, ?_⟩, d, names, ?_⟩
    · exact (payload_mirrors valid payload chose).mpr ⟨mirrors.texts, mirrors.human, mirrors.scope, mirrors.dicts⟩
    · exact (envelope_mirrors valid).mpr ⟨mirrors.commit, mirrors.repository, mirrors.branch⟩
  · rintro ⟨⟨d', names', repeats⟩, d, names, same⟩
    obtain ⟨p, payload⟩ := repeats_parsed valid names' repeats
    obtain ⟨texts, human, scope, dicts⟩ := (payload_mirrors valid payload (chosen_names.mpr names')).mp repeats
    obtain ⟨commit, repository, branch⟩ := (envelope_mirrors valid).mp same
    exact ⟨p, _, built_ok.mpr ⟨payload, d, names, rfl⟩, texts, human, scope, dicts, commit, repository, branch⟩

/-- A document whose payload object names another directive and nothing else. -/
def otherPayload : Record :=
  [("directive_version", .str "2.0"), ("directive_id", .str "D-1"), ("project", .str "P"), ("target_project", .str "T"),
    ("target_stage", .str "S"), ("action_type", .str "READ_STATUS"), ("action", .str "read"), ("created_at", .str "2026-01-01"),
    ("expires_at", .str "2026-02-01"), ("issued_by", .str "I"), ("source_repository", .str "R"), ("source_branch", .str "main"),
    ("source_commit_sha", .str "c1"), ("requires_human_approval", .bool true), ("allowed_scope", .list []),
    ("preconditions", .dict []), ("success_criteria", .dict []), ("failure_policy", .str "F"), ("rollback_policy", .str "B"),
    ("payload", .dict []), ("payload_object", .dict [("directive_id", .str "OTHER")])]

theorem used_validated_iff_other : ∃ raw, Json.dict otherPayload = .dict raw ∧
    ((∃ p e, built sampleHost raw = .ok (p, e) ∧ Mirrors raw p e) ↔
      (∃ d, Names "payload_object" raw d ∧ Repeats sampleHost raw d) ∧
        ∃ d, Names "envelope" raw d ∧ SameSource sampleHost raw d) :=
  used_validated_iff (show validate (.dict otherPayload) = .ok "SCHEMA_VALID" from rfl)

/-- The document is accepted, and the payload that is used names no expiry and needs no approval. -/
theorem used_not_validated : validate (.dict otherPayload) = .ok "SCHEMA_VALID" ∧ ∃ p e,
    built sampleHost otherPayload = .ok (p, e) ∧ p.directiveId = "OTHER" ∧ p.expiresAt = "" ∧
    p.requiresHumanApproval = false ∧ ¬ Mirrors otherPayload p e := by
  refine ⟨rfl, _, _, rfl, rfl, rfl, rfl, ?_⟩
  intro mirrors
  have human : otherPayload.get? "requires_human_approval" = some (.bool false) := mirrors.human
  cases human

end

end ControlPlane.Directive
