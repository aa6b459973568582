import ControlPlane.Autonomy.IngestedEntries
import ControlPlane.Directive.SourceBinding

/-!
# What ingestion binds a payload to

The digest that a record claims is compared with the one that was attested, but the payload of
the record is never digested.
-/

namespace ControlPlane.Autonomy

open Data Interleaving
open Directive (AuthHost DirectivePayload DirectiveEnvelope ValidationStatus)

/-- The digest of a document, as `compute_payload_bytes_and_hash` computes it. -/
def canonicalHash (host : AuthHost) (c : Record) : String :=
  host.sha256Bytes (Json.dumps host.floats.repr { sortKeys := true } (.dict (c.filter fun e => e.1 ≠ "envelope"))).toUTF8

section

variable (host : AuthHost) (signed : Record → Prop) (i : DirectiveTaskIngestor)

/-- The payload is that of every document with this digest that was signed. -/
def OfSigned (payloadSha : String) (payload : DirectivePayload) : Prop :=
  ∀ c, signed c → canonicalHash host c = payloadSha → DirectivePayload.fromDict i.host (.dict c) = .ok payload

/-- Whatever becomes a task has the payload that was signed. -/
def BindsContents : Prop :=
  ∀ sequence record lineSha db db' results, ingestions.Returns (i.ingestRecord sequence record lineSha) db db' results → results ≠ [] →
    ∃ v, i.validate record = .ok v ∧ OfSigned host signed i v.envelope.payloadSha256 v.payload

/-- What the verifier attests only with the metadata of a signed document, the human being waited for as the payload has it. -/
def Attests : Prop :=
  ∀ verifier payload envelope path answer, i.verifier = some verifier → verifier payload envelope path = .ok (some answer) →
    answer.status = ValidationStatus.authentic.value →
      answer.humanWait = payload.requiresHumanApproval ∧
        ∃ c, signed c ∧ (answer.metadata.field "payload_sha256").str? = some (canonicalHash host c)

/-- The envelope that `_validate` builds. -/
def rebuiltEnvelope (directiveId commit blob payloadSha : String) : DirectiveEnvelope where
  directiveId
  payloadCommitSha := commit
  payloadBlobSha := blob
  payloadSha256 := payloadSha
  trustedRemote := "AI-CONTROL-PLANE"
  trustedBranch := "main"

/-- The payload could stand in the queue under these digests. -/
structure Presentable (payload : DirectivePayload) (commit blob payloadSha path : String) : Prop where
  parsed : ∃ raw, i.parsePayload raw = .ok payload
  directive : isIdentifier payload.directiveId = true
  target : isIdentifier payload.targetProject = true
  supported : payload.targetProject ∈ i.supportedTargets
  action : isIdentifier payload.actionType = true
  permitted : payload.actionType ∉ prohibitedActions
  capable : ∃ capability, actionCapabilities.lookup payload.actionType = some capability
  hexadecimal : DirectiveTaskIngestor.isLowerHex 40 commit = true ∧ DirectiveTaskIngestor.isLowerHex 40 blob = true ∧
    DirectiveTaskIngestor.isLowerHex 64 payloadSha = true
  placed : ∃ value, DirectiveTaskIngestor.sourcePath value = .ok path

/-- The verifier takes the payload under these digests. -/
def Vouches (payload : DirectivePayload) (commit blob payloadSha path : String) : Prop :=
  ∃ verifier answer, i.verifier = some verifier ∧
    verifier payload (rebuiltEnvelope payload.directiveId commit blob payloadSha) path = .ok (some answer) ∧
    answer.status = ValidationStatus.authentic.value ∧ (answer.metadata.field "signature_valid").truthy = true ∧
    (answer.metadata.field "signer_allowed").truthy = true ∧ (answer.metadata.field "remote_ancestry_verified").truthy = true ∧
    (answer.metadata.field "payload_commit_sha").str? = some commit ∧ (answer.metadata.field "payload_blob_sha").str? = some blob ∧
    (answer.metadata.field "payload_sha256").str? = some payloadSha ∧ answer.humanWait = payload.requiresHumanApproval

/-- The verifier itself takes no payload but the one that was signed. -/
def VerifierBinds : Prop :=
  ∀ payload commit blob payloadSha path, Presentable i payload commit blob payloadSha path → Vouches i payload commit blob payloadSha path →
    OfSigned host signed i payloadSha payload

end

section

variable {host : AuthHost} {signed : Record → Prop} {i : DirectiveTaskIngestor} {record : Record} {v : DirectiveTaskIngestor.Validated}
  {payload : DirectivePayload} {commit blob payloadSha path signer : String}

theorem validate_presentable (valid : i.validate record = .ok v) :
    Presentable i v.payload v.envelope.payloadCommitSha v.envelope.payloadBlobSha v.envelope.payloadSha256 v.sourcePath ∧
      v.envelope = rebuiltEnvelope v.payload.directiveId v.envelope.payloadCommitSha v.envelope.payloadBlobSha v.envelope.payloadSha256 := by
  simp only [DirectiveTaskIngestor.validate, bind_ok, require_ok, found_ok, pure_ok] at valid
  obtain ⟨id, _, _, _, _, hexadecimal, _, _, path, placed, target, _, _, supported, action, _, _, permitted, capability, known, raw, _,
    payload, parsed, _, ⟨directive, same, act⟩, _, _, rfl⟩ := valid
  refine ⟨⟨⟨raw, parsed⟩, directive ▸ id.2, same ▸ target.2, same ▸ supported, act ▸ action.2, act ▸ permitted, ⟨capability, act ▸ known⟩,
    hexadecimal, _, placed⟩, ?_⟩
  rw [directive]
  rfl

theorem verify_vouches (envelope : v.envelope = rebuiltEnvelope v.payload.directiveId v.envelope.payloadCommitSha v.envelope.payloadBlobSha
    v.envelope.payloadSha256) (verified : i.verify v record = .ok signer) :
    Vouches i v.payload v.envelope.payloadCommitSha v.envelope.payloadBlobSha v.envelope.payloadSha256 v.sourcePath := by
  simp only [DirectiveTaskIngestor.verify, DirectiveTaskIngestor.verdict, bind_ok, require_ok, found_ok, pure_ok] at verified
  obtain ⟨answer, ⟨verifier, given, answered⟩, _, ⟨authentic, valid, allowed, ancestry, commits, blobs, hashes, _, wait⟩, _⟩ := verified
  split at answered
  · rename_i a returned
    obtain rfl := found_ok.mp answered
    exact ⟨verifier, answer, given, envelope ▸ returned, authentic, valid, allowed, ancestry, commits, blobs, hashes, wait⟩
  · cases answered

/-! ### A record with any payload -/

/-- A record under these digests, with a payload of one's own. -/
def forgedRecord (i : DirectiveTaskIngestor) (payload : DirectivePayload) (raw : Record) (commit blob payloadSha : String) (path signer : Json) :
    Record :=
  [("directive_id", .str payload.directiveId), ("queue_state", .str "READY_FOR_FUTURE_EXECUTOR"), ("readback_verified", .bool true),
    ("executed", .bool false), ("directive_source_sha", .str commit), ("directive_blob_sha", .str blob),
    ("directive_payload_sha256", .str payloadSha),
    ("idempotency_key", .str (i.platform.sha256 s!"{payload.directiveId}:{commit}:{payloadSha}".toUTF8)),
    ("directive_source_path", path), ("target_project", .str payload.targetProject), ("action_type", .str payload.actionType),
    ("directive_payload", .dict raw), ("requires_human_approval", .bool payload.requiresHumanApproval), ("signer_identity", signer)]

theorem lower_hex {length : Nat} {s : String} (hex : DirectiveTaskIngestor.isLowerHex length s = true) : lower s = s := by
  unfold DirectiveTaskIngestor.isLowerHex at hex
  exact lower_of_letters ((Bool.and_eq_true _ _).mp hex).2

theorem forged_valid {raw : Record} {value : Json} (signer : Json) (presentable : Presentable i payload commit blob payloadSha path)
    (parsed : i.parsePayload raw = .ok payload) (placed : DirectiveTaskIngestor.sourcePath value = .ok path) :
    ∃ v, i.validate (forgedRecord i payload raw commit blob payloadSha value signer) = .ok v ∧ v.payload = payload ∧
      v.envelope = rebuiltEnvelope payload.directiveId commit blob payloadSha ∧ v.sourcePath = path := by
  obtain ⟨capability, known⟩ := presentable.capable
  have hashes : i.hashOf (forgedRecord i payload raw commit blob payloadSha value signer) "directive_source_sha" = commit ∧
      i.hashOf (forgedRecord i payload raw commit blob payloadSha value signer) "directive_blob_sha" = blob ∧
      i.hashOf (forgedRecord i payload raw commit blob payloadSha value signer) "directive_payload_sha256" = payloadSha := by
    refine ⟨?_, ?_, ?_⟩
    · exact (congrArg lower (i.host.shown_str commit)).trans (lower_hex presentable.hexadecimal.1)
    · exact (congrArg lower (i.host.shown_str blob)).trans (lower_hex presentable.hexadecimal.2.1)
    · exact (congrArg lower (i.host.shown_str payloadSha)).trans (lower_hex presentable.hexadecimal.2.2)
  unfold DirectiveTaskIngestor.validate
  rw [hashes.1, hashes.2.1, hashes.2.2]
  simp only [bind_ok, require_ok, found_ok, pure_ok, exists_const]
  exact ⟨_, ⟨⟨payload.directiveId, presentable.directive⟩, identifier_str ⟨payload.directiveId, presentable.directive⟩ _, ⟨rfl, rfl, rfl⟩,
    presentable.hexadecimal, rfl, path, placed, ⟨payload.targetProject, presentable.target⟩,
    identifier_str ⟨payload.targetProject, presentable.target⟩ _, presentable.supported, ⟨payload.actionType, presentable.action⟩,
    identifier_str ⟨payload.actionType, presentable.action⟩ _, presentable.permitted, capability, known, raw, rfl, payload, parsed,
    ⟨rfl, rfl, rfl⟩, rfl, rfl⟩, rfl, rfl, rfl⟩

theorem forged_verified {raw : Record} {value : Json} (presentable : Presentable i payload commit blob payloadSha path)
    (parsed : i.parsePayload raw = .ok payload) (placed : DirectiveTaskIngestor.sourcePath value = .ok path)
    (vouched : Vouches i payload commit blob payloadSha path) :
    ∃ record v signer, i.validate record = .ok v ∧ i.verify v record = .ok signer ∧ v.payload = payload ∧
      v.envelope = rebuiltEnvelope payload.directiveId commit blob payloadSha := by
  obtain ⟨verifier, answer, given, returned, authentic, valid, allowed, ancestry, commits, blobs, hashes, wait⟩ := vouched
  obtain ⟨v, validated, same, envelope, placing⟩ :=
    forged_valid ((Dict.get? answer.metadata "signer_identity").getD (.str "")) presentable parsed placed
  refine ⟨_, v, i.cleanOf answer.metadata "signer_identity", validated, ?_, same, envelope⟩
  have verdict : i.verdict v = .ok answer := by
    unfold DirectiveTaskIngestor.verdict
    rw [given, same, envelope, placing]
    refine bind_ok.mpr ⟨verifier, rfl, ?_⟩
    rw [returned]
    rfl
  unfold DirectiveTaskIngestor.verify
  rw [verdict, same, envelope]
  simp only [bind_ok, require_ok, pure_ok, exists_const]
  exact ⟨answer, rfl, ⟨authentic, valid, allowed, ancestry, commits, blobs, hashes, rfl, wait⟩, rfl⟩

/-- What is validated and verified is ingested where nothing was. -/
theorem ingested_fresh {sha : String} (validated : i.validate record = .ok v) (verified : i.verify v record = .ok signer) :
    ∃ db result, ingestions.Returns (i.ingestRecord 1 record sha) .empty db [result] := by
  have entry := Queued.returns_entry sha validated verified
  obtain ⟨db, bound, task⟩ := Queued.bound (i.entry 1 sha signer v 0)
  refine Queued.ingested_entry bound task ?_ entry
  have opens : "af04-".toList = 'a' :: "f04-".toList := by decide
  exact clean_identifier ⟨_, isIdentifier_digest opens (by decide) (by decide) (by decide) (i.platform.digest _)⟩

theorem presented_bound {sequence : Nat} {lineSha : String} {db db' : Db} {results : List IngestResult}
    (returned : ingestions.Returns (i.ingestRecord sequence record lineSha) db db' results) :
    ∃ v signer, i.validate record = .ok v ∧ i.verify v record = .ok signer := by
  obtain ⟨e, _, _, _, ⟨v, signer, _, valid, verified, _⟩, _⟩ := returns_ingestRecord_entry returned
  exact ⟨v, signer, valid, verified⟩

/-- Where payloads are bound, it is the verifier that binds them: any payload that it takes can be presented. -/
theorem verifier_binds (binds : BindsContents host signed i) : VerifierBinds host signed i := by
  intro payload commit blob payloadSha path presentable vouched
  obtain ⟨raw, parsed⟩ := presentable.parsed
  obtain ⟨value, placed⟩ := presentable.placed
  obtain ⟨record, v, signer, valid, verified, same, envelope⟩ := forged_verified presentable parsed placed vouched
  obtain ⟨db, result, returned⟩ := @ingested_fresh i record v signer "" valid verified
  obtain ⟨w, again, bound⟩ := binds 1 record "" .empty db [result] returned (List.cons_ne_nil _ _)
  obtain rfl := Except.ok.inj (again.symm.trans valid)
  rw [same, envelope] at bound
  exact bound

end

/-- The payload is bound to what was signed exactly where the verifier binds it. -/
theorem binds_contents_iff (host : AuthHost) (signed : Record → Prop) (i : DirectiveTaskIngestor) :
    BindsContents host signed i ↔ VerifierBinds host signed i := by
  constructor
  · exact verifier_binds
  · intro binds sequence record lineSha db db' results returned _
    obtain ⟨v, signer, valid, verified⟩ := presented_bound returned
    obtain ⟨presentable, envelope⟩ := validate_presentable valid
    exact ⟨v, valid, binds _ _ _ _ _ presentable (verify_vouches envelope verified)⟩

/-! ### A document, and another payload -/

namespace Forged

open Directive

/-- The document that was signed. -/
def document : Record :=
  [("directive_id", .str "D-1"), ("target_project", .str "LAB"), ("action_type", .str "NO_OP"), ("requires_human_approval", .bool false),
    ("failure_policy", .str "STOP")]

/-- Another, of the same directive, target and action. -/
def other : Record :=
  [("directive_id", .str "D-1"), ("target_project", .str "LAB"), ("action_type", .str "NO_OP"), ("requires_human_approval", .bool false),
    ("failure_policy", .str "CONTINUE")]

/-- It attests the one document, whatever payload it is handed. -/
def ingestor : DirectiveTaskIngestor where
  host := plainAuth.toHost
  platform := Queued.ingestor.platform
  source := "/queue/directives.jsonl"
  verifier := some fun payload envelope _ => .ok <| some ⟨"AUTHENTIC", payload.requiresHumanApproval,
    [("signer_identity", .str "ops"), ("signature_valid", .bool true), ("signer_allowed", .bool true),
      ("remote_ancestry_verified", .bool true), ("payload_commit_sha", .str envelope.payloadCommitSha),
      ("payload_blob_sha", .str envelope.payloadBlobSha), ("payload_sha256", .str (canonicalHash plainAuth document))]⟩
  supportedTargets := ["LAB"]

/-- What the two documents are read as. -/
structure Documents : Prop where
  other : ∃ p, ingestor.parsePayload other = .ok p ∧
    (p.directiveId = "D-1" ∧ p.targetProject = "LAB" ∧ p.actionType = "NO_OP") ∧ p.failurePolicy = "CONTINUE"
  document : ∃ p, DirectivePayload.fromDict ingestor.host (.dict document) = .ok p ∧ p.failurePolicy = "STOP"

theorem documents : Documents := ⟨⟨_, rfl, ⟨rfl, rfl, rfl⟩, rfl⟩, ⟨_, rfl, rfl⟩⟩

theorem attests : Attests plainAuth (· = document) ingestor := by
  intro verifier payload envelope path answer given returned _
  obtain rfl := Option.some.inj given
  obtain rfl := Option.some.inj (Except.ok.inj returned)
  exact ⟨rfl, document, rfl, rfl⟩

theorem unbound : ¬ VerifierBinds plainAuth (· = document) ingestor := by
  intro binds
  obtain ⟨p, parsed, ⟨directive, target, action⟩, policy⟩ := documents.other
  obtain ⟨p', signed, policy'⟩ := documents.document
  obtain ⟨path, placed⟩ := Queued.placed
  have presentable : Presentable ingestor p Queued.commit Queued.blob (canonicalHash plainAuth document) path := by
    refine ⟨⟨other, parsed⟩, ?_, ?_, ?_, ?_, ?_, ?_, ⟨?_, ?_, ?_⟩, _, placed⟩
    · rw [directive]
      decide
    · rw [target]
      decide
    · rw [target]
      exact List.mem_singleton_self _
    · rw [action]
      decide
    · rw [action]
      exact Queued.facts.allowed
    · rw [action]
      exact ⟨"NO_OP", rfl⟩
    · exact Queued.facts.hexadecimal.1
    · exact Queued.facts.hexadecimal.2.1
    · show DirectiveTaskIngestor.isLowerHex 64 "29020146c3c3d9f5afbe8daa101efde759d5d85a7664c23409fd868afc730b48" = true
      rw [show "29020146c3c3d9f5afbe8daa101efde759d5d85a7664c23409fd868afc730b48" = String.ofList _ from rfl,
        DirectiveTaskIngestor.isLowerHex, String.toList_ofList]
      decide
  have bound := binds p _ _ _ path presentable ⟨_, _, rfl, rfl, rfl, rfl, rfl, rfl, rfl, rfl, rfl, rfl⟩ document rfl rfl
  rw [signed] at bound
  obtain rfl := Except.ok.inj bound
  exact absurd (policy.symm.trans policy') (by decide)

end Forged

/-- The verifier keeps its promise, and a payload is ingested that nobody signed. -/
theorem contents_unbound : Attests Directive.plainAuth (· = Forged.document) Forged.ingestor ∧
    ¬ BindsContents Directive.plainAuth (· = Forged.document) Forged.ingestor :=
  ⟨Forged.attests, fun binds => Forged.unbound (verifier_binds binds)⟩

end ControlPlane.Autonomy
