import ControlPlane.Autonomy.IngestedEntries
import ControlPlane.Directive.Revalidations

/-!
# The authenticator as the verifier

`CanonicalProvenanceVerifier` hands `authenticate` to the ingestor, which checks again what the
authenticator has checked.
-/

namespace ControlPlane.Autonomy

open Data Interleaving
open Directive (AuthHost AuthSettings GitAnswers SourceMetadata DirectivePayload DirectiveEnvelope authenticate verifyCommitSignature)

/-- `auth_metadata` -/
def metadataDict (m : SourceMetadata) : Record :=
  [("directive_id", .str m.directiveId), ("payload_commit_sha", .str m.payloadCommitSha), ("payload_blob_sha", .str m.payloadBlobSha),
    ("payload_sha256", .str m.payloadSha256), ("remote_branch_head_sha", .str m.remoteBranchHeadSha), ("trusted_remote", .str m.trustedRemote),
    ("trusted_branch", .str m.trustedBranch), ("signature_present", .bool m.signaturePresent), ("signature_valid", .bool m.signatureValid),
    ("signer_identity", .str m.signerIdentity), ("signer_allowed", .bool m.signerAllowed),
    ("remote_ancestry_verified", .bool m.remoteAncestryVerified)]

/-- `Path(source_path).name` -/
def pathName (sourcePath : String) : Option String := (pathParts sourcePath).getLast?

/-- What git and the clock answer while a payload is verified. -/
structure Moment where
  git : GitAnswers
  now : Int

/-- `CanonicalProvenanceVerifier.__call__` -/
def canonicalVerifier (host : AuthHost) (settings : AuthSettings) (moment : DirectivePayload → DirectiveEnvelope → String → Moment)
    (payload : DirectivePayload) (envelope : DirectiveEnvelope) (sourcePath : String) : Except Err (Option Verdict) :=
  let m := moment payload envelope sourcePath
  let answer := authenticate host settings m.git m.now payload envelope (pathName sourcePath)
  .ok (some ⟨answer.status.value, answer.requiresHumanWait, metadataDict answer.metadata⟩)

section

variable (host : AuthHost) (settings : AuthSettings) (moment : DirectivePayload → DirectiveEnvelope → String → Moment)
  (platform : Platform) (source : String) (supportedTargets : List String)

/-- The ingestor of the service. -/
def canonicalIngestor : DirectiveTaskIngestor where
  host := host.toHost
  platform
  source
  verifier := some (canonicalVerifier host settings moment)
  supportedTargets

/-- The commit of what is verified is signed, by a signer that is allowed at that moment. -/
def SignedNow (v : DirectiveTaskIngestor.Validated) : Prop :=
  let verdict := verifyCommitSignature (moment v.payload v.envelope v.sourcePath).git.toCommitAnswers settings.trustedSignerAllowlist
    v.envelope.payloadCommitSha
  verdict.signatureValid = true ∧ verdict.signerAllowed = true

/-- It is authentic, and signed by who the record names. -/
def AuthenticSigner (v : DirectiveTaskIngestor.Validated) (recorded : String) : Prop :=
  let m := moment v.payload v.envelope v.sourcePath
  let answer := authenticate host settings m.git m.now v.payload v.envelope (pathName v.sourcePath)
  answer.status = .authentic ∧ clean answer.metadata.signerIdentity = recorded

/-- Every row that is new is of an entry that these hold of. -/
structure IngestedOnly (P : QueueEntry → Prop) (db db' : Db) : Prop where
  tasks : ∀ row ∈ db'.tasks.rows, row ∈ db.tasks.rows ∨ ∃ e, P e ∧ row = e.row
  provenance : ∀ row ∈ db'.provenance.rows, row ∈ db.provenance.rows ∨ ∃ e, P e ∧ row = e.provenance
  records : ∀ row ∈ db'.queueRecords.rows, row ∈ db.queueRecords.rows ∨ ∃ e, P e ∧ row = e.queueRow

/-- The entry is of a record of the queue, whose commit is trusted. -/
def TrustedEntry (i : DirectiveTaskIngestor) (queue : Option (List UInt8)) (e : QueueEntry) : Prop :=
  ∃ raw rs r v signer n, queue = some raw ∧ i.records (keptLines raw) = .ok rs ∧ r ∈ rs ∧ i.validate r.1 = .ok v ∧
    SignedNow settings moment v ∧ e = i.entry e.sequence r.2 signer v n

end

/-! ### The checks of the ingestor -/

section

variable {host : AuthHost} {settings : AuthSettings} {moment : DirectivePayload → DirectiveEnvelope → String → Moment}
  {platform : Platform} {source : String} {supportedTargets : List String} {record : Record} {v : DirectiveTaskIngestor.Validated}
  {i : DirectiveTaskIngestor}

/-- What `_validate` knows of what it returns. -/
structure Capable (v : DirectiveTaskIngestor.Validated) : Prop where
  blob : DirectiveTaskIngestor.isLowerHex 40 v.envelope.payloadBlobSha = true
  sha256 : DirectiveTaskIngestor.isLowerHex 64 v.envelope.payloadSha256 = true
  action : ∃ capability, actionCapabilities.lookup v.payload.actionType = some capability

theorem validate_admitted (valid : i.validate record = .ok v) : Capable v := by
  simp only [DirectiveTaskIngestor.validate, bind_ok, require_ok, found_ok, pure_ok] at valid
  obtain ⟨id, named, _, _, _, hexadecimal, _, _, path, _, target, _, _, _, action, _, _, _, capability, known, raw, _, payload, _, _,
    ⟨_, _, same⟩, _, _, rfl⟩ := valid
  exact ⟨hexadecimal.2.1, hexadecimal.2.2, capability, by rw [same]; exact known⟩

/-- A digest is neither empty nor a word. -/
theorem hex_solid {length : Nat} {s word : String} (hex : DirectiveTaskIngestor.isLowerHex length s = true)
    (other : DirectiveTaskIngestor.isLowerHex length word = false) : s ≠ word := by
  rintro rfl
  rw [hex] at other
  cases other

/-- No action that has a capability is one that needs a human. -/
theorem capable_unattended {action capability : String} (known : actionCapabilities.lookup action = some capability) :
    host.upper action ∉ Directive.actionsRequiringHumanApproval := by
  have capitals : ∀ e ∈ actionCapabilities, (e.1.toList.all fun c => c.toNat < 128) = true ∧
      String.ofList (e.1.toList.map Char.toUpper) ∉ Directive.actionsRequiringHumanApproval := by decide
  obtain ⟨before, after, same, _⟩ := List.lookup_eq_some_iff.mp known
  obtain ⟨ascii, unattended⟩ := capitals (action, capability) (same ▸ List.mem_append_right _ List.mem_cons_self)
  rw [host.upper_ascii action ascii]
  exact unattended

theorem wait_requested {git : GitAnswers} {now : Int} {payload : DirectivePayload} {envelope : DirectiveEnvelope} {fileName : Option String}
    (unattended : host.upper payload.actionType ∉ Directive.actionsRequiringHumanApproval)
    (authentic : (authenticate host settings git now payload envelope fileName).status = .authentic) :
    (authenticate host settings git now payload envelope fileName).requiresHumanWait = payload.requiresHumanApproval := by
  unfold authenticate at authentic ⊢
  split at authentic
  · rename_i refused
    exact absurd authentic (Directive.verifySource_refused refused).1
  split at authentic
  · rename_i refused
    exact absurd authentic (Directive.extractBlob_refused refused).1
  obtain ⟨created, expires, admitted⟩ := Directive.judgePayload_authentic.mp authentic
  have known := admitted.known.resolve_right unattended
  unfold Directive.judgePayload
  rw [admitted.starts, admitted.ends]
  dsimp only
  rw [if_neg (not_lt.mpr admitted.skew), if_neg (not_lt.mpr admitted.unexpired), if_neg admitted.permitted,
    if_neg fun unknown => unknown.1 known]
  cases payload.requiresHumanApproval with
  | true => rw [if_pos (.inl rfl)]
  | false => rw [if_neg fun needed => needed.elim Bool.false_ne_true unattended]

theorem status_authentic {status : Directive.ValidationStatus} : status.value = Directive.ValidationStatus.authentic.value ↔ status = .authentic := by
  constructor
  · intro same
    cases status <;> first | rfl | exact absurd same (by decide)
  · rintro rfl
    rfl

/-- A signer that is allowed has a valid signature. -/
theorem allowed_valid {git : Directive.CommitAnswers} {allowlist : Directive.Allowlist} {commitSha : String}
    (allowed : (verifyCommitSignature git allowlist commitSha).signerAllowed = true) :
    (verifyCommitSignature git allowlist commitSha).signatureValid = true := by
  unfold verifyCommitSignature at allowed ⊢
  dsimp only at allowed ⊢
  split at allowed
  · cases allowed
  split at allowed
  · rename_i res answered exited
    rw [if_pos exited]
    split
    · rfl
    split
    · rfl
    · rfl
  · cases allowed

/-- Whatever the policy, the signer of what is authentic is allowed. -/
theorem signed_allowed {verdict : Directive.SignatureVerdict} {short : String}
    (signed : Directive.signatureRefusal settings verdict short = none) : verdict.signerAllowed = true := by
  obtain ⟨required, optional⟩ := Directive.signatureRefusal_none.mp signed
  cases policy : settings.requireCommitSignatureVerification with
  | true => exact (required policy).2.2
  | false => exact (optional policy).2

/-- What the ingestor looks for in the metadata of what is authentic. -/
structure Attested (v : DirectiveTaskIngestor.Validated) (m : SourceMetadata) : Prop where
  valid : m.signatureValid = true
  allowed : m.signerAllowed = true
  ancestry : m.remoteAncestryVerified = true
  commit : m.payloadCommitSha = v.envelope.payloadCommitSha
  blob : m.payloadBlobSha = v.envelope.payloadBlobSha
  sha256 : m.payloadSha256 = v.envelope.payloadSha256

theorem authentic_attested {git : GitAnswers} {now : Int} {fileName : Option String} (admitted : Capable v)
    (authentic : (authenticate host settings git now v.payload v.envelope fileName).status = .authentic) :
    Attested v (authenticate host settings git now v.payload v.envelope fileName).metadata ∧
      (verifyCommitSignature git.toCommitAnswers settings.trustedSignerAllowlist v.envelope.payloadCommitSha).signatureValid = true ∧
      (verifyCommitSignature git.toCommitAnswers settings.trustedSignerAllowlist v.envelope.payloadCommitSha).signerAllowed = true := by
  obtain ⟨head, bytes, res, _, _, source, matched, _, same⟩ := Directive.authenticate_authentic.mp ⟨authentic, rfl⟩
  have allowed := signed_allowed source.signed
  have valid := allowed_valid allowed
  rw [same]
  refine ⟨⟨valid, allowed, rfl, rfl, ?_, ?_⟩, valid, allowed⟩
  · rcases Directive.contradicts_false.mp matched.blob with empty | vague | blob
    · exact absurd empty (hex_solid admitted.blob (by decide))
    · exact absurd vague (hex_solid admitted.blob (by decide))
    · exact blob.symm
  · rcases Directive.contradicts_false.mp matched.sha256 with empty | vague | sha256
    · exact absurd empty (hex_solid admitted.sha256 (by decide))
    · exact absurd vague (hex_solid admitted.sha256 (by decide))
    · exact sha256.symm

theorem cleanOf_metadata {m : SourceMetadata} :
    (canonicalIngestor host settings moment platform source supportedTargets).cleanOf (metadataDict m) "signer_identity" =
      clean m.signerIdentity := by
  have field : (Dict.get? (metadataDict m) "signer_identity").getD (.str "") = .str m.signerIdentity := rfl
  unfold DirectiveTaskIngestor.cleanOf
  dsimp only
  rw [field]
  by_cases empty : m.signerIdentity = ""
  · rw [empty]
    rfl
  · have given : (Json.str m.signerIdentity).truthy = true := decide_eq_true empty
    rw [if_pos given]
    exact congrArg clean (host.shown_str _)

/-- The two sides compare alike. -/
theorem verify_iff (admitted : Capable v) :
    (∃ signer, (canonicalIngestor host settings moment platform source supportedTargets).verify v record = .ok signer) ↔
      AuthenticSigner host settings moment v
        ((canonicalIngestor host settings moment platform source supportedTargets).cleanOf record "signer_identity") := by
  let m := moment v.payload v.envelope v.sourcePath
  let answer := authenticate host settings m.git m.now v.payload v.envelope (pathName v.sourcePath)
  have verdict : (canonicalIngestor host settings moment platform source supportedTargets).verdict v =
      .ok ⟨answer.status.value, answer.requiresHumanWait, metadataDict answer.metadata⟩ := rfl
  unfold DirectiveTaskIngestor.verify
  rw [verdict]
  simp only [bind_ok, require_ok, pure_ok, exists_const, Except.ok.injEq, exists_eq_left', cleanOf_metadata]
  constructor
  · rintro ⟨_, ⟨authentic, _, _, _, _, _, _, signer, _⟩, _⟩
    exact ⟨status_authentic.mp authentic, signer⟩
  · rintro ⟨authentic, signer⟩
    obtain ⟨attested, _⟩ := authentic_attested admitted authentic
    obtain ⟨capability, known⟩ := admitted.action
    have wait := wait_requested (capable_unattended known) authentic
    exact ⟨_, ⟨status_authentic.mpr authentic, attested.valid, attested.allowed, attested.ancestry, congrArg some attested.commit,
      congrArg some attested.blob, congrArg some attested.sha256, signer, wait⟩, rfl⟩

theorem IngestedOnly.same {P : QueueEntry → Prop} {db db' db'' : Db} (only : IngestedOnly P db db') (same : SameIngestion db' db'') :
    IngestedOnly P db db'' :=
  ⟨same.tasks ▸ only.tasks, same.provenance ▸ only.provenance, same.records ▸ only.records⟩

theorem IngestedOnly.entered {P : QueueEntry → Prop} {db db' db'' : Db} {e : QueueEntry} {created : Bool} (only : IngestedOnly P db db')
    (holds : P e) (outcome : EntryOutcome e db' db'' (.ok created)) : IngestedOnly P db db'' := by
  have recorded (line : LineRecorded e db' db'') : ∀ row ∈ db''.queueRecords.rows, row ∈ db.queueRecords.rows ∨ ∃ e, P e ∧ row = e.queueRow := by
    intro row member
    rcases line with ⟨_, same⟩ | ⟨_, added⟩
    · exact only.records row (same ▸ member)
    · rw [added, List.mem_append, List.mem_singleton] at member
      exact member.elim (only.records row) fun same => .inr ⟨e, holds, same⟩
  cases outcome with
  | known member directive tasks provenance line => exact ⟨tasks ▸ only.tasks, provenance ▸ only.provenance, recorded line⟩
  | new fresh tasks provenance line =>
    refine ⟨fun row member => ?_, fun row member => ?_, recorded line⟩
    · rw [tasks, List.mem_append, List.mem_singleton] at member
      exact member.elim (only.tasks row) fun same => .inr ⟨e, holds, same⟩
    · rw [provenance, List.mem_append, List.mem_singleton] at member
      exact member.elim (only.provenance row) fun same => .inr ⟨e, holds, same⟩

/-- Whoever is ingested was verified. -/
theorem ingested_trusted {queue : Option (List UInt8)} {db db' : Db} {next : Pending IngestStmt}
    (cut : ingestions.Cut ((canonicalIngestor host settings moment platform source supportedTargets).ingest queue) db db' next) :
    IngestedOnly (TrustedEntry settings moment (canonicalIngestor host settings moment platform source supportedTargets) queue) db db' := by
  have start : IngestedOnly (TrustedEntry settings moment (canonicalIngestor host settings moment platform source supportedTargets) queue) db db :=
    ⟨fun _ => .inl, fun _ => .inl, fun _ => .inl⟩
  rcases cut_ingest cut with same | ⟨raw, rs, rfl, records, _, loop⟩
  · exact start.same same
  refine (cut_ingestFrom_keeps (J := fun _ => IngestedOnly _ db) (fun same only => only.same same) (fun _ only => only) ?_ loop start).elim
    fun _ only => only
  intro n db₁ db₂ r e created _ _ here entry outcome only
  obtain ⟨v, signer, t, valid, verified, rfl⟩ := entry
  have admitted := validate_admitted valid
  have authentic := ((verify_iff admitted).mp ⟨signer, verified⟩).1
  exact only.entered ⟨raw, rs, r, v, signer, t, rfl, records, List.mem_of_getElem? here, valid,
    (authentic_attested admitted authentic).2, rfl⟩ outcome

end

/-- The ingestor takes exactly what the authenticator does, from the signer that the record names. -/
theorem verifier_contract (host : AuthHost) (settings : AuthSettings) (moment : DirectivePayload → DirectiveEnvelope → String → Moment)
    (platform : Platform) (source : String) (supportedTargets : List String) :
    (∀ record v, (canonicalIngestor host settings moment platform source supportedTargets).validate record = .ok v →
      ((∃ signer, (canonicalIngestor host settings moment platform source supportedTargets).verify v record = .ok signer) ↔
        AuthenticSigner host settings moment v
          ((canonicalIngestor host settings moment platform source supportedTargets).cleanOf record "signer_identity"))) ∧
    ∀ queue db db' next, ingestions.Cut ((canonicalIngestor host settings moment platform source supportedTargets).ingest queue) db db' next →
      IngestedOnly (TrustedEntry settings moment (canonicalIngestor host settings moment platform source supportedTargets) queue) db db' :=
  ⟨fun _ _ valid => verify_iff (validate_admitted valid), fun _ _ _ _ cut => ingested_trusted cut⟩

end ControlPlane.Autonomy
