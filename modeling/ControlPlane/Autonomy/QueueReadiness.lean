import ControlPlane.Autonomy.QueueGrowth
import ControlPlane.Directive.DurableReload
import ControlPlane.Directive.SourceBinding

/-!
# The producer and the consumer of the queue

`enqueue_payload` writes its line before it reads it back, so what it writes is never marked as
read back; `_validate` takes no record that is not.
-/

namespace ControlPlane.Autonomy

open Data Interleaving
open Directive (QueueHost DurableExecutionQueue EnqueueAnswers AuthMetadata QueuedDirectiveItem DirectivePayload DirectiveEnvelope)

/-- The line is read as a record, and accepted as what was queued. -/
def Ingestible (i : DirectiveTaskIngestor) (payload : DirectivePayload) (queued : QueuedDirectiveItem) (line : String) : Prop :=
  ∃ record lineSha v, i.recordOf line.toUTF8.data.toList = .ok [(record, lineSha)] ∧ i.validate record = .ok v ∧
    v.payload = payload ∧ queued.directiveSourceSha = .str v.envelope.payloadCommitSha ∧
    queued.directiveBlobSha = .str v.envelope.payloadBlobSha ∧ queued.directivePayloadSha256 = .str v.envelope.payloadSha256 ∧
    queued.idempotencyKey = .str v.key ∧ queued.directiveSourcePath = .str v.sourcePath

/-- `auth_metadata`, as the queue reads it. -/
def queuedMetadata (m : Directive.SourceMetadata) : AuthMetadata := ⟨some m.payloadSha256, some m.payloadBlobSha, some m.signerIdentity⟩

section

variable {host : QueueHost} {i : DirectiveTaskIngestor} {item : QueuedDirectiveItem} {record : Record} {lineSha : String}

theorem validate_ready {v : DirectiveTaskIngestor.Validated} (valid : i.validate record = .ok v) :
    (record.field "readback_verified").bool? = some true := by
  simp only [DirectiveTaskIngestor.validate, bind_ok, require_ok] at valid
  obtain ⟨_, _, _, ⟨_, ready, _⟩, _⟩ := valid
  exact ready

/-- The bytes of the line of an item. -/
theorem itemText_bytes : (String.ofList (Directive.itemText host item)).toUTF8.data.toList = recordBytes host.floats item.toDict ++ [10] := by
  have printable : Json.Printable (Directive.itemLine host item) := Json.text_printable host.floats _
  have ended : (String.ofList (Directive.itemText host item)).toUTF8.data.toList =
      (String.ofList (Directive.itemLine host item)).toUTF8.data.toList ++ [10] := by
    have newline : "\n".toByteArray.data.toList = [10] := rfl
    simp [Directive.itemText, Directive.itemLine, String.toUTF8, List.utf8Encode, newline]
  rw [ended, bytes_printable printable]
  rfl

/-- A line is read as the item that it was written of. -/
theorem recordOf_itemText (same : i.host = host.toHost)
    (read : i.recordOf (String.ofList (Directive.itemText host item)).toUTF8.data.toList = .ok [(record, lineSha)]) :
    record = item.reread.toDict := by
  have loaded : i.loadsLine (String.ofList (Directive.itemText host item)).toUTF8.data.toList = some (.dict item.reread.toDict) := by
    have printable : Json.Printable (Directive.itemLine host item) := Json.text_printable host.floats _
    have bytes : (⟨(recordBytes host.floats item.toDict).toArray⟩ : ByteArray) = (String.ofList (Directive.itemLine host item)).toUTF8 := by
      rw [ByteArray.ext_iff, ← Array.toList_inj, bytes_printable printable]
      rfl
    unfold QueueReader.loadsLine
    rw [itemText_bytes, rstripBreaks_newline recordBytes_unbroken, bytes, fromUTF8?_toUTF8, same, Option.bind_some]
    exact Directive.loads_itemLine
  unfold QueueReader.recordOf at read
  rw [loaded] at read
  split at read
  · cases read
  split at read
  · cases read
  · cases read
    rfl

theorem unready (same : i.host = host.toHost) (written : item.readbackVerified = false) (payload : DirectivePayload) (queued : QueuedDirectiveItem) :
    ¬ Ingestible i payload queued (String.ofList (Directive.itemText host item)) := by
  rintro ⟨record, lineSha, v, read, valid, -⟩
  have ready := validate_ready valid
  rw [recordOf_itemText same read] at ready
  have field : (item.reread.toDict : Record).field "readback_verified" = Json.bool item.readbackVerified := rfl
  rw [field, written] at ready
  cases ready

/-- No line that a call appends can be ingested. -/
theorem queued_unready {q : DurableExecutionQueue} {answers : EnqueueAnswers} {payload : DirectivePayload} {envelope : DirectiveEnvelope}
    {auth : AuthMetadata} {acceptedAt : Option String} {sourcePath : String} (same : i.host = host.toHost)
    (new : q.items.get? (.str payload.directiveId) = none)
    (returned : (Directive.enqueuePayload host answers q payload envelope auth acceptedAt sourcePath).result = .ok item) :
    ∃ line, (Directive.enqueuePayload host answers q payload envelope auth acceptedAt sourcePath).queue.file = some (q.file.getD "" ++ line) ∧
      ¬ Ingestible i payload item line := by
  let call : Directive.EnqueueCall := ⟨answers, payload, envelope, auth, acceptedAt, sourcePath⟩
  have performed : (call.perform host q).result = .ok item := returned
  rcases Directive.perform_ok performed with ⟨_, known⟩ | ⟨w, fresh, _, _, after⟩
  · rw [new] at known
    cases known
  · exact ⟨_, congrArg DurableExecutionQueue.file after, unready same fresh.unverified payload item⟩

end

/-! ### A directive of this moment -/

namespace Ready

open Directive

def host : QueueHost := { plainAuth.toHost with whole _ := none }

def ingestor : DirectiveTaskIngestor where
  host := host.toHost
  platform := Queued.ingestor.platform
  source := "/queue/directives.jsonl"
  verifier := none
  supportedTargets := ["AI-CONTROL-PLANE"]

def payload : DirectivePayload := statusRequest plainAuth newYear "AI-CONTROL-PLANE"

def metadata : SourceMetadata :=
  (authenticate plainAuth plainAuthSettings signedGit newYear.val payload bareEnvelope (some "DIR-1.json")).metadata

def item : QueuedDirectiveItem :=
  newItem host "2026-01-01T00:00:00Z" payload bareEnvelope (queuedMetadata metadata) "directives/inbox/DIR-1.json"

/-- The call of `poll_inbox`, on an empty queue. -/
def enqueued : EnqueueOutcome :=
  enqueuePayload host ⟨"2026-01-01T00:00:00Z", .written, true⟩ ⟨[], none⟩ payload bareEnvelope (queuedMetadata metadata) none
    "directives/inbox/DIR-1.json"

/-- How the directive fares. -/
structure Fares : Prop where
  authentic : (authenticate plainAuth plainAuthSettings signedGit newYear.val payload bareEnvelope (some "DIR-1.json")).status = .authentic
  enqueued : enqueued = ⟨⟨[(.str "DIR-1", item.verified)], appended none (itemText host item)⟩, .ok item.verified⟩

theorem fares : Fares where
  authentic := (authenticate_authentic.mpr ⟨_, _, _, _, _, signed_verified, signed_matched _, statusRequest_admitted _ _, rfl⟩).1
  enqueued := by
    have path : ¬ ("directives/inbox/DIR-1.json" ≠ "" ∧ isSourcePath "directives/inbox/DIR-1.json" = false) := by decide
    have kept := @persist_returns host item ⟨"2026-01-01T00:00:00Z", .written, true⟩ ⟨[], none⟩ "DIR-1" _ atLine_empty rfl rfl
    unfold enqueued enqueuePayload
    rw [Dict.get?_nil]
    dsimp only
    rw [if_neg path]
    exact kept

end Ready

theorem queued_unready_first : ∃ line, Ready.enqueued.queue.file = some ("" ++ line) ∧
    ¬ Ingestible Ready.ingestor Ready.payload Ready.item.verified line := by
  have returned : Ready.enqueued.result = .ok Ready.item.verified := by rw [Ready.fares.enqueued]
  unfold Ready.enqueued at returned ⊢
  exact @queued_unready Ready.host Ready.ingestor Ready.item.verified ⟨[], none⟩ _ Ready.payload _ _ _ _ rfl rfl returned

/-- An authentic directive, queued for a target that is supported, is not ingested. -/
theorem queued_refused : (Directive.authenticate Directive.plainAuth Directive.plainAuthSettings Directive.signedGit Directive.newYear.val Ready.payload
      Directive.bareEnvelope (some "DIR-1.json")).status = .authentic ∧
    isIdentifier Ready.payload.directiveId = true ∧ Ready.payload.targetProject ∈ Ready.ingestor.supportedTargets ∧
    ∃ queued line, Ready.enqueued.result = .ok queued ∧ Ready.enqueued.queue.file = some line ∧
      ¬ Ingestible Ready.ingestor Ready.payload queued line := by
  refine ⟨Ready.fares.authentic, by decide, by decide, ?_⟩
  rw [Ready.fares.enqueued]
  refine ⟨_, _, rfl, rfl, ?_⟩
  rw [Option.getD_none, String.empty_append]
  exact unready rfl rfl Ready.payload _

end ControlPlane.Autonomy
