import ControlPlane.Directive.DurableQueue

/-!
# The execution queue after a restart

What a fresh queue reads from the file of a queue in memory, and how
`PreExecutionRevalidator.revalidate` of `executor.py` answers for its items.
-/

namespace ControlPlane.Directive

open ControlPlane.Data

/-! ### The revalidator -/

/-- What `DirectiveAuthenticator.authenticate` returns. -/
structure Authentication where
  status : ValidationStatus
  reason : String
  requiresHumanWait : Bool
  metadata : AuthMetadata

/-- The envelope of an item; its fields are those of the line, whatever their types. -/
structure ItemEnvelope where
  directiveId : Json
  payloadCommitSha : Json
  payloadBlobSha : Json
  payloadSha256 : Json
  trustedRemote : String
  trustedBranch : String
  signerIdentity : Json

structure Settings where
  approvedSourceRepository : String
  approvedSourceBranch : String
  executeMutatingDirectives : Bool

/-- The result of `revalidate`; without metadata where it did not authenticate. -/
structure Revalidation where
  allowed : Bool
  status : ValidationStatus
  reason : String
  metadata : Option AuthMetadata

section

variable (host : QueueHost)

/-- `v[:7]` in a text -/
def shortText : Json → Except Fault String
  | .str s => .ok (String.ofList (s.toList.take 7))
  | .list xs => .ok (host.shown (.list (xs.take 7)))
  | _ => .error .typeError

def itemEnvelope (settings : Settings) (item : QueuedDirectiveItem) : ItemEnvelope where
  directiveId := item.directiveId
  payloadCommitSha := item.directiveSourceSha
  payloadBlobSha := item.directiveBlobSha
  payloadSha256 := item.directivePayloadSha256
  trustedRemote := settings.approvedSourceRepository
  trustedBranch := settings.approvedSourceBranch
  signerIdentity := item.signerIdentity

/-- The live hash is there, the queued one too, and they differ. -/
def hashMismatch (live : String) (queued : Json) : Bool := live ≠ "" && queued.truthy && queued.str? ≠ some live

/-- `PreExecutionRevalidator.revalidate` -/
def revalidate (settings : Settings) (authenticate : DirectivePayload → ItemEnvelope → Except Fault Authentication)
    (item : QueuedDirectiveItem) : Except Fault Revalidation :=
  if !item.readbackVerified then
    .ok ⟨false, .queueCorruption, "TOCTOU_REVALIDATION_FAILED: Queue record was not read-back verified", none⟩
  else if item.executed then
    .ok ⟨false, .stateConflict, "TOCTOU_REVALIDATION_FAILED: Directive already executed", none⟩
  else if !item.directivePayload.truthy then
    .ok ⟨false, .queueRecordMismatch, "TOCTOU_REVALIDATION_FAILED: Queued directive_payload is missing", none⟩
  else do
    let payload ← DirectivePayload.fromDict host.toHost item.directivePayload
    let auth ← authenticate payload (itemEnvelope settings item)
    if auth.status ≠ .authentic ∧ auth.requiresHumanWait = false then
      return ⟨false, .toctouRevalidationFailed, s!"TOCTOU_REVALIDATION_FAILED: {auth.reason}", some auth.metadata⟩
    let live := auth.metadata.payloadSha256.getD ""
    if hashMismatch live item.directivePayloadSha256 then
      let short ← shortText host (.str live)
      let queued ← shortText host item.directivePayloadSha256
      return ⟨false, .toctouRevalidationFailed,
        s!"TOCTOU_REVALIDATION_FAILED: Live blob SHA256 ({short}) mismatch against queued record ({queued})", some auth.metadata⟩
    if !settings.executeMutatingDirectives then
      return ⟨false, .actionNotAllowed,
        "EXECUTION_ALLOWED = FALSE: Mutating directive execution disabled in stage CONTROL-02.5", some auth.metadata⟩
    return ⟨true, .authentic, "TOCTOU_REVALIDATION_PASSED: Execution revalidated successfully", some auth.metadata⟩

/-! ### Runs -/

structure EnqueueCall where
  answers : EnqueueAnswers
  payload : DirectivePayload
  envelope : DirectiveEnvelope
  auth : AuthMetadata
  acceptedAt : Option String := none
  directiveSourcePath : String := ""

def EnqueueCall.perform (call : EnqueueCall) (q : DurableExecutionQueue) : EnqueueOutcome :=
  enqueuePayload host call.answers q call.payload call.envelope call.auth call.acceptedAt call.directiveSourcePath

/-- A queue after calls that all return normally. -/
def runCalls : DurableExecutionQueue → List EnqueueCall → Option DurableExecutionQueue
  | q, [] => some q
  | q, call :: rest =>
    match (call.perform host q).result with
    | .error _ => none
    | .ok _ => runCalls (call.perform host q).queue rest

/-! ### What is read of what was written -/

/-- An item as `json.loads` gives it back. -/
def QueuedDirectiveItem.reread (item : QueuedDirectiveItem) : QueuedDirectiveItem where
  directiveId := item.directiveId.reread
  directiveSourceSha := item.directiveSourceSha.reread
  directiveBlobSha := item.directiveBlobSha.reread
  directivePayloadSha256 := item.directivePayloadSha256.reread
  acceptedAt := item.acceptedAt.reread
  queueState := item.queueState.reread
  targetProject := item.targetProject.reread
  actionType := item.actionType.reread
  requiresHumanApproval := item.requiresHumanApproval
  executed := item.executed
  executionAttempts := item.executionAttempts
  readbackVerified := item.readbackVerified
  idempotencyKey := item.idempotencyKey.reread
  signerIdentity := item.signerIdentity.reread
  directivePayload := item.directivePayload.reread
  directiveSourcePath := item.directiveSourcePath.reread

/-- The line of an item, without its newline. -/
def itemLine (item : QueuedDirectiveItem) : List Char := Json.lineOf host.floats item.toDict

end

section

variable {host : QueueHost} {item item' : QueuedDirectiveItem} {items items' : Items} {key : Json.Key} {n : Nat}

theorem toDict_distinct : Dict.Distinct item.toDict := by
  unfold Dict.Distinct Dict.keys QueuedDirectiveItem.toDict
  simp only [List.map_cons, List.map_nil]
  decide

theorem reread_toDict : Json.rereadEntries item.toDict = item.reread.toDict := by
  simp [QueuedDirectiveItem.toDict, QueuedDirectiveItem.reread, Json.rereadEntries, Json.reread]

theorem loads_itemLine : Json.loads host.floats (String.ofList (itemLine host item)) = some (.dict item.reread.toDict) := by
  have read := @Json.loads_dumps_any host.floats _ Json.spaced_default (.dict item.toDict)
  rw [Json.reread, reread_toDict, Dict.ofList_of_distinct toDict_distinct] at read
  exact read

/-- The decoder inverts the encoder. -/
theorem itemOf_toDict : itemOf host item.toDict item.directiveId = some item := rfl

theorem str?_reread (v : Json) : v.reread.str? = v.str? := by
  cases v <;> simp [Json.reread, Json.str?]

/-- A line that was written at the beginning of a line is read back as it should. -/
theorem readBack_appended {front : List (List Char)} {content : String} (start : AtLine front content) :
    readBack host item (content ++ String.ofList (itemText host item)) = some true := by
  have last := (start.append (Json.lineOf_solid host.floats item.toDict)).last (Json.lineOf_solid host.floats item.toDict)
  have read := @loads_itemLine host item
  unfold itemLine at read
  unfold readBack itemText
  rw [last]
  simp only [read]
  have fields : Record.field item.reread.toDict "directive_id" = item.directiveId.reread ∧
      Record.field item.reread.toDict "idempotency_key" = item.idempotencyKey.reread ∧
      Record.field item.reread.toDict "directive_payload_sha256" = item.directivePayloadSha256.reread ∧
      fieldOr item.reread.toDict "directive_source_path" (.str "") = item.directiveSourcePath.reread :=
    ⟨rfl, rfl, rfl, rfl⟩
  simp [fields, str?_reread]

/-- An item as `enqueue_payload` makes it. -/
def IsNew (host : QueueHost) (item : QueuedDirectiveItem) : Prop :=
  ∃ now payload envelope auth path, item = newItem host now payload envelope auth path

/-- The id of an item, as a text. -/
def QueuedDirectiveItem.id (item : QueuedDirectiveItem) : String := item.directiveId.str?.getD ""

theorem IsNew.directiveId (new : IsNew host item) : item.directiveId = .str item.id := by
  obtain ⟨now, payload, envelope, auth, path, rfl⟩ := new
  rfl

theorem IsNew.unverified (new : IsNew host item) : item.readbackVerified = false := by
  obtain ⟨now, payload, envelope, auth, path, rfl⟩ := new
  rfl

/-- How the line of a new item is loaded. -/
theorem loadItem_new (new : IsNew host item) : loadItem host n items (itemLine host item) =
    if item.id = "" then .error (.missingId n)
    else if (items.get? (.str item.id)).isSome then .ok items
    else .ok (items.set (.str item.id) item.reread) := by
  have id : item.reread.directiveId = .str item.id := by
    simp [QueuedDirectiveItem.reread, new.directiveId, Json.reread]
  have field : Record.field item.reread.toDict "directive_id" = .str item.id := id
  have read : itemOf host item.reread.toDict (.str item.id) = some item.reread := by
    rw [← id]
    exact itemOf_toDict
  unfold loadItem
  rw [loads_itemLine]
  simp only [field, Json.key?, read, Json.truthy]
  by_cases empty : item.id = ""
  · simp [empty]
  · simp [empty]

theorem itemLine_solid : Solid (itemLine host item) := Json.lineOf_solid host.floats item.toDict

theorem loadItems_solid {line : List Char} {rest : List (List Char)} (solid : Solid line) :
    loadItems host n items (line :: rest) =
      match loadItem host n items line with
      | .error e => .error e
      | .ok items => loadItems host (n + 1) items rest := by
  obtain ⟨c, tail, same, -⟩ := solid.first
  have filled : ¬ line.isEmpty = true := by simp [same]
  cases outcome : loadItem host n items line <;> rw [loadItems, strip_of_solid solid, if_neg filled, outcome]

/-- Behind the last newline nothing is read. -/
theorem loadItems_end : loadItems host n items [[]] = .ok items := rfl

/-- Of the lines of new items no item is read that was verified. -/
theorem loadItems_unverified {written : List QueuedDirectiveItem} (new : ∀ w ∈ written, IsNew host w)
    (start : ∀ e ∈ items, e.2.readbackVerified = false)
    (loaded : loadItems host n items (written.map (itemLine host) ++ [[]]) = .ok items') :
    ∀ e ∈ items', e.2.readbackVerified = false := by
  induction written generalizing n items with
  | nil =>
    obtain rfl := Except.ok.inj (loadItems_end.symm.trans loaded)
    exact start
  | cons w written ih =>
    have isNew := new w List.mem_cons_self
    have later := fun v member => new v (List.mem_cons_of_mem _ member)
    rw [List.map_cons, List.cons_append, loadItems_solid itemLine_solid, loadItem_new isNew] at loaded
    by_cases empty : w.id = ""
    · simp [empty] at loaded
    · rw [if_neg empty] at loaded
      by_cases known : (items.get? (.str w.id)).isSome
      · rw [if_pos known] at loaded
        exact ih later start loaded
      · rw [if_neg known] at loaded
        refine ih later (fun e member => ?_) loaded
        rcases Dict.mem_set member with rfl | member
        · exact isNew.unverified
        · exact start e member

/-- New items with ids of their own are read in order. -/
theorem loadItems_fresh {written : List QueuedDirectiveItem} (new : ∀ w ∈ written, IsNew host w)
    (named : ∀ w ∈ written, w.id ≠ "") (distinct : Dict.Distinct (items ++ written.map fun w => (Json.Key.str w.id, w))) :
    loadItems host n items (written.map (itemLine host) ++ [[]]) =
      .ok (items ++ written.map fun w => (Json.Key.str w.id, w.reread)) := by
  induction written generalizing n items with
  | nil =>
    rw [List.map_nil, List.map_nil, List.append_nil]
    exact loadItems_end
  | cons w written ih =>
    have fresh : Json.Key.str w.id ∉ Dict.keys items := by
      intro known
      unfold Dict.Distinct Dict.keys at distinct
      rw [List.map_append, List.map_cons] at distinct
      exact (List.nodup_append.mp distinct).2.2 _ known _ List.mem_cons_self rfl
    have unknown : ¬ (items.get? (.str w.id)).isSome := by
      rw [Dict.get?_none.mpr fresh]
      simp
    have distinct' : Dict.Distinct ((items ++ [(Json.Key.str w.id, w.reread)]) ++ written.map fun w => (Json.Key.str w.id, w)) := by
      unfold Dict.Distinct Dict.keys at distinct ⊢
      simpa using distinct
    rw [List.map_cons, List.cons_append, loadItems_solid itemLine_solid, loadItem_new (new w List.mem_cons_self),
      if_neg (named w List.mem_cons_self), if_neg unknown, Dict.set_fresh fresh]
    have later := ih (n := n + 1) (fun v member => new v (List.mem_cons_of_mem _ member))
      (fun v member => named v (List.mem_cons_of_mem _ member)) distinct'
    rw [List.append_assoc] at later
    exact later

/-! ### What a run leaves -/

theorem persist_ok {answers : EnqueueAnswers} {q : DurableExecutionQueue} {directiveId : String}
    (ok : (persist host answers q directiveId item).result = .ok item') : (persist host answers q directiveId item).queue =
      ⟨q.items.set (.str directiveId) item.verified, appended q.file (itemText host item)⟩ := by
  unfold persist at ok ⊢
  cases written : answers.write with
  | raised kept =>
    rw [written] at ok
    cases ok
  | written =>
    simp only [written] at ok ⊢
    split at ok
    · cases ok
    · cases ok
    · rename_i same
      simp only
      rfl

/-- Where the file is at the beginning of a line, a line that is written is kept. -/
theorem persist_returns {answers : EnqueueAnswers} {q : DurableExecutionQueue} {directiveId : String}
    {front : List (List Char)} (start : AtLine front (q.file.getD "")) (written : answers.write = .written)
    (readable : answers.readable = true) : persist host answers q directiveId item =
      ⟨⟨q.items.set (.str directiveId) item.verified, appended q.file (itemText host item)⟩, .ok item.verified⟩ := by
  have read := @readBack_appended host item _ _ start
  unfold persist
  rw [written, readable]
  simp only [writtenFile, appended, Option.getD_some, if_true, read]

/-- A call that returns normally found its id in memory, or wrote its line and keeps the item. -/
theorem perform_ok {call : EnqueueCall} {q : DurableExecutionQueue} (ok : (call.perform host q).result = .ok item) :
    (call.perform host q).queue = q ∧ q.items.get? (.str call.payload.directiveId) = some item ∨
    ∃ w, IsNew host w ∧ w.id = call.payload.directiveId ∧ q.items.get? (.str w.id) = none ∧
      (call.perform host q).queue = ⟨q.items.set (.str w.id) w.verified, appended q.file (itemText host w)⟩ := by
  unfold EnqueueCall.perform enqueuePayload at ok ⊢
  cases known : q.items.get? (.str call.payload.directiveId) with
  | some found =>
    rw [known] at ok
    left
    exact ⟨rfl, congrArg some (Except.ok.inj ok)⟩
  | none =>
    rw [known] at ok
    simp only at ok ⊢
    split at ok
    · cases ok
    · rename_i path
      right
      refine ⟨newItem host (acceptedTime call.acceptedAt call.answers.now) call.payload call.envelope call.auth
        call.directiveSourcePath, ⟨_, _, _, _, _, rfl⟩, rfl, known, ?_⟩
      rw [if_neg path]
      exact persist_ok ok

/-- A queue that holds these items and has written their lines. -/
structure Wrote (host : QueueHost) (q : DurableExecutionQueue) (written : List QueuedDirectiveItem) : Prop where
  new : ∀ w ∈ written, IsNew host w
  items : q.items = written.map fun w => (Json.Key.str w.id, w.verified)
  distinct : Dict.Distinct q.items
  file : AtLine (written.map (itemLine host)) (q.file.getD "")
  present : written ≠ [] → ∃ content, q.file = some content

theorem wrote_start : Wrote host ⟨[], none⟩ [] where
  new _ member := absurd member List.not_mem_nil
  items := rfl
  distinct := List.nodup_nil
  file := atLine_empty
  present some := absurd rfl some

/-- A call that returns normally adds at most one item, and one is there afterwards. -/
theorem wrote_perform {call : EnqueueCall} {q : DurableExecutionQueue} {written : List QueuedDirectiveItem}
    (wrote : Wrote host q written) (ok : (call.perform host q).result = .ok item) :
    ∃ written', Wrote host (call.perform host q).queue written' ∧ written' ≠ [] ∧ written <+: written' := by
  rcases perform_ok ok with ⟨same, known⟩ | ⟨w, isNew, id, fresh, same⟩
  · refine ⟨written, ?_, ?_, List.prefix_rfl⟩
    · rw [same]
      exact wrote
    rintro rfl
    rw [wrote.items] at known
    cases known
  · have other := Dict.get?_none.mp fresh
    refine ⟨written ++ [w], ?_, by simp, List.prefix_append written [w]⟩
    rw [same]
    refine ⟨fun v member => ?_, ?_, ?_, ?_, fun _ => ⟨_, rfl⟩⟩
    · rcases List.mem_append.mp member with member | last
      · exact wrote.new v member
      · obtain rfl := List.mem_singleton.mp last
        exact isNew
    · rw [Dict.set_fresh other, wrote.items, List.map_append]
      rfl
    · exact wrote.distinct.set
    · have line := wrote.file.append (@itemLine_solid host w)
      rw [List.map_append]
      exact line

theorem wrote_runCalls {calls : List EnqueueCall} {q q' : DurableExecutionQueue} {written : List QueuedDirectiveItem}
    (wrote : Wrote host q written) (ran : runCalls host q calls = some q') :
    ∃ written', Wrote host q' written' ∧ written <+: written' ∧ (calls ≠ [] → written' ≠ []) := by
  induction calls generalizing q written with
  | nil =>
    obtain rfl := Option.some.inj ran
    exact ⟨written, wrote, List.prefix_rfl, fun some => absurd rfl some⟩
  | cons call rest ih =>
    unfold runCalls at ran
    split at ran
    · cases ran
    · rename_i item ok
      obtain ⟨middle, wrote', some, before⟩ := wrote_perform wrote ok
      obtain ⟨written', last, after, -⟩ := ih wrote' ran
      refine ⟨written', last, before.trans after, fun _ none => ?_⟩
      rw [none] at after
      exact some (List.prefix_nil.mp after)

theorem loadExecutionQueue_wrote {q : DurableExecutionQueue} {written : List QueuedDirectiveItem}
    (wrote : Wrote host q written) :
    loadExecutionQueue host q.file = loadItems host 1 [] (written.map (itemLine host) ++ [[]]) := by
  cases present : q.file with
  | none =>
    have none : written = [] := by
      by_contra some
      obtain ⟨content, same⟩ := wrote.present some
      simp [present] at same
    rw [none]
    rfl
  | some content =>
    have lines := wrote.file
    rw [present, Option.getD_some] at lines
    rw [loadExecutionQueue, lines]

/-- A fresh queue has the items of the queue in memory, each not verified. -/
theorem reload_unverified {calls : List EnqueueCall} {q : DurableExecutionQueue}
    (ran : runCalls host ⟨[], none⟩ calls = some q) (named : ∀ key ∈ q.items.keys, key ≠ .str "") :
    ∃ written : List QueuedDirectiveItem, (∀ w ∈ written, w.readbackVerified = false) ∧
      q.items = (written.map fun w => (Json.Key.str w.id, w.verified)) ∧
      loadExecutionQueue host q.file = .ok (written.map fun w => (Json.Key.str w.id, w.reread)) := by
  obtain ⟨written, wrote, -, -⟩ := wrote_runCalls wrote_start ran
  refine ⟨written, fun w member => (wrote.new w member).unverified, wrote.items, ?_⟩
  have keys : Dict.keys q.items = written.map fun w => Json.Key.str w.id := by
    rw [wrote.items, Dict.keys, List.map_map]
    rfl
  have distinct : Dict.Distinct ([] ++ written.map fun w => (Json.Key.str w.id, w)) := by
    have own := wrote.distinct
    unfold Dict.Distinct at own ⊢
    rw [keys] at own
    simpa [Dict.keys, Function.comp_def] using own
  have filled : ∀ w ∈ written, w.id ≠ "" := by
    intro w member empty
    refine named (.str w.id) ?_ (by rw [empty])
    rw [keys]
    exact List.mem_map_of_mem (f := fun w : QueuedDirectiveItem => Json.Key.str w.id) member
  rw [loadExecutionQueue_wrote wrote]
  exact loadItems_fresh wrote.new filled distinct

/-- After a restart the revalidator refuses what it had not refused before. -/
theorem revalidate_unverified {settings : Settings}
    {authenticate : DirectivePayload → ItemEnvelope → Except Fault Authentication} (unverified : item.readbackVerified = false) :
    revalidate host settings authenticate item =
      .ok ⟨false, .queueCorruption, "TOCTOU_REVALIDATION_FAILED: Queue record was not read-back verified", none⟩ := by
  simp [revalidate, unverified]

/-- The queue reloads to what was in memory only if nothing was queued. -/
theorem reloads_iff {calls : List EnqueueCall} {q : DurableExecutionQueue} (ran : runCalls host ⟨[], none⟩ calls = some q) :
    loadExecutionQueue host q.file = .ok q.items ↔ calls = [] := by
  obtain ⟨written, wrote, -, some⟩ := wrote_runCalls wrote_start ran
  constructor
  · intro loaded
    by_contra made
    obtain ⟨w, rest, same⟩ := List.exists_cons_of_ne_nil (some made)
    rw [loadExecutionQueue_wrote wrote] at loaded
    have unverified := loadItems_unverified wrote.new (fun e member => absurd member List.not_mem_nil) loaded
    have here := unverified (.str w.id, w.verified) (by rw [wrote.items, same]; exact List.mem_cons_self)
    cases here
  · rintro rfl
    obtain rfl := Option.some.inj ran
    rfl

end

/-! ### One directive -/

def oneCall : EnqueueCall where
  answers := ⟨"2026-01-01T00:00:00Z", .written, true⟩
  payload :=
    { directiveVersion := "2.0"
      directiveId := "D-1"
      project := "P"
      targetProject := "T"
      targetStage := "S"
      actionType := "READ_STATUS"
      action := "read"
      createdAt := "2026-01-01"
      expiresAt := "2026-02-01"
      issuedBy := "I"
      requiresHumanApproval := false
      allowedScope := []
      preconditions := []
      successCriteria := []
      failurePolicy := "F"
      rollbackPolicy := "B"
      payload := [] }
  envelope :=
    { directiveId := "D-1"
      payloadCommitSha := "c1"
      payloadBlobSha := "b1"
      payloadSha256 := "h1"
      trustedRemote := "R"
      trustedBranch := "main" }
  auth := ⟨some "h1", some "b1", some "K"⟩

def oneItem : QueuedDirectiveItem :=
  newItem sampleQueueHost "2026-01-01T00:00:00Z" oneCall.payload oneCall.envelope oneCall.auth ""

/-- The queue after the call. -/
def oneQueued : DurableExecutionQueue where
  items := [(.str "D-1", oneItem.verified)]
  file := appended none (itemText sampleQueueHost oneItem)

theorem oneCall_returns : runCalls sampleQueueHost ⟨[], none⟩ [oneCall] = some oneQueued := by
  have kept := @persist_returns sampleQueueHost oneItem oneCall.answers ⟨[], none⟩ "D-1" _ atLine_empty rfl rfl
  have performed : oneCall.perform sampleQueueHost ⟨[], none⟩ = ⟨oneQueued, .ok oneItem.verified⟩ := by
    have noPath : ¬ (oneCall.directiveSourcePath ≠ "" ∧ isSourcePath oneCall.directiveSourcePath = false) :=
      fun both => both.1 rfl
    unfold EnqueueCall.perform enqueuePayload
    rw [Dict.get?_nil]
    simp only [if_neg noPath]
    exact kept
  rw [runCalls, performed]
  rfl

theorem reloads_iff_one : loadExecutionQueue sampleQueueHost oneQueued.file = .ok oneQueued.items ↔ [oneCall] = [] :=
  reloads_iff oneCall_returns

theorem wrote_one : Wrote sampleQueueHost oneQueued [oneItem] where
  new w member := by
    obtain rfl := List.mem_singleton.mp member
    exact ⟨_, _, _, _, _, rfl⟩
  items := rfl
  distinct := List.nodup_singleton _
  file := atLine_empty.append itemLine_solid
  present _ := ⟨_, rfl⟩

/-- An authenticator that finds the directive as it was queued. -/
def stillAuthentic : DirectivePayload → ItemEnvelope → Except Fault Authentication :=
  fun _ _ => .ok ⟨.authentic, "AUTHENTIC: Directive source authenticated and validated successfully", false,
    ⟨some "h1", some "b1", some "K"⟩⟩

/-- The directive may be executed before the restart, and not after it. -/
theorem restart_revokes : runCalls sampleQueueHost ⟨[], none⟩ [oneCall] = some oneQueued ∧
    oneQueued.items = [(.str "D-1", oneItem.verified)] ∧
    loadExecutionQueue sampleQueueHost oneQueued.file = .ok [(.str "D-1", oneItem.reread)] ∧
    (revalidate sampleQueueHost ⟨"R", "main", true⟩ stillAuthentic oneItem.verified).toOption.map (·.allowed) = some true ∧
    (revalidate sampleQueueHost ⟨"R", "main", true⟩ stillAuthentic oneItem.reread).toOption.map (·.allowed) =
      some false := by
  refine ⟨oneCall_returns, rfl, ?_, rfl, rfl⟩
  rw [loadExecutionQueue_wrote wrote_one]
  refine loadItems_fresh wrote_one.new (fun w member => ?_) (List.nodup_singleton _)
  obtain rfl := List.mem_singleton.mp member
  decide

end ControlPlane.Directive
