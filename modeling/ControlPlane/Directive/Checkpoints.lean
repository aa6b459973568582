import ControlPlane.Data.PyValue
import ControlPlane.Directive.AuditTrails

/-!
# Recovery checkpoints

`RecoveryCheckpoint`, `save_checkpoint` and `restore_checkpoint` of `recovery_engine.py`: the
signature is made of the Python value and checked against what the file gives back.
-/

namespace ControlPlane.Directive

open ControlPlane.Data

/-- Microseconds since 1970, as far as `datetime` goes. -/
abbrev Instant := { t : Int // -62135596800000000 ≤ t ∧ t < 253402300800000000 }

structure RecoveryHost extends Host where
  order : NanOrder
  /-- `hmac.new(key, data, hashlib.sha256).hexdigest()` -/
  hmac : String → String → String
  hmac_ascii : ∀ key data, ((hmac key data).toList.all fun c => c.toNat < 128) = true
  isoformat : Instant → String
  /-- A time without a zone is UTC. -/
  fromisoformat : String → Option Int
  read_iso : ∀ t, fromisoformat (isoformat t) = some t.val
  read_empty : fromisoformat "" = none
  shown_int : ∀ n, shown (.int n) = String.ofList (Json.intText n)
  /-- `str(e)` of what reading this raises -/
  errorText : Json → String

structure RecoverySettings where
  secretKey : String
  checkpointMaxAgeSeconds : Int
  /-- `str(self.checkpoint_dir / name)` -/
  shownPath : String → String

/-- A checkpoint as it was made. -/
structure SavedCheckpoint where
  directiveId : String
  attemptCount : Int
  stateVector : PyValue
  payloadHash : String
  timestamp : String
  signature : String

/-- A checkpoint as it was read. -/
structure RecoveryCheckpoint where
  directiveId : Json
  attemptCount : Json
  stateVector : Json
  payloadHash : Json
  timestamp : Json
  signature : Json

/-- The files of the checkpoint directory. -/
abbrev CheckpointFiles := Dict String String

/-- The type and the details of an event. -/
abbrev RecoveryEvent := String × Record

structure RestoreOutcome where
  checkpoint : Option RecoveryCheckpoint
  reason : String
  event : RecoveryEvent

/-- `f"checkpoint_{directive_id}_{attempt_count}.json"` -/
def checkpointName (directiveId : String) (attemptCount : Int) : String :=
  "checkpoint_" ++ directiveId ++ "_" ++ String.ofList (Json.intText attemptCount) ++ ".json"

/-- The text that is signed. -/
def checkpointData (directiveId attemptCount payloadHash timestamp stateVector : String) : String :=
  directiveId ++ ":" ++ attemptCount ++ ":" ++ payloadHash ++ ":" ++ timestamp ++ ":" ++ stateVector

/-- `RecoveryCheckpoint.to_dict` -/
def SavedCheckpoint.toDict (repr : ℚ → List Char) (cp : SavedCheckpoint) : Json :=
  .dict [("directive_id", .str cp.directiveId), ("attempt_count", .int cp.attemptCount),
    ("state_vector", cp.stateVector.toJson repr), ("payload_hash", .str cp.payloadHash), ("timestamp", .str cp.timestamp),
    ("signature", .str cp.signature)]

section

variable (host : RecoveryHost) (settings : RecoverySettings)

/-- `json.dumps(self.state_vector, sort_keys=True)` of a value in memory. -/
def savedVector (v : PyValue) : Option String := v.sortedDumps host.floats.repr host.order

/-- The checkpoint that `save_checkpoint` makes; it raises where the keys of a dictionary cannot be compared. -/
def saveCheckpoint (now : Instant) (directiveId : String) (attemptCount : Int) (stateVector : PyValue) (payloadHash : String) :
    Option SavedCheckpoint :=
  (savedVector host stateVector).map fun vector =>
    { directiveId, attemptCount, stateVector, payloadHash
      timestamp := host.isoformat now
      signature := host.hmac settings.secretKey
        (checkpointData directiveId (String.ofList (Json.intText attemptCount)) payloadHash (host.isoformat now) vector) }

/-- `json.dumps(cp.to_dict(), indent=2)` -/
def checkpointText (cp : SavedCheckpoint) : String := Json.dumpsIndented host.floats.repr 2 (cp.toDict host.floats.repr)

/-- The file that `save_checkpoint` writes. -/
def writeCheckpoint (files : CheckpointFiles) (cp : SavedCheckpoint) : CheckpointFiles :=
  files.set (checkpointName cp.directiveId cp.attemptCount) (checkpointText host cp)

/-- The event of `save_checkpoint`. -/
def savedEvent (cp : SavedCheckpoint) : RecoveryEvent :=
  ("CHECKPOINT_SAVED", [("checkpoint_file", .str (settings.shownPath (checkpointName cp.directiveId cp.attemptCount))),
    ("attempt_count", .int cp.attemptCount), ("payload_hash", .str cp.payloadHash), ("signature", .str cp.signature)])

/-- `RecoveryCheckpoint.from_dict`, where it does not raise. -/
def fromDict (built : Instant) : Json → Option RecoveryCheckpoint
  | .dict d => do
    let directiveId ← Dict.get? d "directive_id"
    let attemptCount ← Dict.get? d "attempt_count"
    let stateVector ← Dict.get? d "state_vector"
    let payloadHash ← Dict.get? d "payload_hash"
    let timestamp ← Dict.get? d "timestamp"
    let signature := (Dict.get? d "signature").getD (.str "")
    return { directiveId, attemptCount, stateVector, payloadHash
             timestamp := if timestamp.truthy then timestamp else .str (host.isoformat built)
             signature := if signature.truthy then signature else .str "" }
  | _ => none

/-- The text that `compute_signature` signs. -/
def RecoveryCheckpoint.data (cp : RecoveryCheckpoint) : String :=
  checkpointData (host.shown cp.directiveId) (host.shown cp.attemptCount) (host.shown cp.payloadHash) (host.shown cp.timestamp)
    (sortedText host.toHost cp.stateVector)

/-- `hmac.compare_digest`; what is no text, or none in ASCII, raises. -/
def compareDigest (given : Json) (expected : String) : Option Bool :=
  match given with
  | .str s => if (s.toList.all fun c => c.toNat < 128) = true then some (s = expected) else none
  | _ => none

/-- The checks of `restore_checkpoint` behind the signature. -/
def restoreSigned (now : Instant) (expectedPayloadHash : String) (cp : RecoveryCheckpoint) : RestoreOutcome :=
  if cp.payloadHash.str? ≠ some expectedPayloadHash then
    ⟨none, "CHECKPOINT_PAYLOAD_HASH_MISMATCH",
      ("CHECKPOINT_HASH_MISMATCH", [("expected_hash", .str expectedPayloadHash), ("actual_hash", cp.payloadHash)])⟩
  else match cp.timestamp.str?.bind host.fromisoformat with
    | none => ⟨none, "CHECKPOINT_INVALID_TIMESTAMP", ("CHECKPOINT_INVALID_TIMESTAMP", [("error", .str (host.errorText cp.timestamp))])⟩
    | some made =>
      if settings.checkpointMaxAgeSeconds * 1000000 < now.val - made then
        ⟨none, "CHECKPOINT_STALE_TIMESTAMP", ("CHECKPOINT_STALE",
          [("checkpoint_time", cp.timestamp), ("max_age_seconds", .int settings.checkpointMaxAgeSeconds)])⟩
      else ⟨some cp, "CHECKPOINT_INTEGRITY_VALIDATED", ("CHECKPOINT_RESTORED_AND_VERIFIED",
        [("attempt_count", cp.attemptCount), ("payload_hash", cp.payloadHash)])⟩

/-- `restore_checkpoint`; nothing where it raises. The clock is read for a checkpoint without a time, and for its age. -/
def restoreCheckpoint (built now : Instant) (directiveId : String) (attemptCount : Int) (expectedPayloadHash : String)
    (files : CheckpointFiles) : Option RestoreOutcome :=
  match files.get? (checkpointName directiveId attemptCount) with
  | none => some ⟨none, "CHECKPOINT_FILE_NOT_FOUND", ("CHECKPOINT_NOT_FOUND",
      [("checkpoint_file", .str (settings.shownPath (checkpointName directiveId attemptCount)))])⟩
  | some content =>
    match (Json.loads host.floats content).bind (fromDict host built) with
    | none => some ⟨none, "CHECKPOINT_CORRUPT_JSON", ("CHECKPOINT_CORRUPTED", [("error", .str (host.errorText (.str content)))])⟩
    | some cp =>
      let expectedSig := host.hmac settings.secretKey (cp.data host)
      match compareDigest cp.signature expectedSig with
      | none => none
      | some false => some ⟨none, "CHECKPOINT_SIGNATURE_INVALID", ("CHECKPOINT_TAMPERED",
          [("signature_given", cp.signature), ("signature_computed", .str expectedSig)])⟩
      | some true => some (restoreSigned host settings now expectedPayloadHash cp)

/-- A restored value has the JSON encoding of this one. -/
def SameVector (restored : Json) (v : PyValue) : Prop := savedVector host v = some (sortedText host.toHost restored)

/-- `restore_checkpoint` behind `save_checkpoint` succeeds with the value that was saved. -/
def RoundTrips (files : CheckpointFiles) (cp : SavedCheckpoint) (built later : Instant) : Prop :=
  ∃ restored event, restoreCheckpoint host settings built later cp.directiveId cp.attemptCount cp.payloadHash
      (writeCheckpoint host files cp) = some ⟨some restored, "CHECKPOINT_INTEGRITY_VALIDATED", event⟩ ∧
    SameVector host restored.stateVector cp.stateVector

end

section

variable {host : RecoveryHost} {settings : RecoverySettings} {now built later : Instant} {directiveId payloadHash : String}
  {attemptCount : Int} {stateVector : PyValue} {cp : SavedCheckpoint} {files : CheckpointFiles}

theorem isoformat_truthy (t : Instant) : (Json.str (host.isoformat t)).truthy = true := by
  have named : host.isoformat t ≠ "" := by
    intro empty
    have read := host.read_iso t
    rw [empty, host.read_empty] at read
    cases read
  simp [Json.truthy, named]

/-- The checkpoint as its file gives it back. -/
def SavedCheckpoint.readBack (repr : ℚ → List Char) (cp : SavedCheckpoint) : RecoveryCheckpoint where
  directiveId := .str cp.directiveId
  attemptCount := .int cp.attemptCount
  stateVector := Json.reread (cp.stateVector.toJson repr)
  payloadHash := .str cp.payloadHash
  timestamp := .str cp.timestamp
  signature := .str cp.signature

theorem reread_checkpoint (cp : SavedCheckpoint) : Json.reread (cp.toDict host.floats.repr) =
    .dict [("directive_id", .str cp.directiveId), ("attempt_count", .int cp.attemptCount),
      ("state_vector", Json.reread (cp.stateVector.toJson host.floats.repr)), ("payload_hash", .str cp.payloadHash),
      ("timestamp", .str cp.timestamp), ("signature", .str cp.signature)] := by
  unfold SavedCheckpoint.toDict
  rw [Json.reread]
  simp only [Json.rereadEntries]
  rw [Dict.ofList_of_distinct]
  · rfl
  · simp [Dict.Distinct, Dict.keys]

theorem read_checkpoint (timed : (Json.str cp.timestamp).truthy = true) :
    (Json.loads host.floats (checkpointText host cp)).bind (fromDict host built) = some (cp.readBack host.floats.repr) := by
  have signed : (if (Json.str cp.signature).truthy = true then Json.str cp.signature else .str "") = .str cp.signature := by
    by_cases empty : cp.signature = ""
    · simp [empty]
    · simp [Json.truthy, empty]
  unfold checkpointText
  rw [Json.loads_dumpsIndented, reread_checkpoint, Option.bind_some]
  simp [fromDict, Dict.get?, timed, signed, SavedCheckpoint.readBack]

/-- The file of a checkpoint gives it back, under any name, unless the signature does not fit what was read. -/
theorem restore_copied {asked : String} {count : Int}
    (saved : saveCheckpoint host settings now directiveId attemptCount stateVector payloadHash = some cp)
    (soon : later.val - now.val ≤ settings.checkpointMaxAgeSeconds * 1000000)
    (found : files.get? (checkpointName asked count) = some (checkpointText host cp)) :
    restoreCheckpoint host settings built later asked count cp.payloadHash files =
      if cp.signature = host.hmac settings.secretKey ((cp.readBack host.floats.repr).data host) then
        some ⟨some (cp.readBack host.floats.repr), "CHECKPOINT_INTEGRITY_VALIDATED", ("CHECKPOINT_RESTORED_AND_VERIFIED",
          [("attempt_count", .int cp.attemptCount), ("payload_hash", .str cp.payloadHash)])⟩
      else some ⟨none, "CHECKPOINT_SIGNATURE_INVALID", ("CHECKPOINT_TAMPERED", [("signature_given", .str cp.signature),
        ("signature_computed", .str (host.hmac settings.secretKey ((cp.readBack host.floats.repr).data host)))])⟩ := by
  obtain ⟨vector, -, made⟩ := Option.map_eq_some_iff.mp saved
  have timed : (Json.str cp.timestamp).truthy = true := by
    rw [← made]
    exact isoformat_truthy now
  have ascii : (cp.signature.toList.all fun c => c.toNat < 128) = true := by
    rw [← made]
    exact host.hmac_ascii _ _
  have age : host.fromisoformat cp.timestamp = some now.val := by
    rw [← made]
    exact host.read_iso now
  have fresh : ¬ settings.checkpointMaxAgeSeconds * 1000000 < later.val - now.val := not_lt.mpr soon
  unfold restoreCheckpoint
  rw [found]
  dsimp only
  rw [read_checkpoint timed]
  dsimp only
  have digest : compareDigest (cp.readBack host.floats.repr).signature
      (host.hmac settings.secretKey ((cp.readBack host.floats.repr).data host)) =
      some (decide (cp.signature = host.hmac settings.secretKey ((cp.readBack host.floats.repr).data host))) := by
    exact if_pos ascii
  rw [digest]
  by_cases fits : cp.signature = host.hmac settings.secretKey ((cp.readBack host.floats.repr).data host)
  · rw [if_pos fits, decide_eq_true fits]
    simp [restoreSigned, SavedCheckpoint.readBack, Json.str?, age, fresh]
  · rw [if_neg fits, decide_eq_false fits]
    rfl

theorem restore_saved (saved : saveCheckpoint host settings now directiveId attemptCount stateVector payloadHash = some cp)
    (soon : later.val - now.val ≤ settings.checkpointMaxAgeSeconds * 1000000) :
    restoreCheckpoint host settings built later cp.directiveId cp.attemptCount cp.payloadHash (writeCheckpoint host files cp) =
      if cp.signature = host.hmac settings.secretKey ((cp.readBack host.floats.repr).data host) then
        some ⟨some (cp.readBack host.floats.repr), "CHECKPOINT_INTEGRITY_VALIDATED", ("CHECKPOINT_RESTORED_AND_VERIFIED",
          [("attempt_count", .int cp.attemptCount), ("payload_hash", .str cp.payloadHash)])⟩
      else some ⟨none, "CHECKPOINT_SIGNATURE_INVALID", ("CHECKPOINT_TAMPERED", [("signature_given", .str cp.signature),
        ("signature_computed", .str (host.hmac settings.secretKey ((cp.readBack host.floats.repr).data host)))])⟩ :=
  restore_copied saved soon Dict.get?_set_self

/-- The signature fits if the texts are the same. -/
theorem signature_fits (saved : saveCheckpoint host settings now directiveId attemptCount stateVector payloadHash = some cp)
    (same : SameVector host (cp.readBack host.floats.repr).stateVector cp.stateVector) :
    cp.signature = host.hmac settings.secretKey ((cp.readBack host.floats.repr).data host) := by
  obtain ⟨vector, written, made⟩ := Option.map_eq_some_iff.mp saved
  have vectors : sortedText host.toHost (cp.readBack host.floats.repr).stateVector = vector := by
    have kept : savedVector host cp.stateVector = some vector := by
      rw [← made]
      exact written
    exact (Option.some.inj (kept.symm.trans same)).symm
  unfold RecoveryCheckpoint.data
  rw [vectors, ← made]
  simp only [SavedCheckpoint.readBack, host.shown_str, host.shown_int]

/-- The sorted text of what comes back is the one that was signed exactly if the keys are in order. -/
theorem sameVector_iff (saved : saveCheckpoint host settings now directiveId attemptCount stateVector payloadHash = some cp) :
    SameVector host (cp.readBack host.floats.repr).stateVector cp.stateVector ↔
      cp.stateVector.InOrder host.floats.repr host.order := by
  obtain ⟨vector, written, made⟩ := Option.map_eq_some_iff.mp saved
  have kept : savedVector host cp.stateVector = some vector := by
    rw [← made]
    exact written
  rw [SameVector, kept, ← PyValue.sortedDumps_eq_iff kept, Option.some.injEq]
  exact eq_comm

/-! ### The round trip -/

theorem RoundTrips.same (saved : saveCheckpoint host settings now directiveId attemptCount stateVector payloadHash = some cp)
    (soon : later.val - now.val ≤ settings.checkpointMaxAgeSeconds * 1000000) (trips : RoundTrips host settings files cp built later) :
    SameVector host (cp.readBack host.floats.repr).stateVector cp.stateVector := by
  obtain ⟨restored, event, returned, same⟩ := trips
  rw [restore_saved saved soon] at returned
  split at returned
  · injection returned with outcome
    injection outcome with checkpoint
    rw [Option.some.inj checkpoint]
    exact same
  · injection returned with outcome
    injection outcome with checkpoint
    cases checkpoint

/-- A checkpoint that is restored at once comes back exactly if the keys of its dictionaries are in order as texts. -/
theorem checkpoint_round_trip_iff (saved : saveCheckpoint host settings now directiveId attemptCount stateVector payloadHash = some cp)
    (soon : later.val - now.val ≤ settings.checkpointMaxAgeSeconds * 1000000) :
    RoundTrips host settings files cp built later ↔ stateVector.InOrder host.floats.repr host.order := by
  have vector : cp.stateVector = stateVector := by
    obtain ⟨_, _, made⟩ := Option.map_eq_some_iff.mp saved
    rw [← made]
  rw [← vector, ← sameVector_iff saved]
  constructor
  · exact fun trips => trips.same saved soon
  · intro same
    have returned : restoreCheckpoint host settings built later cp.directiveId cp.attemptCount cp.payloadHash
        (writeCheckpoint host files cp) = _ := restore_saved saved soon
    rw [if_pos (signature_fits saved same)] at returned
    exact ⟨_, _, returned, same⟩

/-! ### Two checkpoints -/

def newYear : Instant := ⟨1767225600000000, by decide⟩

def newYearText : String := "2026-01-01T00:00:00+00:00"

def plainShown : Json → String
  | .str s => s
  | .int n => String.ofList (Json.intText n)
  | _ => "None"

def plainIso (t : Instant) : String := if t = newYear then newYearText else String.ofList (Json.intText t.val)

def plainFromIso (s : String) : Option Int :=
  if s = newYearText then some newYear.val
  else match Json.number Json.ratioFloats s.toList with
    | some (.int n) => some n
    | _ => none

theorem plain_read (t : Instant) : plainFromIso (plainIso t) = some t.val := by
  unfold plainIso
  by_cases first : t = newYear
  · rw [if_pos first, first]
    exact if_pos rfl
  · have other : String.ofList (Json.intText t.val) ≠ newYearText := by
      intro same
      have letter : 'T' ∈ Json.intText t.val := by
        have inside : 'T' ∈ newYearText.toList := by decide +kernel
        rw [← same, String.toList_ofList] at inside
        exact inside
      exact absurd ((Json.numeric_intText t.val).all _ letter) (by decide)
    rw [if_neg first, plainFromIso, if_neg other, String.toList_ofList, Json.number_intText]

/-- The digests of two texts. -/
def plainHmac (data : String) : String :=
  if data = "DIR-1:1:h1:2026-01-01T00:00:00+00:00:\x7b\"step\": 1\x7d" then
    "948f124c75d91a385e36ec3ef48e9c0ea30dc3d1491997ef2dd8cd130cba050c"
  else if data = "DIR-1:1:h1:2026-01-01T00:00:00+00:00:\x7b\"9\": 0, \"10\": 0\x7d" then
    "030ced75ef9c05c24400fe2b75bb69e9e37d206585debe2389a3c3c8ad1b4517"
  else "d06ae03843fc5e0e1c03392977c71dabda2c55b442243ded9fffc4d3a559360c"

def plainRecovery : RecoveryHost where
  floats := Json.ratioFloats
  sha256 := id
  shown := plainShown
  shown_str _ := rfl
  order := ⟨id, fun _ => .refl _⟩
  hmac _ := plainHmac
  hmac_ascii key data := by
    unfold plainHmac
    split
    · decide +kernel
    split
    · decide +kernel
    · decide +kernel
  isoformat := plainIso
  fromisoformat := plainFromIso
  read_iso := plain_read
  read_empty := by decide +kernel
  shown_int _ := rfl
  errorText _ := ""

def plainSettings : RecoverySettings := ⟨"CONTROL_PLANE_RECOVERY_SECRET_KEY_V1", 3600, fun name => "checkpoints/" ++ name⟩

/-- The keys are numbers, of one digit and of two. -/
def countedVector : PyValue := .dict [(.int 10, .int 0), (.int 9, .int 0)]

/-- The second signature is made of another order of the keys. -/
theorem checkpoint_reordered : ∃ cp, saveCheckpoint plainRecovery plainSettings newYear "DIR-1" 1 countedVector "h1" = some cp ∧
    ¬ RoundTrips plainRecovery plainSettings [] cp newYear newYear := by
  have sorts : (PyValue.sortedEntries plainRecovery.floats.repr plainRecovery.order [(.int 10, .int 0), (.int 9, .int 0)]).bind
      (sortItems plainRecovery.order) = some [(.int 9, .int 0), (.int 10, .int 0)] := rfl
  have saves : ∃ cp, saveCheckpoint plainRecovery plainSettings newYear "DIR-1" 1 countedVector "h1" = some cp := by
    unfold saveCheckpoint savedVector PyValue.sortedDumps countedVector
    rw [PyValue.sorted, sorts]
    exact ⟨_, rfl⟩
  obtain ⟨cp, saved⟩ := saves
  have vector : cp.stateVector = countedVector := by
    obtain ⟨_, _, made⟩ := Option.map_eq_some_iff.mp saved
    rw [← made]
  refine ⟨cp, saved, fun trips => ?_⟩
  have ordered := (sameVector_iff saved).mp (trips.same saved (by decide))
  rw [vector, countedVector, PyValue.InOrder] at ordered
  have growing := ordered.1 _ sorts
  have first := List.rel_of_pairwise_cons growing (List.mem_singleton_self _)
  exact absurd first (by decide +kernel)

/-- A dictionary with one key. -/
theorem checkpoint_kept : ∃ cp, saveCheckpoint plainRecovery plainSettings newYear "DIR-1" 1 (.dict [(.str "step", .int 1)]) "h1" = some cp ∧
    RoundTrips plainRecovery plainSettings [] cp newYear newYear := by
  have sorts : (PyValue.sortedEntries plainRecovery.floats.repr plainRecovery.order [(.str "step", .int 1)]).bind
      (sortItems plainRecovery.order) = some [(.str "step", .int 1)] := rfl
  have saves : ∃ cp, saveCheckpoint plainRecovery plainSettings newYear "DIR-1" 1 (.dict [(.str "step", .int 1)]) "h1" = some cp := by
    unfold saveCheckpoint savedVector PyValue.sortedDumps
    rw [PyValue.sorted, sorts]
    exact ⟨_, rfl⟩
  obtain ⟨cp, saved⟩ := saves
  refine ⟨cp, saved, (checkpoint_round_trip_iff saved (by decide)).mpr ?_⟩
  rw [PyValue.InOrder, sorts]
  refine ⟨fun items same => ?_, trivial, trivial⟩
  rw [← Option.some.inj same]
  exact List.pairwise_singleton _ _

end

end ControlPlane.Directive
