import ControlPlane.Autonomy.Envelopes

/-!
# Trusted profiles and signed frames

`trust.py`: what a configuration must look like to be trusted, and what a signature of
a frame covers. The cryptographic functions are the platform's.
-/

namespace ControlPlane.Autonomy

open Data

/-- The cryptographic functions and the encodings of the standard library. -/
structure Crypto extends Platform where
  /-- the `repr` of a finite float -/
  repr : ℚ → List Char
  /-- `base64.b64decode(text, validate=True)`, where it does not raise -/
  decodeBase64 : String → Option ByteArray
  encodeBase64 : ByteArray → String
  /-- `Ed25519PublicKey.from_public_bytes(raw)` does not raise -/
  isPublicKey : ByteArray → Bool
  /-- `public_key.verify(signature, message)` does not raise -/
  verify : ByteArray → ByteArray → ByteArray → Bool

/-! ### Canonical JSON -/

mutual

/-- Nothing that `allow_nan=False` refuses. -/
def finiteJson : Json → Bool
  | .float (.fin _) => true
  | .float _ => false
  | .list xs => finiteItems xs
  | .dict entries => finiteEntries entries
  | _ => true

def finiteItems : List Json → Bool
  | [] => true
  | v :: rest => finiteJson v && finiteItems rest

def finiteEntries : List (String × Json) → Bool
  | [] => true
  | (_, v) :: rest => finiteJson v && finiteEntries rest

end

def canonicalJson (crypto : Crypto) (value : Json) : Except Err String := do
  require (finiteJson value) (.blocked "non-canonical signed payload")
  return value.dumps crypto.repr Json.canonical

/-- The bytes a signature covers: the domain, and the frame without its signature. -/
def signedBytes (crypto : Crypto) (domain : String) (frame : List (String × Json)) : Except Err ByteArray := do
  let body ← canonicalJson crypto (.dict (frame.filter fun e => e.1 ≠ "signature"))
  return (domain ++ "\n" ++ body).toUTF8

/-! ### Profiles -/

def ed25519 : String := "ED25519"

def authenticationScope : String := "AUTHENTICATED_EXTERNAL_ADAPTER"

def allowedCapabilities : List String :=
  ["OBSERVE_STATUS", "AUDIT_READ", "ANALYZE_READ_ONLY", "GENERATE_REPORT",
   "RUN_READ_ONLY_TESTS", "OBSERVE_READ_ONLY", "PREPARE_READ_ONLY", "NO_OP"]

/-- `TrustedWorkerProfile`, as configured. -/
structure TrustedWorkerProfile where
  workerId : Json
  workerKind : Json
  keyId : Json
  publicKeyBase64 : String
  capabilities : List String
  allowedTargets : List String
  maxCapacity : Json
  heartbeatSla : Json
  enabled : Bool := true
  revoked : Bool := false
  profileVersion : Json := .int 1
  signatureAlgorithm : String := ed25519

/-- `VerifiedProfile` -/
structure VerifiedProfile where
  workerId : Identifier
  workerKind : Identifier
  keyId : Identifier
  publicKey : ByteArray
  capabilities : List String
  allowedTargets : List String
  maxCapacity : Int
  heartbeatSla : ℚ
  positive : 0 < heartbeatSla
  enabled : Bool
  revoked : Bool
  profileVersion : Int
  fingerprint : String
  digest : String

/-- `sorted(texts)`, repetitions kept -/
def sorted (texts : List String) : List String := texts.foldr insertText []
where
  insertText (s : String) : List String → List String
    | [] => [s]
    | t :: rest => if t < s then t :: insertText s rest else s :: t :: rest

/-- What the digest of a profile covers. -/
def profileManifest (p : TrustedWorkerProfile) (workerId workerKind keyId : Identifier) (fingerprint : String)
    (maxCapacity profileVersion : Int) (heartbeatSla : ℚ) : Json := .dict [
  ("worker_id", .str workerId.1), ("worker_kind", .str workerKind.1), ("key_id", .str keyId.1),
  ("signature_algorithm", .str p.signatureAlgorithm), ("public_key_fingerprint", .str fingerprint),
  ("capabilities", .list ((sortIds p.capabilities).map .str)),
  ("allowed_targets", .list ((sortIds p.allowedTargets).map .str)),
  ("max_capacity", .int maxCapacity), ("heartbeat_sla", .float (.fin heartbeatSla)), ("enabled", .bool p.enabled),
  ("revoked", .bool p.revoked), ("profile_version", .int profileVersion),
  ("verification_scope", .str authenticationScope)]

/-- `_verify_profile` -/
def TrustedWorkerProfile.verified (crypto : Crypto) (p : TrustedWorkerProfile) : Except Err VerifiedProfile := do
  let workerId ← identifier p.workerId "worker_id"
  let workerKind ← identifier p.workerKind "worker_kind"
  let keyId ← identifier p.keyId "key_id"
  require (p.signatureAlgorithm = ed25519) (.blocked "unsupported signature algorithm")
  let profileVersion ← found p.profileVersion.int? (.blocked "invalid profile version")
  require (0 < profileVersion) (.blocked "invalid profile version")
  require (p.capabilities ≠ [] ∧ p.allowedTargets ≠ [] ∧ ∀ c ∈ p.capabilities, c ∈ allowedCapabilities)
    (.blocked "invalid trusted capability or target")
  require (∀ t ∈ p.allowedTargets, isIdentifier t) (.blocked "invalid trusted label")
  let limits := Err.blocked "invalid trusted capacity or SLA"
  let maxCapacity ← found p.maxCapacity.int? limits
  require (0 < maxCapacity ∧ maxCapacity ≤ 1024) limits
  let ⟨heartbeatSla, positive⟩ ← slaSeconds crypto.toPlatform p.heartbeatSla limits
  let publicKey ← found (crypto.decodeBase64 p.publicKeyBase64) (.blocked "invalid Ed25519 public key")
  require (publicKey.size = 32 ∧ crypto.isPublicKey publicKey) (.blocked "invalid Ed25519 public key")
  let fingerprint := crypto.sha256 publicKey
  let manifest ← canonicalJson crypto
    (profileManifest p workerId workerKind keyId fingerprint maxCapacity profileVersion heartbeatSla)
  return {
    workerId, workerKind, keyId, publicKey, capabilities := p.capabilities, allowedTargets := p.allowedTargets
    maxCapacity, heartbeatSla, positive, enabled := p.enabled, revoked := p.revoked, profileVersion, fingerprint
    digest := crypto.sha256 manifest.toUTF8 }

/-- `TrustedWorkerRegistry`: one profile a worker. -/
structure Registry where
  profiles : List VerifiedProfile
  unique : (profiles.map fun p => p.workerId).Nodup

namespace Registry

def empty : Registry := ⟨[], .nil⟩

def add (r : Registry) (p : VerifiedProfile) : Except Err Registry :=
  if fresh : p.workerId ∈ r.profiles.map fun p => p.workerId then .error (.integrityBlocked "duplicate trusted worker")
  else .ok ⟨p :: r.profiles, List.nodup_cons.mpr ⟨fresh, r.unique⟩⟩

def create (crypto : Crypto) : List TrustedWorkerProfile → Registry → Except Err Registry
  | [], r => return r
  | p :: rest, r => do create crypto rest (← r.add (← p.verified crypto))

/-- `get`: an enabled profile that is not revoked. -/
def get (r : Registry) (worker : Json) : Except Err VerifiedProfile := do
  let id ← identifier worker "worker_id"
  let p ← found (r.profiles.find? fun p => p.workerId = id) (.blocked "worker trust unavailable")
  require (p.enabled ∧ ¬ p.revoked) (.blocked "worker trust unavailable")
  return p

/-- `all`, in the order of the worker ids -/
def all (r : Registry) : List VerifiedProfile := r.profiles.foldr insertProfile []
where
  insertProfile (p : VerifiedProfile) : List VerifiedProfile → List VerifiedProfile
    | [] => [p]
    | q :: rest => if q.workerId.1 < p.workerId.1 then q :: insertProfile p rest else p :: q :: rest

end Registry

/-! ### Frames -/

abbrev Frame := List (String × Json)

/-- `frame.get(key)` -/
def Frame.get (frame : Frame) (key : String) : Json := (Json.get? frame key).getD .null

/-- `isinstance(frame, dict) and set(frame) == keys` -/
def frameOf (value : Json) (keys : List String) (e : Err) : Except Err Frame :=
  match value with
  | .dict entries =>
    if (∀ entry ∈ entries, entry.1 ∈ keys) ∧ ∀ k ∈ keys, ∃ entry ∈ entries, entry.1 = k then .ok entries else .error e
  | _ => .error e

/-- The signature of a frame under a domain verifies with this key. -/
def verifySignature (crypto : Crypto) (publicKey : ByteArray) (domain : String) (frame : Frame) (missing invalid : Err) :
    Except Err Unit := do
  let text ← found (frame.get "signature").str? missing
  let signature ← found (crypto.decodeBase64 text) invalid
  let message ← signedBytes crypto domain frame
  require (crypto.verify publicKey signature message) invalid

/-- A number of type int or float, finite and not negative. -/
def messageTime (value : Json) (e : Err) : Except Err ℚ :=
  match value with
  | .int i => do
    require (-floatLimit < i ∧ i < floatLimit) (.other "OverflowError")
    require (0 ≤ i) e
    return i
  | .float x => found x.clock? e
  | _ => .error e

/-- The number a plain value is to Python's `==`. -/
def number? : Json → Option PyFloat
  | .bool b => some (.fin (if b then 1 else 0))
  | .int i => some (.fin i)
  | .float x => some x
  | _ => none

end ControlPlane.Autonomy
