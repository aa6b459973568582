import ControlPlane.Autonomy.Execution

/-!
# Identifiers and envelopes of the worker protocol

Fields whose type the gateway checks are plain data here; a field that is only
compared with a text is a text.
-/

namespace ControlPlane.Autonomy

open Data

/-! ### Identifiers -/

abbrev Identifier := { s : String // isIdentifier s = true }

/-- `_identifier(value, label)` -/
def identifier (value : Json) (label : String) : Except Err Identifier :=
  match value with
  | .str s => if wellFormed : isIdentifier s then .ok ⟨s, wellFormed⟩ else .error (.blocked s!"invalid {label}")
  | _ => .error (.blocked s!"invalid {label}")

def identifiers (value : Json) (label : String) : Except Err (List Identifier) :=
  match value with
  | .list (x :: xs) => (x :: xs).mapM fun item => identifier item label
  | _ => .error (.blocked s!"invalid {label}")

/-- `_labels(value, label)` -/
def labels (value : Json) (label : String) : Except Err (List String) := do
  return sortIds ((← identifiers value label).map Subtype.val)

theorem identifier_str (i : Identifier) (label : String) : identifier (.str i.1) label = .ok i := dif_pos i.2

theorem identifier_ok {value : Json} {label : String} {i : Identifier} (h : identifier value label = .ok i) :
    value = .str i.1 := by
  unfold identifier at h
  split at h
  · split at h
    · cases h
      rfl
    · cases h
  · cases h

theorem plain_of_identifier {c : Char} (h : c.isAlphanum || c = '.' || c = '_' || c = '-') : Plain c := by
  delta Char.isAlphanum Char.isAlpha Char.isUpper Char.isLower Char.isDigit at h
  simp only [Bool.or_eq_true, Bool.and_eq_true, decide_eq_true_eq, Char.ext_iff, UInt32.le_iff_toNat_le, ← UInt32.toNat_inj] at h
  simp only [Plain, printable, Bool.and_eq_true, decide_eq_true_eq, bne_iff_ne, ne_eq, Char.ext_iff, Char.le_def,
    UInt32.le_iff_toNat_le, ← UInt32.toNat_inj]
  simp only [Char.reduceVal, UInt32.reduceToNat] at h ⊢
  omega

/-- An identifier is its own cleaned name. -/
theorem clean_identifier (i : Identifier) : clean i.1 = i.1 := by
  obtain ⟨s, wellFormed⟩ := i
  unfold isIdentifier at wellFormed
  split at wellFormed
  · cases wellFormed
  · rename_i c rest letters
    simp only [Bool.and_eq_true, decide_eq_true_eq, List.all_eq_true] at wellFormed
    obtain ⟨⟨first, short⟩, others⟩ := wellFormed
    refine clean_of_plain (by rw [letters, List.length_cons]; omega) fun d member => ?_
    rw [letters] at member
    rcases List.mem_cons.mp member with rfl | later
    · exact plain_of_identifier (by simp [first])
    · exact plain_of_identifier (others d later)

/-! ### Digests and times -/

/-- What `hexdigest()` of a SHA-256 looks like. -/
def isDigest (s : String) : Bool :=
  s.toList.length = 64 && s.toList.all fun c => c.isDigit || ('a' ≤ c && c ≤ 'f')

/-- One instance, whichever library is imported. -/
instance decidableBytes : DecidableEq ByteArray := fun a b => decidable_of_iff (a.data = b.data) ByteArray.ext_iff.symm

/-- The functions of the standard library a gateway calls. -/
structure Platform where
  /-- `hashlib.sha256(data).hexdigest()` -/
  sha256 : ByteArray → String
  digest : ∀ data, isDigest (sha256 data) = true
  /-- `float(text)`, where it does not raise `ValueError` -/
  parseFloat : String → Option PyFloat

theorem isHex64_of_isDigest {s : String} (digest : isDigest s = true) : isHex64 s = true := by
  simp only [isDigest, isHex64, Bool.and_eq_true, List.all_eq_true] at digest ⊢
  refine ⟨digest.1, fun c member => ?_⟩
  rw [Bool.or_eq_true]
  exact .inl (digest.2 c member)

/-- Text of small letters and digits is in lower case. -/
theorem lower_of_letters {s : String} (letters : (s.toList.all fun c => c.isDigit || ('a' ≤ c && c ≤ 'f')) = true) : lower s = s := by
  simp only [List.all_eq_true] at letters
  have same : ∀ c ∈ s.toList, c.toLower = c := fun c member => by
    have hex := letters c member
    simp only [Char.isDigit, Bool.or_eq_true, Bool.and_eq_true, decide_eq_true_eq, Char.le_def,
      UInt32.le_iff_toNat_le] at hex
    delta Char.toLower
    rw [dif_neg]
    simp only [UInt32.le_iff_toNat_le, Char.reduceVal, UInt32.reduceToNat, ge_iff_le] at hex ⊢
    omega
  rw [lower, List.map_congr_left same, List.map_id', String.ofList_toList]

theorem lower_of_isDigest {s : String} (digest : isDigest s = true) : lower s = s := by
  unfold isDigest at digest
  exact lower_of_letters ((Bool.and_eq_true _ _).mp digest).2

/-- What is built of a digest is an identifier. -/
theorem isIdentifier_digest {start digest : String} {c : Char} {rest : List Char} (letters : start.toList = c :: rest)
    (opens : c.isAlphanum = true) (short : rest.length ≤ 63)
    (plain : (rest.all fun c => c.isAlphanum || c = '.' || c = '_' || c = '-') = true) (hex : isDigest digest = true) :
    isIdentifier (start ++ digest) = true := by
  unfold isDigest at hex
  obtain ⟨length, hex⟩ := (Bool.and_eq_true _ _).mp hex
  rw [decide_eq_true_eq] at length
  have whole : (start ++ digest).toList = c :: (rest ++ digest.toList) := by
    rw [String.toList_append, letters, List.cons_append]
  have alphanumeric : (digest.toList.all fun c => c.isAlphanum || c = '.' || c = '_' || c = '-') = true := by
    rw [List.all_eq_true] at hex ⊢
    intro d member
    have digit := hex d member
    delta Char.isAlphanum Char.isAlpha Char.isLower Char.isDigit
    simp only [Char.isDigit, Bool.or_eq_true, Bool.and_eq_true, decide_eq_true_eq, Char.le_def, UInt32.le_iff_toNat_le, ge_iff_le,
      Char.reduceVal, UInt32.reduceToNat] at digit ⊢
    omega
  unfold isIdentifier
  rw [whole]
  simp only [Bool.and_eq_true, decide_eq_true_eq, List.length_append, List.all_append]
  exact ⟨⟨opens, by omega⟩, plain, alphanumeric⟩

theorem ne_empty_of_isDigest {s : String} (digest : isDigest s = true) : s ≠ "" := by
  rintro rfl
  exact absurd digest (by decide)

/-- The integers `float` accepts, with the first that rounds past the largest float. -/
def floatLimit : Int := 2 ^ 1024 - 2 ^ 970

/-- `float(value)` -/
def toFloat (platform : Platform) : Json → Except Err PyFloat
  | .bool b => .ok (.fin (if b then 1 else 0))
  | .int i => if -floatLimit < i ∧ i < floatLimit then .ok (.fin i) else .error (.other "OverflowError")
  | .float x => .ok x
  | .str s => found (platform.parseFloat s) (.other "ValueError")
  | _ => .error (.other "TypeError")

/-- `_time`: only `TypeError` and `ValueError` are caught. -/
def observedTime (platform : Platform) (value : Json) : Except Err ℚ :=
  match toFloat platform value with
  | .ok x => found x.clock? (.blocked "invalid observed_at")
  | .error e => .error (if e = .other "OverflowError" then e else .blocked "invalid observed_at")

def finitePositive? : PyFloat → Option { q : ℚ // 0 < q }
  | .fin q => if positive : 0 < q then some ⟨q, positive⟩ else none
  | _ => none

/-- The SLA of a profile: `true` and texts are no numbers here. -/
def slaSeconds (platform : Platform) (value : Json) (e : Err) : Except Err { q : ℚ // 0 < q } := do
  let sla ← match value with
    | .int i => toFloat platform (.int i)
    | .float x => .ok x
    | _ => .error e
  found (finitePositive? sla) e

/-! ### Envelopes -/

def protocolVersion : String := "AF02/1"

/-- `WorkerProfile`, as configured. -/
structure WorkerProfile where
  workerId : Json
  workerKind : Json
  capabilities : Json
  allowedTargets : Json
  maxCapacity : Json
  heartbeatSla : Json

structure SessionHello where
  workerId : Json
  workerKind : String
  capabilities : Json
  allowedTargets : Json
  sessionId : Json
  heartbeatSequence : Json
  observedAt : Json
  capacity : Json
  providerState : String := "UNKNOWN"
  transportState : String := "UNKNOWN"
  protocolVersion : String := protocolVersion

structure HeartbeatEnvelope where
  workerId : Json
  sessionId : Json
  sequence : Json
  observedAt : Json
  capacity : Json
  protocolVersion : String := protocolVersion

/-- What ties a message to a dispatch. -/
structure Binding where
  taskId : String
  workerId : String
  sessionId : String
  leaseId : String
  deriving DecidableEq

structure DispatchEnvelope where
  dispatchId : String
  taskId : Identifier
  workerId : Identifier
  sessionId : Identifier
  leaseId : Identifier
  leaseExpiresAt : PyFloat
  capability : String
  targetProject : String
  protocolVersion : String := protocolVersion
  deriving DecidableEq

def DispatchEnvelope.binding (e : DispatchEnvelope) : Binding :=
  ⟨e.taskId.1, e.workerId.1, e.sessionId.1, e.leaseId.1⟩

structure AckEnvelope extends Binding where
  dispatchId : Json
  observedAt : Json
  protocolVersion : String := protocolVersion

structure EvidenceReference where
  evidenceId : Json
  sha256 : Json

structure ResultEnvelope extends Binding where
  dispatchId : Json
  observedAt : Json
  status : String
  evidence : List EvidenceReference
  protocolVersion : String := protocolVersion

end ControlPlane.Autonomy
