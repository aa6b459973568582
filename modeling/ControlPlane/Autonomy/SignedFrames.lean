import ControlPlane.Autonomy.ExternalRuns
import ControlPlane.Autonomy.ProviderGateway
import ControlPlane.Data.Colons
import ControlPlane.Data.Json.Arranged
import ControlPlane.Data.Json.Ratio

/-!
# What a signature covers

The bytes that are signed determine the kind of the message and the frame.
-/

namespace ControlPlane.Autonomy

open Data

section

variable (crypto : Crypto)

/-- `provider_signed_bytes` -/
def providerSignedBytes (frame : Frame) : Except Err ByteArray := do
  let body ← canonicalJson crypto (.dict (frame.filter fun e => e.1 ≠ "signature"))
  return (providerStatusDomain ++ "\n" ++ body).toUTF8

/-- The kinds of messages that are signed. -/
inductive MessageKind where
  | external (d : Domain)
  | providerStatus

def MessageKind.signedBytes (frame : Frame) : MessageKind → Except Err ByteArray
  | .external d => Autonomy.signedBytes crypto d.text frame
  | .providerStatus => providerSignedBytes crypto frame

/-- The check of the signature of a message of this kind. -/
def MessageKind.verify (p : VerifiedProfile) (frame : Frame) : MessageKind → Except Err Unit
  | .external d => Autonomy.verify crypto p d frame
  | .providerStatus => verifySignature crypto p.publicKey providerStatusDomain frame (.blocked "missing provider signature")
      (.blocked "invalid provider signature")

end

/-- Equal but for the signature. -/
def SameFrame (f g : Frame) : Prop :=
  Json.Alike (.dict (f.filter fun e => e.1 ≠ "signature")) (.dict (g.filter fun e => e.1 ≠ "signature"))

/-- A dictionary whose dictionaries are ones too. -/
def Frame.Proper (f : Frame) : Prop := Json.Keyed (.dict f)

/-! ### Domains -/

namespace MessageKind

def domain : MessageKind → String
  | external d => d.text
  | providerStatus => providerStatusDomain

theorem domain_line (k : MessageKind) : '\n' ∉ k.domain.toList := by
  cases k with
  | external d => cases d <;> decide
  | providerStatus => decide

theorem domain_inj {k k' : MessageKind} (same : k.domain = k'.domain) : k = k' := by
  cases k with
  | external d =>
    cases k' with
    | external d' => cases d <;> cases d' <;> first | rfl | exact absurd same (by decide)
    | providerStatus => cases d <;> exact absurd same (by decide)
  | providerStatus =>
    cases k' with
    | external d' => cases d' <;> exact absurd same (by decide)
    | providerStatus => rfl

variable {crypto : Crypto} {p : VerifiedProfile} {f g : Frame} {k k' : MessageKind}

theorem signedBytes_domain : k.signedBytes crypto f = Autonomy.signedBytes crypto k.domain f := by
  cases k <;> rfl

end MessageKind

/-! ### Bytes -/

section

variable {crypto : Crypto} {p : VerifiedProfile} {f g : Frame} {k k' : MessageKind} {bytes : ByteArray}

theorem signedBytes_eq {domain : String} (signed : signedBytes crypto domain f = .ok bytes) :
    bytes = (domain ++ "\n" ++ Json.dumps crypto.repr Json.canonical (.dict (f.filter fun e => e.1 ≠ "signature"))).toUTF8 := by
  unfold signedBytes canonicalJson at signed
  simp only [bind_ok, require_ok, pure_ok] at signed
  obtain ⟨body, ⟨_, _, rfl⟩, rfl⟩ := signed
  rfl

theorem keyed_filter {es : List (String × Json)} (keyed : Json.EntriesKeyed es) (q : String × Json → Bool) : Json.EntriesKeyed (es.filter q) := by
  induction es with
  | nil => exact keyed
  | cons e rest ih =>
    rw [Json.EntriesKeyed] at keyed
    rw [List.filter_cons]
    split
    · rw [Json.EntriesKeyed]
      exact ⟨keyed.1, ih keyed.2⟩
    · exact ih keyed.2

theorem keyed_unsigned (proper : f.Proper) : Json.Keyed (.dict (f.filter fun e => e.1 ≠ "signature")) := by
  unfold Frame.Proper at proper
  rw [Json.Keyed] at proper ⊢
  exact ⟨proper.1.sublist (List.filter_sublist.map _), keyed_filter proper.2 _⟩

theorem signed_same {floats : Json.Floats} (written : crypto.repr = floats.repr) (proper : f.Proper) (proper' : g.Proper)
    (signed : k.signedBytes crypto f = .ok bytes) (signed' : k'.signedBytes crypto g = .ok bytes) : k = k' ∧ SameFrame f g := by
  rw [MessageKind.signedBytes_domain] at signed signed'
  have same := (signedBytes_eq signed).symm.trans (signedBytes_eq signed')
  have texts := congrArg String.toList (String.toByteArray_inj.mp same)
  simp only [String.toList_append, List.append_assoc] at texts
  obtain ⟨domains, bodies⟩ := before_first texts k.domain_line k'.domain_line
  have spaced : Json.Spaced { Json.compact with sortKeys := false } := ⟨⟨[], rfl, by simp⟩, ⟨[], rfl, by simp⟩, rfl⟩
  rw [written] at bodies
  exact ⟨MessageKind.domain_inj (String.toList_inj.mp domains),
    Json.alike_of_dumps spaced (keyed_unsigned proper) (keyed_unsigned proper') (String.toList_inj.mp bodies)⟩

/-- What is verified are the bytes of the frame and its kind. -/
theorem verified_bytes (verified : k.verify crypto p g = .ok ()) : ∃ text signature bytes, g.get "signature" = .str text ∧
    crypto.decodeBase64 text = some signature ∧ k.signedBytes crypto g = .ok bytes ∧
      crypto.verify p.publicKey signature bytes = true := by
  have checked : ∃ missing invalid, verifySignature crypto p.publicKey k.domain g missing invalid = .ok () := by
    cases k with
    | external d => exact ⟨_, _, verified⟩
    | providerStatus => exact ⟨_, _, verified⟩
  obtain ⟨missing, invalid, checked⟩ := checked
  unfold verifySignature at checked
  simp only [bind_ok, require_ok, found_ok] at checked
  obtain ⟨text, given, signature, decoded, bytes, signed, valid⟩ := checked
  exact ⟨text, signature, bytes, Json.str?_some given, decoded, MessageKind.signedBytes_domain.trans signed, valid⟩

end

/-- Other bytes are signed for another kind of message and for another frame, and a signature of theirs is of no other message. -/
theorem signed_bytes_injective (crypto : Crypto) (floats : Json.Floats) (written : crypto.repr = floats.repr) (k k' : MessageKind)
    (f g : Frame) (proper : f.Proper) (proper' : g.Proper) (bytes : ByteArray) (signed : k.signedBytes crypto f = .ok bytes) :
    (k'.signedBytes crypto g = .ok bytes → k = k' ∧ SameFrame f g) ∧
      ∀ p signature, (∀ message, crypto.verify p.publicKey signature message = true → message = bytes) →
        (∃ text, g.get "signature" = .str text ∧ crypto.decodeBase64 text = some signature) →
          k'.verify crypto p g = .ok () → k = k' ∧ SameFrame f g := by
  refine ⟨signed_same written proper proper' signed, fun p signature unforgeable carried verified => ?_⟩
  obtain ⟨text, given, decoded⟩ := carried
  obtain ⟨text', signature', message, given', decoded', signed', valid⟩ := verified_bytes verified
  obtain rfl : text = text' := Json.str.inj (given.symm.trans given')
  obtain rfl : signature = signature' := Option.some.inj (decoded.symm.trans decoded')
  rw [unforgeable message valid] at signed'
  exact signed_same written proper proper' signed signed'

/-! ### A heartbeat in two orders -/

namespace Sample

def signatureOfBeat : String := "uLrQH3PdHx/dAP8MOxZHQegWY4KoY/fZToFcT2vSBSH8m2d5dDcP6KRGUP8rulDs0Y9Ib8KWZn0/Men+u3YGDw=="

def beatFrame : Frame := [("worker_id", .str "w"), ("sequence", .int 1), ("signature", .str signatureOfBeat)]

def reorderedFrame : Frame := [("signature", .str signatureOfBeat), ("sequence", .int 1), ("worker_id", .str "w")]

def beatText : String := "AI-CONTROL-PLANE/AF05/HEARTBEAT\n\x7b\"sequence\":1,\"worker_id\":\"w\"\x7d"

/-- Every signature is of the heartbeat. -/
def beating : Crypto where
  toPlatform := crypto.toPlatform
  repr := Json.ratioFloats.repr
  decodeBase64 := crypto.decodeBase64
  encodeBase64 := crypto.encodeBase64
  isPublicKey := crypto.isPublicKey
  verify key signature message := crypto.verify key signature message && message = beatText.toUTF8

theorem beat_bytes : signedBytes beating Domain.heartbeat.text beatFrame = .ok beatText.toUTF8 ∧
    signedBytes beating Domain.heartbeat.text reorderedFrame = .ok beatText.toUTF8 := by
  have texts : Domain.heartbeat.text ++ "\n" ++ Json.dumps beating.repr Json.canonical (.dict (beatFrame.filter fun e => e.1 ≠ "signature")) = beatText ∧
      Domain.heartbeat.text ++ "\n" ++ Json.dumps beating.repr Json.canonical (.dict (reorderedFrame.filter fun e => e.1 ≠ "signature")) = beatText := by
    decide
  constructor
  · rw [← texts.1]
    rfl
  · rw [← texts.2]
    rfl

theorem frames_proper : beatFrame.Proper ∧ reorderedFrame.Proper := by
  constructor <;> simp [Frame.Proper, Json.Keyed, Json.EntriesKeyed, Dict.Distinct, Dict.keys, beatFrame, reorderedFrame]

def keyBytes : ByteArray := (base64Decode keyOfW).getD .empty

def signatureBytes : ByteArray := (base64Decode signatureOfBeat).getD .empty

theorem signature_decoded : base64Decode signatureOfBeat = some signatureBytes := by decide +kernel

theorem beat_verified : MessageKind.verify beating profileOfW reorderedFrame
    (.external .heartbeat) = .ok () := by
  have known : crypto.verify keyBytes signatureBytes beatText.toUTF8 = true := by decide +kernel
  have valid : beating.verify keyBytes signatureBytes beatText.toUTF8 = true := by
    simp only [beating, known, Bool.true_and, decide_eq_true_eq]
  have given : (reorderedFrame.get "signature").str? = some signatureOfBeat := rfl
  show verifySignature beating keyBytes Domain.heartbeat.text reorderedFrame _ _ = .ok ()
  unfold verifySignature
  rw [given]
  refine found_bind_ok.mpr ⟨signatureOfBeat, rfl, found_bind_ok.mpr ⟨signatureBytes, signature_decoded, ?_⟩⟩
  exact bind_ok.mpr ⟨beatText.toUTF8, beat_bytes.2, require_ok.mpr valid⟩

/-- The order of the keys is not signed. -/
theorem beat_reordered : SameFrame beatFrame reorderedFrame ∧
    MessageKind.verify beating profileOfW reorderedFrame
      (.external .heartbeat) = .ok () := by
  refine ⟨((signed_bytes_injective beating Json.ratioFloats rfl (.external .heartbeat) (.external .heartbeat) beatFrame reorderedFrame
    frames_proper.1 frames_proper.2 beatText.toUTF8 beat_bytes.1).2 _ signatureBytes ?_ ?_ beat_verified).2, beat_verified⟩
  · intro message valid
    simp only [beating, Bool.and_eq_true, decide_eq_true_eq] at valid
    exact valid.2
  · exact ⟨signatureOfBeat, rfl, signature_decoded⟩

end Sample

end ControlPlane.Autonomy
