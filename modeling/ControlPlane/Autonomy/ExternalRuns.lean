import ControlPlane.Autonomy.ExternalCalls

/-!
# Runs of the external gateways

A list of acts, played from the first start on, and a sample of the cryptography whose
digests and signatures are those of the real functions.
-/

namespace ControlPlane.Autonomy

open Data Interleaving

/-- What happens next in a run: a call, with the answers of the environment, a restart, or
something outside the gateway. -/
inductive ExternalAct : Type 1 where
  | call (c : ExternalCall) (inputs : List ExternalInput)
  | restart (c : Configuration) (inputs : List ExternalInput)
  | other {α : Type} (s : Stmt α) (x : Input)
  | spool (files : String → Option ByteArray)

/-- A call needs a gateway. -/
def ExternalAct.play (crypto : Crypto) (w : ExternalWorld) : ExternalAct → Option (ExternalEvent × ExternalWorld)
  | .call c inputs =>
    w.gateway.map fun g =>
      let (db, answer) := externals.alone (c.procedure crypto g).run inputs w.db
      (.call c answer, ⟨db, some g⟩)
  | .restart c inputs =>
    match externals.alone (ExternalGateway.create crypto c).run inputs w.db with
    | (db, .ok g) => some (.restart c, ⟨db, some g⟩)
    | (db, .error _) => some (.failedRestart c, ⟨db, none⟩)
  | .other s x => some (.other s, { w with db := { w.db with store := (perform s x w.db.store).1 } })
  | .spool files => some (.spool files, { w with db := { w.db with spool := files } })

theorem ExternalAct.step {crypto : Crypto} {w w' : ExternalWorld} {e : ExternalEvent} {act : ExternalAct}
    (played : act.play crypto w = some (e, w')) : ExternalStep crypto w e w' := by
  cases act with
  | call c inputs =>
    obtain ⟨g, running, same⟩ := Option.map_eq_some_iff.mp played
    obtain ⟨rfl, rfl⟩ := Prod.mk.inj same
    obtain ⟨db, gateway⟩ := w
    cases running
    exact .call (externals.ends_alone inputs)
  | restart c inputs =>
    have ends := externals.ends_alone (p := (ExternalGateway.create crypto c).run) (s := w.db) inputs
    simp only [ExternalAct.play] at played
    split at played <;> rename_i ran <;> rw [ran] at ends <;> obtain ⟨rfl, rfl⟩ := Prod.mk.inj (Option.some.inj played)
    · exact .restart ends
    · exact .failedRestart ends.stops
  | other s x =>
    obtain ⟨rfl, rfl⟩ := Prod.mk.inj (Option.some.inj played)
    exact .other x
  | spool files =>
    obtain ⟨rfl, rfl⟩ := Prod.mk.inj (Option.some.inj played)
    exact .spool

/-- A run, one act longer; a call with no gateway is passed over. -/
def ExternalAct.follow (crypto : Crypto) (run : List ExternalTransition × ExternalWorld) (act : ExternalAct) :
    List ExternalTransition × ExternalWorld :=
  match act.play crypto run.2 with
  | some (e, w') => (⟨run.2, e, w'⟩ :: run.1, w')
  | none => run

/-- Acts in their order, from the first start on. -/
def playExternal (crypto : Crypto) (acts : List ExternalAct) : List ExternalTransition × ExternalWorld :=
  acts.foldl (ExternalAct.follow crypto) ([], ⟨.empty, none⟩)

theorem ExternalAct.follow_history {crypto : Crypto} {init : ExternalWorld} {run : List ExternalTransition × ExternalWorld}
    (act : ExternalAct) (history : ExternalHistory crypto init run.1 run.2) :
    ExternalHistory crypto init (act.follow crypto run).1 (act.follow crypto run).2 := by
  unfold ExternalAct.follow
  split
  · rename_i played
    exact history.step (ExternalAct.step played)
  · exact history

theorem playExternal_history (crypto : Crypto) (acts : List ExternalAct) :
    ExternalHistory crypto ⟨.empty, none⟩ (playExternal crypto acts).1 (playExternal crypto acts).2 := by
  suffices extend : ∀ run : List ExternalTransition × ExternalWorld, ExternalHistory crypto ⟨.empty, none⟩ run.1 run.2 →
      ExternalHistory crypto ⟨.empty, none⟩ (acts.foldl (ExternalAct.follow crypto) run).1
        (acts.foldl (ExternalAct.follow crypto) run).2 from extend _ .start
  induction acts with
  | nil => exact fun _ history => history
  | cons act acts ih => exact fun run history => ih _ (act.follow_history history)

/-- What the caller of a call has seen. -/
def ExternalEvent.seen? : ExternalEvent → Option (Answer Unit)
  | .call _ answer => some (answer.map fun _ => ())
  | _ => none

/-! ### A sample of the cryptography -/

namespace Sample

def sextet (n : Nat) : Option Nat :=
  if 65 ≤ n ∧ n ≤ 90 then some (n - 65)
  else if 97 ≤ n ∧ n ≤ 122 then some (n - 71)
  else if 48 ≤ n ∧ n ≤ 57 then some (n + 4)
  else if n = 43 then some 62
  else if n = 47 then some 63
  else none

/-- Base64 with its padding: the digits are one number, and its bytes are the text. -/
def base64Decode (text : String) : Option ByteArray :=
  let codes := text.toUTF8.data.toList.map (·.toNat)
  let digits := codes.takeWhile (· ≠ 61)
  let padding := codes.dropWhile (· ≠ 61)
  if (digits.length + padding.length) % 4 = 0 ∧ padding.length ≤ 2 ∧ padding.all (· = 61) then
    (digits.mapM sextet).map fun values =>
      let size := digits.length * 6 / 8
      let number := values.foldl (fun n v => n * 64 + v) 0 / 4 ^ padding.length
      ⟨⟨(List.range size).map fun i => (number / 256 ^ (size - 1 - i)).toUInt8⟩⟩
  else none

def nonce (c : Char) : ByteArray := (String.ofList (List.replicate 32 c)).toUTF8

def keyOfW : String := "yFOtDwzSthmuqSzuxP1Wok1kmdWEznklfkXP2BObYKc="

def keyOfV : String := "tfkAlTGPPwRM2OQLWEJT2Gd3vmK/ByITNOX9IZnPp/c="

def manifestOfW : String :=
  "\x7b\"allowed_targets\":[\"lab\"],\"capabilities\":[\"OBSERVE_STATUS\"],\"enabled\":true,\"heartbeat_sla\":30.0,\"key_id\":\"k\",\"max_capacity\":1,\"profile_version\":1,\"public_key_fingerprint\":\"d2f381d7b0b5f1d39239f186fdee4dd3bdba42ce9448709c1d54741131e7f814\",\"revoked\":false,\"signature_algorithm\":\"ED25519\",\"verification_scope\":\"AUTHENTICATED_EXTERNAL_ADAPTER\",\"worker_id\":\"w\",\"worker_kind\":\"sample\"\x7d"

def manifestOfV : String :=
  "\x7b\"allowed_targets\":[\"lab\"],\"capabilities\":[\"OBSERVE_STATUS\"],\"enabled\":true,\"heartbeat_sla\":30.0,\"key_id\":\"l\",\"max_capacity\":1,\"profile_version\":1,\"public_key_fingerprint\":\"de52c5b7d396405990b8df80875bad49a2e845b06a576e668fb1ea292a55ee7e\",\"revoked\":false,\"signature_algorithm\":\"ED25519\",\"verification_scope\":\"AUTHENTICATED_EXTERNAL_ADAPTER\",\"worker_id\":\"v\",\"worker_kind\":\"sample\"\x7d"

/-- Digests of what the samples hash beside the manifests. -/
def digests : List (ByteArray × String) :=
  [((base64Decode keyOfW).getD .empty, "d2f381d7b0b5f1d39239f186fdee4dd3bdba42ce9448709c1d54741131e7f814"),
   ((base64Decode keyOfV).getD .empty, "de52c5b7d396405990b8df80875bad49a2e845b06a576e668fb1ea292a55ee7e"),
   (nonce 'a', "3ba3f5f43b92602683c19aee62a20342b084dd5971ddd33808d81a328879a547"),
   (nonce 'b', "bdb339768bc5e4fecbe55a442056919b2b325907d49bcbf3bf8de13781996a83"),
   (nonce 'c', "cd93782b7fb95559de14f738b65988af85d41dc1565f7c7d1ed2d035665b519c"),
   (nonce 'd', "fbbbb6de2aa74c3c9570d2d8db1de31eadb66113c96034a7adb21243754d7683"),
   ("AF05-CHALLENGE\x00".toUTF8 ++ nonce 'a' ++ "w".toUTF8,
     "bd4720afd8972c4b09cc14db1c0f6aeedf54ae788f8a10dd6f871f81c565e0e7"),
   ("AF05-CHALLENGE\x00".toUTF8 ++ nonce 'b' ++ "w".toUTF8,
     "c8899dcaa82d1684f7fd5d6f22ca6d191efe2ba34fa6fae7a2d15f12be854526"),
   ("AF05-CHALLENGE\x00".toUTF8 ++ nonce 'c' ++ "w".toUTF8,
     "5ea37526016231b9ef7e203a04aaba18db7856a39e37d0778d4ecdb831af007d"),
   ("AF05-CHALLENGE\x00".toUTF8 ++ nonce 'd' ++ "v".toUTF8,
     "7335c405b97bc48a298d5718e3a54cd5127797d68849bd92db7686c4d6b30562"),
   ("AF05|t|w|s|lease".toUTF8, "a7ccd1a404d44cffce91425a1fe56baaabca71a14e850ac6c71e88b4ef76c713"),
   ("report".toUTF8, "845e91831319e89c4d656bdb80c278ac09a7230d61e5dfd2e1b1fbb436ac8917")]

def digestOfW : String := "e926584f6c06ead9230c165a8d58c4b22628bacb82e6423ab239dbeb0b51a36b"

def digestOfV : String := "86868d12ef32364b4d218c9de84b7abd1fc4cccbdd354219161d973a553a7143"

def manifests : List (ByteArray × String) := [(manifestOfW.toUTF8, digestOfW), (manifestOfV.toUTF8, digestOfV)]

theorem isDigest_ofList {cs : List Char}
    (hex : (cs.length = 64 && cs.all fun c => c.isDigit || ('a' ≤ c && c ≤ 'f')) = true) : isDigest (String.ofList cs) = true := by
  rw [isDigest, String.toList_ofList]
  exact hex

theorem digests_hex : ∀ e ∈ digests ++ manifests, isDigest e.2 = true := by
  simp only [digests, manifests, List.cons_append, List.nil_append, List.forall_mem_cons]
  repeat' apply And.intro
  all_goals first
    | exact isDigest_ofList (by decide)
    | simp

/-- The signatures of the frames below, each with its key. -/
def signatures : List (String × String) :=
  [(keyOfW, "uLrQH3PdHx/dAP8MOxZHQegWY4KoY/fZToFcT2vSBSH8m2d5dDcP6KRGUP8rulDs0Y9Ib8KWZn0/Men+u3YGDw=="),
   (keyOfW, "pnSyq9hEggFaD5JhTkWQSaHBf5j8LZoX+eqpT3wyHvubmqnXpB+vjdfAXJJb8b4s+trTR/rFGI9FlLoHIXfHCw=="),
   (keyOfW, "6/w5XGXQ8v8svawpVOhq/4HxoVooXPQ6i0BaC10BG/EpHDBHCLMbMxHFSBkHCY95M3j9PeTtOUZMSYArfcRmBA=="),
   (keyOfV, "vI6cXpyRC/ryVAbFTIoexZXUg9oJ4OHpG46lloqUMHquA8CwCgNs7w4lvDEUZKi9qjEGBSlTjoDadbyXLmRgDQ=="),
   (keyOfW, "mbWC8dKbRx2q00zT4hKJZeGfDGZzEz8xXUtsutYX4AEElg0xMruGRAdxMsxiapFiGpTNIqc7OwOVWT68HL5TCA=="),
   (keyOfW, "E3K5bMdAbCjvyvL4Ypx4ydifxu/0+/+7LWhWDOGr4mBPDR69RU074Wzehl4VL9FPFaW0sxLpZNKJRseflWZWCA=="),
   (keyOfW, "QXomaY0xIE6SEZ5Dak1tH1dzV+lc9cABbJ6IZEpgju1bxzr3KraWFubDDo52wt5abcmYr4LjFLTXffHJIW2SDQ=="),
   (keyOfW, "xOK3VZHRM4eQop2N67hGD7jaqPnqq6cw1Y57N+oKEodmHfuDjEl8i9xL9LBTQNZKeZMj3DFGwM3KQvcV1pwTAg=="),
   (keyOfW, "29T+PP+Vy8VqpyOWk7XKq0RWY/h5KlNIcUFNk/4rKA/YDvQNb0uNmL4gFidXAw4Imb98XCxjLy9x/VmlfNlqAA==")]

/-- The platform's functions on what the samples hash, decode and verify. -/
def crypto : Crypto where
  sha256 data := (((digests ++ manifests).find? fun e => e.1 = data).map (·.2)).getD
    "0000000000000000000000000000000000000000000000000000000000000000"
  digest data := by
    cases found : (digests ++ manifests).find? fun e => e.1 = data with
    | none => exact isDigest_ofList (by decide)
    | some e => exact digests_hex e (List.mem_of_find?_eq_some found)
  parseFloat _ := none
  repr q := Json.intText q.num ++ ['.', '0']
  decodeBase64 := base64Decode
  encodeBase64 data := ((
    ["YWFhYWFhYWFhYWFhYWFhYWFhYWFhYWFhYWFhYWFhYWE=", "YmJiYmJiYmJiYmJiYmJiYmJiYmJiYmJiYmJiYmJiYmI=",
     "Y2NjY2NjY2NjY2NjY2NjY2NjY2NjY2NjY2NjY2NjY2M=", "ZGRkZGRkZGRkZGRkZGRkZGRkZGRkZGRkZGRkZGRkZGQ="].find? fun t =>
      base64Decode t = some data)).getD ""
  isPublicKey data := [keyOfW, keyOfV].any fun key => base64Decode key = some data
  verify key signature _ := signatures.any fun s => base64Decode s.1 = some key ∧ base64Decode s.2 = some signature

def trusted (worker key publicKey : String) : TrustedWorkerProfile where
  workerId := .str worker
  workerKind := .str "sample"
  keyId := .str key
  publicKeyBase64 := publicKey
  capabilities := ["OBSERVE_STATUS"]
  allowedTargets := ["lab"]
  maxCapacity := .int 1
  heartbeatSla := .int 30

def configuration : Configuration where
  profiles := [trusted "w" "k" keyOfW, trusted "v" "l" keyOfV]
  repositoryRoots := ["/repository"]

/-! ### The start of the samples

A computation that runs through the text of a manifest is slow, so the start is brought
to one that does not. -/

def kind : Identifier := ⟨"sample", by decide⟩

def profileOf (worker key : Identifier) (publicKey : ByteArray) (digest : String) : VerifiedProfile where
  workerId := worker
  workerKind := kind
  keyId := key
  publicKey := publicKey
  capabilities := ["OBSERVE_STATUS"]
  allowedTargets := ["lab"]
  maxCapacity := 1
  heartbeatSla := 30
  positive := by decide
  enabled := true
  revoked := false
  profileVersion := 1
  fingerprint := crypto.sha256 publicKey
  digest := digest

theorem verified_trusted (worker key : Identifier) (text manifest : String) {raw : ByteArray} (decoded : base64Decode text = some raw)
    (accepted : raw.size = 32 ∧ crypto.isPublicKey raw = true)
    (written : String.ofList ((profileManifest (trusted worker.1 key.1 text) worker kind key (crypto.sha256 raw) 1 1 30).text
      crypto.repr Json.canonical) = manifest) :
    (trusted worker.1 key.1 text).verified crypto = .ok (profileOf worker key raw (crypto.sha256 manifest.toUTF8)) := by
  have named : identifier (.str "sample") "worker_kind" = .ok kind := identifier_str kind _
  have allowed : ["OBSERVE_STATUS"] ≠ [] ∧ ["lab"] ≠ [] ∧ ∀ c ∈ ["OBSERVE_STATUS"], c ∈ allowedCapabilities := by
    decide
  have labelled : ∀ t ∈ ["lab"], isIdentifier t := by decide
  have sla : slaSeconds crypto.toPlatform (.int 30) (.blocked "invalid trusted capacity or SLA") =
      .ok ⟨30, by decide +kernel⟩ := by decide +kernel
  refine bind_ok.mpr ⟨worker, identifier_str worker _, bind_ok.mpr ⟨kind, named, bind_ok.mpr ⟨key, identifier_str key _, ?_⟩⟩⟩
  refine require_bind_ok.mpr ⟨rfl, found_bind_ok.mpr ⟨1, rfl, require_bind_ok.mpr ⟨by decide, ?_⟩⟩⟩
  refine require_bind_ok.mpr ⟨allowed, require_bind_ok.mpr ⟨labelled, found_bind_ok.mpr ⟨1, rfl, ?_⟩⟩⟩
  refine require_bind_ok.mpr ⟨by decide, bind_ok.mpr ⟨_, sla, found_bind_ok.mpr ⟨raw, decoded, ?_⟩⟩⟩
  refine require_bind_ok.mpr ⟨accepted, bind_ok.mpr ⟨manifest, require_bind_ok.mpr ⟨rfl, ?_⟩, rfl⟩⟩
  rw [← written]
  rfl

/-- A text that opens as a manifest does is none of the others. -/
theorem digests_other {data : ByteArray} (opens : data.data.toList.head? = some 123) :
    (digests.find? fun e => e.1 = data) = none := by
  have heads : ∀ e ∈ digests, e.1.data.toList.head? ≠ some 123 := by decide
  refine List.find?_eq_none.mpr fun e member same => heads e member ?_
  rw [of_decide_eq_true same, opens]

theorem bytes_ofList {cs : List Char} : (String.ofList cs).toUTF8.data.toList = cs.flatMap String.utf8EncodeChar := by
  simp [String.toUTF8, List.utf8Encode]

set_option maxRecDepth 4000 in
theorem manifests_open : manifestOfW.toUTF8.data.toList.head? = some 123 ∧ manifestOfV.toUTF8.data.toList.head? = some 123 := by
  rw [show manifestOfW = String.ofList _ from rfl, show manifestOfV = String.ofList _ from rfl, bytes_ofList, bytes_ofList]
  decide

set_option maxRecDepth 4000 in
theorem manifests_differ : manifestOfW.toUTF8 ≠ manifestOfV.toUTF8 := by
  intro same
  have texts : manifestOfW = manifestOfV := String.toByteArray_inj.mp same
  rw [show manifestOfW = String.ofList _ from rfl, show manifestOfV = String.ofList _ from rfl] at texts
  exact absurd (String.ofList_injective texts) (by decide)

/-- The digest of the first or of the second manifest. -/
theorem sha256_manifest {data : ByteArray} (opens : data.data.toList.head? = some 123) {first second : ByteArray} {d e : String}
    (listed : manifests = [(first, d), (second, e)]) :
    (data = first → crypto.sha256 data = d) ∧ (data ≠ first → data = second → crypto.sha256 data = e) := by
  simp only [crypto, List.find?_append, digests_other opens, listed, Option.none_or]
  constructor
  · rintro rfl
    simp
  · rintro differ rfl
    simp [differ.symm]

theorem digest_w : crypto.sha256 manifestOfW.toUTF8 = digestOfW := (sha256_manifest manifests_open.1 rfl).1 rfl

theorem digest_v : crypto.sha256 manifestOfV.toUTF8 = digestOfV :=
  (sha256_manifest manifests_open.2 rfl).2 manifests_differ.symm rfl

def profileOfW : VerifiedProfile :=
  profileOf ⟨"w", by decide⟩ ⟨"k", by decide⟩ ((base64Decode keyOfW).getD .empty) digestOfW

def profileOfV : VerifiedProfile :=
  profileOf ⟨"v", by decide⟩ ⟨"l", by decide⟩ ((base64Decode keyOfV).getD .empty) digestOfV

set_option maxRecDepth 4000 in
theorem trusted_w : (trusted "w" "k" keyOfW).verified crypto = .ok profileOfW := by
  have verified := verified_trusted ⟨"w", by decide⟩ ⟨"k", by decide⟩ keyOfW manifestOfW
    (by decide : base64Decode keyOfW = some ((base64Decode keyOfW).getD .empty)) (by decide) (by
      rw [show manifestOfW = String.ofList _ from rfl, String.ofList_inj]
      decide)
  rwa [digest_w] at verified

set_option maxRecDepth 4000 in
theorem trusted_v : (trusted "v" "l" keyOfV).verified crypto = .ok profileOfV := by
  have verified := verified_trusted ⟨"v", by decide⟩ ⟨"l", by decide⟩ keyOfV manifestOfV
    (by decide : base64Decode keyOfV = some ((base64Decode keyOfV).getD .empty)) (by decide) (by
      rw [show manifestOfV = String.ofList _ from rfl, String.ofList_inj]
      decide)
  rwa [digest_v] at verified

def registry : Registry := ⟨[profileOfV, profileOfW], by decide⟩

/-- The constructor, its profiles verified. -/
def started : External ExternalGateway := do
  External.sql .runtimeRoot
  persistProfiles registry.all
  External.sql .requireReauthentication
  return ⟨registry, 30⟩

theorem create_started : ExternalGateway.create crypto configuration = started := by
  have lived : lifetime crypto configuration.challengeTtl = .ok 30 := by decide
  have created : Registry.create crypto configuration.profiles .empty = .ok registry := by
    simp only [configuration, Registry.create, trusted_w, trusted_v]
    rfl
  unfold ExternalGateway.create started
  rw [lived, created]
  rfl

/-- What a restart does to a run. -/
def followStart (run : List ExternalTransition × ExternalWorld) : List ExternalTransition × ExternalWorld :=
  match externals.alone started.run [] run.2.db with
  | (db, .ok g) => (⟨run.2, .restart configuration, ⟨db, some g⟩⟩ :: run.1, ⟨db, some g⟩)
  | (db, .error _) => (⟨run.2, .failedRestart configuration, ⟨db, none⟩⟩ :: run.1, ⟨db, none⟩)

theorem follow_restart (run : List ExternalTransition × ExternalWorld) :
    ExternalAct.follow crypto run (.restart configuration []) = followStart run := by
  simp only [ExternalAct.follow, ExternalAct.play, followStart, create_started]
  split <;> rename_i ran <;> split at ran <;> cases ran <;> simp only [*]

/-- The acts of a sample; none is a restart with its configuration. -/
def acts (sample : List (Option ExternalAct)) : List ExternalAct :=
  sample.map fun act => act.getD (.restart configuration [])

/-- The run of a sample. -/
def played (sample : List (Option ExternalAct)) : List ExternalTransition × ExternalWorld :=
  sample.foldl (fun run act => match act with
    | some act => act.follow crypto run
    | none => followStart run) ([], ⟨.empty, none⟩)

theorem played_acts (sample : List (Option ExternalAct)) : playExternal crypto (acts sample) = played sample := by
  unfold playExternal played acts
  generalize (([], ⟨.empty, none⟩) : List ExternalTransition × ExternalWorld) = run
  induction sample generalizing run with
  | nil => rfl
  | cons act sample ih =>
    cases act with
    | some act => exact ih _
    | none =>
      rw [List.map_cons, List.foldl_cons, Option.getD_none, follow_restart]
      exact ih _

theorem played_history (sample : List (Option ExternalAct)) :
    ExternalHistory crypto ⟨.empty, none⟩ (played sample).1 (played sample).2 := by
  rw [← played_acts]
  exact playExternal_history crypto _

/-- The frame that answers a challenge issued at `issued`. -/
def answerFrame (worker key challenge nonce digest session : String) (issued : Int) (signature : String) : Json :=
  .dict [("challenge_id", .str challenge), ("worker_id", .str worker), ("key_id", .str key), ("nonce", .str nonce),
    ("protocol_version", .str af05Protocol), ("profile_digest", .str digest), ("issued_at", .int issued),
    ("expires_at", .int (issued + 30)), ("session_id", .str session), ("capacity", .int 1), ("signature", .str signature)]

/-- A frame of worker `w` in its session. -/
def messageFrame (protocol session message : String) (sequence observed : Int) (members : Frame) (signature : String) : Json :=
  .dict ([("protocol_version", .str protocol), ("worker_id", .str "w"), ("key_id", .str "k"), ("session_id", .str session),
    ("message_id", .str message), ("sequence", .int sequence), ("observed_at", .int observed)] ++ members ++
    [("signature", .str signature)])

/-- Worker `w` gets a challenge at 10 and opens session `s`. -/
def connect : List (Option ExternalAct) :=
  [none,
   some <| .call (.issueChallenge (.str "w") (.str "k") (.fin 10)) [{}, { nonce := nonce 'a' }],
   some <| .call (.authenticateSession (answerFrame "w" "k" "bd4720afd8972c4b09cc14db1c0f6aeedf54ae788f8a10dd6f871f81c565e0e7"
     "YWFhYWFhYWFhYWFhYWFhYWFhYWFhYWFhYWFhYWFhYWE=" "e926584f6c06ead9230c165a8d58c4b22628bacb82e6423ab239dbeb0b51a36b"
     "s" 10 "uLrQH3PdHx/dAP8MOxZHQegWY4KoY/fZToFcT2vSBSH8m2d5dDcP6KRGUP8rulDs0Y9Ib8KWZn0/Men+u3YGDw==")
     (.fin 11)) []]

/-- The worker claims a task and is sent to it. -/
def send : List (Option ExternalAct) :=
  [some <| .other (.createTask {
     taskId := "t", directiveId := none, targetProject := "lab", capability := "OBSERVE_STATUS", governanceAllowed := 1 } 11) {},
   some <| .other (.claim "t" "w" (.fin 60) 12) { uuid := "lease" },
   some <| .call (.dispatch [("task_id", .str "t"), ("capability", .str "OBSERVE_STATUS"), ("target_project", .str "lab")]
     [("task_id", .str "t"), ("worker_id", .str "w"), ("lease_id", .str "lease")] (.str "s") (.fin 13)) []]

def sent : String := "a7ccd1a404d44cffce91425a1fe56baaabca71a14e850ac6c71e88b4ef76c713"

def ack : Json :=
  messageFrame af05Protocol "s" "m1" 1 14 [("dispatch_id", .str sent), ("task_id", .str "t"), ("lease_id", .str "lease")]
    "pnSyq9hEggFaD5JhTkWQSaHBf5j8LZoX+eqpT3wyHvubmqnXpB+vjdfAXJJb8b4s+trTR/rFGI9FlLoHIXfHCw=="

def report : Json :=
  messageFrame af05Protocol "s" "m2" 2 15 [("dispatch_id", .str sent), ("task_id", .str "t"), ("lease_id", .str "lease"),
    ("status", .str "SUCCEEDED"), ("evidence_id", .str "e"),
    ("evidence_sha256", .str "845e91831319e89c4d656bdb80c278ac09a7230d61e5dfd2e1b1fbb436ac8917")]
    "6/w5XGXQ8v8svawpVOhq/4HxoVooXPQ6i0BaC10BG/EpHDBHCLMbMxHFSBkHCY95M3j9PeTtOUZMSYArfcRmBA=="

/-- The worker acknowledges the dispatch, and reports its result twice. -/
def work : List (Option ExternalAct) :=
  connect ++ send ++
  [some <| .call (.acknowledge ack (.fin 14)) [],
   some <| .spool fun id => if id = "e" then some "report".toUTF8 else none,
   some <| .call (.result report (.fin 15)) [], some <| .call (.result report (.fin 15)) []]

end Sample

end ControlPlane.Autonomy
