import ControlPlane.Autonomy.ExternalProvider
import ControlPlane.Autonomy.ExternalSessions
import ControlPlane.Autonomy.ReadOnlyWorker
import ControlPlane.Data.Colons
import ControlPlane.Data.Json.RoundTrip
import Mathlib.Logic.Function.Basic

/-!
# The message ids of honest workers

A message id holds a part of its session or dispatch and the number of its frame. What two
workers are of is told apart by that part alone, and the ledgers of the gateway hold the ids
of all workers.
-/

namespace ControlPlane.Autonomy

open Data Interleaving

/-- A frame that a worker has made. -/
structure Made (ι : Type) where
  owner : ι
  kind : FrameKind
  /-- the session it reports of, or the dispatch it answers -/
  subject : String
  sequence : Int
  frame : Frame

/-- Workers, no two of one worker id and session. -/
structure Fleet (ι : Type) where
  profile : ι → TrustedWorkerProfile
  sign : ι → ByteArray → ByteArray
  sessionId : ι → Identifier
  distinct : ∀ i j, (profile i).workerId = (profile j).workerId → sessionId i = sessionId j → i = j

def Fleet.start {ι : Type} (fleet : Fleet ι) (i : ι) : ReadOnlyWorker :=
  .create (fleet.profile i) (fleet.sign i) (fleet.sessionId i)

/-- The workers make their frames in any order. A host gives the acknowledgements of a worker
growing numbers, and its results too. -/
inductive Honest {ι : Type} [DecidableEq ι] (crypto : Crypto) (fleet : Fleet ι) : List (Made ι) → (ι → ReadOnlyWorker) → Prop
  | start : Honest crypto fleet [] fleet.start
  | status {sent now i client observedAt probe w frame} (before : Honest crypto fleet sent now)
      (made : (now i).providerStatusFrame crypto client observedAt probe = (w, .ok frame)) :
      Honest crypto fleet (⟨i, .provider, w.sessionId.1, w.providerSequence, frame⟩ :: sent) (Function.update now i w)
  | noStatus {sent now i client observedAt probe w e} (before : Honest crypto fleet sent now)
      (raised : (now i).providerStatusFrame crypto client observedAt probe = (w, .error e)) :
      Honest crypto fleet sent (Function.update now i w)
  | ack {sent now i dispatch sequence observedAt frame} (before : Honest crypto fleet sent now)
      (grown : ∀ s ∈ sent, s.owner = i → s.kind = .ack → s.sequence < sequence)
      (made : (now i).ackFrame crypto dispatch sequence observedAt = .ok frame) :
      Honest crypto fleet (⟨i, .ack, dispatch.dispatchId, sequence, frame⟩ :: sent) now
  | result {sent now i client sink dispatch sequence observedAt frame} (before : Honest crypto fleet sent now)
      (grown : ∀ s ∈ sent, s.owner = i → s.kind = .result → s.sequence < sequence)
      (made : (now i).executeResultFrame crypto client sink dispatch sequence observedAt = .ok frame) :
      Honest crypto fleet (⟨i, .result, dispatch.dispatchId, sequence, frame⟩ :: sent) now

/-- The step was handed the frame. -/
def Handed (value : Json) (t : ExternalTransition) : Prop := ∃ c, t.label.call? = some c ∧ c.frame? = some value

/-- The id of the frame is in no ledger. -/
def Unledgered (frame : Frame) (db : ExternalDb) : Prop :=
  (∀ m ∈ db.messages.rows, frame.get "message_id" ≠ .str m.messageId) ∧
    ∀ m ∈ db.providerMessages.rows, frame.get "message_id" ≠ .str m.messageId

section

variable {ι : Type}

/-- Different frames have different ids. -/
def IdsDistinct (sent : List (Made ι)) : Prop :=
  ∀ s ∈ sent, ∀ t ∈ sent, s.frame ≠ t.frame → s.frame.get "message_id" ≠ t.frame.get "message_id"

/-- Whatever else the gateway was handed under other ids, it has the id of no frame that it was not handed yet. -/
def NeverReplayed (crypto : Crypto) (sent : List (Made ι)) : Prop :=
  ∀ past w, ExternalHistory crypto ⟨.empty, none⟩ past w →
    (∀ t ∈ past, ∀ value, Handed value t → (∃ s ∈ sent, value = .dict s.frame) ∨
      ∀ s ∈ sent, value.field "message_id" ≠ s.frame.get "message_id") →
    ∀ s ∈ sent, (∀ t ∈ past, ¬ Handed (.dict s.frame) t) → Unledgered s.frame w.db

/-- What an id keeps of the subject of its frame, with the sign of the number. -/
def Made.shown (s : Made ι) : List Char := s.subject.toList.take s.kind.kept ++ if s.sequence < 0 then ['-'] else []

/-- No id keeps the same of two frames. -/
def ToldApart (sent : List (Made ι)) : Prop :=
  ∀ s ∈ sent, ∀ t ∈ sent, s.kind = t.kind → s.shown = t.shown → s.sequence.natAbs = t.sequence.natAbs →
    s.owner = t.owner ∧ s.sequence = t.sequence

/-! ### The id of a frame -/

theorem intText_eq (i : Int) : Json.intText i = (if i < 0 then ['-'] else []) ++ Json.digits i.natAbs := by
  cases i with
  | ofNat n => rfl
  | negSucc n => rw [if_pos (Int.negSucc_lt_zero n)]; rfl

theorem digits_plain (n : Nat) : '-' ∉ Json.digits n := fun member => by
  have digit := Json.digits_isDigit _ member
  exact absurd digit (by decide)

theorem digits_injective {m n : Nat} (same : Json.digits m = Json.digits n) : m = n := by
  have value := congrArg Json.digitsValue same
  rwa [Json.digitsValue_digits, Json.digitsValue_digits] at value

theorem frameMessageId_toList {s : Made ι} : (frameMessageId s.kind s.subject s.sequence).toList =
    (s.kind.stem.toList ++ s.shown) ++ '-' :: Json.digits s.sequence.natAbs := by
  unfold frameMessageId Made.shown
  rw [String.toList_append, String.toList_append, String.toList_append, String.toList_ofList, String.toList_ofList, intText_eq]
  by_cases negative : s.sequence < 0
  · simp [negative]
  · simp [negative]

/-- The kinds differ within what their ids begin with. -/
theorem stem_apart {k k' : FrameKind} {t t' : List Char} (same : k.stem.toList ++ t = k'.stem.toList ++ t') : k = k' ∧ t = t' := by
  cases k <;> cases k' <;> simp [FrameKind.stem] at same ⊢ <;> exact same

theorem frameMessageId_same {s t : Made ι} :
    frameMessageId s.kind s.subject s.sequence = frameMessageId t.kind t.subject t.sequence ↔
      s.kind = t.kind ∧ s.shown = t.shown ∧ s.sequence.natAbs = t.sequence.natAbs := by
  rw [← String.toList_inj, frameMessageId_toList, frameMessageId_toList]
  constructor
  · intro same
    obtain ⟨front, number⟩ := behind_last same (digits_plain _) (digits_plain _)
    obtain ⟨kind, shown⟩ := stem_apart front
    exact ⟨kind, shown, digits_injective number⟩
  · rintro ⟨kind, shown, number⟩
    rw [kind, shown, number]

/-! ### One frame -/

/-- What a frame says of itself. -/
structure Stamped (workerId : Json) (sessionId : Identifier) (kind : FrameKind) (subject : String) (sequence : Int) (frame : Frame) :
    Prop where
  messageId : frame.get "message_id" = .str (frameMessageId kind subject sequence)
  worker : frame.get "worker_id" = workerId
  session : frame.get "session_id" = .str sessionId.1
  sequence : frame.get "sequence" = .int sequence

variable {crypto : Crypto} {w w' : ReadOnlyWorker} {frame : Frame} {client : ProviderBackend} {observedAt : Json} {probe : Bool}
  {dispatch : ExternalEnvelope} {sequence : Int}

theorem signed_ok {domain : String} {fields : Frame} (made : w.signed crypto domain fields = .ok frame) :
    ∃ signature, frame = fields ++ [("signature", .str signature)] := by
  obtain ⟨message, _, signed⟩ := bind_ok.mp made
  exact ⟨_, (Except.ok.inj signed).symm⟩

theorem providerStatusFrame_keeps {r : Except Err Frame} (ran : w.providerStatusFrame crypto client observedAt probe = (w', r)) :
    w'.profile = w.profile ∧ w'.sessionId = w.sessionId ∧ w'.providerSequence = w.providerSequence + 1 := by
  unfold ReadOnlyWorker.providerStatusFrame at ran
  dsimp only at ran
  split at ran
  · obtain ⟨rfl, _⟩ := Prod.mk.inj ran
    exact ⟨rfl, rfl, rfl⟩
  · obtain ⟨rfl, _⟩ := Prod.mk.inj ran
    exact ⟨rfl, rfl, rfl⟩

theorem providerStatusFrame_stamped (ran : w.providerStatusFrame crypto client observedAt probe = (w', .ok frame)) :
    Stamped w'.profile.workerId w'.sessionId .provider w'.sessionId.1 w'.providerSequence frame := by
  unfold ReadOnlyWorker.providerStatusFrame at ran
  dsimp only at ran
  split at ran
  · cases (Prod.mk.inj ran).2
  · obtain ⟨rfl, made⟩ := Prod.mk.inj ran
    obtain ⟨observed, _, made⟩ := bind_ok.mp made
    obtain ⟨signature, rfl⟩ := signed_ok made
    exact ⟨rfl, rfl, rfl, rfl⟩

theorem ackFrame_stamped (made : w.ackFrame crypto dispatch sequence observedAt = .ok frame) :
    Stamped w.profile.workerId w.sessionId .ack dispatch.dispatchId sequence frame := by
  obtain ⟨_, _, made⟩ := bind_ok.mp made
  obtain ⟨observed, _, made⟩ := bind_ok.mp made
  obtain ⟨signature, rfl⟩ := signed_ok made
  exact ⟨rfl, rfl, rfl, rfl⟩

theorem executeResultFrame_stamped {sink : String → ByteArray → Except Err Unit}
    (made : w.executeResultFrame crypto client sink dispatch sequence observedAt = .ok frame) :
    Stamped w.profile.workerId w.sessionId .result dispatch.dispatchId sequence frame := by
  simp only [ReadOnlyWorker.executeResultFrame, bind_ok, require_ok] at made
  obtain ⟨_, _, _, _, evidence, _, _, _, observed, _, made⟩ := made
  obtain ⟨signature, rfl⟩ := signed_ok made
  exact ⟨rfl, rfl, rfl, rfl⟩

/-! ### A run of the workers -/

variable {fleet : Fleet ι} {sent : List (Made ι)} {now : ι → ReadOnlyWorker}

/-- What is true of the frames that honest workers have made. -/
structure Numbered (fleet : Fleet ι) (sent : List (Made ι)) (now : ι → ReadOnlyWorker) : Prop where
  identity : ∀ i, (now i).profile = fleet.profile i ∧ (now i).sessionId = fleet.sessionId i
  stamped : ∀ s ∈ sent, Stamped (fleet.profile s.owner).workerId (fleet.sessionId s.owner) s.kind s.subject s.sequence s.frame
  counted : ∀ s ∈ sent, s.kind = .provider → s.sequence ≤ (now s.owner).providerSequence
  once : ∀ s ∈ sent, ∀ t ∈ sent, s.owner = t.owner → s.kind = t.kind → s.sequence = t.sequence → s = t

/-- One frame more, of a number that its owner has not yet given to a frame of its kind. -/
theorem Numbered.cons {s : Made ι} (kept : Numbered fleet sent now)
    (stamped : Stamped (now s.owner).profile.workerId (now s.owner).sessionId s.kind s.subject s.sequence s.frame)
    (counted : s.kind = .provider → s.sequence ≤ (now s.owner).providerSequence)
    (fresh : ∀ t ∈ sent, t.owner = s.owner → t.kind = s.kind → t.sequence < s.sequence) : Numbered fleet (s :: sent) now where
  identity := kept.identity
  stamped := by
    obtain ⟨profile, session⟩ := kept.identity s.owner
    rw [profile, session] at stamped
    exact List.forall_mem_cons.mpr ⟨stamped, kept.stamped⟩
  counted := List.forall_mem_cons.mpr ⟨counted, kept.counted⟩
  once := by
    intro t inSent u inSent' owner kind sequence
    rcases List.mem_cons.mp inSent with rfl | older
    · rcases List.mem_cons.mp inSent' with rfl | older'
      · rfl
      · exact absurd sequence (fresh u older' owner.symm kind.symm).ne'
    · rcases List.mem_cons.mp inSent' with rfl | older'
      · exact absurd sequence (fresh t older owner kind).ne
      · exact kept.once t older u older' owner kind sequence

/-- A worker that has counted on. -/
theorem Numbered.update [DecidableEq ι] {i : ι} (kept : Numbered fleet sent now) (profile : w.profile = (now i).profile) (session : w.sessionId = (now i).sessionId)
    (more : (now i).providerSequence ≤ w.providerSequence) : Numbered fleet sent (Function.update now i w) where
  identity j := by
    by_cases own : j = i
    · rw [own, Function.update_self, profile, session]
      exact kept.identity i
    · rw [Function.update_of_ne own]
      exact kept.identity j
  stamped := kept.stamped
  counted s member kind := by
    have before := kept.counted s member kind
    by_cases own : s.owner = i
    · rw [own, Function.update_self]
      rw [own] at before
      omega
    · rwa [Function.update_of_ne own]
  once := kept.once

theorem Honest.numbered [DecidableEq ι] (run : Honest crypto fleet sent now) : Numbered fleet sent now := by
  induction run with
  | start => exact ⟨fun _ => ⟨rfl, rfl⟩, by simp, by simp, by simp⟩
  | @status sent now i client observedAt probe w frame before made ih =>
    obtain ⟨profile, session, counted⟩ := providerStatusFrame_keeps made
    refine (ih.update profile session (by omega)).cons ?_ ?_ ?_
    · rw [Function.update_self]
      exact providerStatusFrame_stamped made
    · intro _
      rw [Function.update_self]
    · intro t member owner kind
      have below := ih.counted t member kind
      simp only at owner ⊢
      rw [owner] at below
      omega
  | noStatus before raised ih =>
    obtain ⟨profile, session, counted⟩ := providerStatusFrame_keeps raised
    exact ih.update profile session (by omega)
  | ack before grown made ih => exact ih.cons (ackFrame_stamped made) nofun grown
  | result before grown made ih => exact ih.cons (executeResultFrame_stamped made) nofun grown

/-- The ids are told apart where the parts of the subjects that they keep are. -/
theorem Numbered.ids (kept : Numbered fleet sent now) : IdsDistinct sent ↔ ToldApart sent := by
  have ids {s t : Made ι} (inSent : s ∈ sent) (inSent' : t ∈ sent) : s.frame.get "message_id" = t.frame.get "message_id" ↔
      s.kind = t.kind ∧ s.shown = t.shown ∧ s.sequence.natAbs = t.sequence.natAbs := by
    rw [(kept.stamped s inSent).messageId, (kept.stamped t inSent').messageId, Json.str.injEq, frameMessageId_same]
  constructor
  · intro distinct s inSent t inSent' kind shown number
    have same : s.frame = t.frame := by
      by_contra other
      exact distinct s inSent t inSent' other ((ids inSent inSent').mpr ⟨kind, shown, number⟩)
    have first := kept.stamped s inSent
    have second := kept.stamped t inSent'
    rw [same] at first
    constructor
    · exact fleet.distinct _ _ (first.worker.symm.trans second.worker)
        (Subtype.ext (Json.str.inj (first.session.symm.trans second.session)))
    · exact Json.int.inj (first.sequence.symm.trans second.sequence)
  · intro told s inSent t inSent' other same
    obtain ⟨kind, shown, number⟩ := (ids inSent inSent').mp same
    obtain ⟨owner, sequence⟩ := told s inSent t inSent' kind shown number
    exact other (congrArg Made.frame (kept.once s inSent t inSent' owner kind sequence))

/-! ### The ledgers -/

variable {v : ExternalWorld} {past : List ExternalTransition} {t : ExternalTransition}

theorem handed_message {c : ExternalCall} {d : Domain} {value : Json} {clock : PyFloat} (called : t.label.call? = some c)
    (message : c.message? = some (d, value, clock)) : Handed value t := by
  refine ⟨c, called, ?_⟩
  cases c <;> simp [ExternalCall.message?, ExternalCall.frame?] at message ⊢ <;> exact message.2.1

/-- The ledger of messages grows by the id of the frame that was handed in. -/
theorem step_messages (step : ExternalStep crypto t.before t.label t.after) :
    t.after.db.messages = t.before.db.messages ∨ ∃ value row, Handed value t ∧ value.field "message_id" = .str row.messageId ∧
      t.before.db.messages.insert? row = some t.after.db.messages := by
  have through {g : ExternalGateway} {c : ExternalCall} {next : Pending ExternalStmt}
      (cut : externals.Cut (c.procedure crypto g) t.before.db t.after.db next) (called : t.label.call? = some c) :
      t.after.db.messages = t.before.db.messages ∨ ∃ value row, Handed value t ∧ value.field "message_id" = .str row.messageId ∧
        t.before.db.messages.insert? row = some t.after.db.messages := by
    rcases call_messages cut with same | ⟨d, value, clock, m, message, admitted, inserted⟩
    · exact .inl same
    · refine .inr ⟨value, m.row d, handed_message called message, ?_, inserted⟩
      rw [admitted.shape]
      exact admitted.messageId
  cases step.cases with
  | called running label stays ends => exact through ends.stops (by rw [label]; rfl)
  | crashed running label died cut => exact through cut (by rw [label]; rfl)
  | restarted _ _ returned => exact .inl (confined_create.messages returned.stops (by simp [writesOfRestart]))
  | failed _ _ cut => exact .inl (confined_create.messages cut (by simp [writesOfRestart]))
  | outside _ _ tables =>
    obtain ⟨store, spool, same⟩ := tables
    exact .inl (by rw [same])

/-- An id in a ledger is that of a frame that was handed in. -/
theorem ledger_handed (history : ExternalHistory crypto ⟨.empty, none⟩ past v) {id : Json}
    (ledgered : (∃ m ∈ v.db.messages.rows, id = .str m.messageId) ∨ ∃ m ∈ v.db.providerMessages.rows, id = .str m.messageId) :
    ∃ t ∈ past, ∃ value, Handed value t ∧ value.field "message_id" = id := by
  let Up (u : ExternalWorld) : Prop :=
    (∃ m ∈ u.db.messages.rows, id = .str m.messageId) ∨ ∃ m ∈ u.db.providerMessages.rows, id = .str m.messageId
  refine history.raised_by (fun t => ∃ value, Handed value t ∧ value.field "message_id" = id) Up ?_ (fun t member down up => ?_) ledgered
  · rintro (⟨m, impossible, _⟩ | ⟨m, impossible, _⟩)
    · cases impossible
    · cases impossible
  · have step := history.moved t member
    rcases up with ⟨m, there, same⟩ | ⟨m, there, same⟩
    · rcases step_messages step with unchanged | ⟨value, row, handed, named, inserted⟩
      · exact absurd (.inl ⟨m, unchanged ▸ there, same⟩) down
      · rcases (Table.mem_inserted inserted).mp there with older | rfl
        · exact absurd (.inl ⟨m, older, same⟩) down
        · exact ⟨value, handed, named.trans same.symm⟩
    · rcases step_provider step with ⟨_, unchanged⟩ | ⟨g, value, clock, row, n, entries, running, called, reported, written⟩
      · exact absurd (.inr ⟨m, unchanged ▸ there, same⟩) down
      · obtain ⟨_, messages, inserted, after⟩ := written
        rw [after] at there
        rcases (Table.mem_inserted inserted).mp there with older | rfl
        · exact absurd (.inr ⟨m, older, same⟩) down
        · refine ⟨value, ⟨_, called, rfl⟩, ?_⟩
          rw [reported.shape, same]
          exact reported.messageId

/-- Distinct ids are never taken for a replay. -/
theorem never_replayed (distinct : IdsDistinct sent) : NeverReplayed crypto sent := by
  intro past v history honest s inSent unheard
  have absent : ¬ ((∃ m ∈ v.db.messages.rows, s.frame.get "message_id" = .str m.messageId) ∨
      ∃ m ∈ v.db.providerMessages.rows, s.frame.get "message_id" = .str m.messageId) := by
    intro ledgered
    obtain ⟨t, member, value, handed, named⟩ := ledger_handed history ledgered
    rcases honest t member value handed with ⟨u, inSent', rfl⟩ | other
    · by_cases same : s.frame = u.frame
      · exact unheard t member (same ▸ handed)
      · exact distinct s inSent u inSent' same named.symm
    · exact other s inSent named
  exact ⟨fun m member same => absent (.inl ⟨m, member, same⟩), fun m member same => absent (.inr ⟨m, member, same⟩)⟩

/-- In every run of honest workers their frames have different ids, and no frame is taken for a
replay that is none, if and only if no id keeps the same of two frames. -/
theorem message_ids_iff [DecidableEq ι] (run : Honest crypto fleet sent now) :
    (IdsDistinct sent ∧ NeverReplayed crypto sent) ↔ ToldApart sent := by
  constructor
  · intro promised
    exact run.numbered.ids.mp promised.1
  · intro told
    have distinct := run.numbered.ids.mpr told
    exact ⟨distinct, never_replayed distinct⟩

end

namespace Sample

def readerName : Bool → String
  | true => "w"
  | false => "v"

/-- Two workers in the sessions of these names. -/
def readers (first second : Identifier) : Fleet Bool where
  profile i := {
    workerId := .str (readerName i), workerKind := .str "sample", keyId := .str "k", publicKeyBase64 := keyOfW
    capabilities := ["OBSERVE_STATUS"], allowedTargets := ["lab"], maxCapacity := .int 1, heartbeatSla := .int 30 }
  sign _ message := message
  sessionId i := if i then first else second
  distinct i j same _ := by
    cases i <;> cases j <;> first | rfl | exact absurd (Json.str.inj same) (by decide)

def unconfigured : ProviderBackend where
  providerKind := openaiKind
  model := "gpt-5.6-sol"
  configured := .ok false
  probe := .error (.blocked "provider credential unavailable")
  execute _ := .error (.blocked "provider credential unavailable")

theorem unconfigured_reports (first second : Identifier) (i : Bool) : ∃ w frame,
    ((readers first second).start i).providerStatusFrame crypto unconfigured (.float (.fin 11)) false = (w, .ok frame) ∧
      w.sessionId = (readers first second).sessionId i ∧ w.providerSequence = 1 :=
  ⟨_, _, rfl, rfl, rfl⟩

/-- A first report of each, of a provider that is not configured. -/
theorem readers_report (first second : Identifier) : ∃ frame frame' now, Honest crypto (readers first second)
    [⟨true, .provider, first.1, 1, frame⟩, ⟨false, .provider, second.1, 1, frame'⟩] now := by
  obtain ⟨v, frame', made', session', counted'⟩ := unconfigured_reports first second false
  obtain ⟨w, frame, made, session, counted⟩ := unconfigured_reports first second true
  have one := Honest.status .start made'
  have two := one.status (i := true) (by rwa [Function.update_of_ne (by decide)])
  rw [session, counted, session', counted'] at two
  exact ⟨frame, frame', _, two⟩

end Sample

/-- Two sessions that differ within their first characters. -/
theorem message_ids_apart : ∃ sent now, Honest Sample.crypto (Sample.readers ⟨"provider-session", by decide⟩ ⟨"smoke-session", by decide⟩)
    sent now ∧ sent ≠ [] ∧ IdsDistinct sent ∧ NeverReplayed Sample.crypto sent := by
  obtain ⟨frame, frame', now, run⟩ := Sample.readers_report ⟨"provider-session", by decide⟩ ⟨"smoke-session", by decide⟩
  refine ⟨_, now, run, by simp, (message_ids_iff run).mpr ?_⟩
  have apart : "provider-session".toList.take 24 ≠ "smoke-session".toList.take 24 := by decide
  intro s inSent t inSent' _ shown _
  simp only [List.mem_cons, List.not_mem_nil, or_false] at inSent inSent'
  rcases inSent with rfl | rfl <;> rcases inSent' with rfl | rfl
  · exact ⟨rfl, rfl⟩
  · exact absurd (List.append_cancel_right shown) apart
  · exact absurd (List.append_cancel_right shown).symm apart
  · exact ⟨rfl, rfl⟩

/-- Two sessions that differ in their last character. -/
theorem message_ids_collide : ∃ sent now, Honest Sample.crypto
    (Sample.readers ⟨"openai-read-only-session-1", by decide⟩ ⟨"openai-read-only-session-2", by decide⟩) sent now ∧
      ¬ (IdsDistinct sent ∧ NeverReplayed Sample.crypto sent) := by
  obtain ⟨frame, frame', now, run⟩ :=
    Sample.readers_report ⟨"openai-read-only-session-1", by decide⟩ ⟨"openai-read-only-session-2", by decide⟩
  refine ⟨_, now, run, fun promised => ?_⟩
  have cut : "openai-read-only-session-1".toList.take 24 = "openai-read-only-session-2".toList.take 24 := by decide
  have told := run.numbered.ids.mp promised.1
  have same := told _ List.mem_cons_self _ (List.mem_cons_of_mem _ List.mem_cons_self) rfl (congrArg (· ++ []) cut) rfl
  cases same.1

end ControlPlane.Autonomy
