import ControlPlane.Directive.AuditChain

/-!
# What the chains of hashes do not detect

The fields of a record are hashed as one text with colons between them. A file with the same hashes
is accepted where it has the same words between the colons, however they are spread over the fields.
-/

namespace ControlPlane.Directive

open ControlPlane.Data

/-- The fields that a ledger hashes before the previous hash: `rec[name]` for the names, then the details. -/
structure Hashed where
  names : List String
  details : Bool := false

namespace Hashed

section

variable (host : Host) (hashed : Hashed)

/-- The texts of the fields, in order. -/
def texts (rec : Record) : List String :=
  hashed.names.map (fun name => host.shown (Record.field rec name)) ++
    if hashed.details then [sortedText host ((Dict.get? rec "details").getD (.dict []))] else []

/-- The words between the colons, over all fields. -/
def wordsOf (rec : Record) : List (List Char) := (hashed.texts host rec).flatMap words

/-- All fields that are hashed. -/
def fields : List String := hashed.names ++ (if hashed.details then ["details"] else []) ++ ["previous_event_hash"]

/-- How a ledger hashes these fields. -/
structure Of (ledger : Ledger) : Prop where
  previous : ledger.previousField = "previous_event_hash"
  missing : ∀ rec prev, ledger.recomputed rec prev = none ↔ holds rec hashed.names = false
  words : ∀ rec prev text, ledger.recomputed rec prev = some text → words text = hashed.wordsOf host rec ++ words prev

end

end Hashed

section

variable (host : Host)

def QueueAudit.hashed : Hashed where
  names := ["event_id", "directive_id", "from_state", "to_state", "timestamp", "actor_worker", "payload_sha256", "commit_sha"]

def ApprovalAudit.hashed : Hashed where
  names := ["approval_request_id", "directive_id", "from_state", "to_state", "actor", "timestamp"]
  details := true

def AuthorizationAudit.hashed : Hashed where
  names := ["directive_id", "capability_id", "requested_target", "parameter_hash", "derived_risk_class",
    "human_approval_required", "approval_id", "authorized", "rejection_reason", "timestamp"]

def IncidentAudit.hashed : Hashed where
  names := ["incident_id", "from_state", "to_state", "actor", "reason", "timestamp"]
  details := true

theorem ite_none_iff {p : Bool} {t : String} : (if p = true then some t else none) = none ↔ p = false := by
  cases p <;> simp

theorem QueueAudit.hashes : QueueAudit.hashed.Of host (QueueAudit.ledger host) where
  previous := rfl
  missing rec prev := ite_none_iff
  words rec prev text found := by
    obtain ⟨-, same⟩ := Option.ite_none_right_eq_some.mp found
    rw [← Option.some.inj same]
    simp [Hashed.wordsOf, Hashed.texts, QueueAudit.hashed, host.shown_str]

theorem ApprovalAudit.hashes : ApprovalAudit.hashed.Of host (ApprovalAudit.ledger host) where
  previous := rfl
  missing rec prev := ite_none_iff
  words rec prev text found := by
    obtain ⟨-, same⟩ := Option.ite_none_right_eq_some.mp found
    rw [← Option.some.inj same]
    simp [Hashed.wordsOf, Hashed.texts, ApprovalAudit.hashed, host.shown_str]

theorem AuthorizationAudit.hashes : AuthorizationAudit.hashed.Of host (AuthorizationAudit.ledger host) where
  previous := rfl
  missing rec prev := ite_none_iff
  words rec prev text found := by
    obtain ⟨-, same⟩ := Option.ite_none_right_eq_some.mp found
    rw [← Option.some.inj same]
    simp [Hashed.wordsOf, Hashed.texts, AuthorizationAudit.hashed, host.shown_str]

theorem IncidentAudit.hashes : IncidentAudit.hashed.Of host (IncidentAudit.ledger host) where
  previous := rfl
  missing rec prev := ite_none_iff
  words rec prev text found := by
    obtain ⟨-, same⟩ := Option.ite_none_right_eq_some.mp found
    rw [← Option.some.inj same]
    simp [Hashed.wordsOf, Hashed.texts, IncidentAudit.hashed, host.shown_str]

/-- The ledgers of the claim, with what they hash. -/
def hashedLedgers : List (Ledger × Hashed) :=
  [(QueueAudit.ledger host, QueueAudit.hashed), (ApprovalAudit.ledger host, ApprovalAudit.hashed),
    (AuthorizationAudit.ledger host, AuthorizationAudit.hashed), (IncidentAudit.ledger host, IncidentAudit.hashed)]

theorem hashedLedgers_of {ledger : Ledger} {hashed : Hashed} (known : (ledger, hashed) ∈ hashedLedgers host) :
    ledger.Sound host ∧ hashed.Of host ledger := by
  simp only [hashedLedgers, List.mem_cons, List.not_mem_nil, or_false, Prod.mk.injEq] at known
  rcases known with ⟨rfl, rfl⟩ | ⟨rfl, rfl⟩ | ⟨rfl, rfl⟩ | ⟨rfl, rfl⟩
  · exact ⟨QueueAudit.sound host, QueueAudit.hashes host⟩
  · exact ⟨ApprovalAudit.sound host, ApprovalAudit.hashes host⟩
  · exact ⟨AuthorizationAudit.sound host, AuthorizationAudit.hashes host⟩
  · exact ⟨IncidentAudit.sound host, IncidentAudit.hashes host⟩

end

namespace Ledger

section

variable (host : Host) (ledger : Ledger)

/-- What is read from lines, without the blank ones where they are skipped. -/
def readings : List (List Char) → List (Option Json)
  | [] => []
  | line :: rest =>
    if ledger.skipsBlank ∧ line.all isSpace then readings rest
    else Json.loads host.floats (String.ofList line) :: readings rest

/-- The records of a file that was appended. -/
def recordsOf (events : List ledger.Event) : List Record :=
  (ledger.chain host ledger.genesis events).map fun e => ledger.record host e.1 (.str e.2)

/-- The text that is hashed for a record behind the hash that it names. -/
def ownBody (rec : Record) : Option String :=
  (Record.field rec ledger.previousField).str?.bind fun prev => ledger.recomputed rec prev

end

variable {host : Host} {ledger : Ledger} {hashed : Hashed}

/-- A record in the place of another passes where it names the same hash and its text is the same. -/
def Passes (ledger : Ledger) (e : ledger.Event × String) (r : Record) : Prop :=
  (Record.field r ledger.previousField).str? = some e.2 ∧ ledger.recomputed r e.2 = some (ledger.body e.1 (.str e.2))

theorem verifyLines_readings {n : Nat} {expected : String} {lines : List (List Char)} {es : List (ledger.Event × String)}
    {rs : List Record} (linked : HashChain.Linked Prod.snd (ledger.hashOf host) expected es)
    (readings : ledger.readings host lines = rs.map fun r => some (.dict r))
    (hashes : rs.map (fun r => Record.field r "event_hash") = es.map fun e => .str (ledger.hashOf host e))
    (injective : ∀ e ∈ es, ∀ r ∈ rs, ∀ t, ledger.ownBody r = some t → host.sha256 (ledger.body e.1 (.str e.2)) = host.sha256 t →
      ledger.body e.1 (.str e.2) = t) :
    ledger.verifyLines host n expected lines = .valid ↔ List.Forall₂ ledger.Passes es rs := by
  induction lines generalizing n expected es rs with
  | nil =>
    obtain rfl : rs = [] := by simpa [Ledger.readings] using readings.symm
    obtain rfl : es = [] := by simpa using hashes.symm
    simp [verifyLines]
  | cons line lines ih =>
    by_cases skipped : ledger.skipsBlank = true ∧ line.all isSpace = true
    · rw [verifyLines, if_pos skipped]
      refine ih linked ?_ hashes injective
      rw [Ledger.readings, if_pos skipped] at readings
      exact readings
    · rw [Ledger.readings, if_neg skipped] at readings
      cases rs with
      | nil => cases readings
      | cons r rs =>
        cases es with
        | nil => cases hashes
        | cons e es =>
          obtain ⟨read, readings⟩ := List.cons.inj readings
          obtain ⟨hash, hashes⟩ := List.cons.inj hashes
          obtain ⟨named, linked⟩ := linked
          have named' : e.2 = expected := named
          subst named'
          have later := @ih (n + 1) _ es rs linked readings hashes
            fun f mem s mem' => injective f (List.mem_cons_of_mem _ mem) s (List.mem_cons_of_mem _ mem')
          have hash' : Record.field r "event_hash" = .str (ledger.hashOf host e) := hash
          have sealed' : (Record.field r "event_hash").str? = some (ledger.hashOf host e) := by
            rw [hash']
            rfl
          rw [verifyLines, if_neg skipped, read, List.forall₂_cons]
          simp only [sealed']
          by_cases prev : (Record.field r ledger.previousField).str? = some e.2
          · rw [if_neg (by simp [prev])]
            cases body : ledger.recomputed r e.2 with
            | none => simp [Passes, body]
            | some t =>
              have own : ledger.ownBody r = some t := by simp [ownBody, prev, body]
              have once := injective e List.mem_cons_self r List.mem_cons_self t own
              simp only
              by_cases same : ledger.hashOf host e = host.sha256 t
              · have texts := once same
                rw [if_neg (by simp [same]), ← same, later]
                simp [Passes, prev, body, texts]
              · rw [if_pos (by simp [same])]
                have apart : t ≠ ledger.body e.1 (.str e.2) := by
                  rintro rfl
                  exact same rfl
                simp [Passes, body, apart]
          · rw [if_pos (by simp [prev])]
            simp [Passes, prev]

/-- A change in a record that is told by the hashes: a field is missing, another hash is named, or
the words between the colons are not the same. -/
def Told (host : Host) (hashed : Hashed) (r s : Record) : Prop :=
  holds s hashed.names = false ∨ Record.field s "previous_event_hash" ≠ Record.field r "previous_event_hash" ∨
    hashed.wordsOf host s ≠ hashed.wordsOf host r

theorem passes_iff (sound : ledger.Sound host) (of : hashed.Of host ledger) (e : ledger.Event × String) (s : Record) :
    ledger.Passes e s ↔ ¬ Told host hashed (ledger.record host e.1 (.str e.2)) s := by
  have named : Record.field (ledger.record host e.1 (.str e.2)) "previous_event_hash" = .str e.2 := by
    have found := sound.named e.1 (.str e.2) [("event_hash", .str (ledger.hashOf host e))]
    rw [of.previous] at found
    unfold Record.field
    rw [show Dict.get? (ledger.record host e.1 (.str e.2)) "previous_event_hash" = _ from found]
    rfl
  have own := of.words _ _ _ (sound.recomputes e.1 e.2 [("event_hash", .str (ledger.hashOf host e))])
  unfold Passes Told
  rw [of.previous, named]
  constructor
  · rintro ⟨prev, body⟩ told
    have words' := of.words _ _ _ body
    rw [own] at words'
    rcases told with missing | other | differ
    · rw [(of.missing s e.2).mpr missing] at body
      cases body
    · exact other (Json.str?_some prev)
    · exact differ (List.append_cancel_right words').symm
  · intro untold
    obtain ⟨filled, same, words'⟩ : holds s hashed.names ≠ false ∧ Record.field s "previous_event_hash" = .str e.2 ∧
        hashed.wordsOf host s = hashed.wordsOf host (ledger.record host e.1 (.str e.2)) := by
      refine ⟨fun missing => untold (.inl missing), ?_, ?_⟩
      · by_contra other
        exact untold (.inr (.inl other))
      · by_contra differ
        exact untold (.inr (.inr differ))
    refine ⟨by rw [same]; rfl, ?_⟩
    cases body : ledger.recomputed s e.2 with
    | none => exact absurd ((of.missing s e.2).mp body) filled
    | some t =>
      have mine := of.words _ _ _ body
      rw [words'] at mine
      rw [words_inj.mp (mine.trans own.symm)]

/-- The records that were written are read. -/
theorem readings_written (sound : ledger.Sound host) (events : List ledger.Event) :
    ledger.readings host (ledger.linesOf (ledger.written host events)) =
      (ledger.recordsOf host events).map fun r => some (.dict r) := by
  have each : ∀ es : List (ledger.Event × String), ledger.readings host (es.map (ledger.line host)) =
      es.map fun e => some (.dict (ledger.record host e.1 (.str e.2))) := by
    intro es
    induction es with
    | nil => rfl
    | cons e es ih =>
      have solid : (ledger.line host e).all isSpace = false := (Json.lineOf_solid host.floats _).notBlank
      rw [List.map_cons, readings, if_neg (by simp [solid]), loads_line sound, ih, List.map_cons]
  rw [linesOf_written sound, each, recordsOf, List.map_map]
  rfl

end Ledger

/-- A file with the hashes of one that was appended is rejected where the change is told by them. -/
theorem changes_rejected_iff (host : Host) (ledger : Ledger) (hashed : Hashed) (known : (ledger, hashed) ∈ hashedLedgers host)
    (events : List ledger.Event) (content : String) (first changed : List Record)
    (written : ledger.readings host (ledger.linesOf (ledger.written host events)) = first.map fun r => some (.dict r))
    (readable : ledger.readings host (ledger.lines content) = changed.map fun r => some (.dict r))
    (sameHashes : changed.map (fun r => Record.field r "event_hash") = first.map fun r => Record.field r "event_hash")
    (injective : ∀ t ∈ first.filterMap ledger.ownBody, ∀ u ∈ changed.filterMap ledger.ownBody,
      host.sha256 t = host.sha256 u → t = u)
    (_differs : ∃ pair ∈ first.zip changed, ∃ name ∈ hashed.fields, Dict.get? pair.1 name ≠ Dict.get? pair.2 name) :
    ledger.verifyIntegrity host (some content) ≠ .valid ↔
      ∃ pair ∈ first.zip changed, Ledger.Told host hashed pair.1 pair.2 := by
  obtain ⟨sound, of⟩ := hashedLedgers_of host known
  obtain ⟨es, made⟩ : ∃ es, es = ledger.chain host ledger.genesis events := ⟨_, rfl⟩
  have original : first = es.map fun e => ledger.record host e.1 (.str e.2) := by
    rw [Ledger.readings_written sound, Ledger.recordsOf, ← made] at written
    exact (List.map_injective_iff.mpr (fun r s same => Json.dict.inj (Option.some.inj same)) written).symm
  have hashOf : ∀ e : ledger.Event × String, Record.field (ledger.record host e.1 (.str e.2)) "event_hash" =
      .str (ledger.hashOf host e) := by
    intro e
    unfold Record.field Ledger.record
    rw [sound.hashed]
    rfl
  have bodyOf : ∀ e : ledger.Event × String, ledger.ownBody (ledger.record host e.1 (.str e.2)) =
      some (ledger.body e.1 (.str e.2)) := by
    intro e
    have named : Record.field (ledger.record host e.1 (.str e.2)) ledger.previousField = .str e.2 := by
      unfold Record.field Ledger.record
      rw [sound.named]
      rfl
    unfold Ledger.ownBody
    rw [named]
    exact sound.recomputes _ _ _
  subst original
  have linked := @Ledger.chain_linked host ledger ledger.genesis events
  rw [← made] at linked
  have passing := @Ledger.verifyLines_readings host ledger 1 ledger.genesis (ledger.lines content) es changed linked readable
    (by rw [sameHashes, List.map_map]; exact List.map_congr_left fun e _ => hashOf e)
    (by
      intro e mem r mem' t own same
      refine injective _ (List.mem_filterMap.mpr ⟨_, List.mem_map_of_mem mem, bodyOf e⟩) _ ?_ same
      exact List.mem_filterMap.mpr ⟨r, mem', own⟩)
  have long : es.length = changed.length := by
    have lengths := congrArg List.length sameHashes
    simpa using lengths.symm
  have whole : ledger.verifyIntegrity host (some content) = .valid ↔ List.Forall₂ ledger.Passes es changed := passing
  rw [Ne, whole, List.forall₂_iff_zip]
  constructor
  · intro fails
    by_contra untold
    refine fails ⟨long, fun {e r} member => (Ledger.passes_iff sound of e r).mpr fun told =>
      untold ⟨(ledger.record host e.1 (.str e.2), r), ?_, told⟩⟩
    rw [List.zip_map_left]
    exact List.mem_map.mpr ⟨(e, r), member, rfl⟩
  · rintro ⟨pair, member, told⟩ all
    rw [List.zip_map_left] at member
    obtain ⟨⟨e, r⟩, inside, rfl⟩ := List.mem_map.mp member
    exact (Ledger.passes_iff sound of e r).mp (all.2 inside) told

/-- The claim of `DIR-1:A`, and a claim of `DIR-1` whose first state has the rest of the text. -/
def colonIn : QueueAudit :=
  ⟨.text "EVT-1", .text "DIR-1:A", .text "QUEUED", .text "CLAIMED", .text "WORKER-01", .text "aa", .text "c0ffee",
    "2026-01-01T00:00:00Z"⟩

def colonMoved : QueueAudit :=
  ⟨.text "EVT-1", .text "DIR-1", .text "A:QUEUED", .text "CLAIMED", .text "WORKER-01", .text "aa", .text "c0ffee",
    "2026-01-01T00:00:00Z"⟩

def colonHost : Host := knowing
  [("EVT-1:DIR-1:A:QUEUED:CLAIMED:2026-01-01T00:00:00Z:WORKER-01:aa:c0ffee:0000000000000000000000000000000000000000000000000000000000000000",
    "cc4ad995c5ecf995ade7de8f157d9ad01e166c2d446ee5bdb40c555cc89ad428")]

/-- The record of an event that comes first. -/
def firstRecord (e : QueueAudit) : Record := (QueueAudit.ledger colonHost).record colonHost e (.str zeroHash)

theorem firstRecord_readings (e : QueueAudit) : (QueueAudit.ledger colonHost).readings colonHost
    ((QueueAudit.ledger colonHost).linesOf ((QueueAudit.ledger colonHost).written colonHost [e])) = [some (.dict (firstRecord e))] :=
  Ledger.readings_written (QueueAudit.sound colonHost) [e]

theorem colon_sameHash : Record.field (firstRecord colonMoved) "event_hash" = Record.field (firstRecord colonIn) "event_hash" := by
  rfl

theorem colon_differs : Dict.get? (firstRecord colonIn) "directive_id" ≠ Dict.get? (firstRecord colonMoved) "directive_id" := by
  have here : Dict.get? (firstRecord colonIn) "directive_id" = some (.str "DIR-1:A") := rfl
  have there : Dict.get? (firstRecord colonMoved) "directive_id" = some (.str "DIR-1") := rfl
  rw [here, there]
  intro same
  exact absurd (Json.str.inj (Option.some.inj same)) (by decide)

theorem changes_rejected_iff_colon : ∃ content, (QueueAudit.ledger colonHost).written colonHost [colonMoved] = some content ∧
    ((QueueAudit.ledger colonHost).verifyIntegrity colonHost (some content) ≠ .valid ↔
      ∃ pair ∈ [firstRecord colonIn].zip [firstRecord colonMoved],
        Ledger.Told colonHost QueueAudit.hashed pair.1 pair.2) := by
  have read := firstRecord_readings colonMoved
  cases written : (QueueAudit.ledger colonHost).written colonHost [colonMoved] with
  | none =>
    rw [written] at read
    cases read
  | some content =>
    rw [written] at read
    refine ⟨content, rfl, ?_⟩
    have known : (QueueAudit.ledger colonHost, QueueAudit.hashed) ∈ hashedLedgers colonHost := List.mem_cons_self
    refine changes_rejected_iff colonHost (QueueAudit.ledger colonHost) QueueAudit.hashed known [colonIn] content
      [firstRecord colonIn] [firstRecord colonMoved] (firstRecord_readings colonIn) read ?_ ?_ ?_
    · rw [List.map_singleton, List.map_singleton, colon_sameHash]
    · decide +kernel
    · exact ⟨_, List.mem_singleton_self _, "directive_id", by decide, colon_differs⟩

/-- The second file differs from the first in a hashed field, has its hashes, and is accepted. -/
theorem changes_unnoticed : ∃ content, (QueueAudit.ledger colonHost).written colonHost [colonMoved] = some content ∧
    (QueueAudit.ledger colonHost).readings colonHost ((QueueAudit.ledger colonHost).lines content) =
      [some (.dict (firstRecord colonMoved))] ∧
    Record.field (firstRecord colonMoved) "event_hash" = Record.field (firstRecord colonIn) "event_hash" ∧
    Dict.get? (firstRecord colonIn) "directive_id" ≠ Dict.get? (firstRecord colonMoved) "directive_id" ∧
    (QueueAudit.ledger colonHost).verifyIntegrity colonHost (some content) = .valid := by
  have accepted := Ledger.verify_written (QueueAudit.sound colonHost) [colonMoved]
  have read := firstRecord_readings colonMoved
  cases written : (QueueAudit.ledger colonHost).written colonHost [colonMoved] with
  | none =>
    rw [written] at read
    cases read
  | some content =>
    rw [written] at read accepted
    exact ⟨content, rfl, read, colon_sameHash, colon_differs, accepted⟩

end ControlPlane.Directive
