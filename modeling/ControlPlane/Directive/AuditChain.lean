import ControlPlane.Directive.AuditTrails
import ControlPlane.Data.HashChain
import ControlPlane.Data.Colons
import ControlPlane.Data.Json.Scan
import Mathlib.Data.Fintype.Perm
import Mathlib.Order.UpperLower.Basic

/-!
# What the chains of hashes detect

A file that was appended by the ledger verifies. No list of its lines does but an initial part of
it, so no line can be taken out of the middle, repeated or moved. This rests on what a body tells
of the hash it was built on.
-/

namespace ControlPlane.Directive

open ControlPlane.Data

namespace Ledger

variable {host : Host} {ledger : Ledger}

/-- No colon. -/
def Plain (t : String) : Prop := ':' ∉ t.toList

/-- What a ledger has to do for its chain to hold. -/
structure Sound (host : Host) (ledger : Ledger) : Prop where
  keyed : ∀ e prev h, Json.Keyed (.dict (ledger.plain e (.str prev) ++ [("event_hash", .str h)]))
  named : ∀ e prev tail, Dict.get? (ledger.plain e prev ++ tail) ledger.previousField = some prev
  hashed : ∀ e prev h, Dict.get? (ledger.plain e prev ++ [("event_hash", h)]) "event_hash" = some h
  recomputes : ∀ e prev tail, ledger.recomputed (ledger.plain e (.str prev) ++ tail) prev = some (ledger.body e (.str prev))
  reads : ∀ ls : List (List Char), (∀ l ∈ ls, Solid l) → ledger.lines (String.ofList (joinLines ls)) = ls
  opens : ledger.opened = none ∨ ledger.opened = some ""
  starts : Plain ledger.genesis
  /-- A body tells the hash that it was built on. -/
  back : ∀ e e' prev prev', Plain prev → Plain prev' → ledger.body e (.str prev) = ledger.body e' (.str prev') → prev = prev'

end Ledger

section

variable (host : Host)

theorem fileLines_reads (ls : List (List Char)) (solid : ∀ l ∈ ls, Solid l) :
    fileLines (String.ofList (joinLines ls)) = ls := fileLines_join solid

/-- The hash behind the last colon. -/
theorem back_of_last {xs ys : String} {prev prev' : String} (plain : Ledger.Plain prev) (plain' : Ledger.Plain prev')
    (same : xs ++ ":" ++ host.shown (.str prev) = ys ++ ":" ++ host.shown (.str prev')) : prev = prev' := by
  rw [host.shown_str, host.shown_str] at same
  have chars := congrArg String.toList same
  simp only [String.toList_append] at chars
  exact String.toList_inj.mp (behind_colon chars plain plain')

theorem QueueAudit.sound : (QueueAudit.ledger host).Sound host where
  keyed e prev h := by
    refine ⟨by simp [Dict.Distinct, Dict.keys, ledger, plain], ?_⟩
    exact ⟨e.eventId.2, e.directiveId.2, e.fromState.2, e.toState.2, trivial, e.workerId.2, e.payloadSha256.2, e.commitSha.2,
      trivial, trivial, trivial⟩
  named e prev tail := rfl
  hashed e prev h := rfl
  recomputes e prev tail := rfl
  reads := fileLines_reads
  opens := .inl rfl
  starts := (by decide : ':' ∉ zeroHash.toList)
  back e e' prev prev' plain plain' same := back_of_last host plain plain' same

theorem ApprovalAudit.sound : (ApprovalAudit.ledger host).Sound host where
  keyed e prev h := by
    refine ⟨by simp [Dict.Distinct, Dict.keys, ledger, plain], ?_⟩
    exact ⟨e.approvalRequestId.2, e.directiveId.2, e.fromState.2, e.toState.2, e.actor.2, trivial, e.details.2, trivial, trivial,
      trivial⟩
  named e prev tail := rfl
  hashed e prev h := rfl
  recomputes e prev tail := rfl
  reads := fileLines_reads
  opens := .inl rfl
  starts := (by decide : ':' ∉ zeroHash.toList)
  back e e' prev prev' plain plain' same := back_of_last host plain plain' same

theorem AuthorizationAudit.sound : (AuthorizationAudit.ledger host).Sound host where
  keyed e prev h := by
    refine ⟨by simp [Dict.Distinct, Dict.keys, ledger, plain], ?_⟩
    exact ⟨e.directiveId.2, e.capabilityId.2, e.requestedTarget.2, e.parameterHash.2, e.derivedRiskClass.2,
      e.humanApprovalRequired.2, e.approvalId.2, e.authorized.2, e.rejectionReason.2, trivial, trivial, trivial, trivial⟩
  named e prev tail := rfl
  hashed e prev h := rfl
  recomputes e prev tail := rfl
  reads := fileLines_reads
  opens := .inl rfl
  starts := (by decide : ':' ∉ zeroHash.toList)
  back e e' prev prev' plain plain' same := back_of_last host plain plain' same

theorem IncidentAudit.sound : (IncidentAudit.ledger host).Sound host where
  keyed e prev h := by
    refine ⟨by simp [Dict.Distinct, Dict.keys, ledger, plain], ?_⟩
    exact ⟨e.incidentId.2, e.fromState.2, e.toState.2, e.actor.2, e.reason.2, trivial, e.details.2, trivial, trivial, trivial⟩
  named e prev tail := rfl
  hashed e prev h := rfl
  recomputes e prev tail := rfl
  reads := fileLines_reads
  opens := .inl rfl
  starts := (by decide : ':' ∉ zeroHash.toList)
  back e e' prev prev' plain plain' same := back_of_last host plain plain' same

/-- Solid lines that end in newlines; no blank line is among them. -/
theorem RecoveryAudit.lines_reads (ls : List (List Char)) (solid : ∀ l ∈ ls, Solid l) :
    RecoveryAudit.lines (String.ofList (joinLines ls)) = ls := by
  have split : splitlines (joinLines ls) = ls := splitlines_join solid
  have kept : ls.filter (fun line => !line.all isSpace) = ls := by
    rw [List.filter_eq_self]
    intro l member
    rw [(solid l member).notBlank]
    rfl
  unfold RecoveryAudit.lines
  rw [String.toList_ofList, universalNewlines_plain (joinLines_plain solid), split, kept]

/-- The details end the body, and no text of a dictionary ends another behind a colon. -/
theorem RecoveryAudit.back {e e' : RecoveryAudit} {prev prev' : String} (plain : Ledger.Plain prev) (plain' : Ledger.Plain prev')
    (same : body host e (.str prev) = body host e' (.str prev')) : prev = prev' := by
  have chars := congrArg String.toList same
  unfold body sortedText Json.dumps at chars
  simp only [String.toList_append, String.toList_ofList, host.shown_str] at chars
  have fronts := @Json.front_of_dict host.floats { sortKeys := true } ⟨rfl, rfl⟩ _ _ _ _ chars
  exact String.toList_inj.mp (behind_colon fronts plain plain')

theorem RecoveryAudit.sound : (RecoveryAudit.ledger host).Sound host where
  keyed e prev h := by
    refine ⟨by simp [Dict.Distinct, Dict.keys, ledger, plain], ?_⟩
    exact ⟨trivial, e.eventType.2, e.directiveId.2, e.details.2, trivial, trivial, trivial⟩
  named e prev tail := rfl
  hashed e prev h := rfl
  recomputes e prev tail := rfl
  reads := RecoveryAudit.lines_reads
  opens := .inr rfl
  starts := (by decide : ':' ∉ "GENESIS".toList)
  back e e' prev prev' plain plain' same := RecoveryAudit.back host plain plain' same

theorem ledgers_sound {ledger : Ledger} (known : ledger ∈ ledgers host) : ledger.Sound host := by
  simp only [ledgers, colonLedgers, List.cons_append, List.nil_append, List.mem_cons, List.not_mem_nil, or_false] at known
  rcases known with rfl | rfl | rfl | rfl | rfl
  · exact QueueAudit.sound host
  · exact ApprovalAudit.sound host
  · exact AuthorizationAudit.sound host
  · exact IncidentAudit.sound host
  · exact RecoveryAudit.sound host

end

namespace Ledger

variable {host : Host} {ledger : Ledger}

section

variable (host : Host) (ledger : Ledger)

/-- The hash of an event behind a previous one. -/
def hashOf (e : ledger.Event × String) : String := host.sha256 (ledger.body e.1 (.str e.2))

/-- The events of a file, each with the hash before it. -/
def chain : String → List ledger.Event → List (ledger.Event × String)
  | _, [] => []
  | prev, e :: rest => (e, prev) :: chain (ledger.hashOf host (e, prev)) rest

/-- The line of an event. -/
def line (e : ledger.Event × String) : List Char := Json.lineOf host.floats (ledger.record host e.1 (.str e.2))

/-- The file of these lines. -/
def fileOf (lines : List (List Char)) : Option String := some (String.ofList (joinLines lines))

/-- The lines of a file. -/
def linesOf (file : Option String) : List (List Char) := (file.map ledger.lines).getD []

/-- The texts that are hashed for the events of a file. -/
def bodies (events : List ledger.Event) : List String :=
  (ledger.chain host ledger.genesis events).map fun e => ledger.body e.1 (.str e.2)

/-- What is assumed of `hashlib.sha256(..).hexdigest()`: it has hexadecimal digits, takes no two of
the texts to one hash, and none to the start of the chain. -/
structure Hashes (texts : List String) : Prop where
  hex : ∀ t, ∀ c ∈ (host.sha256 t).toList, c ∈ "0123456789abcdef".toList
  injective : ∀ t ∈ texts, ∀ u ∈ texts, host.sha256 t = host.sha256 u → t = u
  fresh : ∀ t ∈ texts, host.sha256 t ≠ ledger.genesis

end

theorem chain_linked (prev : String) (events : List ledger.Event) :
    HashChain.Linked Prod.snd (ledger.hashOf host) prev (ledger.chain host prev events) := by
  induction events generalizing prev with
  | nil => trivial
  | cons e rest ih => exact ⟨rfl, ih _⟩

/-! ### What was appended verifies -/

theorem loads_line (sound : ledger.Sound host) (e : ledger.Event × String) :
    Json.loads host.floats (String.ofList (ledger.line host e)) = some (.dict (ledger.record host e.1 (.str e.2))) :=
  Json.loads_lineOf (sound.keyed _ _ _)

theorem lines_solid (es : List (ledger.Event × String)) : ∀ l ∈ es.map (ledger.line host), Solid l := by
  intro l member
  obtain ⟨e, -, rfl⟩ := List.mem_map.mp member
  exact Json.lineOf_solid host.floats _

theorem linesOf_fileOf (sound : ledger.Sound host) (es : List (ledger.Event × String)) :
    ledger.linesOf (fileOf (es.map (ledger.line host))) = es.map (ledger.line host) := sound.reads _ (lines_solid es)

/-- The file of a chain; without events it is what the constructor leaves. -/
def chainFile (host : Host) (ledger : Ledger) (es : List (ledger.Event × String)) : Option String :=
  if es.isEmpty then ledger.opened else fileOf (es.map (ledger.line host))

theorem lastHash_chain (sound : ledger.Sound host) (es : List (ledger.Event × String)) :
    ledger.lastHash host (ledger.chainFile host es) =
      some (.str (HashChain.tip (ledger.hashOf host) ledger.genesis es)) := by
  rcases List.eq_nil_or_concat es with rfl | ⟨front, e, rfl⟩
  · have empty : ledger.lines "" = [] := sound.reads [] (by simp)
    rcases sound.opens with absent | blank
    · simp [chainFile, lastHash, absent, HashChain.tip]
    · simp [chainFile, lastHash, blank, empty, HashChain.tip]
  · rw [List.concat_eq_append]
    have read := sound.reads _ (@lines_solid host _ (front ++ [e]))
    have last : ((front ++ [e]).map (ledger.line host)).getLast? = some (ledger.line host e) := by simp
    unfold chainFile lastHash fileOf
    rw [if_neg (by simp), Option.bind_some, read, last]
    simp only [loads_line sound e, HashChain.tip_concat]
    rw [show Dict.get? (ledger.record host e.1 (.str e.2)) "event_hash" = _ from sound.hashed _ _ _]
    rfl

theorem append_chain (sound : ledger.Sound host) (es : List (ledger.Event × String)) (e : ledger.Event) :
    ledger.append host (ledger.chainFile host es) e =
      ledger.chainFile host (es ++ [(e, HashChain.tip (ledger.hashOf host) ledger.genesis es)]) := by
  have before : (ledger.chainFile host es).getD "" = String.ofList (joinLines (es.map (ledger.line host))) := by
    unfold chainFile
    split
    · rename_i empty
      rw [List.isEmpty_iff.mp empty]
      rcases sound.opens with absent | blank
      · rw [absent]
        rfl
      · rw [blank]
        rfl
    · rfl
  unfold append
  rw [lastHash_chain sound]
  simp only [before]
  unfold chainFile
  rw [if_neg (by simp)]
  simp [fileOf, joinLines, line]

theorem written_chain (sound : ledger.Sound host) (es : List (ledger.Event × String)) (events : List ledger.Event) :
    events.foldl (ledger.append host) (ledger.chainFile host es) =
      ledger.chainFile host (es ++ ledger.chain host (HashChain.tip (ledger.hashOf host) ledger.genesis es) events) := by
  induction events generalizing es with
  | nil => simp [chain]
  | cons e rest ih =>
    rw [List.foldl_cons, append_chain sound, ih, chain, HashChain.tip_concat, List.append_assoc, List.singleton_append]

theorem written_eq (sound : ledger.Sound host) (events : List ledger.Event) :
    ledger.written host events = ledger.chainFile host (ledger.chain host ledger.genesis events) := written_chain sound [] events

/-- Lines of events verify where they are linked. -/
theorem verifyLines_iff (sound : ledger.Sound host) (n : Nat) (expected : String) (es : List (ledger.Event × String)) :
    ledger.verifyLines host n expected (es.map (ledger.line host)) = .valid ↔
      HashChain.Linked Prod.snd (ledger.hashOf host) expected es := by
  induction es generalizing n expected with
  | nil => simp [verifyLines, HashChain.Linked]
  | cons e rest ih =>
    have solid : (ledger.line host e).all isSpace = false := (Json.lineOf_solid host.floats _).notBlank
    have filled : ¬ (ledger.skipsBlank = true ∧ (ledger.line host e).all isSpace = true) := by simp [solid]
    have named : Record.field (ledger.record host e.1 (.str e.2)) ledger.previousField = .str e.2 := by
      unfold Record.field record
      rw [sound.named]
      rfl
    have hashed : Record.field (ledger.record host e.1 (.str e.2)) "event_hash" = .str (ledger.hashOf host e) := by
      unfold Record.field record
      rw [sound.hashed]
      rfl
    rw [List.map_cons, verifyLines, if_neg filled, loads_line sound]
    simp only [named, hashed, Json.str?, HashChain.Linked]
    by_cases same : e.2 = expected
    · have body : ledger.recomputed (ledger.record host e.1 (.str e.2)) expected = some (ledger.body e.1 (.str e.2)) := by
        rw [← same]
        exact sound.recomputes _ _ _
      have agrees : host.sha256 (ledger.body e.1 (.str e.2)) = ledger.hashOf host e := rfl
      simp only [body, agrees]
      simp [same, ih]
    · simp [same]

theorem verify_fileOf (sound : ledger.Sound host) (es : List (ledger.Event × String)) :
    ledger.verifyIntegrity host (fileOf (es.map (ledger.line host))) = .valid ↔
      HashChain.Linked Prod.snd (ledger.hashOf host) ledger.genesis es := by
  unfold verifyIntegrity fileOf
  simp only [sound.reads _ (lines_solid es)]
  exact verifyLines_iff sound 1 ledger.genesis es

theorem verify_written (sound : ledger.Sound host) (events : List ledger.Event) :
    ledger.verifyIntegrity host (ledger.written host events) = .valid := by
  rw [written_eq sound, chainFile]
  split
  · have empty : ledger.lines "" = [] := sound.reads [] (by simp)
    rcases sound.opens with absent | blank
    · rw [absent]
      rfl
    · rw [blank, verifyIntegrity, empty]
      rfl
  · exact (verify_fileOf sound _).mpr (chain_linked _ _)

/-! ### What no longer verifies -/

/-- The hash before an event has no colon. -/
theorem chain_plain (hex : ∀ t, ∀ c ∈ (host.sha256 t).toList, c ∈ "0123456789abcdef".toList) {prev : String} (plain : Plain prev)
    (events : List ledger.Event) : ∀ e ∈ ledger.chain host prev events, Plain e.2 := by
  induction events generalizing prev with
  | nil => simp [chain]
  | cons e rest ih =>
    intro f member
    rcases List.mem_cons.mp member with rfl | member
    · exact plain
    · refine ih ?_ f member
      intro colon
      exact absurd (hex _ _ colon) (by decide)

theorem chain_tells (sound : ledger.Sound host) {events : List ledger.Event}
    (hashes : ledger.Hashes host (ledger.bodies host events)) :
    HashChain.Tells Prod.snd (ledger.hashOf host) ledger.genesis (ledger.chain host ledger.genesis events) where
  back e member f other same := by
    have bodies := hashes.injective _ (List.mem_map_of_mem member) _ (List.mem_map_of_mem other) same
    have plain := chain_plain hashes.hex sound.starts events
    exact sound.back _ _ _ _ (plain e member) (plain f other) bodies
  fresh e member := hashes.fresh _ (List.mem_map_of_mem member)

theorem linesOf_written (sound : ledger.Sound host) (events : List ledger.Event) :
    ledger.linesOf (ledger.written host events) = (ledger.chain host ledger.genesis events).map (ledger.line host) := by
  rw [written_eq sound, chainFile]
  split
  · rename_i empty
    have nothing : ledger.lines "" = [] := sound.reads [] (by simp)
    rw [List.isEmpty_iff.mp empty]
    rcases sound.opens with absent | blank
    · rw [absent]
      rfl
    · rw [blank]
      exact nothing
  · exact linesOf_fileOf sound _

/-- Lines of a file that was appended verify where they are its first ones, in their order. -/
theorem verify_places (sound : ledger.Sound host) {events : List ledger.Event}
    (hashes : ledger.Hashes host (ledger.bodies host events))
    {lines : List (List Char)} (whole : lines = ledger.linesOf (ledger.written host events)) (ks : List (Fin lines.length)) :
    ledger.verifyIntegrity host (fileOf (ks.map lines.get)) = .valid ↔ ks <+: List.finRange lines.length := by
  obtain ⟨es, made⟩ : ∃ es, es = ledger.chain host ledger.genesis events := ⟨_, rfl⟩
  have written : ledger.linesOf (ledger.written host events) = es.map (ledger.line host) := by
    rw [linesOf_written sound, made]
  rw [written] at whole
  subst whole
  have linked := @chain_linked host ledger ledger.genesis events
  have tells := chain_tells sound hashes
  rw [← made] at linked tells
  have long : (es.map (ledger.line host)).length = es.length := List.length_map _
  have drawn : ks.map (es.map (ledger.line host)).get = ((ks.map (Fin.cast long)).map es.get).map (ledger.line host) := by
    simp [List.map_map, Function.comp_def]
  rw [drawn, verify_fileOf sound, HashChain.linked_places linked tells]
  have places : (List.finRange (es.map (ledger.line host)).length).map (Fin.cast long) = List.finRange es.length := by
    apply List.ext_getElem <;> simp
  rw [← places]
  exact List.prefix_map_iff_of_injective (Fin.cast_injective long)

end Ledger

/-- A kept place behind a place that was taken out. -/
theorem kept_prefix {n : Nat} {taken : Fin n → Bool} (initial : (List.finRange n).filter (fun i => !taken i) <+: List.finRange n) :
    IsUpperSet {i | taken i = true} := by
  intro i j below gone
  by_contra stays
  have kept : j ∈ (List.finRange n).filter fun i => !taken i := by simpa using stays
  obtain ⟨k, bound, found⟩ := List.getElem_of_mem kept
  -- the kept ones are the first ones, so `j` stands at its own place and `i` before it
  have inside : k < (List.finRange n).length := Nat.lt_of_lt_of_le bound initial.length_le
  have place : (List.finRange n)[k] = j := by
    rw [← found]
    exact (initial.getElem bound).symm
  have same : k = j.val := by
    rw [List.getElem_finRange] at place
    exact congrArg Fin.val place
  have before : i.val < ((List.finRange n).filter fun i => !taken i).length := by
    have less : i.val ≤ j.val := below
    omega
  have there : ((List.finRange n).filter fun i => !taken i)[i.val] = i := by
    rw [initial.getElem before, List.getElem_finRange]
    rfl
  have member : i ∈ (List.finRange n).filter fun i => !taken i := there ▸ List.getElem_mem before
  have left : taken i = false := by simpa using member
  rw [show taken i = true from gone] at left
  cases left

/-- Every ledger accepts what it appended, and no file that is left of it when lines are taken out
that are not its last ones, when one comes twice, or when they are moved. -/
theorem ledgers_detect (host : Host) (ledger : Ledger) (known : ledger ∈ ledgers host) (events : List ledger.Event)
    (hashes : ledger.Hashes host (ledger.bodies host events)) (lines : List (List Char))
    (whole : lines = ledger.linesOf (ledger.written host events)) :
    ledger.verifyIntegrity host (ledger.written host events) = .valid ∧
    (∀ taken : Fin lines.length → Bool, ¬ IsUpperSet {i | taken i = true} →
      ledger.verifyIntegrity host (Ledger.fileOf (((List.finRange lines.length).filter fun i => !taken i).map lines.get)) ≠ .valid) ∧
    (∀ (i : Fin lines.length) (j : Nat), j ≤ lines.length →
      ledger.verifyIntegrity host (Ledger.fileOf (lines.insertIdx j lines[i])) ≠ .valid) ∧
    ∀ order : Equiv.Perm (Fin lines.length), order ≠ 1 →
      ledger.verifyIntegrity host (Ledger.fileOf (List.ofFn fun i => lines[order i])) ≠ .valid := by
  have sound := ledgers_sound host known
  have places := Ledger.verify_places sound hashes whole
  refine ⟨Ledger.verify_written sound events, ?_, ?_, ?_⟩
  · intro taken middle accepted
    exact middle ( kept_prefix ((places _).mp accepted))
  · intro i j bound accepted
    have drawn : lines.insertIdx j lines[i] = ((List.finRange lines.length).insertIdx j i).map lines.get := by
      rw [List.map_insertIdx, List.map_get_finRange]
      rfl
    rw [drawn] at accepted
    have long := ((places _).mp accepted).length_le
    rw [List.length_insertIdx_of_le_length (by simpa using bound)] at long
    omega
  · intro order moved accepted
    have drawn : List.ofFn (fun i => lines[order i]) = ((List.finRange lines.length).map order).map lines.get := by
      rw [List.ofFn_eq_map, List.map_map]
      rfl
    rw [drawn] at accepted
    have all := ((places _).mp accepted).eq_of_length (by simp)
    refine moved (Equiv.ext fun i => ?_)
    have moved : i.val < ((List.finRange lines.length).map order).length := by simp
    have here : i.val < (List.finRange lines.length).length := by simp
    have image : ((List.finRange lines.length).map order)[i.val] = (List.finRange lines.length)[i.val] := by
      simp only [all]
    simpa using image

/-- A host that knows the hashes of some texts. -/
def knowing (digests : Dict String String) : Host := { sampleHost with sha256 := fun t => (Dict.get? digests t).getD zeroHash }

theorem knowing_hex {digests : Dict String String}
    (hex : (digests.all fun e => e.2.toList.all fun c => "0123456789abcdef".toList.contains c) = true) (t : String) :
    ∀ c ∈ ((knowing digests).sha256 t).toList, c ∈ "0123456789abcdef".toList := by
  intro c member
  by_cases found : ∃ h, Dict.get? digests t = some h
  · obtain ⟨h, found⟩ := found
    have known : (knowing digests).sha256 t = h := by simp [knowing, found]
    have entry := List.all_eq_true.mp hex _ (Dict.mem_of_get? found)
    rw [known] at member
    exact List.contains_iff_mem.mp (List.all_eq_true.mp entry c member)
  · have unknown : Dict.get? digests t = none := by
      cases got : Dict.get? digests t with
      | none => rfl
      | some h => exact absurd ⟨h, got⟩ found
    have zero : (knowing digests).sha256 t = zeroHash := by simp [knowing, unknown]
    rw [zero] at member
    have digit : zeroHash.toList.all (fun c => "0123456789abcdef".toList.contains c) = true := by decide
    exact List.contains_iff_mem.mp (List.all_eq_true.mp digit c member)

/-- `DIR-1` is tried again, twice. -/
def retries : List RecoveryAudit :=
  [⟨"2026-01-01T00:00:00+00:00", ⟨.str "RETRY", trivial⟩, ⟨.str "DIR-1", trivial⟩, ⟨[], List.nodup_nil, trivial⟩⟩,
    ⟨"2026-01-01T00:00:05+00:00", ⟨.str "RETRY", trivial⟩, ⟨.str "DIR-1", trivial⟩, ⟨[], List.nodup_nil, trivial⟩⟩]

def retriesHost : Host := knowing
  [("2026-01-01T00:00:00+00:00:RETRY:DIR-1:GENESIS:{}",
      "58918bed6d38ecc84f07fad259cbe99df8f68c93d81c9d6870b60856b44558b0"),
    ("2026-01-01T00:00:05+00:00:RETRY:DIR-1:58918bed6d38ecc84f07fad259cbe99df8f68c93d81c9d6870b60856b44558b0:{}",
      "4adfcf4eda2675d6fcf33fb93a47a46e87cb568820fdcaf71c4ce8cf1745e4b8")]

theorem ledgers_detect_retries :
    ∃ lines : List (List Char), lines = (RecoveryAudit.ledger retriesHost).linesOf
        ((RecoveryAudit.ledger retriesHost).written retriesHost retries) ∧
      (RecoveryAudit.ledger retriesHost).verifyIntegrity retriesHost
        ((RecoveryAudit.ledger retriesHost).written retriesHost retries) = .valid := by
  have hashes : (RecoveryAudit.ledger retriesHost).Hashes retriesHost
      ((RecoveryAudit.ledger retriesHost).bodies retriesHost retries) :=
    ⟨knowing_hex (by decide), by decide, by decide⟩
  have known : RecoveryAudit.ledger retriesHost ∈ ledgers retriesHost := by simp [ledgers]
  exact ⟨_, rfl, (ledgers_detect retriesHost _ known retries hashes _ rfl).1⟩

end ControlPlane.Directive
