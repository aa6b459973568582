import ControlPlane.Autonomy.DispatchAttempts
import ControlPlane.Autonomy.ExternalRuns
import ControlPlane.Interleaving.History

/-!
# Dispatches that are tried again

A dispatch that breaks down between the temporary file and the row cannot be sent again: the file,
or the frame it became, is taken for a duplicate. Broken down anywhere else it can be tried again,
and the frames are those of the rows.
-/

namespace ControlPlane.Autonomy

open Data Interleaving Procedure

inductive SpoolEvent : Type 1 where
  | attempt (task lease : Frame) (sessionId : Json) (now : PyFloat) (ending : Ending SpooledStmt (Answer ExternalEnvelope))
  /-- something else that the database is used for -/
  | other

inductive SpoolStep (crypto : Crypto) : SpoolWorld → SpoolEvent → SpoolWorld → Prop
  | attempt {w w' : SpoolWorld} {task lease : Frame} {sessionId : Json} {now : PyFloat} {ending : Ending SpooledStmt (Answer ExternalEnvelope)}
      (tried : spooled.Tries (Spooled.dispatch crypto task lease sessionId now).run w w' ending) :
      SpoolStep crypto w (.attempt task lease sessionId now ending) w'
  | other {w : SpoolWorld} {db : ExternalDb} (kept : ∀ id, (db.dispatches.find? id).isSome = (w.db.dispatches.find? id).isSome) :
      SpoolStep crypto w .other { w with db }

abbrev SpoolTransition := Transition SpoolWorld SpoolEvent

/-- There is a frame exactly for the dispatches on record. -/
def FramesMatch (w : SpoolWorld) : Prop := ∀ id, (w.outbound.get? (frameName id)).isSome = (w.db.dispatches.find? id).isSome

/-- A later state in which the attempt `t` can be made again: the spool and the dispatches are as it
left them, and what it was made of is still live. -/
structure Resumes (crypto : Crypto) (t : SpoolTransition) (task lease : Frame) (sessionId : Json) (now now' : PyFloat) (w : SpoolWorld) :
    Prop where
  outbound : w.outbound = t.after.outbound
  dispatches : w.db.dispatches = t.after.db.dispatches
  live : ∀ n e, Offered crypto t.before.db task lease sessionId now n e → ∃ n', Offered crypto w.db task lease sessionId now' n' e

/-- Made again, the attempt returns what it would have returned undisturbed. -/
def RetriesSame (crypto : Crypto) (t : SpoolTransition) : Prop :=
  match t.label with
  | .attempt task lease sessionId now _ =>
    ∀ answer, spooled.Will Smooth (Spooled.dispatch crypto task lease sessionId now) t.before answer →
      ∀ now' w, Resumes crypto t task lease sessionId now now' w →
        spooled.Will Smooth (Spooled.dispatch crypto task lease sessionId now') w answer
  | .other => True

/-- The attempt broke down between the temporary file and the row. -/
def BreaksBetween (t : SpoolTransition) : Prop :=
  match t.label with
  | .attempt _ _ _ _ ending => Critical ending
  | .other => False

section

variable {crypto : Crypto} {task lease : Frame} {sessionId : Json} {now now' : PyFloat} {w w' init : SpoolWorld} {n n' : ℚ}
  {e e' answer : ExternalEnvelope} {ending : Ending SpooledStmt (Answer ExternalEnvelope)} {past : List SpoolTransition}

theorem frameName_inj {id id' : String} : frameName id = frameName id' ↔ id = id' := String.append_left_inj _

theorem temporaryName_ne {id id' : String} : temporaryName id ≠ frameName id' := by
  intro same
  have last := congrArg (fun s => s.toList.getLast?) same
  simp [temporaryName, frameName, List.getLast?_append] at last

theorem Offered.unique (offered : Offered crypto w.db task lease sessionId now n e)
    (offered' : Offered crypto w.db task lease sessionId now n' e') : n = n' ∧ e = e' := by
  cases offered with
  | mk clock worker_ task_ lease_ opened found _ deadline _ =>
    cases offered' with
    | mk clock' worker' task' lease' opened' found' _ deadline' _ =>
      obtain rfl := Option.some.inj (clock.symm.trans clock')
      obtain rfl := Except.ok.inj (worker_.symm.trans worker')
      obtain rfl := Except.ok.inj (task_.symm.trans task')
      obtain rfl := Except.ok.inj (lease_.symm.trans lease')
      obtain rfl := Option.some.inj (opened.symm.trans opened')
      obtain rfl := Option.some.inj (found.symm.trans found')
      obtain rfl := Option.some.inj (deadline.symm.trans deadline')
      exact ⟨rfl, rfl⟩

/-! ### One step -/

theorem recorded_row : e.recorded e.row = e := rfl

/-- The row that was inserted, and the frame that was written. -/
theorem FramesMatch.recorded {payload : String} {dispatches : Table DispatchRow DispatchRow.dispatchId} (matched : FramesMatch w)
    (inserted : w.db.dispatches.insert? e.row = some dispatches) (db : w'.db.dispatches = dispatches)
    (outbound : w'.outbound = published w.outbound e.dispatchId payload) : FramesMatch w' := by
  intro id
  rw [outbound, db, get?_published, if_neg temporaryName_ne, Table.find?_insert? inserted]
  by_cases same : e.dispatchId = id
  · rw [if_pos (frameName_inj.mpr same)]
    rw [if_pos (show e.row.dispatchId = id from same)]
    rfl
  · rw [if_neg (mt frameName_inj.mp same)]
    exact (matched id).trans (congrArg Option.isSome (if_neg same)).symm

/-- What an attempt would have returned. -/
theorem replies_of_will (will : spooled.Will Smooth (Spooled.dispatch crypto task lease sessionId now) w answer)
    (offered : Offered crypto w.db task lease sessionId now n e) : Replies crypto w e answer := by
  obtain ⟨_, _, offered', replies⟩ := will_dispatch.mp will
  obtain ⟨-, rfl⟩ := offered.unique offered'
  exact replies

/-- An attempt that did not break down between the file and the row. -/
theorem attempt_calm (matched : FramesMatch w) (tried : spooled.Tries (Spooled.dispatch crypto task lease sessionId now).run w w' ending)
    (calm : ¬ Critical ending) :
    FramesMatch w' ∧ RetriesSame crypto ⟨w, .attempt task lease sessionId now ending, w'⟩ := by
  rcases tries_dispatch tried with ⟨rfl, -⟩ | ⟨n, e, offered, absent, vacant, publishable, began⟩
  · refine ⟨matched, fun answer will now' w resumes => ?_⟩
    obtain ⟨n, e, offered, replies⟩ := will_dispatch.mp will
    obtain ⟨n', live⟩ := resumes.live n e offered
    refine will_dispatch.mpr ⟨n', e, live, ?_⟩
    unfold Replies
    rw [resumes.outbound, resumes.dispatches]
    exact replies
  · cases began with
    | stuck stuck => exact absurd stuck.critical calm
    | @recorded payload dispatches _ inserted db outbound =>
      refine ⟨matched.recorded inserted db outbound, fun answer will now' w resumes => ?_⟩
      have replies := replies_of_will will offered
      unfold Replies at replies
      rw [absent] at replies
      obtain ⟨rfl, -⟩ := replies
      obtain ⟨n', live⟩ := resumes.live n _ offered
      refine will_dispatch.mpr ⟨n', _, live, ?_⟩
      unfold Replies
      have there : w.db.dispatches.find? answer.dispatchId = some answer.row := by
        rw [resumes.dispatches, db, Table.find?_insert? inserted]
        exact if_pos rfl
      rw [there]
      exact recorded_row.symm

/-- One that did: it cannot be made again. -/
theorem attempt_critical (tried : spooled.Tries (Spooled.dispatch crypto task lease sessionId now).run w w' ending)
    (critical : Critical ending) : ¬ RetriesSame crypto ⟨w, .attempt task lease sessionId now ending, w'⟩ := by
  intro retries
  rcases tries_dispatch tried with ⟨-, calm⟩ | ⟨n, e, offered, absent, vacant, publishable, began⟩
  · exact calm critical
  have replies : Replies crypto w e e := by
    unfold Replies
    rw [absent]
    exact ⟨rfl, publishable, vacant.frame, vacant.temporary⟩
  cases began with
  | recorded calm => exact calm critical
  | stuck stuck =>
    have resumes : Resumes crypto ⟨w, .attempt task lease sessionId now ending, w'⟩ task lease sessionId now now w' :=
      ⟨rfl, rfl, fun n e offered => ⟨n, stuck.db.symm ▸ offered⟩⟩
    have again := retries e (will_dispatch.mpr ⟨n, e, offered, replies⟩) now w' resumes
    have replies' := replies_of_will again (stuck.db.symm ▸ offered)
    unfold Replies at replies'
    rw [stuck.db, absent] at replies'
    obtain ⟨-, -, frame, temporary⟩ := replies'
    rcases stuck.occupied with there | there
    · rw [frame] at there
      cases there
    · rw [temporary] at there
      cases there

theorem step_calm {l : SpoolEvent} (matched : FramesMatch w) (step : SpoolStep crypto w l w') (calm : ¬ BreaksBetween ⟨w, l, w'⟩) :
    FramesMatch w' ∧ RetriesSame crypto ⟨w, l, w'⟩ := by
  cases step with
  | attempt tried => exact attempt_calm matched tried calm
  | other kept => exact ⟨fun id => (matched id).trans (kept id).symm, trivial⟩

theorem step_breaks {l : SpoolEvent} (step : SpoolStep crypto w l w') (breaks : BreaksBetween ⟨w, l, w'⟩) :
    ¬ RetriesSame crypto ⟨w, l, w'⟩ := by
  cases step with
  | attempt tried => exact attempt_critical tried breaks
  | other => exact absurd breaks id

/-! ### Runs -/

/-- Every dispatch can be tried again, and the frames are those of the rows throughout, exactly if no
dispatch breaks down between its temporary file and its row. -/
theorem dispatch_resumable_iff (history : History (SpoolStep crypto) init past w) (matched : FramesMatch init) :
    (∀ t ∈ past, RetriesSame crypto t ∧ FramesMatch t.after) ↔ ∀ t ∈ past, ¬ BreaksBetween t := by
  constructor
  · intro resumable t member breaks
    exact step_breaks (history.moved t member) breaks (resumable t member).1
  · intro calm t member
    obtain ⟨-, always⟩ := history.invariant matched fun t member before => (step_calm before (history.moved t member) (calm t member)).1
    have frames := always t member
    exact ⟨(step_calm frames.1 (history.moved t member) (calm t member)).2, frames.2⟩

/-! ### How a dispatch breaks down -/

theorem file_tries {α β : Type} {s : SpoolStmt α} {k : α → Spooled β} {a : α} {dir : Directory String} {o : Ending SpooledStmt (Answer β)}
    (does : s.perform w.outbound = (dir, .ok a)) (tried : spooled.Tries (k a).run { w with outbound := dir } w' o) :
    spooled.Tries (Spooled.file s >>= k).run w w' o := by
  have fine : spooled.exec (.inl s) {} w = ({ w with outbound := dir }, .ok a) := by
    simp only [spooled, SpooledStmt.perform, does]
  exact .inr ⟨{}, _, a, fine, tried⟩

theorem statement_tries {α β : Type} {s : ExternalStmt α} {k : α → Spooled β} {a : α} {db : ExternalDb}
    {o : Ending SpooledStmt (Answer β)} (does : s.perform {} w.db = (db, .ok a))
    (tried : spooled.Tries (k a).run { w with db } w' o) : spooled.Tries (Procedure.ask (.inr s) >>= k).run w w' o := by
  have fine : spooled.exec (.inr s) {} w = ({ w with db }, .ok a) := by
    simp only [spooled, SpooledStmt.perform]
    rw [does]
  exact .inr ⟨{}, _, a, fine, tried⟩

theorem check_tries {α β : Type} {x : Except Err α} {k : α → Spooled β} {a : α} {o : Ending SpooledStmt (Answer β)} (passed : x = .ok a)
    (tried : spooled.Tries (k a).run w w' o) : spooled.Tries (Procedure.lift x >>= k).run w w' o :=
  Machine.tries_check.mpr (.inr ⟨a, passed, tried⟩)

theorem require_tries {β : Type} {P : Prop} [Decidable P] {err : Err} {k : Unit → Spooled β} {o : Ending SpooledStmt (Answer β)} (held : P)
    (tried : spooled.Tries (k ()).run w w' o) : spooled.Tries (Procedure.lift (require P err) >>= k).run w w' o :=
  check_tries (@require_ok Err P _ err () |>.mpr held) tried

theorem writeOutbound_tries {β : Type} {id payload : String} {body : List (String × Json)} {k : Unit → Spooled β}
    {o : Ending SpooledStmt (Answer β)} (vacant : Vacant w.outbound id) (identified : isIdentifier id = true)
    (canonical : canonicalJson crypto (.dict body) = .ok payload) (short : payload.length ≤ maxFrameBytes)
    (tried : spooled.Tries (publishFrame (temporaryName id) (frameName id) payload >>= k).run w w' o) :
    spooled.Tries (writeOutbound crypto id body >>= k).run w w' o := by
  rw [writeOutbound]
  simp only [Spooled.direct, bind_assoc]
  refine check_tries canonical (require_tries short ?_)
  refine check_tries (identifier_name.mpr ⟨rfl, identified⟩ : identifier (.str id) "spool identity" = .ok ⟨id, identified⟩) (file_tries rfl ?_)
  refine check_tries (identifier_name.mpr ⟨rfl, identified⟩ : identifier (.str id) "spool identity" = .ok ⟨id, identified⟩) (file_tries rfl ?_)
  refine file_tries rfl (require_tries (Option.isSome_eq_false_iff.mpr (Option.isNone_iff_eq_none.mpr vacant.frame)) ?_)
  exact file_tries rfl (require_tries (Option.isSome_eq_false_iff.mpr (Option.isNone_iff_eq_none.mpr vacant.temporary)) tried)

theorem dispatch_tries (offered : Offered crypto w.db task lease sessionId now n e) (absent : w.db.dispatches.find? e.dispatchId = none)
    (tried : spooled.Tries (send crypto n e).run w w' ending) :
    spooled.Tries (Spooled.dispatch crypto task lease sessionId now).run w w' ending := by
  rw [dispatch_plain, plainDispatch]
  cases offered with
  | mk clock worker_ task_ lease_ opened found held deadline live =>
    refine check_tries (found_ok.mpr clock) (check_tries worker_ (check_tries task_ (check_tries lease_ ?_)))
    refine statement_tries rfl (statement_tries rfl ?_)
    refine check_tries (found_ok.mpr found) (check_tries (found_ok.mpr opened) (require_tries held ?_))
    refine check_tries (found_ok.mpr deadline) (require_tries live ?_)
    refine statement_tries rfl ?_
    dsimp only at absent ⊢
    rw [absent]
    exact tried

/-- The process can die with the temporary file just created. -/
theorem dispatch_torn {payload : String} (offered : Offered crypto w.db task lease sessionId now n e)
    (absent : w.db.dispatches.find? e.dispatchId = none) (vacant : Vacant w.outbound e.dispatchId)
    (identified : isIdentifier e.dispatchId = true) (canonical : canonicalJson crypto (.dict e.body) = .ok payload)
    (short : payload.length ≤ maxFrameBytes) : spooled.Tries (Spooled.dispatch crypto task lease sessionId now).run w
      { w with outbound := w.outbound.write (temporaryName e.dispatchId) "" } (.inl ⟨_, .inl (.write (temporaryName e.dispatchId) payload)⟩) := by
  refine dispatch_tries offered absent (writeOutbound_tries vacant identified canonical short ?_)
  rw [publishFrame]
  simp only [bind_assoc]
  have created : (SpoolStmt.create (temporaryName e.dispatchId)).perform w.outbound =
      (w.outbound.write (temporaryName e.dispatchId) "", .ok ()) := by
    simp only [SpoolStmt.perform, vacant.temporary, Option.isSome_none, Bool.false_eq_true, if_false]
  exact file_tries created (.inl ⟨.inl rfl, rfl⟩)

theorem publishFrame_tries {β : Type} {id payload : String} {k : Unit → Spooled β} {o : Ending SpooledStmt (Answer β)}
    (absent : w.outbound.get? (temporaryName id) = none)
    (tried : spooled.Tries (k ()).run { w with outbound := published w.outbound id payload } w' o) :
    spooled.Tries (publishFrame (temporaryName id) (frameName id) payload >>= k).run w w' o := by
  rw [publishFrame]
  simp only [bind_assoc]
  have created : (SpoolStmt.create (temporaryName id)).perform w.outbound = (w.outbound.write (temporaryName id) "", .ok ()) := by
    simp only [SpoolStmt.perform, absent, Option.isSome_none, Bool.false_eq_true, if_false]
  have replaced : (SpoolStmt.replace (temporaryName id) (frameName id)).perform
      ((w.outbound.write (temporaryName id) "").write (temporaryName id) payload) = (published w.outbound id payload, .ok ()) := by
    simp only [SpoolStmt.perform, Directory.get?_write_self, published]
  exact file_tries created (file_tries rfl (file_tries rfl (file_tries replaced tried)))

/-- Or when the row is there and the audit is not. -/
theorem dispatch_unaudited {payload : String} {dispatches : Table DispatchRow DispatchRow.dispatchId}
    (offered : Offered crypto w.db task lease sessionId now n e) (vacant : Vacant w.outbound e.dispatchId)
    (identified : isIdentifier e.dispatchId = true) (canonical : canonicalJson crypto (.dict e.body) = .ok payload)
    (short : payload.length ≤ maxFrameBytes) (inserted : w.db.dispatches.insert? e.row = some dispatches) :
    spooled.Tries (Spooled.dispatch crypto task lease sessionId now).run w ⟨{ w.db with dispatches }, published w.outbound e.dispatchId payload⟩
      (.inl ⟨_, .inr (.inl (.audit e.taskId "DISPATCHED" n s!"worker={e.workerId};session={e.sessionId};lease={e.leaseId}"))⟩) := by
  have absent : w.db.dispatches.find? e.dispatchId = none := Table.find?_none.mpr (Table.insert?_some inserted).1
  have done : w.db.insertDispatch e.row = .ok { w.db with dispatches } := by
    rw [ExternalDb.insertDispatch, inserted]
    rfl
  have inserts : ExternalStmt.perform (.inr (.insertDispatch e.row)) {} w.db = ({ w.db with dispatches }, .ok ()) :=
    congrArg (update w.db) done
  refine dispatch_tries offered absent (writeOutbound_tries vacant identified canonical short (publishFrame_tries vacant.temporary ?_))
  exact statement_tries inserts (.inl ⟨.inl rfl, rfl⟩)

end

namespace Sample

theorem id_identifiers : isIdentifier "w" = true ∧ isIdentifier "t" = true ∧ isIdentifier "l" = true := by decide

def leasedTask : TaskRow where
  taskId := "t"
  directiveId := none
  targetProject := "lab"
  capability := "read"
  state := .leased
  priority := 0
  createdAt := 0
  updatedAt := 0
  requiresHumanApproval := 0
  governanceAllowed := 1
  retryBudget := 0
  assignedWorkerId := some "w"
  leaseId := some "l"
  leaseExpiresAt := some (.fin 10)

def openSession : SessionRow :=
  ⟨"w", "sample", "s", "k", "f", "p", "AUTHENTICATED_EXTERNAL_ADAPTER", 0, 0, 0, 1, .authenticated, none⟩

/-- A task is leased to a worker whose session is open, and nothing was sent. -/
def unsent : SpoolWorld where
  db := { ExternalDb.empty with
    store := { Db.empty with tasks := ⟨[leasedTask], List.nodup_singleton _⟩ }, sessions := ⟨[openSession], List.nodup_singleton _⟩ }
  outbound := .empty

def labels : Frame := [("capability", .str "read"), ("target_project", .str "lab")]

def grant : Frame := [("worker_id", .str "w"), ("task_id", .str "t"), ("lease_id", .str "l")]

/-- The digest of `AF05|t|w|s|l`. -/
def sealedId : String := "36e761731996a886b14797a5024b536b277605f6b4fb795ca12c5d392321725c"

theorem sealedId_digest : isDigest sealedId = true := isDigest_ofList (by decide)

/-- The cryptography, knowing that digest too. -/
def sealing : Crypto where
  toPlatform := { crypto.toPlatform with
    sha256 := fun data => if data = "AF05|t|w|s|l".toUTF8 then sealedId else crypto.sha256 data
    digest := fun data => by
      by_cases this : data = "AF05|t|w|s|l".toUTF8
      · rw [if_pos this]
        exact sealedId_digest
      · rw [if_neg this]
        exact crypto.digest data }
  repr := crypto.repr
  decodeBase64 := crypto.decodeBase64
  encodeBase64 := crypto.encodeBase64
  isPublicKey := crypto.isPublicKey
  verify := crypto.verify

theorem dispatchId_sealing : ExternalGateway.dispatchId sealing "t" "w" "s" "l" = sealedId := by
  have hashed (task worker session lease : String) (named : task = "t" ∧ worker = "w" ∧ session = "s" ∧ lease = "l") :
      s!"AF05|{task}|{worker}|{session}|{lease}" = "AF05|t|w|s|l" := by
    obtain ⟨rfl, rfl, rfl, rfl⟩ := named
    decide
  rw [ExternalGateway.dispatchId, hashed _ _ _ _ ⟨rfl, rfl, rfl, rfl⟩]
  show (if "AF05|t|w|s|l".toUTF8 = "AF05|t|w|s|l".toUTF8 then sealedId else crypto.sha256 "AF05|t|w|s|l".toUTF8) = sealedId
  exact if_pos rfl

def sealed : ExternalEnvelope := ⟨sealedId, "t", "w", "s", "l", .fin 10, "read", "lab", af05Protocol⟩

/-- The frame of the dispatch. -/
def frameText : String := (Json.dict sealed.body).dumps sealing.repr Json.canonical

theorem sealed_offered : Offered sealing unsent.db labels grant (.str "s") (.fin 5) 5 sealed := by
  have offered : Offered sealing unsent.db labels grant (.str "s") (.fin 5) 5 _ :=
    @Offered.mk sealing unsent.db labels grant (.str "s") (.fin 5) 5 ⟨"w", id_identifiers.1⟩ ⟨"t", id_identifiers.2.1⟩
      ⟨"l", id_identifiers.2.2⟩ openSession leasedTask (.fin 10) rfl (identifier_str ⟨"w", id_identifiers.1⟩ _)
      (identifier_str ⟨"t", id_identifiers.2.1⟩ _) (identifier_str ⟨"l", id_identifiers.2.2⟩ _) rfl rfl ⟨rfl, rfl, rfl, rfl, rfl⟩ rfl
      ⟨by decide, rfl, rfl⟩
  rw [show openSession.sessionId = "s" from rfl, dispatchId_sealing] at offered
  exact offered

theorem sealed_identified : isIdentifier sealed.dispatchId = true := by decide

theorem frameText_canonical : canonicalJson sealing (.dict sealed.body) = .ok frameText := rfl

theorem frameText_short : frameText.length ≤ maxFrameBytes := by
  rw [frameText, Json.dumps, String.length_ofList]
  decide +kernel

theorem unsent_matched : FramesMatch unsent := fun _ => rfl

theorem unsent_vacant : Vacant unsent.outbound sealed.dispatchId := ⟨rfl, rfl⟩

def recordedDispatches : Table DispatchRow DispatchRow.dispatchId := ⟨[sealed.row], List.nodup_singleton _⟩

/-- The dispatch that died before the audit. -/
def unaudited : SpoolTransition where
  before := unsent
  label := .attempt labels grant (.str "s") (.fin 5) (.inl ⟨_, .inr (.inl (.audit "t" "DISPATCHED" 5
    s!"worker={sealed.workerId};session={sealed.sessionId};lease={sealed.leaseId}"))⟩)
  after := ⟨{ unsent.db with dispatches := recordedDispatches }, published unsent.outbound sealed.dispatchId frameText⟩

/-- The dispatch that died with an empty temporary file. -/
def cutShort : SpoolTransition where
  before := unsent
  label := .attempt labels grant (.str "s") (.fin 5) (.inl ⟨_, .inl (.write (temporaryName sealedId) frameText)⟩)
  after := { unsent with outbound := unsent.outbound.write (temporaryName sealedId) "" }

theorem unaudited_step : SpoolStep sealing unaudited.before unaudited.label unaudited.after :=
  .attempt (dispatch_unaudited sealed_offered unsent_vacant sealed_identified frameText_canonical frameText_short rfl)

theorem cutShort_step : SpoolStep sealing cutShort.before cutShort.label cutShort.after :=
  .attempt (dispatch_torn sealed_offered rfl unsent_vacant sealed_identified frameText_canonical frameText_short)

end Sample

theorem dispatch_resumable_unaudited : RetriesSame Sample.sealing Sample.unaudited ∧ FramesMatch Sample.unaudited.after := by
  have history : History (SpoolStep Sample.sealing) Sample.unsent [Sample.unaudited] Sample.unaudited.after :=
    .step .start Sample.unaudited_step
  refine (dispatch_resumable_iff history Sample.unsent_matched).mpr (fun t member breaks => ?_) Sample.unaudited List.mem_cons_self
  obtain rfl := List.mem_singleton.mp member
  exact Bool.false_ne_true breaks

theorem dispatch_not_resumable : ∃ past w, History (SpoolStep Sample.sealing) Sample.unsent past w ∧ FramesMatch Sample.unsent ∧
    past = [Sample.cutShort] ∧ ¬ ∀ t ∈ past, RetriesSame Sample.sealing t ∧ FramesMatch t.after := by
  refine ⟨[Sample.cutShort], Sample.cutShort.after, .step .start Sample.cutShort_step, Sample.unsent_matched, rfl, fun resumable => ?_⟩
  exact step_breaks Sample.cutShort_step rfl (resumable Sample.cutShort List.mem_cons_self).1

end ControlPlane.Autonomy
