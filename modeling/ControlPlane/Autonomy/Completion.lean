import ControlPlane.Autonomy.Rules

/-!
# Completion and its evidence

A task is completed on the word of its `evidence_status`. What the status stands for
is an evidence row or an applied transaction, and neither is ever taken back.
-/

namespace ControlPlane.Autonomy

open Data Interleaving Protocol

/-- 64 hexadecimal digits, none of them upper case. -/
def isLowerHex64 (s : String) : Bool :=
  s.toList.length = 64 && s.toList.all fun c => c.isDigit || ('a' ≤ c && c ≤ 'f')

/-- The text is that of a dictionary whose `task_id` is the task. -/
def NamesTask (host : Host) (envelope task : String) : Prop :=
  ∃ entries, envelope = (Json.dict entries).dumps host.repr Json.canonical ∧ Json.get? entries "task_id" = some (.str task)

def Db.Recorded (db : Db) (task : String) : Prop := ∃ e ∈ db.evidence.rows, e.taskId = task

/-- One of the task's grants was applied. -/
def Db.Applied (db : Db) (task : String) : Prop :=
  ∃ g ∈ db.grants.rows, g.taskId = task ∧ db.Transacted g.grantId .applied

/-- What an evidence status stands for. -/
def Db.Backed (db : Db) (task : String) : Prop := db.Recorded task ∨ db.Applied task

instance (db : Db) (task : String) : Decidable (db.Backed task) :=
  inferInstanceAs (Decidable ((∃ e ∈ db.evidence.rows, _) ∨ ∃ g ∈ db.grants.rows, _))

/-- An applied transaction carries its evidence: the digest of an envelope that names
the task of the grant. -/
def TransactionRow.Proves (host : Host) (tx : TransactionRow) (task : String) : Prop :=
  ∃ envelope, tx.evidenceEnvelope = some envelope ∧ tx.evidenceSha256 = some (host.sha256 envelope) ∧
    NamesTask host envelope task

/-- The task has an evidence row, or an applied transaction of one of its grants with
the digest of an envelope that names it. -/
def Db.HasEvidence (host : Host) (db : Db) (task : String) : Prop :=
  (∃ e ∈ db.evidence.rows, e.taskId = task ∧ isLowerHex64 e.sha256) ∨
    ∃ tx ∈ db.transactions.rows, ∃ g ∈ db.grants.rows,
      g.grantId = tx.grantId ∧ g.taskId = task ∧ tx.state = .applied ∧ tx.Proves host task

/-- Every completed task has evidence. -/
def CompletedWithEvidence (host : Host) (db : Db) : Prop :=
  ∀ r ∈ db.tasks.rows, r.state = .completed → db.HasEvidence host r.taskId

/-- The task claims to have evidence. -/
def TaskRow.ClaimsEvidence (r : TaskRow) : Prop :=
  r.state = .completed ∨ r.evidenceStatus = .received ∨ r.evidenceStatus = .valid

/-- What is behind a completed task, before and after its completion. -/
structure EvidenceSound (host : Host) (db : Db) : Prop where
  hex : ∀ e ∈ db.evidence.rows, isLowerHex64 e.sha256
  proves : ∀ tx ∈ db.transactions.rows, tx.state = .applied →
    ∃ g ∈ db.grants.rows, g.grantId = tx.grantId ∧ tx.Proves host g.taskId
  backed : ∀ r ∈ db.tasks.rows, r.ClaimsEvidence → db.Backed r.taskId

/-- What a name that `clean` changes names has its evidence already, and a recovery
that finds the plan applied still owns the transaction. -/
def backsWhatItWrites {β : Type} : Stmt β → Db → Bool
  | .completeTask task _, db => decide (clean task ≠ task → (∃ r ∈ db.tasks.rows, r.taskId = task) → db.Backed task)
  | .settleRecovery grant outcome _, db => decide (outcome.state = .applied →
      (∃ r ∈ db.tasks.rows, r.named grant.taskId (· = .running)) →
        db.Transacted grant.grantId .applying ∨ db.Backed grant.taskId)
  | _, _ => true

/-- Unless the store is locked, the state the statement runs in meets its condition. -/
def BacksWrites (t : Taken Stmt Input Db) : Prop := t.input.busy = false → backsWhatItWrites t.stmt t.before = true

instance : DecidablePred BacksWrites := fun _ => inferInstanceAs (Decidable (_ → _ = true))

/-- The digest is that of the envelope, and the envelope names the task of this grant. -/
def Seals (host : Host) (grantId envelope sha : String) (db : Db) : Prop :=
  sha = host.sha256 envelope ∧ ∃ g ∈ db.grants.rows, g.grantId = grantId ∧ NamesTask host envelope g.taskId

/-- What four statements need of the state they run in. -/
def Justified {β : Type} (host : Host) : Stmt β → Db → Prop
  | .completeTask task _, db => (∃ r ∈ db.tasks.rows, r.taskId = task) → db.Backed task
  | .finishApply plan envelope sha _, db => Seals host plan.grantId envelope sha db
  | .settleRecovery grant outcome _, db => ∀ envelope sha, outcome = .applied envelope sha →
      Seals host grant.grantId envelope sha db ∧ (∃ g ∈ db.grants.rows, g.grantId = grant.grantId ∧ g.taskId = grant.taskId) ∧
        ((∃ r ∈ db.tasks.rows, r.named grant.taskId (· = .running)) →
          db.Transacted grant.grantId .applying ∨ db.Backed grant.taskId)
  | .terminalizeFailure _ state _ _, _ => state ≠ .applied
  | _, _ => True

/-- How a transaction row becomes APPLIED. -/
def Settles {β : Type} : Stmt β → TransactionRow → Prop
  | .finishApply plan envelope sha _, tx =>
    tx.grantId = plan.grantId ∧ tx.evidenceEnvelope = some envelope ∧ tx.evidenceSha256 = some sha
  | .settleRecovery grant outcome _, tx => tx.grantId = grant.grantId ∧ outcome.state = .applied ∧
    tx.evidenceEnvelope = outcome.envelope? ∧ tx.evidenceSha256 = outcome.sha?
  | .terminalizeFailure _ state _ _, _ => state = .applied
  | _, _ => False

/-! ### The tables behind a status -/

section

variable {host : Host} {β : Type} {s : Stmt β} {x : Input} {db db' : Db} {task : String}

theorem lowerHex_char {c : Char} (hex : (c.isDigit || ('a' ≤ c && c ≤ 'f') || ('A' ≤ c && c ≤ 'F')) = true) :
    (c.toLower.isDigit || ('a' ≤ c.toLower && c.toLower ≤ 'f')) = true := by
  -- the digits end below the lower case letters
  have small : c.toNat < 103 := by
    simp only [Bool.or_eq_true, Bool.and_eq_true, decide_eq_true_eq, Char.isDigit, Char.le_def, UInt32.le_iff_toNat_le] at hex
    show c.val.toNat < 103
    have digit : '9'.val.toNat = 57 := rfl
    have upper : 'F'.val.toNat = 70 := rfl
    have letter : 'f'.val.toNat = 102 := rfl
    omega
  have each : ∀ n < 103, ((Char.ofNat n).isDigit || ('a' ≤ Char.ofNat n && Char.ofNat n ≤ 'f') ||
      ('A' ≤ Char.ofNat n && Char.ofNat n ≤ 'F')) = true → ((Char.ofNat n).toLower.isDigit ||
        ('a' ≤ (Char.ofNat n).toLower && (Char.ofNat n).toLower ≤ 'f')) = true := by decide
  have found := each c.toNat small
  rw [Char.ofNat_toNat] at found
  exact found hex

theorem lowerHex_of_hex {sha : String} (hex : isHex64 sha) : isLowerHex64 (lower sha) := by
  simp only [isHex64, Bool.and_eq_true, decide_eq_true_eq, List.all_eq_true] at hex
  simp only [isLowerHex64, lower, String.toList_ofList, List.length_map, List.all_map, Bool.and_eq_true, decide_eq_true_eq,
    List.all_eq_true, Function.comp_apply]
  exact ⟨hex.1, fun c member => lowerHex_char (hex.2 c member)⟩

theorem exec_evidence (s : Stmt β) (x : Input) (db : Db) :
    db.evidence.Evolves (fun _ _ => False) (fun e => isLowerHex64 e.sha256) (exec s x db).1.evidence := by
  rcases exec_effect s x db with same | ⟨_, effect⟩
  · rw [same]
    exact Table.evolves_refl
  generalize (exec s x db).1 = db' at effect
  cases effect with
  | submitResult _ _ _ _ _ hex inserted =>
    obtain ⟨evidence, rfl, rows⟩ := insertEvidence_ok inserted
    exact Table.evolves_insert rows (lowerHex_of_hex hex)
  | @start ack task worker lease n =>
    obtain ⟨audit, logged⟩ := foldl_log (startEvents ack worker) task n
      (db.updateTasks (TaskRow.heldBy task worker lease (· = .leased) n) (TaskRow.started n) fun _ => rfl)
    rw [logged]
    exact Table.evolves_refl
  | createTask inserted | ingestNew inserted =>
    obtain ⟨tasks, rfl, _⟩ := insertTask_ok inserted
    exact Table.evolves_refl
  | settleRecovery settled =>
    subst settled
    split <;> exact Table.evolves_refl
  | _ => exact Table.evolves_refl

/-- Grants stay, with their task. -/
theorem exec_grants (s : Stmt β) (x : Input) (db : Db) :
    db.grants.Evolves (fun g g' => g'.grantId = g.grantId ∧ g'.taskId = g.taskId) (fun _ => True) (exec s x db).1.grants := by
  rcases exec_effect s x db with same | ⟨_, effect⟩
  · rw [same]
    exact Table.evolves_refl
  generalize (exec s x db).1 = db' at effect
  cases effect with
  | issueGrant inserted => exact Table.evolves_insert (Table.insert?_some inserted).2 trivial
  | expireGrant | finishApply | terminalizeFailure => exact Table.evolves_update rfl fun _ _ _ => ⟨rfl, rfl⟩
  | beginApply _ _ _ _ consumed =>
    subst consumed
    exact Table.evolves_update rfl fun _ _ _ => ⟨rfl, rfl⟩
  | @start ack task worker lease n =>
    obtain ⟨audit, logged⟩ := foldl_log (startEvents ack worker) task n
      (db.updateTasks (TaskRow.heldBy task worker lease (· = .leased) n) (TaskRow.started n) fun _ => rfl)
    rw [logged]
    exact Table.evolves_refl
  | submitResult _ _ _ _ _ _ inserted =>
    obtain ⟨evidence, rfl, _⟩ := insertEvidence_ok inserted
    exact Table.evolves_refl
  | createTask inserted | ingestNew inserted =>
    obtain ⟨tasks, rfl, _⟩ := insertTask_ok inserted
    exact Table.evolves_refl
  | settleRecovery settled =>
    subst settled
    split <;> exact Table.evolves_update rfl fun _ _ _ => ⟨rfl, rfl⟩
  | _ => exact Table.evolves_refl

/-- A transaction leaves APPLYING once, and the row says how. -/
theorem exec_transactions (s : Stmt β) (x : Input) (db : Db) :
    db.transactions.Evolves (fun tx tx' => x.busy = false ∧ tx.state = .applying ∧ tx'.grantId = tx.grantId ∧
      (tx'.state = .applied → Settles s tx')) (fun tx => tx.state = .applying) (exec s x db).1.transactions := by
  rcases exec_effect s x db with same | ⟨free, effect⟩
  · rw [same]
    exact Table.evolves_refl
  generalize (exec s x db).1 = db' at effect
  cases effect with
  | beginApply _ _ _ inserted => exact Table.evolves_insert (Table.insert?_some inserted).2 rfl
  | finishApply => exact Table.evolves_update rfl fun tx _ open_ => ⟨free, open_.2, rfl, fun _ => ⟨open_.1, rfl, rfl⟩⟩
  | terminalizeFailure => exact Table.evolves_update rfl fun tx _ open_ => ⟨free, open_.2, rfl, fun applied => applied⟩
  | settleRecovery settled =>
    subst settled
    split <;> exact Table.evolves_update rfl fun tx _ open_ => ⟨free, open_.2, rfl, fun applied => ⟨open_.1, applied, rfl, rfl⟩⟩
  | @start ack task worker lease n =>
    obtain ⟨audit, logged⟩ := foldl_log (startEvents ack worker) task n
      (db.updateTasks (TaskRow.heldBy task worker lease (· = .leased) n) (TaskRow.started n) fun _ => rfl)
    rw [logged]
    exact Table.evolves_refl
  | submitResult _ _ _ _ _ _ inserted =>
    obtain ⟨evidence, rfl, _⟩ := insertEvidence_ok inserted
    exact Table.evolves_refl
  | createTask inserted | ingestNew inserted =>
    obtain ⟨tasks, rfl, _⟩ := insertTask_ok inserted
    exact Table.evolves_refl
  | _ => exact Table.evolves_refl

/-- What is behind a task stays behind it, and a grant stays with its task. -/
def KeepsEvidence (db db' : Db) : Prop :=
  (∀ task, db.Backed task → db'.Backed task) ∧
    ∀ g ∈ db.grants.rows, ∃ g' ∈ db'.grants.rows, g'.grantId = g.grantId ∧ g'.taskId = g.taskId

theorem grant_kept {g : GrantRow} (s : Stmt β) (x : Input) (member : g ∈ db.grants.rows) :
    ∃ g' ∈ (exec s x db).1.grants.rows, g'.grantId = g.grantId ∧ g'.taskId = g.taskId := by
  obtain ⟨g', there, same⟩ := (exec_grants s x db).kept member
  rcases same with rfl | same
  · exact ⟨g', there, rfl, rfl⟩
  · exact ⟨g', there, same⟩

theorem applied_kept {grantId : String} (s : Stmt β) (x : Input) (applied : db.Transacted grantId .applied) :
    (exec s x db).1.Transacted grantId .applied := by
  obtain ⟨tx, member, named, state⟩ := applied
  obtain ⟨tx', there, same⟩ := (exec_transactions s x db).kept member
  rcases same with rfl | ⟨_, applying, _⟩
  · exact ⟨tx', there, named, state⟩
  · cases applying.symm.trans state

theorem exec_keepsEvidence (s : Stmt β) (x : Input) (db : Db) : KeepsEvidence db (exec s x db).1 := by
  refine ⟨fun task backed => ?_, fun g member => grant_kept s x member⟩
  rcases backed with ⟨e, member, named⟩ | ⟨g, member, named, applied⟩
  · obtain ⟨e', there, rfl | impossible⟩ := (exec_evidence s x db).kept member
    · exact .inl ⟨e', there, named⟩
    · exact impossible.elim
  · obtain ⟨g', there, same, task'⟩ := grant_kept s x member
    exact .inr ⟨g', there, task'.trans named, same ▸ applied_kept s x applied⟩

/-- A sealed envelope proves the applied transaction of its grant. -/
theorem proves_of_seals {tx : TransactionRow} {grantId envelope sha : String} (seals : Seals host grantId envelope sha db)
    (named : tx.grantId = grantId) (stored : tx.evidenceEnvelope = some envelope) (digest : tx.evidenceSha256 = some sha) :
    ∃ g ∈ db.grants.rows, g.grantId = tx.grantId ∧ tx.Proves host g.taskId := by
  obtain ⟨rfl, g, member, same, names⟩ := seals
  exact ⟨g, member, same.trans named.symm, envelope, stored, digest, names⟩

theorem settled_proves {tx : TransactionRow} (justified : Justified host s db) (settles : Settles s tx) :
    ∃ g ∈ db.grants.rows, g.grantId = tx.grantId ∧ tx.Proves host g.taskId := by
  cases s with
  | finishApply plan envelope sha n =>
    obtain ⟨named, stored, digest⟩ := settles
    exact proves_of_seals justified named stored digest
  | settleRecovery grant outcome n =>
    obtain ⟨named, applied, stored, digest⟩ := settles
    cases outcome with
    | applied envelope sha => exact proves_of_seals (justified envelope sha rfl).1 named stored digest
    | failed | integrityBlocked => cases applied
  | terminalizeFailure grantId state code n => exact absurd settles justified
  | _ => exact settles.elim

/-- A move that leaves a task claiming evidence found the claim or made it good. -/
theorem move_backed {r r' : TaskRow} (justified : Justified host s db) (member : r ∈ db.tasks.rows)
    (move : Move s x db r r') (backed : r.ClaimsEvidence → db.Backed r.taskId) (claims : r'.ClaimsEvidence) :
    (exec s x db).1.Backed r'.taskId := by
  have kept := (exec_keepsEvidence s x db).1
  have fromStatus (status : r'.evidenceStatus = r.evidenceStatus) (open_ : r'.state ≠ .completed) :
      (exec s x db).1.Backed r.taskId := by
    refine kept _ (backed (.inr ?_))
    rw [← status]
    exact claims.resolve_left open_
  cases move with
  | claim | start | waitForCapacity | markWaiting => exact fromStatus rfl nofun
  | reclaim | chargeStale | chargeFailure => exact fromStatus rfl (afterFailure_open _)
  | renew => exact kept _ (backed claims)
  | submitMissing => simp [TaskRow.ClaimsEvidence, TaskRow.evidenceMissing] at claims
  | submitResult named _ _ _ recorded =>
    subst named
    exact .inl recorded
  | completeTask named =>
    subst named
    exact kept _ (justified ⟨r, member, rfl⟩)
  | finishApply found named _ _ settled =>
    obtain ⟨there, same⟩ := Table.find?_some.mp found
    obtain ⟨g', after, same', task'⟩ := grant_kept (.finishApply _ _ _ _) x there
    exact .inr ⟨g', after, task'.trans named.symm, by rwa [same', same]⟩
  | @settleRecovery grant outcome n _ _ _ named running applied settled =>
    cases outcome with
    | failed | integrityBlocked => cases applied
    | applied envelope sha =>
      obtain ⟨_, ⟨g, there, same, task⟩, owns⟩ := justified envelope sha rfl
      rcases owns ⟨r, member, named, by simpa using running⟩ with applying | already
      · obtain ⟨g', after, same', task'⟩ := grant_kept (.settleRecovery grant (.applied envelope sha) n) x there
        exact .inr ⟨g', after, (task'.trans task).trans named.symm, by rw [same', same]; exact settled applying⟩
      · rw [← named] at already
        exact kept _ already

theorem created_claims_nothing {r : TaskRow} (created : Created s r) : ¬ r.ClaimsEvidence := by
  cases created with
  | @createTask task n =>
    simp only [TaskRow.ClaimsEvidence, NewTask.row, NewTask.state]
    split <;> simp
  | @ingestEntry e =>
    simp only [TaskRow.ClaimsEvidence, QueueEntry.row]
    split <;> simp

theorem step_evidence {t : Taken Stmt Input Db} (sound : EvidenceSound host t.before)
    (justified : t.input.busy = false → Justified host t.stmt t.before) : EvidenceSound host (connections.after t) where
  hex := (exec_evidence t.stmt t.input t.before).all sound.hex (fun _ _ _ impossible => impossible.elim) fun _ hex => hex
  proves tx member applied := by
    have found : ∃ g ∈ t.before.grants.rows, g.grantId = tx.grantId ∧ tx.Proves host g.taskId := by
      rcases (exec_transactions t.stmt t.input t.before).source member with ⟨old, there, rfl | ⟨free, _, _, settles⟩⟩ | new
      · exact sound.proves tx there applied
      · exact settled_proves (justified free) (settles applied)
      · cases new.symm.trans applied
    obtain ⟨g, there, same, proves⟩ := found
    obtain ⟨g', after, same', task'⟩ := grant_kept t.stmt t.input there
    exact ⟨g', after, same'.trans same, task' ▸ proves⟩
  backed r member claims := by
    rcases (exec_tasks t.stmt t.input t.before).source member with ⟨old, there, rfl | ⟨free, move⟩⟩ | created
    · exact (exec_keepsEvidence t.stmt t.input t.before).1 _ (sound.backed r there claims)
    · exact move_backed (justified free) there move (sound.backed old there) claims
    · exact absurd claims (created_claims_nothing created)

/-! ### Every operation backs what it writes -/

def evidenceProtocol (host : Host) : Protocol connections where
  Inv := EvidenceSound host
  Rely := KeepsEvidence
  Admissible := BacksWrites
  Requires t := t.input.busy = false → Justified host t.stmt t.before
  kept t sound _ justified := ⟨step_evidence sound justified, exec_keepsEvidence t.stmt t.input t.before⟩

theorem evidence_free {w : Writer} (free : w ∈ [.none, .stale, .failure, .routing]) {β : Type} (s : Stmt β)
    (sent : s.writer = .none ∨ s.writer = w) : (evidenceProtocol host).Free s := by
  have other : s.writer ∈ [.none, .stale, .failure, .routing] := by
    rcases sent with none | late
    · simp [none]
    · rwa [late]
  intro x db _
  cases s with
  | completeTask | finishApply | settleRecovery => simp [Stmt.writer] at other
  | terminalizeFailure grantId state code n =>
    rintro rfl
    simp [Stmt.writer] at other
  | _ => trivial

theorem evidence_locked {s : Stmt β} (x : Input) (db : Db) (busy : x.busy = true) :
    (evidenceProtocol host).Requires ⟨s, x, db⟩ := fun free => absurd (busy.symm.trans free) nofun

/-- Whatever relies on nothing. -/
theorem evidence_any {A : Db → Prop} {p : Store β} (sends : Sends .none p) : (evidenceProtocol host).MeetsE A p Anything :=
  meetsE_of_sends_any sends (evidence_free (by decide))

theorem evidence_keeps {A : Db → Prop} {p : Store β} (stable : (evidenceProtocol host).Stable A) (sends : Sends .none p) :
    (evidenceProtocol host).MeetsE A p fun _ => A :=
  meetsE_of_sends sends stable (evidence_free (by decide))

theorem backed_stable : (evidenceProtocol host).Stable fun db => db.Backed task :=
  fun _ _ _ moved backed => moved.1 task backed

theorem evidence_completeAfterReview {valid : Bool} {now : PyFloat} :
    (evidenceProtocol host).MeetsE (fun _ => True) (Store.completeAfterReview task valid now) Anything := by
  refine meetsE_now.bind fun n => ?_
  refine MeetsE.bind (Q := fun read db => read.evidenceStatus = .received → db.Backed (clean task)) ?_ fun read => ?_
  · refine meetsE_task (evidence_free (w := .none) (by decide) _ (.inl rfl))
      (fun r db db' sound moved known received => moved.1 _ (known received)) fun db r sound _ found received => ?_
    obtain ⟨member, named⟩ := Table.find?_some.mp found
    exact named ▸ sound.backed r member (.inr (.inl received))
  refine meetsE_check.bind fun _ => MeetsE.bind (Q := fun _ db => db.Backed (clean task)) ?_ fun _ =>
    evidence_any (sends_ask (.inl rfl))
  refine MeetsE.mono (meetsE_write backed_stable evidence_locked fun x db free sound backed admissible _ there => ?_)
    (fun db _ known => known.2 known.1.2.1) fun _ _ _ h => h
  by_cases same : clean task = task
  · exact same ▸ backed
  · exact of_decide_eq_true (admissible free) same there

/-- The grant that was read is still there, with its task. -/
def Known (g : GrantRow) (db : Db) : Prop := ∃ row ∈ db.grants.rows, row.grantId = g.grantId ∧ row.taskId = g.taskId

theorem known_stable {g : GrantRow} : (evidenceProtocol host).Stable (Known g) := by
  rintro db db' _ moved ⟨row, member, same, task⟩
  obtain ⟨row', after, same', task'⟩ := moved.2 row member
  exact ⟨row', after, same'.trans same, task'.trans task⟩

/-- The answer to a lookup of the grant. -/
def Answered (grantId : String) (o : Option GrantRow) (db : Db) : Prop := ∀ g, o = some g → g.grantId = grantId ∧ Known g db

theorem evidence_selectGrant {grantId : String} :
    (evidenceProtocol host).MeetsE (fun _ => True) (Procedure.ask (.selectGrant grantId)) (Answered grantId) := by
  refine meetsE_send (fun o db db' sound moved known g same => ?_) evidence_locked fun x db _ _ _ _ => ?_
  · exact ⟨(known g same).1, known_stable db db' sound moved (known g same).2⟩
  · refine ⟨fun _ => trivial, fun o answer g same => ?_⟩
    cases answer
    obtain ⟨member, named⟩ := Table.find?_some.mp same
    exact ⟨named, g, member, rfl, rfl⟩

theorem evidence_row {grantId : String} {o : Option GrantRow} {e : Err} :
    (evidenceProtocol host).MeetsE (Answered grantId o) (Store.row o e) fun g db => g.grantId = grantId ∧ Known g db :=
  meetsE_row.mono (fun _ _ h => h) fun g _ _ ⟨same, known⟩ => known g same

/-- An envelope names the task of its grant. -/
theorem namesTask_text (e : Envelope) : NamesTask host (e.text host) e.grant.taskId := ⟨_, rfl, rfl⟩

theorem seals_of_known {g : GrantRow} {e : Envelope} (known : Known g db) (same : e.grant = g) :
    Seals host g.grantId (e.text host) (host.sha256 (e.text host)) db := by
  obtain ⟨row, member, named, task⟩ := known
  refine ⟨rfl, row, member, named, ?_⟩
  rw [task, ← same]
  exact namesTask_text e

theorem evidence_freshAuthority {grantId : String} : (evidenceProtocol host).MeetsE (fun _ => True)
    (Execution.freshAuthority grantId) fun read db => read.1.grantId = grantId ∧ Known read.1 db := by
  have stable (g : GrantRow) : (evidenceProtocol host).Stable fun db => g.grantId = grantId ∧ Known g db :=
    fun db db' sound moved known => ⟨known.1, known_stable db db' sound moved known.2⟩
  refine MeetsE.bind (evidence_keeps stable_true (sends_ask (.inl rfl))) fun clock => ?_
  refine meetsE_now.bind fun fresh => evidence_selectGrant.bind fun o => evidence_row.bind fun g => ?_
  refine MeetsE.bind (evidence_keeps (stable g) sends_check) fun _ => ?_
  refine MeetsE.bind (evidence_keeps (stable g) (sends_ask (.inl rfl))) fun t => ?_
  refine MeetsE.bind (evidence_keeps (stable g) (sends_ask (.inl rfl))) fun w => ?_
  refine MeetsE.bind (evidence_keeps (stable g) ?_) fun _ => ?_
  · unfold Execution.freshAuthority.liftExcept
    split
    · exact sends_pure
    · exact sends_throw
  refine MeetsE.bind (evidence_keeps (stable g) (sends_ask (.inl rfl))) fun there => ?_
  refine MeetsE.bind (evidence_keeps (stable g) sends_check) fun _ => ?_
  refine MeetsE.bind (evidence_keeps (stable g) sends_workspaceAuthority) fun workspace => ?_
  exact meetsE_pure fun _ _ known => known

theorem evidence_finish {plan : Plan} :
    (evidenceProtocol host).MeetsE (fun _ => True) (Execution.finish host plan) Anything := by
  refine evidence_freshAuthority.bind fun ⟨g, workspace, finalNow⟩ => ?_
  have stable : (evidenceProtocol host).Stable fun db => g.grantId = plan.grantId ∧ Known g db :=
    fun db db' sound moved known => ⟨known.1, known_stable db db' sound moved known.2⟩
  refine MeetsE.bind (evidence_keeps stable sends_expectFiles) fun _ => ?_
  refine MeetsE.bind (meetsE_write stable evidence_locked fun x db _ _ known _ _ => ?_) fun _ =>
    evidence_any (sends_bind (sends_ask (.inl rfl)) fun _ => sends_row)
  show Seals host plan.grantId _ _ db
  rw [← known.1]
  exact seals_of_known known.2 rfl

theorem evidence_apply {plan : Plan} {now : PyFloat} :
    (evidenceProtocol host).MeetsE (fun _ => True) (Execution.apply host plan now) Anything := by
  refine meetsE_now.bind fun n => MeetsE.bind (evidence_any (sends_ask (.inl rfl))) fun _ => ?_
  refine MeetsE.bind (evidence_any (sends_attempt (sends_bind (sends_ask (.inl rfl)) fun _ => sends_freshAuthority)))
    fun opened => ?_
  cases opened with
  | error e => exact evidence_any sends_abandon
  | ok read =>
    refine MeetsE.bind (evidence_any sends_backUp) fun backups => ?_
    have handled (e : Err) : (evidenceProtocol host).MeetsE (fun _ => True)
        (if backups.1 = 0 then Execution.abandon plan e n else Execution.rollBack plan read.2.1 backups.1 e n) Anything := by
      split
      · exact evidence_any sends_abandon
      · exact evidence_any sends_rollBack
    obtain ⟨taken, checked⟩ := backups
    cases checked with
    | error e => exact handled e
    | ok _ =>
      have tried : (evidenceProtocol host).MeetsE (fun _ => True)
          (do Execution.changeFiles plan.grantId plan.operations; Execution.finish host plan) Anything :=
        MeetsE.bind (evidence_any sends_changeFiles) fun _ => evidence_finish
      refine MeetsE.bind tried.attempt fun applied => ?_
      cases applied with
      | ok tx => exact meetsE_pure fun _ _ _ => trivial
      | error e => exact (handled e).mono (fun _ _ _ => trivial) fun _ _ _ h => h

theorem recovered_applied {g : GrantRow} {tx : TransactionRow} {actual : List String} {n : ℚ} {envelope sha : String}
    (outcome : Execution.recovered host g tx actual n = .applied envelope sha) :
    ∃ e : Envelope, e.grant = g ∧ envelope = e.text host ∧ sha = host.sha256 (e.text host) := by
  unfold Execution.recovered at outcome
  split at outcome
  · cases outcome
  split at outcome
  · obtain ⟨text, digest⟩ := Recovered.applied.inj outcome
    exact ⟨⟨g, tx.planHash, tx.operationsManifest, n⟩, rfl, text.symm, digest.symm⟩
  · cases outcome

theorem evidence_settleRecovery {g : GrantRow} {tx : TransactionRow} {actual : List String} {n : ℚ} :
    (evidenceProtocol host).MeetsE (Known g)
      (Procedure.ask (.settleRecovery g (Execution.recovered host g tx actual n) n)) fun _ => Known g := by
  refine meetsE_write known_stable evidence_locked fun x db free _ known admissible _ envelope sha outcome => ?_
  have owns := of_decide_eq_true (admissible free)
  obtain ⟨e, same, rfl, rfl⟩ := recovered_applied outcome
  exact ⟨seals_of_known known same, known, owns (by rw [outcome]; rfl)⟩

theorem evidence_recover {grantId : String} {now : PyFloat} :
    (evidenceProtocol host).MeetsE (fun _ => True) (Execution.recover host grantId now) Anything := by
  refine meetsE_now.bind fun n => ?_
  refine MeetsE.bind (Q := fun g => Known g) ?_ fun g => ?_
  · refine meetsE_check.bind fun _ => MeetsE.bind (evidence_selectGrant.mono (fun _ _ _ => trivial) fun _ _ _ h => h) fun o => ?_
    exact evidence_row.mono (fun _ _ h => h) fun _ _ _ known => known.2
  refine MeetsE.bind (evidence_keeps known_stable (sends_bind (sends_ask (.inl rfl)) fun _ => sends_row)) fun tx => ?_
  refine MeetsE.bind (evidence_keeps known_stable sends_check) fun _ => ?_
  refine MeetsE.bind (evidence_keeps known_stable sends_workspaceAuthority) fun workspace => ?_
  refine MeetsE.bind (evidence_keeps known_stable sends_actualFiles) fun actual => ?_
  dsimp only
  split
  on_goal 1 => refine MeetsE.bind (evidence_keeps known_stable (sends_ask (.inl rfl))) fun _ => ?_
  all_goals
    refine MeetsE.bind evidence_settleRecovery.attempt fun settled => evidence_any ?_
    cases settled with
    | ok _ => exact sends_pure
    | error e =>
      dsimp only
      split
      · exact sends_bind (sends_ask (.inl rfl)) fun _ => sends_throw
      · exact sends_throw

theorem op_evidence {α : Type} (op : Op α) :
    (evidenceProtocol host).Meets (fun _ => True) (op.run host).run Anything := by
  by_cases early : op.writer ∈ [.none, .stale, .failure, .routing]
  · exact meets_of_sends (op_sends op) (evidence_free early)
  · cases op with
    | completeAfterReview => exact meets_of_meetsE evidence_completeAfterReview
    | apply => exact meets_of_meetsE evidence_apply
    | recover => exact meets_of_meetsE evidence_recover
    | _ => exact absurd (by simp [Op.writer]) early

/-! ### Over every run -/

theorem hasEvidence_of_sound (sound : EvidenceSound host db) : CompletedWithEvidence host db := by
  intro r member completed
  rcases sound.backed r member (.inl completed) with ⟨e, there, named⟩ | ⟨g, there, named, tx, stored, same, applied⟩
  · exact .inl ⟨e, there, named, sound.hex e there⟩
  · obtain ⟨g', there', same', proves⟩ := sound.proves tx stored applied
    obtain rfl := Table.eq_of_key there there' (same.symm.trans same'.symm)
    exact .inr ⟨tx, stored, g, there, same.symm, named, applied, named ▸ proves⟩

/-- In every run that backs what it writes, every completed task has evidence. -/
theorem completed_with_evidence {trace : List (Taken Stmt Input Db)} {c : Config Err Stmt Db} (run : Runs host trace c)
    (backs : ∀ t ∈ trace, BacksWrites t) : ∀ db ∈ states trace c.state, CompletedWithEvidence host db := by
  have meets : ∀ p ∈ clients host, (evidenceProtocol host).Meets (fun _ => True) p Anything := by
    rintro p ⟨client, rfl⟩
    exact Meets.interp (fun op => op_evidence op) client
  have initial : EvidenceSound host Db.empty := ⟨by simp [Db.empty], by simp [Db.empty], by simp [Db.empty]⟩
  obtain ⟨sound, taken, _⟩ := run_keeps (P := evidenceProtocol host) initial meets run backs
  intro db member
  rcases List.mem_cons.mp member with rfl | earlier
  · exact hasEvidence_of_sound sound
  · obtain ⟨t, there, rfl⟩ := List.mem_map.mp earlier
    exact hasEvidence_of_sound (taken t there).1

end

/-- A worker submits its evidence, and the task is completed on review. -/
def reviewed : List (Taken Stmt Input Db) × Config Err Stmt Db :=
  let digest := String.ofList (List.replicate 64 'a')
  script Sample.host [Sample.task "t", Sample.worker "w", .call (.claim "t" "w" (.fin 30) (.fin 0)),
      .call (.submitResult "t" "w" "lease" "log" digest (.fin 1)), .call (.completeAfterReview "t" true (.fin 2))]
    (moves [4, 4, 3] ++ [(2, { uuid := "lease" })] ++ moves [1, 0, 0, 0])

theorem completed_with_evidence_reviewed :
    (∃ r ∈ reviewed.2.state.tasks.rows, r.state = .completed) ∧
      ∀ db ∈ states reviewed.1 reviewed.2.state, CompletedWithEvidence Sample.host db :=
  ⟨by decide +kernel, completed_with_evidence (runs_script Sample.host _ _) (by decide +kernel)⟩

theorem backed_of_hasEvidence {host : Host} {db : Db} {task : String} (evidence : db.HasEvidence host task) :
    db.Backed task := by
  rcases evidence with ⟨e, member, named, _⟩ | ⟨tx, stored, g, member, same, named, applied, _⟩
  · exact .inl ⟨e, member, named⟩
  · exact .inr ⟨g, member, named, tx, stored, same.symm, applied⟩

namespace RecoveredTooLate

/-- A host whose digest is the text without its punctuation. -/
def host : Host := ⟨fun text => String.ofList (text.toList.filter Char.isAlphanum), fun _ => ['0']⟩

def lab : Descriptor := ⟨"lab", "/lab", "lab", "7", "DISPOSABLE"⟩

def files (content : String) : Input :=
  { uuid := "uuid", session := .ok true, workspace := .ok lab, physicalId := .ok "7", actual := fun _ => .ok content }

def plan : Plan := ⟨"twsleaselab0uuid", "plan", [⟨some .create, "a.txt", "ABSENT", "after", "after"⟩]⟩

/-- While `recover` looks at the files, `apply` is still at work: the file is written,
the caller's hook raises, the file is removed and the transaction is FAILED. The
recovery saw the file, and goes on to have the task reviewed. -/
def run : List (Taken Stmt Input Db) × Config Err Stmt Db :=
  let raised : Input := { files "after" with change := .error (.other "OSError") }
  script host [Sample.task "t", Sample.worker "w", .call (.claim "t" "w" (.fin 300) (.fin 0)),
      .call (.start "t" "w" "lease" (.fin 0)), .call (.openController [lab]),
      .call (.issueGrant ⟨"t", "w", "s", "lease", "lab", [.create], [""], .fin 300⟩ (.fin 0)),
      .call (.apply plan (.fin 0)), .call (.recover plan.grantId (.fin 0)), .call (.completeAfterReview "t" true (.fin 0))]
    (moves [8, 8, 7] ++ [(6, { uuid := "lease" })] ++ moves [5, 4, 4] ++ (List.replicate 2 3).map (·, files "ABSENT") ++
      (List.replicate 21 2).map (·, files "ABSENT") ++ (List.replicate 2 2).map (·, files "after") ++
      (List.replicate 7 1).map (·, files "after") ++ [(2, raised)] ++ (List.replicate 6 2).map (·, files "ABSENT") ++
      [(1, files "ABSENT")] ++ moves [0, 0, 0])

end RecoveredTooLate

theorem completed_without_evidence :
    ¬ ∀ (host : Host) (trace : List (Taken Stmt Input Db)) (c : Config Err Stmt Db), Runs host trace c →
      ∀ db ∈ states trace c.state, CompletedWithEvidence host db := by
  intro law
  have evidence := law RecoveredTooLate.host _ _ (runs_script ..) RecoveredTooLate.run.2.state List.mem_cons_self
  have backed : ∀ r ∈ RecoveredTooLate.run.2.state.tasks.rows, r.state = .completed →
      RecoveredTooLate.run.2.state.Backed r.taskId :=
    fun r member completed => backed_of_hasEvidence (evidence r member completed)
  exact absurd backed (by decide +kernel)

end ControlPlane.Autonomy
