import ControlPlane.Autonomy.Ingestion
import ControlPlane.Autonomy.Move
import ControlPlane.Interleaving.Crash
import ControlPlane.Interleaving.History

/-!
# A queue that only grows

What the store remembers of a queue is the hash of every line, with its end. Bytes behind a
line that had no end, or a `\n` behind its `\r`, make it another line.
-/

namespace ControlPlane.Autonomy

open Data Interleaving Procedure Ingestion

/-! ### Rounds -/

inductive IngestEvent : Type 1 where
  | ingest (queue : Option (List UInt8)) (answer : Answer (List IngestResult))
  /-- the process died in the call -/
  | crash (queue : Option (List UInt8))
  /-- a statement of another client -/
  | other {α : Type} (s : Stmt α)

/-- The queue that a step reads. -/
def IngestEvent.reads : IngestEvent → Prop
  | .other _ => False
  | _ => True

/-- A statement that ingestion alone issues. -/
def Stmt.ingests {α : Type} : Stmt α → Bool
  | .ingestEntry _ => true
  | _ => false

/-- The ingestors of one queue take their turns, whatever their verifiers and targets; the
queue can hold anything. -/
inductive IngestStep (reader : QueueReader) : Db → IngestEvent → Db → Prop
  | ingest {i : DirectiveTaskIngestor} {queue db db' answer} (own : i.toQueueReader = reader)
      (ends : ingestions.Ends (i.ingest queue).run db db' answer) : IngestStep reader db (.ingest queue answer) db'
  | crash {i : DirectiveTaskIngestor} {queue db db' next} (own : i.toQueueReader = reader)
      (cut : ingestions.Cut (i.ingest queue) db db' next) : IngestStep reader db (.crash queue) db'
  | other {α : Type} {db} {s : Stmt α} (apart : s.ingests = false) (x : Input) :
      IngestStep reader db (.other s) (perform s x db).1

abbrev IngestHistory (reader : QueueReader) := History (IngestStep reader)

/-! ### The promise -/

/-- Within the limits of `read_records`. -/
structure Within (queue : List UInt8) : Prop where
  bytes : queue.length ≤ maxQueueBytes
  lines : (keptLines queue).length ≤ maxRecords
  line : ∀ line ∈ keptLines queue, isBlankLine line = false → line.length ≤ maxRecordBytes

namespace QueueReader

variable (i : QueueReader)

/-- Every line that is not blank is a JSON object. -/
def Objects (queue : List UInt8) : Prop :=
  ∀ line ∈ keptLines queue, isBlankLine line = false → ∃ record, i.loadsLine line = some (.dict record)

/-- What is remembered of a line: its hash, and the directive it names. -/
def remembered (line : List UInt8) : String × Option String :=
  (i.sha line, (((i.loadsLine line).getD .null).field "directive_id").str?)

/-- The line that the last one has become is remembered as it was: its hash is the same. -/
def Collides (queue more : List UInt8) : Prop :=
  ∀ last line, (keptLines queue).getLast? = some last → (keptLines (queue ++ more))[(keptLines queue).length - 1]? = some line →
    i.remembered line = i.remembered last

end QueueReader

/-- The last line of the queue is blank. -/
def LastBlank (queue : List UInt8) : Prop := ∀ last, (keptLines queue).getLast? = some last → isBlankLine last = true

section

variable {reader : QueueReader} {i : DirectiveTaskIngestor} {db db' : Db} {x : Input}

/-! ### What a statement leaves alone -/

/-- The same records, of the same source. -/
structure SameQueue (db db' : Db) : Prop where
  records : db'.queueRecords = db.queueRecords
  source : db'.ingest.sourcePath = db.ingest.sourcePath

theorem SameQueue.trans {db'' : Db} (first : SameQueue db db') (second : SameQueue db' db'') : SameQueue db db'' :=
  ⟨second.records.trans first.records, second.source.trans first.source⟩

theorem perform_queue {β : Type} {s : Stmt β} (apart : s.ingests = false) (x : Input) (db : Db) : SameQueue db (perform s x db).1 := by
  rcases perform_effect s x db with same | effect
  · rw [same]
    exact ⟨rfl, rfl⟩
  generalize (perform s x db).1 = db' at effect
  cases effect with
  | createTask inserted =>
    obtain ⟨tasks, rfl, _⟩ := insertTask_ok inserted
    exact ⟨rfl, rfl⟩
  | @start ack task worker lease n =>
    obtain ⟨audit, logged⟩ := foldl_log (startEvents ack worker) task n
      (db.updateTasks (TaskRow.heldBy task worker lease (· = .leased) n) (TaskRow.started n) fun _ => rfl)
    rw [logged]
    exact ⟨rfl, rfl⟩
  | submitResult _ _ _ _ _ _ inserted =>
    obtain ⟨evidence, rfl, _⟩ := insertEvidence_ok inserted
    exact ⟨rfl, rfl⟩
  | settleRecovery settled =>
    subst settled
    split
    · exact ⟨rfl, rfl⟩
    · exact ⟨rfl, rfl⟩
  | ingestConflict | ingestKnown | ingestNew => cases apart
  | _ => exact ⟨rfl, rfl⟩

/-- Every statement but the one that binds a record. -/
def IngestStmt.binds {β : Type} : IngestStmt β → Bool
  | .inl s => s.ingests
  | .inr _ => false

theorem step_queue {β : Type} {s : IngestStmt β} (apart : s.binds = false) (x : Input) (db : Db) :
    SameQueue db (ingestions.exec s x db).1 := by
  cases s with
  | inl s =>
    show SameQueue db (exec s x db).1
    unfold exec
    split
    · exact ⟨rfl, rfl⟩
    · exact perform_queue apart x db
  | inr s =>
    show SameQueue db (if x.busy then _ else _ : Db × Answer β).1
    split
    · exact ⟨rfl, rfl⟩
    · exact ⟨rfl, rfl⟩

/-- A procedure that binds nothing leaves the queue alone, wherever it is cut. -/
theorem quiet_queue {α : Type} {p : Ingestion α} {next : Pending IngestStmt} (quiet : All (fun s => s.binds = false) p)
    (cut : ingestions.Cut p db db' next) : SameQueue db db' :=
  cut.keeps (I := SameQueue db) (quiet.mono fun _ apart x u same => same.trans (step_queue apart x u)) ⟨rfl, rfl⟩

/-- The row of an entry. -/
def QueueEntry.queueRow (e : QueueEntry) : QueueRecordRow := ⟨e.sequence, e.lineSha256, e.provenance.directiveId⟩

/-- The entry is refused, or its row is added unless the number is taken. -/
inductive Entered (e : QueueEntry) (db db' : Db) : Answer Bool → Prop
  | refused {error} (same : SameQueue db db') : Entered e db db' (.error error)
  | bound {created} (source : db'.ingest.sourcePath = e.source)
      (added : db.queueRecords.find? e.sequence = none → db'.queueRecords.rows = db.queueRecords.rows ++ [e.queueRow]) :
      Entered e db db' (.ok created)

theorem createIngested_queue {e : QueueEntry} (created : db.createIngested e = .ok db') : db'.queueRecords = db.queueRecords := by
  obtain ⟨inserted, provenance, task, rfl⟩ := createIngested_ok created
  obtain ⟨tasks, rfl, _⟩ := insertTask_ok task
  rfl

theorem recordLine_row {e : QueueEntry} (recorded : db.recordLine none e = .ok db') :
    db'.queueRecords.rows = db.queueRecords.rows ++ [e.queueRow] := by
  obtain ⟨queueRecords, inserted, rest⟩ := found_bind_ok.mp recorded
  rw [← pure_ok.mp rest]
  exact (Table.insert?_some inserted).2

theorem ingestEntry_bound {e : QueueEntry} : Entered e db (ingestions.exec (.inl (.ingestEntry e)) x db).1
    (ingestions.exec (.inl (.ingestEntry e)) x db).2 := by
  show Entered e db (exec (.ingestEntry e) x db).1 (exec (.ingestEntry e) x db).2
  unfold exec
  split
  · exact .refused ⟨rfl, rfl⟩
  show Entered e db (transaction db (ingestEntry e db)).1 (transaction db (ingestEntry e db)).2
  cases outcome : ingestEntry e db with
  | error error => exact .refused ⟨rfl, rfl⟩
  | ok committed =>
    simp only [ingestEntry] at outcome
    split at outcome
    · cases pure_ok.mp outcome
      exact .refused ⟨rfl, rfl⟩
    split at outcome
    · cases pure_ok.mp outcome
      exact .refused ⟨rfl, rfl⟩
    split at outcome
    · obtain ⟨db₁, kept, outcome⟩ := bind_ok.mp outcome
      obtain ⟨db₂, recorded, outcome⟩ := bind_ok.mp outcome
      cases pure_ok.mp outcome
      refine .bound rfl fun fresh => ?_
      rw [fresh] at recorded
      have added := recordLine_row recorded
      rw [pure_ok.mp kept]
      exact added
    · obtain ⟨db₁, created, outcome⟩ := bind_ok.mp outcome
      obtain ⟨db₂, recorded, outcome⟩ := bind_ok.mp outcome
      cases pure_ok.mp outcome
      refine .bound rfl fun fresh => ?_
      rw [fresh] at recorded
      have added := recordLine_row recorded
      rw [← createIngested_queue created]
      exact added

/-! ### What ingestion remembers -/

/-- The rows are numbered from one on, and of one source. -/
structure Consecutive (reader : QueueReader) (db : Db) : Prop where
  numbers : db.queueRecords.rows.map (·.sequence) = List.range' 1 db.queueRecords.rows.length
  source : db.ingest.sourcePath = "" ∨ db.ingest.sourcePath = reader.source

theorem Consecutive.same (consecutive : Consecutive reader db) (same : SameQueue db db') : Consecutive reader db' := by
  constructor
  · rw [same.records]
    exact consecutive.numbers
  · rw [same.source]
    exact consecutive.source

theorem Consecutive.fresh (consecutive : Consecutive reader db) : db.queueRecords.find? (db.queueRecords.rows.length + 1) = none := by
  refine Table.find?_none.mpr fun r member same => ?_
  have listed : r.sequence ∈ List.range' 1 db.queueRecords.rows.length := consecutive.numbers ▸ List.mem_map_of_mem member
  rw [List.mem_range'_1] at listed
  omega

theorem Consecutive.add {row : QueueRecordRow} (consecutive : Consecutive reader db) (next : row.sequence = db.queueRecords.rows.length + 1)
    (added : db'.queueRecords.rows = db.queueRecords.rows ++ [row]) (source : db'.ingest.sourcePath = reader.source) :
    Consecutive reader db' := by
  refine ⟨?_, .inr source⟩
  rw [added, List.map_append, consecutive.numbers, List.map_singleton, next, List.length_append, List.length_singleton,
    List.range'_concat]
  simp [Nat.add_comm]

theorem Consecutive.ordered (consecutive : Consecutive reader db) : inSequence db.queueRecords.rows = db.queueRecords.rows := by
  refine List.Pairwise.insertionSort_eq ?_
  have increasing : (db.queueRecords.rows.map (·.sequence)).Pairwise (· ≤ ·) := by
    rw [consecutive.numbers]
    exact List.pairwise_le_range'
  exact List.pairwise_map.mp increasing

/-! ### Reading -/

open QueueReader

variable {queue : Option (List UInt8)} {rs : List (Record × String)} {rows : List QueueRecordRow}

/-- The rows are of the first records. -/
def Begins (rows : List QueueRecordRow) (rs : List (Record × String)) : Prop :=
  ∃ first rest, rs = first ++ rest ∧ List.Forall₂ SameRecord rows first

theorem begins_iff : Begins rows rs ↔ rows.length ≤ rs.length ∧ ∀ pair ∈ rows.zip rs, SameRecord pair.1 pair.2 := by
  induction rows generalizing rs with
  | nil => exact iff_of_true ⟨[], rs, rfl, .nil⟩ ⟨Nat.zero_le _, nofun⟩
  | cons row rows ih =>
    cases rs with
    | nil =>
      refine iff_of_false ?_ (by simp)
      rintro ⟨first, rest, whole, all⟩
      obtain ⟨rfl, _⟩ := List.append_eq_nil_iff.mp whole.symm
      cases all
    | cons r rs =>
      have behind : Begins (row :: rows) (r :: rs) ↔ SameRecord row r ∧ Begins rows rs := by
        constructor
        · rintro ⟨first, rest, whole, all⟩
          cases all with
          | @cons _ s _ first same all =>
            obtain ⟨rfl, rfl⟩ := List.cons.inj whole
            exact ⟨same, first, rest, rfl, all⟩
        · rintro ⟨same, first, rest, rfl, all⟩
          exact ⟨r :: first, rest, rfl, .cons same all⟩
      rw [behind, ih]
      simp only [List.length_cons, List.zip_cons_cons, List.forall_mem_cons, Nat.add_le_add_iff_right]
      exact and_left_comm

theorem quiet_refuse {α : Type} {reason message : String} :
    All (fun s => s.binds = false) (refuse reason message : Ingestion α) :=
  (all_ask rfl).bind fun _ => all_throw _

theorem quiet_readRecords : All (fun s => s.binds = false) (reader.readRecords queue) := by
  unfold readRecords
  split
  · exact quiet_refuse
  split
  · exact quiet_refuse
  split
  · exact quiet_refuse
  split
  · exact quiet_refuse
  refine (all_ask rfl).bind fun source => ?_
  split
  · exact quiet_refuse
  refine (all_ask rfl).bind fun persisted => ?_
  split
  · exact quiet_refuse
  split
  · exact all_pure _
  · exact quiet_refuse

theorem quiet_store {α : Type} {p : Store α} (quiet : All (fun s => s.ingests = false) p) :
    All (fun s => s.binds = false) (Ingestion.store p) :=
  Program.All.interp_of quiet fun _ apart => all_ask apart

theorem quiet_bindRecord {sequence : Nat} {record : Record} {lineSha : String} :
    All (fun s => s.binds = false) (i.bindRecord sequence record lineSha) := by
  refine (all_lift _).bind fun v => (all_lift _).bind fun signer => (all_ask rfl).bind fun clock => ?_
  refine (quiet_store ?_).bind fun n => all_pure _
  unfold Store.now
  split
  · exact all_pure _
  · exact all_throw _

/-! ### One round -/

variable {record : Record} {lineSha : String} {sequence persistedCount : Nat} {next : Pending IngestStmt}
  {results : List IngestResult} {e : QueueEntry}

/-- The record is bound under the next number. -/
def Appended (reader : QueueReader) (r : Record × String) (db db' : Db) : Prop :=
  ∃ row, row.sequence = db.queueRecords.rows.length + 1 ∧ SameRecord row r ∧
    db'.queueRecords.rows = db.queueRecords.rows ++ [row] ∧ db'.ingest.sourcePath = reader.source

theorem Appended.consecutive {r : Record × String} (appended : Appended reader r db db') (consecutive : Consecutive reader db) : Consecutive reader db' := by
  obtain ⟨row, number, _, added, source⟩ := appended
  exact consecutive.add number added source

theorem bindRecord_entry (returned : ingestions.Returns (i.bindRecord sequence record lineSha) db db' e) :
    e.sequence = sequence ∧ SameRecord e.queueRow (record, lineSha) ∧ e.source = i.source := by
  simp only [DirectiveTaskIngestor.bindRecord, Machine.returns_bind, Machine.returns_lift, Machine.returns_pure] at returned
  obtain ⟨_, v, ⟨_, valid⟩, _, signer, _, _, clock, _, _, n, _, _, rfl⟩ := returned
  simp only [DirectiveTaskIngestor.validate, bind_ok, require_ok, found_ok, pure_ok] at valid
  obtain ⟨id, named, _, _, _, _, _, _, path, _, target, _, _, _, action, _, _, _, capability, _, raw, _, payload, _, _,
    ⟨same, _⟩, _, _, rfl⟩ := valid
  refine ⟨rfl, ⟨rfl, ?_⟩, rfl⟩
  rw [identifier_ok named]
  exact congrArg some same.symm

theorem entered {r : Record × String} (consecutive : Consecutive reader db) (same : SameQueue db db')
    (number : e.sequence = db.queueRecords.rows.length + 1) (row : SameRecord e.queueRow r) (source : e.source = reader.source) {x : Input} :
    SameQueue db (ingestions.exec (.inl (.ingestEntry e)) x db').1 ∧ (∃ error, (ingestions.exec (.inl (.ingestEntry e)) x db').2 = .error error) ∨
      Appended reader r db (ingestions.exec (.inl (.ingestEntry e)) x db').1 := by
  have entry : Entered e db' (ingestions.exec (.inl (.ingestEntry e)) x db').1 (ingestions.exec (.inl (.ingestEntry e)) x db').2 :=
    ingestEntry_bound
  generalize (ingestions.exec (.inl (.ingestEntry e)) x db').1 = db'' at entry ⊢
  generalize (ingestions.exec (.inl (.ingestEntry e)) x db').2 = answer at entry ⊢
  cases entry with
  | refused unchanged => exact .inl ⟨same.trans unchanged, _, rfl⟩
  | bound own added =>
    rw [same.records, number] at added
    exact .inr ⟨e.queueRow, number, row, added consecutive.fresh, own.trans source⟩

theorem Appended.same {r : Record × String} {db'' : Db} (appended : Appended reader r db db') (same : SameQueue db' db'') :
    Appended reader r db db'' := by
  obtain ⟨row, number, row', added, source⟩ := appended
  exact ⟨row, number, row', by rw [same.records, added], by rw [same.source, source]⟩

theorem quiet_reply {e : QueueEntry} (created : Bool) : All (fun s => s.binds = false) (if created then do
    let task ← Ingestion.store (Store.task e.provenance.taskId)
    return [⟨e.provenance.taskId, e.provenance.directiveId, true, task.state⟩]
  else return [] : Ingestion (List IngestResult)) := by
  split
  · refine (quiet_store ?_).bind fun task => all_pure _
    refine (all_ask rfl).bind fun row => ?_
    unfold Store.row
    split
    · exact all_pure _
    · exact all_throw _
  · exact all_pure _

/-- One round binds its record, or nothing. -/
theorem cut_ingestRecord (own : i.toQueueReader = reader) (consecutive : Consecutive reader db) (number : sequence = db.queueRecords.rows.length + 1)
    (cut : ingestions.Cut (i.ingestRecord sequence record lineSha) db db' next) :
    SameQueue db db' ∨ Appended reader (record, lineSha) db db' := by
  subst own
  rcases Machine.cut_bind.mp cut with ⟨st, _, within⟩ | ⟨error, _, raised⟩ | ⟨db₁, e, returned, rest⟩
  · exact .inl (quiet_queue quiet_bindRecord within)
  · exact .inl (quiet_queue quiet_bindRecord raised.stops)
  have same := quiet_queue quiet_bindRecord returned.stops
  obtain ⟨numbered, row, source⟩ := bindRecord_entry returned
  have outcome {x : Input} := entered (x := x) consecutive same (numbered.trans number) row source
  rcases Machine.cut_bind.mp rest with ⟨st, _, within⟩ | ⟨error, _, raised⟩ | ⟨db₂, created, done, last⟩
  · rcases Machine.cut_ask.mp within with ⟨rfl, _⟩ | ⟨_, x, ran⟩
    · exact .inl same
    · rw [← ran]
      exact outcome.imp_left (·.1)
  · obtain ⟨x, ran⟩ := Machine.raises_ask.mp raised
    rw [← (Prod.mk.inj ran).1]
    exact outcome.imp_left (·.1)
  · obtain ⟨x, ran⟩ := Machine.returns_ask.mp done
    have after := quiet_queue (quiet_reply created) last
    rcases outcome with ⟨_, error, impossible⟩ | appended
    · rw [ran] at impossible
      cases impossible
    · rw [ran] at appended
      exact .inr (appended.same after)

theorem returns_ingestRecord (own : i.toQueueReader = reader) (consecutive : Consecutive reader db) (number : sequence = db.queueRecords.rows.length + 1)
    (returned : ingestions.Returns (i.ingestRecord sequence record lineSha) db db' results) :
    Appended reader (record, lineSha) db db' := by
  subst own
  obtain ⟨db₁, e, first, rest⟩ := Machine.returns_bind.mp returned
  obtain ⟨db₂, created, done, last⟩ := Machine.returns_bind.mp rest
  obtain ⟨numbered, row, source⟩ := bindRecord_entry first
  obtain ⟨x, ran⟩ := Machine.returns_ask.mp done
  have after := quiet_queue (quiet_reply created) last.stops
  rcases entered (x := x) consecutive (quiet_queue quiet_bindRecord first.stops) (numbered.trans number) row source with
    ⟨_, error, impossible⟩ | appended
  · rw [ran] at impossible
    cases impossible
  · rw [ran] at appended
    exact appended.same after

/-! ### A whole call -/

/-- Where the loop stands: the records before this one are bound, or were bound before. -/
structure Standing (persistedCount sequence : Nat) (db : Db) : Prop where
  before : sequence ≤ persistedCount → db.queueRecords.rows.length = persistedCount
  here : persistedCount < sequence → db.queueRecords.rows.length + 1 = sequence

theorem Standing.skip (standing : Standing persistedCount sequence db) (before : sequence ≤ persistedCount) :
    Standing persistedCount (sequence + 1) db := by
  have length := standing.before before
  exact ⟨fun _ => length, fun _ => by omega⟩

theorem Standing.append {r : Record × String} (standing : Standing persistedCount sequence db) (here : persistedCount < sequence)
    (appended : Appended reader r db db') : Standing persistedCount (sequence + 1) db' := by
  obtain ⟨row, _, _, added, _⟩ := appended
  have length := standing.here here
  have grown : db'.queueRecords.rows.length = db.queueRecords.rows.length + 1 := by
    rw [added, List.length_append, List.length_singleton]
  exact ⟨fun _ => by omega, fun _ => by omega⟩

theorem cut_ingestFrom (own : i.toQueueReader = reader) (consecutive : Consecutive reader db) (standing : Standing persistedCount sequence db)
    (cut : ingestions.Cut (i.ingestFrom persistedCount sequence rs) db db' next) : Consecutive reader db' := by
  induction rs generalizing sequence db next with
  | nil =>
    obtain ⟨rfl, _⟩ := cut
    exact consecutive
  | cons r rest ih =>
    unfold DirectiveTaskIngestor.ingestFrom at cut
    split at cut
    · rename_i before
      exact ih consecutive (standing.skip before) cut
    · rename_i after
      have here := Nat.lt_of_not_le after
      have number := (standing.here here).symm
      have one {db₁ next} (within : ingestions.Cut (i.ingestRecord sequence r.1 r.2) db db₁ next) : Consecutive reader db₁ := by
        rcases cut_ingestRecord own consecutive number within with same | appended
        · exact consecutive.same same
        · exact appended.consecutive consecutive
      rcases Machine.cut_bind.mp cut with ⟨st, _, within⟩ | ⟨error, _, raised⟩ | ⟨db₁, result, returned, later⟩
      · exact one within
      · exact one raised.stops
      · have appended := returns_ingestRecord own consecutive number returned
        have behind {next : Pending IngestStmt} (within : ingestions.Cut (i.ingestFrom persistedCount (sequence + 1) rest) db₁ db' next) :
            Consecutive reader db' := ih (appended.consecutive consecutive) (standing.append here appended) within
        rcases Machine.cut_bind.mp later with ⟨st, _, within⟩ | ⟨error, _, raised⟩ | ⟨db₂, others, returned', last⟩
        · exact behind within
        · exact behind raised.stops
        · obtain ⟨rfl, _⟩ := last
          exact behind returned'.stops

theorem Begins.full {done : List (Record × String)} (matched : Begins rows (done ++ rs)) (length : rows.length = done.length) :
    List.Forall₂ SameRecord rows done := by
  obtain ⟨first, rest, whole, all⟩ := matched
  obtain ⟨rfl, _⟩ := List.append_inj whole (length.symm.trans all.length_eq)
  exact all

/-- A loop that comes to its end has bound every record. -/
theorem returns_ingestFrom {done : List (Record × String)} (own : i.toQueueReader = reader) (consecutive : Consecutive reader db)
    (standing : Standing persistedCount sequence db) (number : sequence = done.length + 1)
    (matched : Begins db.queueRecords.rows (done ++ rs))
    (returned : ingestions.Returns (i.ingestFrom persistedCount sequence rs) db db' results) :
    List.Forall₂ SameRecord db'.queueRecords.rows (done ++ rs) := by
  induction rs generalizing sequence db done results with
  | nil =>
    obtain ⟨rfl, _⟩ := Machine.returns_pure.mp returned
    have length : db'.queueRecords.rows.length = done.length := by
      have below := (begins_iff.mp matched).1
      rw [List.append_nil] at below
      by_cases before : sequence ≤ persistedCount
      · have full := standing.before before
        omega
      · have here := standing.here (Nat.lt_of_not_le before)
        omega
    rw [List.append_nil]
    exact matched.full length
  | cons r rest ih =>
    have whole : done ++ r :: rest = done ++ [r] ++ rest := (List.append_cons done r rest)
    have longer : sequence + 1 = (done ++ [r]).length + 1 := by
      rw [number, List.length_append, List.length_singleton]
    unfold DirectiveTaskIngestor.ingestFrom at returned
    split at returned
    · rename_i before
      rw [whole] at matched ⊢
      exact ih consecutive (standing.skip before) longer matched returned
    · rename_i after
      have here := Nat.lt_of_not_le after
      have length := standing.here here
      obtain ⟨db₁, result, first, later⟩ := Machine.returns_bind.mp returned
      obtain ⟨db₂, others, behind, last⟩ := Machine.returns_bind.mp later
      obtain ⟨rfl, _⟩ := Machine.returns_pure.mp last
      have appended := returns_ingestRecord own consecutive length.symm first
      have bound : List.Forall₂ SameRecord db₁.queueRecords.rows (done ++ [r]) := by
        obtain ⟨row, _, same, added, _⟩ := appended
        rw [added]
        exact List.rel_append (matched.full (by omega)) (.cons same .nil)
      rw [whole]
      exact ih (appended.consecutive consecutive) (standing.append here appended) longer ⟨_, rest, rfl, bound⟩ behind

theorem returns_query {α : Type} {s : QueueStmt α} {a : α} :
    ingestions.Returns (query s) db db' a ↔ db' = db ∧ a = s.read db := by
  refine Machine.returns_ask.trans ⟨?_, ?_⟩
  · rintro ⟨x, ran⟩
    change (if x.busy then _ else _ : Db × Answer α) = _ at ran
    split at ran
    · cases ran
    · cases ran
      exact ⟨rfl, rfl⟩
  · rintro ⟨rfl, rfl⟩
    exact ⟨{}, rfl⟩

theorem raises_query {α : Type} {s : QueueStmt α} {error : Err} (raised : ingestions.Raises (query s) db db' error) :
    error = .operational := by
  obtain ⟨x, ran⟩ := Machine.raises_ask.mp raised
  change (if x.busy then _ else _ : Db × Answer α) = _ at ran
  split at ran
  · cases ran
    rfl
  · cases ran

theorem raises_refuse {α : Type} {reason message text : String} :
    (∃ db', ingestions.Raises (refuse reason message : Ingestion α) db db' (.integrityBlocked text)) ↔ text = message := by
  constructor
  · rintro ⟨db', raised⟩
    rcases Machine.raises_bind.mp raised with first | ⟨db₁, _, _, last⟩
    · obtain ⟨x, ran⟩ := Machine.raises_ask.mp first
      change exec (.blockSource reason) x db = _ at ran
      unfold exec at ran
      split at ran
      · cases ran
      · cases ran
    · obtain ⟨_, same⟩ := Machine.raises_throw.mp last
      exact Err.integrityBlocked.inj same
  · rintro rfl
    exact ⟨_, Machine.raises_bind.mpr (.inr ⟨_, (), Machine.returns_ask.mpr ⟨{}, rfl⟩, Machine.raises_throw.mpr ⟨rfl, rfl⟩⟩)⟩

theorem returns_readRecords {raw : List UInt8} (returned : ingestions.Returns (reader.readRecords (some raw)) db db' rs) :
    db' = db ∧ reader.records (keptLines raw) = .ok rs ∧ Begins (inSequence db.queueRecords.rows) rs := by
  have refused {reason message : String} {db : Db} (gone : ingestions.Returns (refuse reason message) db db' rs) : False := by
    obtain ⟨_, _, _, last⟩ := Machine.returns_bind.mp gone
    exact Machine.returns_throw last
  unfold readRecords at returned
  dsimp only at returned
  split at returned
  · exact (refused returned).elim
  split at returned
  · exact (refused returned).elim
  split at returned
  · exact (refused returned).elim
  rename_i records read
  obtain ⟨db₁, source, first, behind⟩ := Machine.returns_bind.mp returned
  obtain ⟨rfl, _⟩ := returns_query.mp first
  split at behind
  · exact (refused behind).elim
  obtain ⟨db₂, persisted, second, last⟩ := Machine.returns_bind.mp behind
  obtain ⟨rfl, rfl⟩ := returns_query.mp second
  split at last
  · exact (refused last).elim
  rename_i enough
  split at last
  · rename_i all
    obtain ⟨rfl, rfl⟩ := Machine.returns_pure.mp last
    exact ⟨rfl, read, begins_iff.mpr ⟨Nat.le_of_not_lt enough, all⟩⟩
  · exact (refused last).elim

/-- When the reader says that the history has changed. -/
theorem changed_iff {raw : List UInt8} (within : Within raw) (consecutive : Consecutive reader db) (read : reader.records (keptLines raw) = .ok rs)
    (enough : db.queueRecords.rows.length ≤ rs.length) :
    (∃ db', ingestions.Raises (reader.readRecords (some raw)) db db' (.integrityBlocked "queue history changed")) ↔
      ¬ Begins db.queueRecords.rows rs := by
  have sameSource : ¬ (db.ingest.sourcePath ≠ "" ∧ db.ingest.sourcePath ≠ reader.source) := by
    rintro ⟨some, other⟩
    exact consecutive.source.elim some other
  have reduced : (∃ db', ingestions.Raises (reader.readRecords (some raw)) db db' (.integrityBlocked "queue history changed")) ↔
      ∃ db', ingestions.Raises (if ∀ pair ∈ db.queueRecords.rows.zip rs, SameRecord pair.1 pair.2 then return rs
        else refuse "QUEUE_REWRITE_OR_REORDER" "queue history changed" : Ingestion (List (Record × String))) db db'
        (.integrityBlocked "queue history changed") := by
    refine exists_congr fun db' => ?_
    unfold readRecords
    dsimp only
    rw [if_neg (Nat.not_lt.mpr within.bytes), if_neg (Nat.not_lt.mpr within.lines), read]
    dsimp only
    constructor
    · intro raised
      rcases Machine.raises_bind.mp raised with first | ⟨db₁, source, first, raised⟩
      · cases raises_query first
      obtain ⟨rfl, rfl⟩ := returns_query.mp first
      rw [if_neg (show ¬ (QueueStmt.selectSource.read db₁ ≠ "" ∧ QueueStmt.selectSource.read db₁ ≠ reader.source) from sameSource)] at raised
      rcases Machine.raises_bind.mp raised with second | ⟨db₂, persisted, second, raised⟩
      · cases raises_query second
      obtain ⟨rfl, rfl⟩ := returns_query.mp second
      rw [show QueueStmt.selectRecords.read db₂ = db₂.queueRecords.rows from consecutive.ordered, if_neg (Nat.not_lt.mpr enough)] at raised
      exact raised
    · intro raised
      refine Machine.raises_bind.mpr (.inr ⟨db, _, returns_query.mpr ⟨rfl, rfl⟩, ?_⟩)
      rw [if_neg (show ¬ (QueueStmt.selectSource.read db ≠ "" ∧ QueueStmt.selectSource.read db ≠ reader.source) from sameSource)]
      refine Machine.raises_bind.mpr (.inr ⟨db, _, returns_query.mpr ⟨rfl, rfl⟩, ?_⟩)
      rw [show QueueStmt.selectRecords.read db = db.queueRecords.rows from consecutive.ordered, if_neg (Nat.not_lt.mpr enough)]
      exact raised
  rw [reduced, begins_iff]
  by_cases all : ∀ pair ∈ db.queueRecords.rows.zip rs, SameRecord pair.1 pair.2
  · refine iff_of_false ?_ (not_not.mpr ⟨enough, all⟩)
    rintro ⟨db', raised⟩
    rw [if_pos all] at raised
    exact Machine.raises_pure raised
  · simp only [if_neg all]
    exact iff_of_true (raises_refuse.mpr rfl) fun both => all both.2

/-! ### The history -/

/-- Where the loop begins. -/
theorem Standing.start (db : Db) : Standing db.queueRecords.rows.length 1 db :=
  ⟨fun _ => rfl, fun none => by omega⟩

theorem step_consecutive {event : IngestEvent} (step : IngestStep reader db event db') (consecutive : Consecutive reader db) : Consecutive reader db' := by
  have called {i : DirectiveTaskIngestor} {queue : Option (List UInt8)} {next : Pending IngestStmt} (own : i.toQueueReader = reader)
      (cut : ingestions.Cut (i.ingest queue) db db' next) : Consecutive reader db' := by
    subst own
    rcases Machine.cut_bind.mp cut with ⟨st, _, within⟩ | ⟨error, _, raised⟩ | ⟨db₁, rs, read, later⟩
    · exact consecutive.same (quiet_queue quiet_readRecords within)
    · exact consecutive.same (quiet_queue quiet_readRecords raised.stops)
    have same := quiet_queue quiet_readRecords read.stops
    rcases Machine.cut_bind.mp later with ⟨st, _, within⟩ | ⟨error, _, raised⟩ | ⟨db₂, count, counted, last⟩
    · exact consecutive.same (same.trans (quiet_queue (all_ask rfl) within))
    · exact consecutive.same (same.trans (quiet_queue (all_ask rfl) raised.stops))
    obtain ⟨rfl, rfl⟩ := returns_query.mp counted
    exact cut_ingestFrom rfl (consecutive.same same) (Standing.start _) last
  cases step with
  | ingest own ends => exact called own ends.stops
  | crash own cut => exact called own cut
  | other apart x => exact consecutive.same (perform_queue apart x db)

/-- A step that reads no queue leaves what is remembered alone. -/
theorem step_other {event : IngestEvent} (step : IngestStep reader db event db') (quiet : ¬ event.reads) : SameQueue db db' := by
  cases step with
  | ingest => exact (quiet trivial).elim
  | crash => exact (quiet trivial).elim
  | other apart x => exact perform_queue apart x db

/-- A queue that was ingested to its end is remembered whole. -/
theorem returns_ingest {raw : List UInt8} (own : i.toQueueReader = reader) (consecutive : Consecutive reader db)
    (returned : ingestions.Returns (i.ingest (some raw)) db db' results) :
    ∃ rs, reader.records (keptLines raw) = .ok rs ∧ List.Forall₂ SameRecord db'.queueRecords.rows rs := by
  subst own
  obtain ⟨db₁, rs, first, later⟩ := Machine.returns_bind.mp returned
  obtain ⟨rfl, read, matched⟩ := returns_readRecords first
  obtain ⟨db₂, count, counted, last⟩ := Machine.returns_bind.mp later
  obtain ⟨rfl, rfl⟩ := returns_query.mp counted
  rw [consecutive.ordered] at matched
  have none : 1 = ([] : List (Record × String)).length + 1 := rfl
  exact ⟨rs, read, returns_ingestFrom rfl consecutive (Standing.start _) none matched last⟩

/-! ### More bytes -/

variable {q s line : List UInt8} {lines front : List (List UInt8)}

theorem records_cons : reader.records (line :: lines) = .ok rs ↔
    ∃ first rest, reader.recordOf line = .ok first ∧ reader.records lines = .ok rest ∧ rs = first ++ rest := by
  simp only [records, bind_ok, pure_ok, eq_comm (a := rs), exists_and_left]

theorem records_append : reader.records (front ++ lines) = .ok rs ↔
    ∃ first rest, reader.records front = .ok first ∧ reader.records lines = .ok rest ∧ rs = first ++ rest := by
  induction front generalizing rs with
  | nil =>
    constructor
    · exact fun read => ⟨[], rs, rfl, read, rfl⟩
    · rintro ⟨first, rest, none, read, rfl⟩
      cases none
      exact read
  | cons line front ih =>
    rw [List.cons_append, records_cons]
    constructor
    · rintro ⟨first, _, one, later, rfl⟩
      obtain ⟨middle, rest, here, behind, rfl⟩ := ih.mp later
      exact ⟨first ++ middle, rest, records_cons.mpr ⟨first, middle, one, here, rfl⟩, behind, (List.append_assoc _ _ _).symm⟩
    · rintro ⟨_, rest, both, behind, rfl⟩
      obtain ⟨first, middle, one, here, rfl⟩ := records_cons.mp both
      exact ⟨first, middle ++ rest, one, ih.mpr ⟨middle, rest, here, behind, rfl⟩, List.append_assoc _ _ _⟩

/-- What one line gives. -/
theorem recordOf_ok (read : reader.recordOf line = .ok rs) : isBlankLine line = true ∧ rs = [] ∨
    isBlankLine line = false ∧ ∃ record, reader.loadsLine line = some (.dict record) ∧ rs = [(record, reader.sha line)] := by
  unfold recordOf at read
  split at read
  · rename_i blank
    cases read
    exact .inl ⟨blank, rfl⟩
  rename_i solid
  split at read
  · cases read
  split at read
  · cases read
  · rename_i record loaded
    cases read
    exact .inr ⟨Bool.eq_false_iff.mpr solid, record, loaded, rfl⟩
  · cases read

theorem records_objects (good : ∀ line ∈ lines, isBlankLine line = false → line.length ≤ maxRecordBytes ∧
    ∃ record, reader.loadsLine line = some (.dict record)) : ∃ rs, reader.records lines = .ok rs := by
  induction lines with
  | nil => exact ⟨[], rfl⟩
  | cons line lines ih =>
    obtain ⟨here, later⟩ := List.forall_mem_cons.mp good
    obtain ⟨rest, behind⟩ := ih later
    have one : ∃ first, reader.recordOf line = .ok first := by
      unfold recordOf
      by_cases blank : isBlankLine line = true
      · exact ⟨[], if_pos blank⟩
      · obtain ⟨short, record, loaded⟩ := here (Bool.eq_false_iff.mpr blank)
        rw [if_neg blank, if_neg (Nat.not_lt.mpr short), loaded]
        exact ⟨_, rfl⟩
    obtain ⟨first, one⟩ := one
    exact ⟨first ++ rest, records_cons.mpr ⟨first, rest, one, behind, rfl⟩⟩

theorem begins_next {row : QueueRecordRow} {r : Record × String} {first rest : List (Record × String)}
    (before : List.Forall₂ SameRecord rows first) : Begins (rows ++ [row]) (first ++ r :: rest) ↔ SameRecord row r := by
  have all : ∀ pair ∈ rows.zip first, SameRecord pair.1 pair.2 := fun pair member => List.forall₂_zip before member
  have length : (rows ++ [row]).length ≤ (first ++ r :: rest).length := by
    rw [List.length_append, List.length_append, before.length_eq, List.length_cons, List.length_cons]
    exact Nat.add_le_add_left (Nat.succ_le_succ (Nat.zero_le _)) _
  rw [begins_iff, List.zip_append before.length_eq, List.forall_mem_append, List.zip_cons_cons, List.zip_nil_left,
    List.forall_mem_singleton]
  exact ⟨fun both => both.2.2, fun same => ⟨length, all, same⟩⟩

theorem split_forall₂ {first last : List (Record × String)} (all : List.Forall₂ SameRecord rows (first ++ last)) :
    ∃ front back, List.Forall₂ SameRecord front first ∧ List.Forall₂ SameRecord back last ∧ rows = front ++ back :=
  ⟨_, _, List.forall₂_take_append _ _ _ all, List.forall₂_drop_append _ _ _ all, (List.take_append_drop _ _).symm⟩

/-- What is remembered of a queue still holds of a longer one, when the last line is remembered as it was. -/
theorem begins_longer {rs' : List (Record × String)} (read : reader.records (keptLines q) = .ok rs)
    (read' : reader.records (keptLines (q ++ s)) = .ok rs') (remembered : List.Forall₂ SameRecord rows rs) :
    rs.length ≤ rs'.length ∧ (Begins rows rs' ↔ (Lengthens q s → LastBlank q ∨ reader.Collides q s)) := by
  rcases List.eq_nil_or_concat (keptLines q) with none | ⟨front, last, split⟩
  · rw [none] at read
    cases read
    cases remembered
    refine ⟨Nat.zero_le _, iff_of_true ⟨[], rs', rfl, .nil⟩ fun _ => .inl fun last found => ?_⟩
    rw [none] at found
    cases found
  rw [List.concat_eq_append] at split
  obtain ⟨more, behind, grown, longer⟩ := keptLines_more split s
  rw [split] at read
  rw [grown] at read'
  obtain ⟨first, rl, readFront, readLast, rfl⟩ := records_append.mp read
  obtain ⟨first', _, readFront', readMore, rfl⟩ := records_append.mp read'
  cases readFront.symm.trans readFront'
  obtain ⟨rm, rest, readLine, _, rfl⟩ := records_cons.mp readMore
  obtain ⟨_, _, readOne, readNil, rfl⟩ := records_cons.mp readLast
  cases readNil
  have atEnd : (keptLines q).getLast? = some last := by rw [split, List.getLast?_concat]
  have atPlace : (keptLines (q ++ s))[(keptLines q).length - 1]? = some (last ++ more) := by
    rw [grown, split, List.length_append, List.length_singleton, Nat.add_sub_cancel, List.getElem?_append_right le_rfl, Nat.sub_self,
      List.getElem?_cons_zero]
  rcases recordOf_ok readOne with ⟨blank, rfl⟩ | ⟨solid, record, loaded, rfl⟩
  · refine ⟨by simp, iff_of_true ⟨first, rm ++ rest, rfl, by simpa using remembered⟩ fun _ => .inl fun line found => ?_⟩
    cases atEnd.symm.trans found
    exact blank
  rcases recordOf_ok readLine with ⟨blank, _⟩ | ⟨_, record', loaded', rfl⟩
  · rw [isBlankLine_append solid] at blank
    cases blank
  obtain ⟨rowsFront, rowsLast, bound, boundLast, rfl⟩ := split_forall₂ remembered
  obtain ⟨row, rfl, hash, named⟩ : ∃ row, rowsLast = [row] ∧ row.lineSha256 = reader.sha last ∧
      (Record.field record "directive_id").str? = some row.directiveId := by
    cases boundLast with
    | @cons row _ _ _ same none =>
      cases none
      exact ⟨row, rfl, same.1, same.2⟩
  rw [List.singleton_append (l := rest), begins_next bound]
  have same : SameRecord row (record', reader.sha (last ++ more)) ↔ reader.remembered (last ++ more) = reader.remembered last := by
    unfold QueueReader.remembered SameRecord
    rw [loaded, loaded', hash, Prod.mk.injEq]
    refine and_congr eq_comm ?_
    rw [← named]
    exact Iff.rfl
  refine ⟨by simp, same.trans ⟨?_, ?_⟩⟩
  · intro kept _
    refine .inr fun line line' found found' => ?_
    cases atEnd.symm.trans found
    cases atPlace.symm.trans found'
    exact kept
  · intro promised
    by_cases lengthens : Lengthens q s
    · rcases promised lengthens with blank | collides
      · rw [blank last atEnd] at solid
        cases solid
      · exact collides last _ atEnd atPlace
    · have none : more = [] := not_not.mp (mt longer.mp lengthens)
      rw [none, List.append_nil]

theorem consecutive_history {past : List (Transition Db IngestEvent)} (history : IngestHistory reader .empty past db) : Consecutive reader db :=
  (history.invariant (I := Consecutive reader) ⟨rfl, .inl rfl⟩ fun u member => step_consecutive (history.moved u member)).1

/-- After any rounds, crashes and statements of other clients: once a queue was ingested to its end,
a longer one is taken for a changed history unless no line that was remembered has become another. -/
theorem appended_queue_iff {later earlier : List (Transition Db IngestEvent)} {t : Transition Db IngestEvent}
    (history : IngestHistory reader .empty (later ++ t :: earlier) db) (ingested : t.label = .ingest (some q) (.ok results))
    (since : ∀ u ∈ later, ¬ u.label.reads) (within : Within (q ++ s)) (objects : reader.Objects (q ++ s)) :
    (¬ ∃ db', ingestions.Raises (reader.readRecords (some (q ++ s))) db db' (.integrityBlocked "queue history changed")) ↔
      (Lengthens q s → LastBlank q ∨ reader.Collides q s) := by
  obtain ⟨before, step⟩ := history.upTo
  have consecutive := consecutive_history history
  have remembered : ∃ rs, reader.records (keptLines q) = .ok rs ∧ List.Forall₂ SameRecord t.after.queueRecords.rows rs := by
    rw [ingested] at step
    cases step with
    | ingest own ends => exact returns_ingest own (consecutive_history before) ends
  have same : SameQueue t.after db := by
    refine (history.ever_after (I := SameQueue t.after) ⟨rfl, rfl⟩ fun u member here => here.trans ?_).1
    exact step_other (history.moved u (List.mem_append_left _ member)) (since u member)
  obtain ⟨rs, read, bound⟩ := remembered
  rw [← same.records] at bound
  obtain ⟨rs', read'⟩ := records_objects fun line member solid => ⟨within.line line member solid, objects line member solid⟩
  obtain ⟨longer, matched⟩ := begins_longer read read' bound
  rw [changed_iff within consecutive read' (bound.length_eq ▸ longer), not_not, matched]

end

namespace Queued

def commit : String := "3f786850e387550fdab836ed7e6dc881de23001b"
def blob : String := "89e6c98d92887913cadf06b2adb97f26cde4849b"
def payloadSha : String := "44136fa355b3678a1146ad16f7e8649e94fb4fc21fe77e8310c060f61caaff8a"
def key : String := "c8bdc4dc97d7a6871efc95d63ff93c088aab8584035dee5e2ca13646c387ebc2"

/-- The payload of the record. -/
def payload : Record :=
  [("directive_id", .str "D-1"), ("target_project", .str "LAB"), ("action_type", .str "NO_OP"), ("requires_human_approval", .bool false)]

/-- A record that is ready, with its payload. -/
def record : Record :=
  [("directive_id", .str "D-1"), ("queue_state", .str "READY_FOR_FUTURE_EXECUTOR"), ("readback_verified", .bool true),
   ("executed", .bool false), ("directive_source_sha", .str commit), ("directive_blob_sha", .str blob),
   ("directive_payload_sha256", .str payloadSha), ("idempotency_key", .str key),
   ("directive_source_path", .str "directives/inbox/D-1.json"), ("target_project", .str "LAB"), ("action_type", .str "NO_OP"),
   ("directive_payload", .dict payload),
   ("requires_human_approval", .bool false), ("signer_identity", .str "ops")]

/-- The digests of the line, without and with its newline, and of what is hashed beside it. -/
def digestOf (data : ByteArray) : String :=
  match data.data.toList.head? with
  | some 123 =>
    if data.data.toList.getLast? = some 10 then "20cb3b1d655f4fbdd22ddb6786f733f2ee0503a35c06cbc1f91f5cc2b8fd0e72"
    else "3da61c3bdb8e0045a068126f6bf9039f222606ddb43ac73d67b9d4e4d5232298"
  | some 68 => key
  | _ => "7fe02f62f28c70fe72ef56ecc48b2796ddfc0bd5cdd207dd610162869cf8cc77"

theorem digestOf_digest (data : ByteArray) : isDigest (digestOf data) = true := by
  have spelled : ∃ cs : List Char, digestOf data = String.ofList cs ∧
      (cs.length = 64 && cs.all fun c => c.isDigit || ('a' ≤ c && c ≤ 'f')) = true := by
    unfold digestOf
    split
    · split
      · exact ⟨_, rfl, by decide⟩
      · exact ⟨_, rfl, by decide⟩
    · exact ⟨_, rfl, by decide⟩
    · exact ⟨_, rfl, by decide⟩
  obtain ⟨cs, spelled, hex⟩ := spelled
  rw [isDigest, spelled, String.toList_ofList]
  exact hex

/-- They are digests, and end an identifier. -/
theorem digestOf_checked (data : ByteArray) :
    isDigest (digestOf data) = true ∧ isIdentifier ("af04-" ++ digestOf data) = true := by
  have opens : "af04-".toList = 'a' :: "f04-".toList := by decide
  exact ⟨digestOf_digest data, isIdentifier_digest opens (by decide) (by decide) (by decide) (digestOf_digest data)⟩

def ingestor : DirectiveTaskIngestor where
  host := Directive.sampleHost
  platform := ⟨digestOf, fun data => (digestOf_checked data).1, fun _ => none⟩
  source := "/queue/directives.jsonl"
  verifier := some fun payload envelope _ => .ok <| some ⟨"AUTHENTIC", payload.requiresHumanApproval,
    [("signer_identity", .str "ops"), ("signature_valid", .bool true), ("signer_allowed", .bool true),
     ("remote_ancestry_verified", .bool true), ("payload_commit_sha", .str envelope.payloadCommitSha),
     ("payload_blob_sha", .str envelope.payloadBlobSha), ("payload_sha256", .str envelope.payloadSha256)]⟩
  supportedTargets := ["LAB"]

/-- The line of the record, without its end. -/
@[irreducible] def line : List UInt8 := recordBytes Json.ratioFloats record

/-- What is computed about the record and its line. -/
structure Facts : Type where
  short : line.length ≤ 1000
  hashed : ingestor.hashOf record "directive_source_sha" = commit ∧ ingestor.hashOf record "directive_blob_sha" = blob ∧
    ingestor.hashOf record "directive_payload_sha256" = payloadSha
  hexadecimal : DirectiveTaskIngestor.isLowerHex 40 commit ∧ DirectiveTaskIngestor.isLowerHex 40 blob ∧
    DirectiveTaskIngestor.isLowerHex 64 payloadSha
  keyed : some key = some (ingestor.platform.sha256 s!"D-1:{commit}:{payloadSha}".toUTF8)
  plain : "directives/inbox/D-1.json".toList.all (fun c => c ≠ '\\' ∧ ¬ c.toNat < 32)
  relative : "directives/inbox/D-1.json".toList.head? ≠ some '/'
  parts : pathParts "directives/inbox/D-1.json" = ["directives", "inbox", "D-1.json"]
  named : isIdentifier "D-1.json" ∧ ".json".toList.isSuffixOf "D-1.json".toList
  allowed : "NO_OP" ∉ prohibitedActions
  distinct : "20cb3b1d655f4fbdd22ddb6786f733f2ee0503a35c06cbc1f91f5cc2b8fd0e72" ≠
    "3da61c3bdb8e0045a068126f6bf9039f222606ddb43ac73d67b9d4e4d5232298"

theorem line_short : line.length ≤ 1000 := by
  rw [line, recordBytes, List.length_map]
  have spelled : record =
      [(String.ofList _, .str (String.ofList _)), (String.ofList _, .str (String.ofList _)), (String.ofList _, .bool true),
       (String.ofList _, .bool false), (String.ofList _, .str (String.ofList _)), (String.ofList _, .str (String.ofList _)),
       (String.ofList _, .str (String.ofList _)), (String.ofList _, .str (String.ofList _)), (String.ofList _, .str (String.ofList _)),
       (String.ofList _, .str (String.ofList _)), (String.ofList _, .str (String.ofList _)),
       (String.ofList _, .dict [(String.ofList _, .str (String.ofList _)), (String.ofList _, .str (String.ofList _)),
         (String.ofList _, .str (String.ofList _)), (String.ofList _, .bool false)]),
       (String.ofList _, .bool false), (String.ofList _, .str (String.ofList _))] := rfl
  rw [spelled]
  simp only [Json.lineOf, Json.text, Json.entryTexts, Json.quote, String.toList_ofList]
  decide +kernel

theorem record_hashes :
    ingestor.hashOf record "directive_source_sha" = commit ∧ ingestor.hashOf record "directive_blob_sha" = blob ∧
      ingestor.hashOf record "directive_payload_sha256" = payloadSha := by
  have commits : ingestor.hashOf record "directive_source_sha" = lower commit := rfl
  have blobs : ingestor.hashOf record "directive_blob_sha" = lower blob := rfl
  have payloads : ingestor.hashOf record "directive_payload_sha256" = lower payloadSha := rfl
  rw [commits, blobs, payloads]
  unfold lower
  rw [show commit = String.ofList _ from rfl, show blob = String.ofList _ from rfl, show payloadSha = String.ofList _ from rfl]
  simp only [String.toList_ofList, String.ofList_inj]
  decide

theorem record_hexadecimal : DirectiveTaskIngestor.isLowerHex 40 commit ∧ DirectiveTaskIngestor.isLowerHex 40 blob ∧
    DirectiveTaskIngestor.isLowerHex 64 payloadSha := by
  unfold DirectiveTaskIngestor.isLowerHex
  rw [show commit = String.ofList _ from rfl, show blob = String.ofList _ from rfl, show payloadSha = String.ofList _ from rfl]
  simp only [String.toList_ofList]
  decide

def facts : Facts where
  short := line_short
  hashed := record_hashes
  hexadecimal := record_hexadecimal
  keyed := by decide +kernel
  plain := by decide +kernel
  relative := by decide +kernel
  parts := by decide +kernel
  named := by decide +kernel
  allowed := by decide +kernel
  distinct := by decide +kernel

theorem unbroken : Unbroken line := by
  rw [line]
  exact recordBytes_unbroken

theorem opens : ∃ rest, line = 123 :: rest := by
  rw [line]
  exact recordBytes_opens

theorem keyed : Json.Keyed (.dict record) := by
  simp [Json.Keyed, Json.EntriesKeyed, record, payload, Dict.Distinct, Dict.keys]

theorem not_blank (more : List UInt8) : isBlankLine (line ++ more) = false := by
  obtain ⟨rest, opens⟩ := opens
  rw [isBlankLine_eq, opens]
  rfl

theorem loads_line : ingestor.loadsLine line = some (.dict record) := by
  unfold QueueReader.loadsLine
  rw [rstripBreaks_unbroken unbroken, line]
  exact loads_recordBytes keyed

theorem loads_ended : ingestor.loadsLine (line ++ [10]) = some (.dict record) := by
  unfold QueueReader.loadsLine
  rw [rstripBreaks_newline unbroken, line]
  exact loads_recordBytes keyed

theorem digestOf_line {rest : List UInt8} (open' : line = 123 :: rest) (more : List UInt8) : digestOf ⟨(line ++ more).toArray⟩ =
    if (line ++ more).getLast? = some 10 then "20cb3b1d655f4fbdd22ddb6786f733f2ee0503a35c06cbc1f91f5cc2b8fd0e72"
    else "3da61c3bdb8e0045a068126f6bf9039f222606ddb43ac73d67b9d4e4d5232298" := by
  have first : (line ++ more).head? = some 123 := by
    rw [open']
    rfl
  unfold digestOf
  simp only [first]

theorem sha_digestOf (l : List UInt8) : ingestor.sha l = digestOf ⟨l.toArray⟩ := rfl

theorem sha_line : ingestor.sha line = "3da61c3bdb8e0045a068126f6bf9039f222606ddb43ac73d67b9d4e4d5232298" := by
  obtain ⟨rest, opens⟩ := opens
  have last : line.getLast? ≠ some 10 := fun ends => (unbroken 10 (List.mem_of_getLast? ends)).1 rfl
  have digest := digestOf_line opens []
  rw [List.append_nil, if_neg last] at digest
  rw [sha_digestOf, digest]

theorem sha_ended : ingestor.sha (line ++ [10]) = "20cb3b1d655f4fbdd22ddb6786f733f2ee0503a35c06cbc1f91f5cc2b8fd0e72" := by
  obtain ⟨rest, opens⟩ := opens
  have digest := digestOf_line opens [10]
  rw [if_pos List.getLast?_concat] at digest
  rw [sha_digestOf, digest]

theorem placed : ∃ path, DirectiveTaskIngestor.sourcePath (.str "directives/inbox/D-1.json") = .ok path := by
  refine ⟨asPosix ["directives", "inbox", "D-1.json"], ?_⟩
  simp only [DirectiveTaskIngestor.sourcePath, bind_ok, require_ok, found_ok, exists_const]
  refine ⟨_, rfl, facts.plain, facts.relative, ?_⟩
  rw [facts.parts]
  simp only [bind_ok, require_ok, pure_ok, exists_const]
  exact ⟨facts.named, trivial⟩

theorem parsed : ∃ p, ingestor.parsePayload payload = .ok p ∧
    (p.directiveId = "D-1" ∧ p.targetProject = "LAB" ∧ p.actionType = "NO_OP") ∧ p.requiresHumanApproval = false :=
  ⟨_, rfl, ⟨rfl, rfl, rfl⟩, rfl⟩

theorem validated : ∃ v, ingestor.validate record = .ok v := by
  obtain ⟨path, placed⟩ := placed
  obtain ⟨p, parsed, named, approval⟩ := parsed
  obtain ⟨commits, blobs, payloads⟩ := facts.hashed
  have supported : "LAB" ∈ ingestor.supportedTargets := by decide
  unfold DirectiveTaskIngestor.validate
  rw [commits, blobs, payloads]
  simp only [bind_ok, require_ok, found_ok, pure_ok, exists_const]
  exact ⟨_, ⟨"D-1", by decide⟩, rfl, ⟨rfl, rfl, rfl⟩, facts.hexadecimal, facts.keyed, path, placed, ⟨"LAB", by decide⟩, rfl, supported,
    ⟨"NO_OP", by decide⟩, rfl, facts.allowed, "NO_OP", rfl, payload, rfl, p, parsed, named, approval.symm ▸ rfl, rfl⟩

theorem verified (v : DirectiveTaskIngestor.Validated) : ∃ signer, ingestor.verify v record = .ok signer := by
  simp only [DirectiveTaskIngestor.verify, bind_ok, require_ok, pure_ok, exists_const]
  exact ⟨_, _, rfl, ⟨rfl, rfl, rfl, rfl, rfl, rfl, rfl, rfl, rfl⟩, rfl⟩

theorem bound (e : QueueEntry) : ∃ db, ingestions.exec (.inl (.ingestEntry e)) {} .empty = (db, .ok true) ∧
    db.tasks.find? e.provenance.taskId = some e.row :=
  ⟨_, rfl, Table.find?_some.mpr ⟨List.mem_cons_self, rfl⟩⟩

theorem clean_task (directiveId key : String) :
    clean (ingestor.deterministicTaskId directiveId key) = ingestor.deterministicTaskId directiveId key :=
  clean_identifier ⟨_, (digestOf_checked _).2⟩

theorem returns_task {db : Db} {id : String} {row : TaskRow} (found : db.tasks.find? (clean id) = some row) :
    ingestions.Returns (Ingestion.store (Store.task id)) db db row := by
  refine ⟨{}, ?_⟩
  change ingestions.Ends (Program.interp _ (Store.row (db.tasks.find? (clean id)) _)) db db (.ok row)
  rw [found]
  exact ⟨rfl, rfl⟩

section Fresh

variable {q : DirectiveTaskIngestor} {fields : Record}

theorem ingested_entry {sha : String} {e : QueueEntry} {db : Db}
    (bound : ingestions.exec (.inl (.ingestEntry e)) {} .empty = (db, .ok true))
    (task : db.tasks.find? e.provenance.taskId = some e.row) (named : clean e.provenance.taskId = e.provenance.taskId)
    (entry : ingestions.Returns (q.bindRecord 1 fields sha) .empty .empty e) :
    ∃ db result, ingestions.Returns (q.ingestRecord 1 fields sha) .empty db [result] := by
  have created : ingestions.Returns (ask (.inl (.ingestEntry e)) : Ingestion Bool) .empty db true := Machine.returns_ask.mpr ⟨{}, bound⟩
  have found : ingestions.Returns (Ingestion.store (Store.task e.provenance.taskId)) db db e.row :=
    returns_task ((congrArg db.tasks.find? named).trans task)
  have replied : ingestions.Returns (do
      let task ← Ingestion.store (Store.task e.provenance.taskId)
      return [⟨e.provenance.taskId, e.provenance.directiveId, true, task.state⟩] : Ingestion (List IngestResult)) db db
      [⟨e.provenance.taskId, e.provenance.directiveId, true, e.row.state⟩] :=
    Machine.returns_bind.mpr ⟨db, _, found, Machine.returns_pure.mpr ⟨rfl, rfl⟩⟩
  unfold DirectiveTaskIngestor.ingestRecord
  exact ⟨db, _, Machine.returns_bind.mpr ⟨.empty, e, entry, Machine.returns_bind.mpr ⟨db, true, created, replied⟩⟩⟩

/-- What is validated and verified becomes an entry, the store being empty. -/
theorem returns_entry (sha : String) {v : DirectiveTaskIngestor.Validated} {signer : String}
    (validated : q.validate fields = .ok v) (verified : q.verify v fields = .ok signer) :
    ingestions.Returns (q.bindRecord 1 fields sha) .empty .empty (q.entry 1 sha signer v 0) := by
  unfold DirectiveTaskIngestor.bindRecord
  refine Machine.returns_bind.mpr ⟨.empty, v, Machine.returns_lift.mpr ⟨rfl, validated⟩, ?_⟩
  refine Machine.returns_bind.mpr ⟨.empty, signer, Machine.returns_lift.mpr ⟨rfl, verified⟩, ?_⟩
  refine Machine.returns_bind.mpr ⟨.empty, .fin 0, Machine.returns_ask.mpr ⟨{}, rfl⟩, ?_⟩
  exact Machine.returns_bind.mpr ⟨.empty, 0, Machine.returns_pure.mpr ⟨rfl, rfl⟩, Machine.returns_pure.mpr ⟨rfl, rfl⟩⟩

/-- A queue of one line is ingested with its record. -/
theorem ingested_one {raw : List UInt8} (one : keptLines raw = [raw]) (solid : isBlankLine raw = false)
    (short : raw.length ≤ 1001) (loaded : q.loadsLine raw = some (.dict fields))
    (recorded : ∃ db results, ingestions.Returns (q.ingestRecord 1 fields (q.sha raw)) .empty db results) :
    ∃ db results, ingestions.Returns (q.ingest (some raw)) .empty db results := by
  have bytes : ¬ maxQueueBytes < raw.length := by
    unfold maxQueueBytes
    omega
  have few : ¬ maxRecords < (keptLines raw).length := by
    rw [one, List.length_singleton]
    decide
  have fits : ¬ maxRecordBytes < raw.length := by
    unfold maxRecordBytes
    omega
  have read : q.records (keptLines raw) = .ok [(fields, q.sha raw)] := by
    rw [one]
    refine records_cons.mpr ⟨_, [], ?_, rfl, (List.append_nil _).symm⟩
    unfold QueueReader.recordOf
    rw [solid, if_neg Bool.false_ne_true, if_neg fits, loaded]
    rfl
  have records : ingestions.Returns (q.readRecords (some raw)) .empty .empty [(fields, q.sha raw)] := by
    unfold QueueReader.readRecords
    dsimp only
    rw [if_neg bytes, if_neg few, read]
    refine Machine.returns_bind.mpr ⟨.empty, "", returns_query.mpr ⟨rfl, rfl⟩, ?_⟩
    refine Machine.returns_bind.mpr ⟨.empty, [], returns_query.mpr ⟨rfl, rfl⟩, ?_⟩
    exact Machine.returns_pure.mpr ⟨rfl, rfl⟩
  have counted : ingestions.Returns (query .countRecords) .empty .empty 0 := returns_query.mpr ⟨rfl, rfl⟩
  obtain ⟨db, results, returned⟩ := recorded
  have none : ingestions.Returns (q.ingestFrom 0 2 []) db db [] := Machine.returns_pure.mpr ⟨rfl, rfl⟩
  have looped : ingestions.Returns (q.ingestFrom 0 1 [(fields, q.sha raw)]) .empty db (results ++ []) :=
    Machine.returns_bind.mpr ⟨db, results, returned, Machine.returns_bind.mpr ⟨db, [], none, Machine.returns_pure.mpr ⟨rfl, rfl⟩⟩⟩
  exact ⟨db, _, Machine.returns_bind.mpr ⟨.empty, _, records, Machine.returns_bind.mpr ⟨.empty, 0, counted, looped⟩⟩⟩

end Fresh

attribute [irreducible] ingestor record

/-- The record is new to an empty store. -/
theorem ingested_record (sha : String) : ∃ db results, ingestions.Returns (ingestor.ingestRecord 1 record sha) .empty db results := by
  obtain ⟨v, validated⟩ := validated
  obtain ⟨signer, verified⟩ := verified v
  obtain ⟨db, bound, task⟩ := bound (ingestor.entry 1 sha signer v 0)
  have entry := returns_entry sha validated verified
  obtain ⟨db', result, returned⟩ := ingested_entry bound task (clean_task v.payload.directiveId v.key) entry
  exact ⟨db', [result], returned⟩

theorem ingested {raw : List UInt8} (one : keptLines raw = [raw]) (solid : isBlankLine raw = false)
    (short : raw.length ≤ 1001) (loaded : ingestor.loadsLine raw = some (.dict record)) :
    ∃ db results, ingestions.Returns (ingestor.ingest (some raw)) .empty db results :=
  ingested_one one solid short loaded (ingested_record _)

theorem ingested_line : ∃ db results, ingestions.Returns (ingestor.ingest (some line)) .empty db results := by
  obtain ⟨rest, opens⟩ := opens
  have solid := not_blank []
  rw [List.append_nil] at solid
  exact ingested (keptLines_unbroken unbroken (by simp [opens])) solid (Nat.le_succ_of_le facts.short) loads_line

theorem one_ended : keptLines (line ++ [10]) = [line ++ [10]] := keptLines_newline unbroken

theorem length_ended : (line ++ [10]).length ≤ 1001 := by
  have short := facts.short
  rw [List.length_append, List.length_singleton]
  omega

theorem ingested_ended : ∃ db results, ingestions.Returns (ingestor.ingest (some (line ++ [10]))) .empty db results :=
  ingested one_ended (not_blank [10]) length_ended loads_ended

/-- A queue of such lines, few of them. -/
theorem within {raw : List UInt8} (few : raw.length ≤ 2002) (kept : ∀ l ∈ keptLines raw, l = line ++ [10])
    (lines : (keptLines raw).length ≤ 2) : Within raw := by
  have short := facts.short
  constructor
  · unfold maxQueueBytes
    omega
  · unfold maxRecords
    omega
  · intro l member _
    have length : l.length ≤ 1001 := by
      rw [kept l member]
      exact length_ended
    unfold maxRecordBytes
    omega

theorem objects {raw : List UInt8} (kept : ∀ l ∈ keptLines raw, l = line ++ [10]) : ingestor.Objects raw := by
  intro l member _
  rw [kept l member]
  exact ⟨record, loads_ended⟩

theorem kept_ended : ∀ l ∈ keptLines (line ++ [10]), l = line ++ [10] := by
  rw [one_ended]
  exact fun l member => List.mem_singleton.mp member

theorem within_ended : Within (line ++ [10]) :=
  within (length_ended.trans (by decide)) kept_ended (by simp [one_ended])

theorem two_ended : keptLines (line ++ [10] ++ (line ++ [10])) = [line ++ [10], line ++ [10]] := by
  have first : keptLines (line ++ 10 :: (line ++ [10])) = _ := keptLines_newline unbroken
  rw [one_ended] at first
  rw [List.append_assoc]
  exact first

theorem kept_twice : ∀ l ∈ keptLines (line ++ [10] ++ (line ++ [10])), l = line ++ [10] := by
  rw [two_ended]
  simp

theorem length_two {a b : List UInt8} {lines : List (List UInt8)} (two : lines = [a, b]) : lines.length ≤ 2 := by
  rw [two]
  exact Nat.le_refl 2

theorem length_twice : (line ++ [10] ++ (line ++ [10])).length ≤ 2002 := by
  have length := length_ended
  rw [List.length_append]
  omega

theorem within_twice : Within (line ++ [10] ++ (line ++ [10])) := within length_twice kept_twice (length_two two_ended)

theorem not_lengthens (more : List UInt8) : ¬ Lengthens (line ++ [10]) more := fun longer => longer.2.1 List.getLast?_concat

theorem history {raw : List UInt8} {db : Db} {results : List IngestResult}
    (returned : ingestions.Returns (ingestor.ingest (some raw)) .empty db results) :
    IngestHistory ingestor.toQueueReader .empty ([] ++ [⟨.empty, .ingest (some raw) (.ok results), db⟩]) db :=
  .step .start (.ingest rfl returned)

theorem lengthens : Lengthens line [10] := by
  refine ⟨by simp, fun ends => ?_, fun _ => rfl⟩
  exact (unbroken 10 (List.mem_of_getLast? ends)).1 rfl

theorem one : keptLines line = [line] := by
  obtain ⟨rest, opens⟩ := opens
  exact keptLines_unbroken unbroken (by simp [opens])

theorem not_lastBlank : ¬ LastBlank line := by
  intro blank
  have solid := not_blank []
  rw [List.append_nil, blank line (by rw [one, List.getLast?_singleton])] at solid
  cases solid

theorem not_collides : ¬ ingestor.Collides line [10] := by
  intro collides
  have same := collides line (line ++ [10]) (by rw [one, List.getLast?_singleton]) (by rw [one, one_ended]; rfl)
  have digests : ingestor.sha (line ++ [10]) = ingestor.sha line := congrArg Prod.fst same
  rw [sha_line, sha_ended] at digests
  exact facts.distinct digests

theorem changed {db : Db} {results : List IngestResult} (returned : ingestions.Returns (ingestor.ingest (some line)) .empty db results) :
    ∃ db', ingestions.Raises (ingestor.readRecords (some (line ++ [10]))) db db' (.integrityBlocked "queue history changed") := by
  obtain ⟨rs, read, bound⟩ := returns_ingest rfl ⟨rfl, .inl rfl⟩ returned
  obtain ⟨rs', read'⟩ := records_objects fun l member solid => ⟨within_ended.line l member solid, objects kept_ended l member solid⟩
  obtain ⟨longer, matched⟩ := begins_longer read read' bound
  refine (changed_iff within_ended (consecutive_history (history returned)) read' (bound.length_eq ▸ longer)).mpr fun still => ?_
  exact (matched.mp still lengthens).elim not_lastBlank not_collides

end Queued

/-- A line that was read with its end, and another one behind it. -/
theorem appended_queue_ended : ∃ db, ∃ results : List IngestResult,
    ingestions.Returns (Queued.ingestor.ingest (some (Queued.line ++ [10]))) .empty db results ∧
    ¬ ∃ db', ingestions.Raises (Queued.ingestor.readRecords (some (Queued.line ++ [10] ++ (Queued.line ++ [10])))) db db'
      (.integrityBlocked "queue history changed") := by
  obtain ⟨db, results, returned⟩ := Queued.ingested_ended
  refine ⟨db, results, returned, ?_⟩
  exact (appended_queue_iff (Queued.history returned) rfl (List.forall_mem_nil _) Queued.within_twice
    (Queued.objects Queued.kept_twice)).mpr fun longer => (Queued.not_lengthens _ longer).elim

/-- A record was read without its newline. -/
theorem appended_queue_newline : ∃ db, ∃ results : List IngestResult,
    ingestions.Returns (Queued.ingestor.ingest (some Queued.line)) .empty db results ∧
    Within (Queued.line ++ [10]) ∧ Queued.ingestor.Objects (Queued.line ++ [10]) ∧
    ∃ db', ingestions.Raises (Queued.ingestor.readRecords (some (Queued.line ++ [10]))) db db'
      (.integrityBlocked "queue history changed") := by
  obtain ⟨db, results, returned⟩ := Queued.ingested_line
  exact ⟨db, results, returned, Queued.within_ended, Queued.objects Queued.kept_ended, Queued.changed returned⟩

end ControlPlane.Autonomy
