import ControlPlane.Autonomy.QueueGrowth

/-!
# The entries of an ingestion

All that a call of `ingest` changes, wherever it is cut, are the entries of records that were
validated and verified, one after the other.
-/

namespace ControlPlane.Autonomy

open Data Interleaving Procedure Ingestion

/-- Tasks, provenance and records are as they were. -/
structure SameIngestion (db db' : Db) : Prop where
  tasks : db'.tasks = db.tasks
  provenance : db'.provenance = db.provenance
  records : db'.queueRecords = db.queueRecords

theorem SameIngestion.refl (db : Db) : SameIngestion db db := ⟨rfl, rfl, rfl⟩

theorem SameIngestion.trans {db db' db'' : Db} (first : SameIngestion db db') (second : SameIngestion db' db'') : SameIngestion db db'' :=
  ⟨second.tasks.trans first.tasks, second.provenance.trans first.provenance, second.records.trans first.records⟩

/-- The line of an entry is recorded, or was. -/
def LineRecorded (e : QueueEntry) (db db' : Db) : Prop :=
  db.queueRecords.find? e.sequence = some e.queueRow ∧ db'.queueRecords = db.queueRecords ∨
    db.queueRecords.find? e.sequence = none ∧ db'.queueRecords.rows = db.queueRecords.rows ++ [e.queueRow]

/-- What comes of an entry: it is refused, its directive is known with this provenance, or it is new. -/
inductive EntryOutcome (e : QueueEntry) (db db' : Db) : Answer Bool → Prop
  | refused {error} (same : SameIngestion db db') : EntryOutcome e db db' (.error error)
  | known {p} (member : p ∈ db.provenance.rows) (directive : p.directiveId = e.provenance.directiveId)
      (tasks : db'.tasks = db.tasks) (provenance : db'.provenance = db.provenance) (line : LineRecorded e db db') :
      EntryOutcome e db db' (.ok false)
  | new (fresh : ∀ p ∈ db.provenance.rows, p.directiveId ≠ e.provenance.directiveId ∧ p.taskId ≠ e.provenance.taskId)
      (tasks : db'.tasks.rows = db.tasks.rows ++ [e.row]) (provenance : db'.provenance.rows = db.provenance.rows ++ [e.provenance])
      (line : LineRecorded e db db') : EntryOutcome e db db' (.ok true)

section

variable {i : DirectiveTaskIngestor} {db db' : Db} {e : QueueEntry}

theorem recordLine_recorded {known : Option QueueRecordRow} (asked : db.queueRecords.find? e.sequence = known)
    (undisputed : ¬ ∃ q, known = some q ∧ (q.lineSha256 ≠ e.lineSha256 ∨ q.directiveId ≠ e.provenance.directiveId))
    {db₁ : Db} (unchanged : db₁.queueRecords = db.queueRecords) (recorded : db₁.recordLine known e = .ok db') :
    db'.tasks = db₁.tasks ∧ db'.provenance = db₁.provenance ∧ LineRecorded e db db' := by
  cases known with
  | some q =>
    obtain rfl := pure_ok.mp recorded
    refine ⟨rfl, rfl, .inl ⟨?_, unchanged⟩⟩
    have agree : q.lineSha256 = e.lineSha256 ∧ q.directiveId = e.provenance.directiveId := by
      constructor
      · exact not_not.mp fun other => undisputed ⟨q, rfl, .inl other⟩
      · exact not_not.mp fun other => undisputed ⟨q, rfl, .inr other⟩
    obtain ⟨_, sequence⟩ := Table.find?_some.mp asked
    obtain ⟨number, line, directive⟩ := q
    obtain ⟨rfl, rfl⟩ := agree
    obtain rfl := sequence
    exact asked
  | none =>
    obtain ⟨queueRecords, inserted, rest⟩ := found_bind_ok.mp recorded
    obtain rfl := pure_ok.mp rest
    refine ⟨rfl, rfl, .inr ⟨asked, ?_⟩⟩
    have rows := (Table.insert?_some inserted).2
    rw [unchanged] at rows
    exact rows

theorem createIngested_rows (created : db.createIngested e = .ok db') : db'.tasks.rows = db.tasks.rows ++ [e.row] ∧
    db'.provenance.rows = db.provenance.rows ++ [e.provenance] ∧ db'.queueRecords = db.queueRecords := by
  simp only [Db.createIngested] at created
  obtain ⟨inserted, task, created⟩ := bind_ok.mp created
  obtain ⟨provenance, added, same⟩ := found_bind_ok.mp created
  obtain rfl := pure_ok.mp same
  obtain ⟨tasks, rfl, _, rows⟩ := insertTask_ok task
  exact ⟨rows, (Table.insert?_some added).2, rfl⟩

theorem ingestEntry_outcome (x : Input) : EntryOutcome e db (ingestions.exec (.inl (.ingestEntry e)) x db).1
    (ingestions.exec (.inl (.ingestEntry e)) x db).2 := by
  show EntryOutcome e db (exec (.ingestEntry e) x db).1 (exec (.ingestEntry e) x db).2
  unfold exec
  split
  · exact .refused (.refl db)
  show EntryOutcome e db (transaction db (ingestEntry e db)).1 (transaction db (ingestEntry e db)).2
  cases outcome : ingestEntry e db with
  | error error => exact .refused (.refl db)
  | ok committed =>
    simp only [ingestEntry] at outcome
    split at outcome
    · cases pure_ok.mp outcome
      exact .refused ⟨rfl, rfl, rfl⟩
    rename_i undisputed
    split at outcome
    · cases pure_ok.mp outcome
      exact .refused ⟨rfl, rfl, rfl⟩
    rename_i agreed
    split at outcome
    · rename_i p existing
      obtain ⟨db₁, kept, outcome⟩ := bind_ok.mp outcome
      obtain ⟨db₂, recorded, outcome⟩ := bind_ok.mp outcome
      cases pure_ok.mp outcome
      obtain rfl := pure_ok.mp kept
      obtain ⟨tasks, provenance, line⟩ := recordLine_recorded rfl undisputed rfl recorded
      have bound : { p with ingestedAt := e.provenance.ingestedAt } = e.provenance :=
        not_not.mp fun other => agreed ⟨p, existing, other⟩
      have directive : p.directiveId = e.provenance.directiveId := by
        rw [← bound]
      rw [existing]
      exact .known (List.mem_of_find?_eq_some existing) directive tasks provenance line
    · rename_i none
      obtain ⟨db₁, created, outcome⟩ := bind_ok.mp outcome
      obtain ⟨db₂, recorded, outcome⟩ := bind_ok.mp outcome
      cases pure_ok.mp outcome
      obtain ⟨rows, provenances, unchanged⟩ := createIngested_rows created
      obtain ⟨tasks, provenance, line⟩ := recordLine_recorded rfl undisputed unchanged recorded
      rw [none]
      refine .new (fun p member => ?_) (tasks ▸ rows) (provenance ▸ provenances) line
      have other := List.find?_eq_none.mp none p member
      rw [decide_eq_true_eq, not_or] at other
      exact other

/-! ### What a call does besides -/

/-- The statement leaves tasks, provenance and records alone. -/
def IngestStmt.Spares {β : Type} (s : IngestStmt β) : Prop := ∀ x db, SameIngestion db (ingestions.exec s x db).1

theorem cut_spared {α : Type} {p : Ingestion α} {next : Pending IngestStmt} (spared : All (fun s => s.Spares) p)
    (cut : ingestions.Cut p db db' next) : SameIngestion db db' :=
  cut.keeps (I := SameIngestion db) (spared.mono fun _ spares x u same => same.trans (spares x u)) (.refl db)

theorem query_spares {β : Type} (s : QueueStmt β) : IngestStmt.Spares (.inr s) := by
  intro x db
  show SameIngestion db (if x.busy then _ else _ : Db × Answer β).1
  split
  · exact .refl db
  · exact .refl db

theorem clock_spares : IngestStmt.Spares (.inl .clock) := by
  intro x db
  show SameIngestion db (exec .clock x db).1
  unfold exec
  split
  · exact .refl db
  · exact .refl db

theorem blockSource_spares (reason : String) : IngestStmt.Spares (.inl (.blockSource reason)) := by
  intro x db
  show SameIngestion db (exec (.blockSource reason) x db).1
  unfold exec
  split
  · exact .refl db
  · exact ⟨rfl, rfl, rfl⟩

theorem row_spares (taskId : String) : IngestStmt.Spares (.inl (.selectTask taskId)) := by
  intro x db
  show SameIngestion db (exec (.selectTask taskId) x db).1
  unfold exec
  split
  · exact .refl db
  · exact .refl db

theorem spared_refuse {α : Type} {reason message : String} : All (fun s => s.Spares) (QueueReader.refuse reason message : Ingestion α) :=
  (all_ask (blockSource_spares reason)).bind fun _ => all_throw _

theorem spared_readRecords {reader : QueueReader} {queue : Option (List UInt8)} : All (fun s => s.Spares) (reader.readRecords queue) := by
  unfold QueueReader.readRecords
  split
  · exact spared_refuse
  split
  · exact spared_refuse
  split
  · exact spared_refuse
  split
  · exact spared_refuse
  refine (all_ask (query_spares _)).bind fun source => ?_
  split
  · exact spared_refuse
  refine (all_ask (query_spares _)).bind fun persisted => ?_
  split
  · exact spared_refuse
  split
  · exact all_pure _
  · exact spared_refuse

theorem spared_store {α : Type} {p : Store α} (spared : All (fun s => IngestStmt.Spares (.inl s)) p) :
    All (fun s => s.Spares) (Ingestion.store p) :=
  Program.All.interp_of spared fun _ spares => all_ask spares

theorem spared_bindRecord {sequence : Nat} {record : Record} {lineSha : String} :
    All (fun s => s.Spares) (i.bindRecord sequence record lineSha) := by
  refine (all_lift _).bind fun v => (all_lift _).bind fun signer => (all_ask clock_spares).bind fun clock => ?_
  refine (spared_store ?_).bind fun n => all_pure _
  unfold Store.now
  split
  · exact all_pure _
  · exact all_throw _

theorem spared_reply (created : Bool) : All (fun s => s.Spares) (if created then do
    let task ← Ingestion.store (Store.task e.provenance.taskId)
    return [⟨e.provenance.taskId, e.provenance.directiveId, true, task.state⟩]
  else return [] : Ingestion (List IngestResult)) := by
  split
  · refine (spared_store ?_).bind fun task => all_pure _
    refine (all_ask (row_spares _)).bind fun row => ?_
    unfold Store.row
    split
    · exact all_pure _
    · exact all_throw _
  · exact all_pure _

/-! ### One round, and the loop -/

variable {record : Record} {lineSha : String} {sequence persistedCount : Nat} {next : Pending IngestStmt}
  {results : List IngestResult} {rs : List (Record × String)}

/-- The entry is of this record, which was validated and verified. -/
def EntryOf (i : DirectiveTaskIngestor) (sequence : Nat) (r : Record × String) (e : QueueEntry) : Prop :=
  ∃ v signer n, i.validate r.1 = .ok v ∧ i.verify v r.1 = .ok signer ∧ e = i.entry sequence r.2 signer v n

theorem bindRecord_verified (returned : ingestions.Returns (i.bindRecord sequence record lineSha) db db' e) :
    EntryOf i sequence (record, lineSha) e := by
  simp only [DirectiveTaskIngestor.bindRecord, Machine.returns_bind, Machine.returns_lift, Machine.returns_pure] at returned
  obtain ⟨_, v, ⟨_, valid⟩, _, signer, ⟨_, verified⟩, _, clock, _, _, n, _, _, rfl⟩ := returned
  exact ⟨v, signer, n, valid, verified, rfl⟩

/-- One round, wherever it is cut: nothing, or an entry of its record. -/
theorem cut_ingestRecord_entry (cut : ingestions.Cut (i.ingestRecord sequence record lineSha) db db' next) :
    SameIngestion db db' ∨ ∃ e db₁ db₂ created, EntryOf i sequence (record, lineSha) e ∧ SameIngestion db db₁ ∧
      EntryOutcome e db₁ db₂ (.ok created) ∧ SameIngestion db₂ db' := by
  rcases Machine.cut_bind.mp cut with ⟨st, _, within⟩ | ⟨error, _, raised⟩ | ⟨db₁, e, returned, rest⟩
  · exact .inl (cut_spared spared_bindRecord within)
  · exact .inl (cut_spared spared_bindRecord raised.stops)
  have same := cut_spared spared_bindRecord returned.stops
  have entry := bindRecord_verified returned
  have either {x : Input} {answer} (ran : (ingestions.exec (.inl (.ingestEntry e)) x db₁).2 = answer) :
      SameIngestion db (ingestions.exec (.inl (.ingestEntry e)) x db₁).1 ∨
        ∃ created, answer = .ok created ∧ EntryOutcome e db₁ (ingestions.exec (.inl (.ingestEntry e)) x db₁).1 (.ok created) := by
    have outcome : EntryOutcome e db₁ _ _ := ingestEntry_outcome x
    rw [ran] at outcome
    cases answer with
    | ok created => exact .inr ⟨created, rfl, outcome⟩
    | error error =>
      cases outcome with
      | refused unchanged => exact .inl (same.trans unchanged)
  rcases Machine.cut_bind.mp rest with ⟨st, _, within⟩ | ⟨error, _, raised⟩ | ⟨db₂, created, done, last⟩
  · rcases Machine.cut_ask.mp within with ⟨rfl, _⟩ | ⟨_, x, ran⟩
    · exact .inl same
    · rw [← ran]
      rcases either rfl with unchanged | ⟨created, _, outcome⟩
      · exact .inl unchanged
      · exact .inr ⟨e, db₁, _, created, entry, same, outcome, .refl _⟩
  · obtain ⟨x, ran⟩ := Machine.raises_ask.mp raised
    obtain ⟨rfl, answer⟩ := Prod.mk.inj ran
    rcases either answer with unchanged | ⟨created, impossible, _⟩
    · exact .inl unchanged
    · cases impossible
  · obtain ⟨x, ran⟩ := Machine.returns_ask.mp done
    have after := cut_spared (spared_reply created) last
    have outcome : EntryOutcome e db₁ _ _ := ingestEntry_outcome x
    rw [ran] at outcome
    exact .inr ⟨e, db₁, db₂, created, entry, same, outcome, after⟩

/-- A round that comes to its end has made an entry. -/
theorem returns_ingestRecord_entry (returned : ingestions.Returns (i.ingestRecord sequence record lineSha) db db' results) :
    ∃ e db₁ db₂ created, EntryOf i sequence (record, lineSha) e ∧ SameIngestion db db₁ ∧
      EntryOutcome e db₁ db₂ (.ok created) ∧ SameIngestion db₂ db' := by
  obtain ⟨db₁, e, first, rest⟩ := Machine.returns_bind.mp returned
  obtain ⟨db₂, created, done, last⟩ := Machine.returns_bind.mp rest
  obtain ⟨x, ran⟩ := Machine.returns_ask.mp done
  have outcome : EntryOutcome e db₁ _ _ := ingestEntry_outcome x
  rw [ran] at outcome
  exact ⟨e, db₁, db₂, created, bindRecord_verified first, cut_spared spared_bindRecord first.stops, outcome,
    cut_spared (spared_reply created) last.stops⟩

/-- What every entry of the loop keeps, the loop keeps, wherever it is cut. `J n` speaks of the store before record `n`. -/
theorem cut_ingestFrom_keeps {J : Nat → Db → Prop} (same : ∀ {n db db'}, SameIngestion db db' → J n db → J n db')
    (skip : ∀ {n db}, n ≤ persistedCount → J n db → J (n + 1) db)
    (bind : ∀ {n db db' r e created}, persistedCount < n → sequence ≤ n → rs[n - sequence]? = some r → EntryOf i n r e →
      EntryOutcome e db db' (.ok created) → J n db → J (n + 1) db')
    (cut : ingestions.Cut (i.ingestFrom persistedCount sequence rs) db db' next) (start : J sequence db) :
    ∃ n, J n db' := by
  induction rs generalizing sequence db next with
  | nil =>
    obtain ⟨rfl, _⟩ := cut
    exact ⟨sequence, start⟩
  | cons r rest ih =>
    have later {n db db' r' e created} (after : persistedCount < n) (from' : sequence + 1 ≤ n) (here : rest[n - (sequence + 1)]? = some r')
        (entry : EntryOf i n r' e) (outcome : EntryOutcome e db db' (.ok created)) (before : J n db) : J (n + 1) db' := by
      refine bind after (Nat.le_of_succ_le from') ?_ entry outcome before
      have index : n - sequence = n - (sequence + 1) + 1 := by omega
      rw [index, List.getElem?_cons_succ]
      exact here
    unfold DirectiveTaskIngestor.ingestFrom at cut
    split at cut
    · rename_i before
      exact ih later cut (skip before start)
    · rename_i after
      have here := Nat.lt_of_not_le after
      have round {db₁ db₂ db₃ db₄ : Db} {e created} (entry : EntryOf i sequence r e) (before : SameIngestion db₁ db₂)
          (outcome : EntryOutcome e db₂ db₃ (.ok created)) (behind : SameIngestion db₃ db₄) (kept : J sequence db₁) : J (sequence + 1) db₄ :=
        same behind (bind here (le_refl _) (by rw [Nat.sub_self]; rfl) entry outcome (same before kept))
      have one {db₁ next} (within : ingestions.Cut (i.ingestRecord sequence r.1 r.2) db db₁ next) : ∃ n, J n db₁ := by
        rcases cut_ingestRecord_entry within with unchanged | ⟨e, _, _, created, entry, before, outcome, behind⟩
        · exact ⟨sequence, same unchanged start⟩
        · exact ⟨sequence + 1, round entry before outcome behind start⟩
      rcases Machine.cut_bind.mp cut with ⟨st, _, within⟩ | ⟨error, _, raised⟩ | ⟨db₁, result, returned, rest⟩
      · exact one within
      · exact one raised.stops
      · obtain ⟨e, _, _, created, entry, before, outcome, behind⟩ := returns_ingestRecord_entry returned
        have done : J (sequence + 1) db₁ := round entry before outcome behind start
        rcases Machine.cut_bind.mp rest with ⟨st, _, within⟩ | ⟨error, _, raised⟩ | ⟨db₂, others, returned', last⟩
        · exact ih later within done
        · exact ih later raised.stops done
        · obtain ⟨rfl, _⟩ := last
          exact ih later returned'.stops done

/-- A call leaves the store alone, or comes to its loop with the records of the queue. -/
theorem cut_ingest {queue : Option (List UInt8)} (cut : ingestions.Cut (i.ingest queue) db db' next) :
    SameIngestion db db' ∨ ∃ raw rs, queue = some raw ∧ i.records (keptLines raw) = .ok rs ∧ Begins (inSequence db.queueRecords.rows) rs ∧
      ingestions.Cut (i.ingestFrom db.queueRecords.rows.length 1 rs) db db' next := by
  rcases Machine.cut_bind.mp cut with ⟨st, _, within⟩ | ⟨error, _, raised⟩ | ⟨db₁, rs, read, rest⟩
  · exact .inl (cut_spared spared_readRecords within)
  · exact .inl (cut_spared spared_readRecords raised.stops)
  cases queue with
  | none =>
    obtain ⟨_, _, _, last⟩ := Machine.returns_bind.mp read
    exact (Machine.returns_throw last).elim
  | some raw =>
    obtain ⟨rfl, records, begins⟩ := returns_readRecords read
    rcases Machine.cut_bind.mp rest with ⟨st, _, within⟩ | ⟨error, _, raised⟩ | ⟨db₂, count, counted, loop⟩
    · exact .inl (cut_spared (all_ask (query_spares _)) within)
    · exact .inl (cut_spared (all_ask (query_spares _)) raised.stops)
    · obtain ⟨rfl, rfl⟩ := returns_query.mp counted
      exact .inr ⟨raw, rs, rfl, records, begins, loop⟩

end

end ControlPlane.Autonomy
