import ControlPlane.Autonomy.IngestedEntries
import Mathlib.Data.List.Count

/-!
# Exactly-once ingestion

Ingestors of one store take turns on any queues. The store remembers which lines it took, in
their order, and never takes a directive twice.
-/

namespace ControlPlane.Autonomy

open Data Interleaving Procedure Ingestion QueueReader

/-- The lines of a queue that are not blank. -/
def solidLines (queue : List UInt8) : List (List UInt8) := (keptLines queue).filter fun line => !isBlankLine line

/-- The queue that the step was about. -/
def IngestEvent.queue? : IngestEvent → Option (List UInt8)
  | .ingest queue _ => queue
  | .crash queue => queue
  | .other _ => none

/-- What the store knows is numbered, and each directive has one task and one provenance. -/
structure Tallied (db : Db) : Prop where
  numbers : db.queueRecords.rows.map (·.sequence) = List.range' 1 db.queueRecords.rows.length
  known : ∀ row ∈ db.queueRecords.rows, row.directiveId ∈ db.provenance.rows.map (·.directiveId)
  alone : (db.provenance.rows.map (·.directiveId)).Nodup
  tasks : db.tasks.rows.map (·.directiveId) = db.provenance.rows.map fun p => some p.directiveId

/-- No two lines of these queues have the same digest. -/
def NoCollision (reader : QueueReader) (past : List (Transition Db IngestEvent)) (queue : List UInt8) : Prop :=
  ∀ t ∈ past, ∀ old, t.label.queue? = some old → ∀ line ∈ solidLines old, ∀ line' ∈ solidLines queue,
    reader.sha line = reader.sha line' → line = line'

section

variable {reader : QueueReader} {i : DirectiveTaskIngestor} {db db' : Db} {rs : List (Record × String)} {lines : List (List UInt8)}
  {next : Pending IngestStmt} {e : QueueEntry} {r : Record × String} {n : Nat}

/-! ### Lines and records -/

theorem entryOf_row (entry : EntryOf i n r e) : e.sequence = n ∧ SameRecord e.queueRow r := by
  obtain ⟨v, signer, t, valid, _, rfl⟩ := entry
  simp only [DirectiveTaskIngestor.validate, bind_ok, require_ok, found_ok, pure_ok] at valid
  obtain ⟨id, named, _, _, _, _, _, _, path, _, target, _, _, _, action, _, _, _, capability, _, raw, _, payload, _, _,
    ⟨same, _⟩, _, _, rfl⟩ := valid
  refine ⟨rfl, rfl, ?_⟩
  rw [identifier_ok named]
  exact congrArg some same.symm

theorem Tallied.same (tallied : Tallied db) (same : SameIngestion db db') : Tallied db' :=
  ⟨same.records ▸ tallied.numbers, same.provenance ▸ same.records ▸ tallied.known, same.provenance ▸ tallied.alone,
    same.provenance ▸ same.tasks ▸ tallied.tasks⟩

theorem Tallied.fresh (tallied : Tallied db) : db.queueRecords.find? (db.queueRecords.rows.length + 1) = none := by
  refine Table.find?_none.mpr fun r member same => ?_
  have listed : r.sequence ∈ List.range' 1 db.queueRecords.rows.length := tallied.numbers ▸ List.mem_map_of_mem member
  rw [List.mem_range'_1] at listed
  omega

/-- The entry of the next record is added to what is remembered. -/
theorem Tallied.recorded (tallied : Tallied db) (number : e.sequence = db.queueRecords.rows.length + 1) (line : LineRecorded e db db') :
    db'.queueRecords.rows = db.queueRecords.rows ++ [e.queueRow] := by
  rcases line with ⟨taken, _⟩ | ⟨_, added⟩
  · rw [number, tallied.fresh] at taken
    cases taken
  · exact added

theorem Tallied.entered {created : Bool} (tallied : Tallied db) (number : e.sequence = db.queueRecords.rows.length + 1)
    (outcome : EntryOutcome e db db' (.ok created)) : Tallied db' ∧ db'.queueRecords.rows = db.queueRecords.rows ++ [e.queueRow] := by
  have numbered (added : db'.queueRecords.rows = db.queueRecords.rows ++ [e.queueRow]) :
      db'.queueRecords.rows.map (·.sequence) = List.range' 1 db'.queueRecords.rows.length := by
    have sequence : e.queueRow.sequence = db.queueRecords.rows.length + 1 := number
    rw [added, List.map_append, tallied.numbers, List.map_singleton, sequence, List.length_append, List.length_singleton, List.range'_concat]
    simp [Nat.add_comm]
  cases outcome with
  | @known p member directive tasks provenance line =>
    have added := tallied.recorded number line
    refine ⟨⟨numbered added, fun row listed => ?_, provenance ▸ tallied.alone, provenance ▸ tasks ▸ tallied.tasks⟩, added⟩
    rw [provenance]
    rw [added, List.mem_append, List.mem_singleton] at listed
    rcases listed with old | rfl
    · exact tallied.known row old
    · exact List.mem_map.mpr ⟨p, member, directive⟩
  | new fresh tasks provenance line =>
    have added := tallied.recorded number line
    refine ⟨⟨numbered added, fun row listed => ?_, ?_, ?_⟩, added⟩
    · rw [provenance, List.map_append, List.mem_append]
      rw [added, List.mem_append, List.mem_singleton] at listed
      rcases listed with old | rfl
      · exact .inl (tallied.known row old)
      · exact .inr (List.mem_singleton_self _)
    · rw [provenance, List.map_append, List.map_singleton, List.nodup_append]
      refine ⟨tallied.alone, List.nodup_singleton _, fun id listed id' last => ?_⟩
      obtain ⟨p, member, rfl⟩ := List.mem_map.mp listed
      rw [List.mem_singleton.mp last]
      exact (fresh p member).1
    · rw [tasks, provenance, List.map_append, List.map_append, tallied.tasks]
      rfl

/-! ### One call -/

/-- Where the loop stands, and what it has come to. -/
structure LoopProgress (before : List QueueRecordRow) (rs : List (Record × String)) (n : Nat) (db : Db) : Prop where
  tallied : Tallied db
  grown : before <+: db.queueRecords.rows
  behind : n ≤ before.length → db.queueRecords.rows.length = before.length
  here : before.length < n → db.queueRecords.rows.length + 1 = n
  rows : ∀ k row, before.length ≤ k → db.queueRecords.rows[k]? = some row → ∃ r, rs[k]? = some r ∧ SameRecord row r

theorem LoopProgress.entered {before : List QueueRecordRow} {created : Bool} (progress : LoopProgress before rs n db) (after : before.length < n)
    (record : rs[n - 1]? = some r) (entry : EntryOf i n r e) (outcome : EntryOutcome e db db' (.ok created)) : LoopProgress before rs (n + 1) db' := by
  obtain ⟨number, row⟩ := entryOf_row entry
  have length := progress.here after
  obtain ⟨tallied, added⟩ := progress.tallied.entered (number.trans length.symm) outcome
  have longer : db'.queueRecords.rows.length = db.queueRecords.rows.length + 1 := by
    rw [added, List.length_append, List.length_singleton]
  refine ⟨tallied, added ▸ progress.grown.trans (List.prefix_append _ _), fun _ => by omega, fun _ => by omega, fun k row' from' here => ?_⟩
  rw [added] at here
  by_cases old : k < db.queueRecords.rows.length
  · rw [List.getElem?_append_left old] at here
    exact progress.rows k row' from' here
  · have last : k = db.queueRecords.rows.length := by
      have inside := (List.getElem?_eq_some_iff.mp here).1
      rw [List.length_append, List.length_singleton] at inside
      omega
    rw [last, List.getElem?_concat_length] at here
    obtain rfl := Option.some.inj here
    have index : n - 1 = k := by omega
    exact ⟨r, index ▸ record, row⟩

variable {init : Db} {past : List (Transition Db IngestEvent)} {queue : Option (List UInt8)} {raw : List UInt8}

theorem Tallied.sequence (tallied : Tallied db) {k : Nat} {row : QueueRecordRow} (here : db.queueRecords.rows[k]? = some row) :
    row.sequence = k + 1 := by
  have listed : (db.queueRecords.rows.map (·.sequence))[k]? = some row.sequence := by
    rw [List.getElem?_map, here]
    rfl
  rw [tallied.numbers] at listed
  obtain ⟨_, same⟩ := List.getElem?_eq_some_iff.mp listed
  rw [List.getElem_range', Nat.one_mul] at same
  omega

/-- Nothing was ingested. -/
structure Unfilled (db : Db) : Prop where
  tasks : db.tasks.rows = []
  provenance : db.provenance.rows = []
  records : db.queueRecords.rows = []

theorem Unfilled.tallied (unfilled : Unfilled db) : Tallied db := by
  refine ⟨?_, ?_, ?_, ?_⟩
  · rw [unfilled.records]
    rfl
  · rw [unfilled.records]
    exact fun _ => nofun
  · rw [unfilled.provenance]
    exact List.nodup_nil
  · rw [unfilled.tasks, unfilled.provenance]
    rfl

theorem Tallied.ordered (tallied : Tallied db) : inSequence db.queueRecords.rows = db.queueRecords.rows := by
  refine List.Pairwise.insertionSort_eq ?_
  have increasing : (db.queueRecords.rows.map (·.sequence)).Pairwise (· ≤ ·) := by
    rw [tallied.numbers]
    exact List.pairwise_le_range'
  exact List.pairwise_map.mp increasing

end

end ControlPlane.Autonomy
