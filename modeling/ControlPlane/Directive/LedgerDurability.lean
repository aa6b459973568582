import ControlPlane.Data.Json.Torn
import ControlPlane.Directive.Watcher

/-!
# The replay ledger across crashes

`replay_ledger.py`: a record is appended as one line, and a ledger that is opened reads the file
line by line and passes over what it cannot read. A write that is cut short leaves some of its
line behind, and the next record goes on from there.
-/

namespace ControlPlane.Directive

open ControlPlane.Data

/-- The arguments of `record_consumption`, and the time it reads. -/
structure ConsumptionCall where
  directiveId : String
  sourceCommitSha : String
  firstSeenAt : String
  decision : String
  decisionReason : String
  processedAt : String

def ConsumptionCall.record (call : ConsumptionCall) : ConsumedRecord where
  directiveId := .str call.directiveId
  sourceCommitSha := .str call.sourceCommitSha
  firstSeenAt := .str call.firstSeenAt
  decision := .str call.decision
  decisionReason := .str call.decisionReason
  processedAt := .str call.processedAt

structure ReplayLedger where
  consumed : Consumed
  file : Option String

/-- How an append ends: cut short, it leaves so many characters of the line, or not even the file. -/
inductive AppendOutcome where
  | written
  | raised (kept : Option Nat)
  | crashed (kept : Option Nat)

inductive LedgerStep where
  | record (call : ConsumptionCall) (outcome : AppendOutcome)
  | restart

section

variable (host : Host)

/-- `ReplayLedger(path)` -/
def ReplayLedger.opened (file : Option String) : ReplayLedger := ⟨loadLedger host file, file⟩

/-- `is_consumed` -/
def ReplayLedger.isConsumed (ledger : ReplayLedger) (directiveId : String) : Bool := (ledger.consumed.get? (.str directiveId)).isSome

/-- What is written: the line and its newline. -/
def ConsumptionCall.written (call : ConsumptionCall) : List Char := consumedLine host call.record ++ ['\n']

/-- The file after a write that was cut short. -/
def cutFile (file : Option String) (text : List Char) : Option Nat → Option String
  | none => file
  | some kept => appended file (text.take kept)

/-- `record_consumption`, or the process starting anew. -/
def ReplayLedger.perform (ledger : ReplayLedger) : LedgerStep → ReplayLedger
  | .record call .written => ⟨ledger.consumed.set (.str call.directiveId) call.record, appended ledger.file (call.written host)⟩
  | .record call (.raised kept) => ⟨ledger.consumed.set (.str call.directiveId) call.record, cutFile ledger.file (call.written host) kept⟩
  | .record call (.crashed kept) => .opened host (cutFile ledger.file (call.written host) kept)
  | .restart => .opened host ledger.file

def ReplayLedger.run (ledger : ReplayLedger) (steps : List LedgerStep) : ReplayLedger := steps.foldl (ReplayLedger.perform host) ledger

end

/-- What the lines record that a newline ends. -/
def endedRecords (host : Host) (file : Option String) : Consumed :=
  (((endedLines (file.getD "")).map strip).filter fun line => !line.isEmpty).foldl (loadConsumed host) []

section

variable {host : Host} {ledger : ReplayLedger} {call : ConsumptionCall} {before after : List LedgerStep} {step : LedgerStep}
  {file : Option String} {records : Consumed} {record : ConsumedRecord} {line u : List Char} {lines : List (List Char)} {key : Json.Key}
  {id : String}

/-! ### Lines -/

theorem consumedLine_solid {host : Host} {record : ConsumedRecord} : Solid (consumedLine host record) := Json.lineOf_solid host.floats _

theorem consumedLine_begins (host : Host) (record : ConsumedRecord) : ∃ w, Json.Beginning (consumedLine host record) w := by
  have opens : ∃ w, consumedLine host record = '\x7b' :: '"' :: 'd' :: w := by
    have quoted : Json.quote "directive_id" = '"' :: 'd' :: "irective_id\"".toList := by decide
    have unsorted (entries) : Json.arrange {} entries = entries := rfl
    rw [consumedLine, Json.lineOf, Json.text, unsorted, ConsumedRecord.toDict, Json.entryTexts, Json.entryTexts, List.map_cons,
      List.map_cons, Json.separate_cons, quoted]
    exact ⟨_, rfl⟩
  obtain ⟨w, same⟩ := opens
  exact ⟨'d' :: w, same, 'd', w, rfl, by decide, by decide⟩

theorem loadConsumed_line_call (given : call.directiveId ≠ "") :
    loadConsumed host records (consumedLine host call.record) = records.set (.str call.directiveId) call.record := by
  have keyed : Json.Keyed (.dict call.record.toDict) := by
    simp [Json.Keyed, Json.EntriesKeyed, ConsumptionCall.record, ConsumedRecord.toDict, Dict.Distinct, Dict.keys]
  have id : Record.field call.record.toDict "directive_id" = .str call.directiveId := rfl
  have again : recordOf call.record.toDict = call.record := rfl
  unfold loadConsumed consumedLine
  rw [Json.loads_lineOf keyed]
  simp only [id, Json.truthy, Json.key?, again]
  simp [given]

/-- A line that goes on from the rest of another is passed over. -/
theorem loadConsumed_torn (torn : u.dropWhile isSpace ≠ []) :
    loadConsumed host records (u.dropWhile isSpace ++ consumedLine host record) = records := by
  obtain ⟨w, begins⟩ := consumedLine_begins host record
  have solid : ∃ c ∈ u.dropWhile isSpace, Json.isBlank c = false := by
    obtain ⟨c, rest, opens⟩ := List.exists_cons_of_ne_nil torn
    have stops := List.head?_dropWhile_not isSpace u
    rw [opens] at stops
    refine ⟨c, opens ▸ List.mem_cons_self, ?_⟩
    by_contra blank
    simp only [Bool.not_eq_false, Json.isBlank, Bool.or_eq_true, decide_eq_true_eq] at blank
    rcases blank with ((rfl | rfl) | rfl) | rfl
    all_goals cases stops
  have nothing : Json.loads host.floats (String.ofList (u.dropWhile isSpace ++ consumedLine host record)) = none :=
    Json.loads_torn Json.spaced_default begins solid
  rw [loadConsumed, nothing]

theorem loadConsumed_cases (host : Host) (records : Consumed) (line : List Char) : loadConsumed host records line = records ∨ ∃ field key loaded, Json.truthy field = true ∧
    Json.key? field = some key ∧ loadConsumed host records line = records.set key loaded := by
  unfold loadConsumed
  split
  · split
    · rename_i truthy
      split
      · rename_i key found
        exact .inr ⟨_, key, _, truthy, found, rfl⟩
      · exact .inl rfl
    · exact .inl rfl
  · exact .inl rfl

/-- A line takes no id away. -/
theorem loadConsumed_grows (known : (records.get? key).isSome = true) : ((loadConsumed host records line).get? key).isSome = true := by
  rcases loadConsumed_cases host records line with same | ⟨_, key', loaded, _, _, set⟩
  · rw [same]
    exact known
  · rw [set, Dict.get?_set]
    split
    · rfl
    · exact known

theorem loaded_grows (known : (records.get? key).isSome = true) : ((lines.foldl (loadConsumed host) records).get? key).isSome = true := by
  induction lines generalizing records with
  | nil => exact known
  | cons line lines ih => exact ih (loadConsumed_grows known)

/-- The empty id is loaded from no line. -/
theorem loaded_empty (unknown : records.get? (.str "") = none) : (lines.foldl (loadConsumed host) records).get? (.str "") = none := by
  induction lines generalizing records with
  | nil => exact unknown
  | cons line lines ih =>
    refine ih ?_
    rcases loadConsumed_cases host records line with same | ⟨field, key, loaded, truthy, found, set⟩
    · rw [same]
      exact unknown
    · have apart : key ≠ .str "" := by
        intro empty
        rw [empty] at found
        cases field with
        | str s =>
          obtain rfl : s = "" := by simpa [Json.key?] using found
          cases truthy
        | _ => simp [Json.key?] at found
      rw [set, Dict.get?_set_of_ne apart]
      exact unknown

/-! ### The file -/

theorem loaded_ended (known : ((endedRecords host file).get? (.str id)).isSome = true) :
    (ReplayLedger.opened host file).isConsumed id = true := by
  cases file with
  | none => cases known
  | some content =>
    obtain ⟨last, pieces⟩ := openLines_ended content
    rw [ReplayLedger.isConsumed, ReplayLedger.opened, loadLedger, strippedLines, pieces, List.map_append, List.filter_append,
      List.foldl_append]
    exact loaded_grows known

theorem endedRecords_prefix {file' : Option String} (grown : endedLines (file.getD "") <+: endedLines (file'.getD ""))
    (known : ((endedRecords host file).get? key).isSome = true) : ((endedRecords host file').get? key).isSome = true := by
  obtain ⟨more, same⟩ := grown
  rw [endedRecords, ← same, List.map_append, List.filter_append, List.foldl_append]
  exact loaded_grows known

/-- Lines that were ended stay, whatever is done to the ledger. -/
theorem perform_endedLines : endedLines (ledger.file.getD "") <+: endedLines ((ledger.perform host step).file.getD "") := by
  have cut (call : ConsumptionCall) (kept : Option Nat) :
      endedLines (ledger.file.getD "") <+: endedLines ((cutFile ledger.file (call.written host) kept).getD "") := by
    cases kept with
    | none => exact List.prefix_rfl
    | some kept => exact endedLines_cut consumedLine_solid kept
  cases step with
  | restart => exact List.prefix_rfl
  | record call outcome =>
    cases outcome with
    | raised kept => exact cut call kept
    | crashed kept => exact cut call kept
    | written =>
      obtain ⟨last, pieces⟩ := openLines_ended (ledger.file.getD "")
      rw [ReplayLedger.perform, appended, Option.getD_some, ConsumptionCall.written, endedLines_line pieces consumedLine_solid]
      exact List.prefix_append _ _

/-- What is recorded behind a newline is in the lines that are ended. -/
theorem endedRecords_written (given : call.directiveId ≠ "") (blank : AtBlank (file.getD "")) :
    ((endedRecords host (appended file (call.written host))).get? (.str call.directiveId)).isSome = true := by
  obtain ⟨front, last, pieces, space⟩ := blank
  have line : strip (last ++ consumedLine host call.record) = consumedLine host call.record := by
    rw [strip_append consumedLine_solid, strip_eq_nil.mp space, List.nil_append]
  have solid : Solid (consumedLine host call.record) := consumedLine_solid
  obtain ⟨c, rest, opens, _⟩ := solid.first
  have kept : [consumedLine host call.record].filter (fun line => !line.isEmpty) = [consumedLine host call.record] := by
    simp [opens]
  rw [endedRecords, appended, Option.getD_some, ConsumptionCall.written, endedLines_line pieces consumedLine_solid, List.map_append,
    List.map_singleton, line, List.filter_append, kept, List.foldl_append, List.foldl_cons, List.foldl_nil,
    loadConsumed_line_call given, Dict.get?_set_self]
  rfl

/-- What is recorded anywhere else is lost, with what it goes on from. -/
theorem loadLedger_torn (torn : ¬ AtBlank (file.getD "")) :
    loadLedger host (appended file (call.written host)) = endedRecords host file := by
  obtain ⟨last, pieces⟩ := openLines_ended (file.getD "")
  have rest : last.dropWhile isSpace ≠ [] := fun blank => torn ⟨_, last, pieces, strip_eq_nil.mpr blank⟩
  obtain ⟨c, tail, opens⟩ := List.exists_cons_of_ne_nil rest
  have kept : [last.dropWhile isSpace ++ consumedLine host call.record, strip []].filter (fun line => !line.isEmpty) =
      [last.dropWhile isSpace ++ consumedLine host call.record] := by
    simp [opens, strip]
  rw [appended, loadLedger, strippedLines, ConsumptionCall.written, openLines_line pieces consumedLine_solid, List.map_append, List.map_cons,
    List.map_singleton, strip_append consumedLine_solid, List.filter_append, kept, List.foldl_append, List.foldl_cons, List.foldl_nil,
    loadConsumed_torn rest]
  rfl

/-! ### Runs -/

/-- The id is in a line that is ended, and in the ledger in memory. -/
structure Durable (host : Host) (id : String) (ledger : ReplayLedger) : Prop where
  recorded : ((endedRecords host ledger.file).get? (.str id)).isSome = true
  consumed : ledger.isConsumed id = true

theorem Durable.perform (durable : Durable host id ledger) : Durable host id (ledger.perform host step) := by
  have grown : endedLines (ledger.file.getD "") <+: endedLines ((ledger.perform host step).file.getD "") := perform_endedLines
  have recorded := endedRecords_prefix grown durable.recorded
  have remembered (other : ConsumptionCall) (file : Option String) :
      (ReplayLedger.isConsumed ⟨ledger.consumed.set (.str other.directiveId) other.record, file⟩ id) = true := by
    rw [ReplayLedger.isConsumed, Dict.get?_set]
    split
    · rfl
    · exact durable.consumed
  refine ⟨recorded, ?_⟩
  cases step with
  | restart => exact loaded_ended recorded
  | record other outcome =>
    cases outcome with
    | written => exact remembered other _
    | raised kept => exact remembered other _
    | crashed kept => exact loaded_ended recorded

theorem Durable.run (durable : Durable host id ledger) : Durable host id (ledger.run host after) := by
  induction after generalizing ledger with
  | nil => exact durable
  | cons step after ih => exact ih durable.perform

theorem run_record : ledger.run host (before ++ .record call .written :: after) =
    ((ledger.run host before).perform host (.record call .written)).run host after := by
  rw [ReplayLedger.run, List.foldl_append, List.foldl_cons]
  rfl

end

/-- In every run, a record that was written is known to every later ledger iff it has an id, and was written
behind a newline or its id was recorded before. -/
theorem consumed_durable_iff (host : Host) (ledger : ReplayLedger) (before : List LedgerStep) (call : ConsumptionCall) :
    (∀ after, (ledger.run host (before ++ .record call .written :: after)).isConsumed call.directiveId = true ∧
      (ReplayLedger.opened host (ledger.run host (before ++ .record call .written :: after)).file).isConsumed call.directiveId = true) ↔
    call.directiveId ≠ "" ∧ (AtBlank ((ledger.run host before).file.getD "") ∨
      ((endedRecords host (ledger.run host before).file).get? (.str call.directiveId)).isSome = true) := by
  constructor
  · intro lasts
    have found := (lasts []).2
    rw [run_record] at found
    refine ⟨fun empty => ?_, or_iff_not_imp_left.mpr fun torn => ?_⟩
    · rw [empty, ReplayLedger.isConsumed, ReplayLedger.opened] at found
      cases file : (((ledger.run host before).perform host (.record call .written)).run host []).file with
      | none =>
        rw [file] at found
        cases found
      | some content =>
        rw [file, loadLedger, loaded_empty rfl] at found
        cases found
    · have lost : loadLedger host (appended (ledger.run host before).file (call.written host)) =
          endedRecords host (ledger.run host before).file := loadLedger_torn torn
      rw [ReplayLedger.isConsumed, ReplayLedger.opened] at found
      rw [← lost]
      exact found
  · rintro ⟨given, start⟩ after
    have recorded : ((endedRecords host (appended (ledger.run host before).file (call.written host))).get?
        (.str call.directiveId)).isSome = true := by
      rcases start with blank | known
      · exact endedRecords_written given blank
      · have grown : endedLines ((ledger.run host before).file.getD "") <+:
            endedLines (((ledger.run host before).perform host (.record call .written)).file.getD "") := perform_endedLines
        exact endedRecords_prefix grown known
    have written : Durable host call.directiveId ((ledger.run host before).perform host (.record call .written)) := by
      refine ⟨recorded, ?_⟩
      rw [ReplayLedger.isConsumed, ReplayLedger.perform, Dict.get?_set_self]
      rfl
    rw [run_record]
    exact ⟨written.run.consumed, loaded_ended written.run.recorded⟩

def firstCall : ConsumptionCall := ⟨"D-1", "c1", "t", "ACCEPTED", "", "t"⟩
def secondCall : ConsumptionCall := ⟨"D-2", "c2", "t", "ACCEPTED", "", "t"⟩

/-- A crash cuts the line of the first record; the second goes on from there and is lost. -/
theorem consumed_forgotten :
    (ReplayLedger.run sampleHost ⟨[], none⟩ [.record firstCall (.crashed (some 1)), .record secondCall .written]).isConsumed "D-2" = true ∧
    (ReplayLedger.run sampleHost ⟨[], none⟩
      [.record firstCall (.crashed (some 1)), .record secondCall .written, .restart]).isConsumed "D-2" = false := by
  refine ⟨rfl, ?_⟩
  have left : cutFile none (firstCall.written sampleHost) (some 1) = some "\x7b" := by
    obtain ⟨w, begins⟩ := consumedLine_begins sampleHost firstCall.record
    rw [cutFile, ConsumptionCall.written, begins.opens]
    rfl
  have torn : ¬ AtBlank ((cutFile none (firstCall.written sampleHost) (some 1)).getD "") := by
    rw [left]
    rintro ⟨front, last, pieces, blank⟩
    have one : openLines "\x7b" = [['\x7b']] := by decide
    have both : [] ++ [['\x7b']] = front ++ [last] := one.symm.trans pieces
    obtain ⟨_, same⟩ := List.append_inj' both rfl
    obtain rfl := List.singleton_inj.mp same
    exact absurd blank (by decide)
  have ran : ReplayLedger.run sampleHost ⟨[], none⟩
      [.record firstCall (.crashed (some 1)), .record secondCall .written, .restart] =
      .opened sampleHost (appended (cutFile none (firstCall.written sampleHost) (some 1)) (secondCall.written sampleHost)) := rfl
  rw [ran, ReplayLedger.opened, loadLedger_torn torn, left]
  rfl

end ControlPlane.Directive
