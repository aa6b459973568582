import ControlPlane.Directive.Queue

/-!
# What the calls of a queue do

The records a queue writes are well formed and are read back as they were; on such records a
call is refused, creates a record, moves one along the state machine, or rejects it for
its payload.
-/

namespace ControlPlane.Directive

open ControlPlane.Data

/-! ### Well-formed records -/

/-- A record as the queue makes them. -/
structure RecordOf (directiveId : String) (rec : Record) : Prop where
  named : directiveId ≠ ""
  identity : rec.get? "directive_id" = some (.str directiveId)
  flat : Record.Flat rec
  state : ∃ s : DirectiveState, rec.get? "queue_state" = some (.str s.value) ∧ s ≠ .authenticated ∧
    (s = .queued → rec.field "lock_owner" = .null)
  attempts : ∃ n : Int, rec.get? "attempt_count" = some (.int n)

/-- Records under distinct texts, each as it has to be for its key. -/
structure RecordsOf (P : String → Record → Prop) (records : Records) : Prop where
  distinct : Dict.Distinct records
  each : ∀ e ∈ records, ∃ id, e.1 = .str id ∧ P id e.2

abbrev Wellformed : Records → Prop := RecordsOf RecordOf

/-- The state the record of a directive is in. -/
def stateOf (records : Records) (directiveId : String) : Option DirectiveState :=
  (records.get? (.str directiveId)).bind fun rec => DirectiveState.ofValue? (Record.field rec "queue_state")

variable {host : Host} {records : Records} {rec : Record} {d d' : String}

section

variable {P : String → Record → Prop}

theorem RecordsOf.nil : RecordsOf P [] := ⟨List.nodup_nil, by simp⟩

theorem RecordsOf.record (wf : RecordsOf P records) (found : records.get? (.str d) = some rec) : P d rec := by
  obtain ⟨d', same, record⟩ := wf.each _ (Dict.mem_of_get? found)
  cases same
  exact record

theorem RecordsOf.set (wf : RecordsOf P records) (record : P d rec) : RecordsOf P (records.set (.str d) rec) where
  distinct := wf.distinct.set
  each e member := by
    rcases Dict.mem_set member with rfl | member
    · exact ⟨d, rfl, record⟩
    · exact wf.each e member

/-- The loop of a loader whose records name their own keys; a line that cannot be used ends it. -/
def loadBy (name : String) : Records → List (Option Json) → Records
  | records, some (.dict rec) :: rest =>
    match (Dict.get? rec name).bind Json.key? with
    | some key => loadBy name (records.set key rec) rest
    | none => records
  | records, _ => records

/-- Records that name their keys are loaded in their order. -/
theorem loadBy_append {name : String} (named : ∀ id rec, P id rec → rec.get? name = some (.str id)) (found : Records)
    {rest : Records} (distinct : Dict.Distinct (found ++ rest)) (each : ∀ e ∈ rest, ∃ id, e.1 = .str id ∧ P id e.2) :
    loadBy name found ((rest.map (·.2)).map fun r => some (.dict r)) = found ++ rest := by
  induction rest generalizing found with
  | nil =>
    rw [List.append_nil]
    rfl
  | cons e rest ih =>
    obtain ⟨id, key, record⟩ := each e List.mem_cons_self
    obtain ⟨k, rec⟩ := e
    cases key
    have fresh : Json.Key.str id ∉ Dict.keys found := by
      intro known
      unfold Dict.Distinct Dict.keys at distinct
      rw [List.map_append, List.map_cons] at distinct
      exact (List.nodup_append.mp distinct).2.2 _ known _ List.mem_cons_self rfl
    have step : found.set (.str id) rec = found ++ [(.str id, rec)] := Dict.set_fresh fresh
    have later := ih (found ++ [(.str id, rec)]) (by simpa using distinct) fun f member => each f (List.mem_cons_of_mem _ member)
    rw [List.map_cons, List.map_cons]
    unfold loadBy
    simp only [named id rec record, Option.bind_some, Json.key?, step]
    rw [later, List.append_assoc]
    rfl

/-- What was written is loaded. -/
theorem RecordsOf.reload {name : String} (wf : RecordsOf P records) (named : ∀ id rec, P id rec → rec.get? name = some (.str id))
    (flat : ∀ id rec, P id rec → Record.Flat rec) : loadBy name [] (Json.readLines host.floats (queueText host records)) = records := by
  have keyed : ∀ r ∈ records.map (·.2), Json.Keyed (.dict r) := by
    intro r member
    obtain ⟨e, inside, rfl⟩ := List.mem_map.mp member
    obtain ⟨id, -, record⟩ := wf.each e inside
    exact (flat id e.2 record).keyed
  rw [queueText, Json.readLines_writeLines keyed]
  exact loadBy_append named [] wf.distinct wf.each

end

theorem stateOf_set_self {s : DirectiveState} (state : rec.get? "queue_state" = some (.str s.value)) :
    stateOf (records.set (.str d) rec) d = some s := by
  unfold stateOf Record.field
  rw [Dict.get?_set_self, Option.bind_some, state, Option.getD_some, DirectiveState.ofValue?_value]

theorem stateOf_set_of_ne (other : d ≠ d') : stateOf (records.set (.str d) rec) d' = stateOf records d' := by
  unfold stateOf
  rw [Dict.get?_set_of_ne fun same => other (Json.Key.str.inj same)]

/-! ### The file -/

theorem loadLines_append (found : Records) {rest : Records} (distinct : Dict.Distinct (found ++ rest))
    (each : ∀ e ∈ rest, ∃ directiveId, e.1 = .str directiveId ∧ RecordOf directiveId e.2) :
    loadLines found ((rest.map (·.2)).map fun r => some (.dict r)) = (true, found ++ rest) := by
  induction rest generalizing found with
  | nil => rw [List.append_nil]; rfl
  | cons e rest ih =>
    obtain ⟨d, key, record⟩ := each e List.mem_cons_self
    obtain ⟨k, rec⟩ := e
    cases key
    have id : Record.field rec "directive_id" = .str d := by
      unfold Record.field
      rw [record.identity, Option.getD_some]
    have fresh : Json.Key.str d ∉ Dict.keys found := by
      intro known
      unfold Dict.Distinct Dict.keys at distinct
      rw [List.map_append, List.map_cons] at distinct
      exact (List.nodup_append.mp distinct).2.2 _ known _ List.mem_cons_self rfl
    have truthy : (Json.str d).truthy = true := by simp [Json.truthy, record.named]
    have step : found.set (.str d) rec = found ++ [(.str d, rec)] := Dict.set_fresh fresh
    have later := ih (found ++ [(.str d, rec)]) (by simpa using distinct)
      fun f member => each f (List.mem_cons_of_mem _ member)
    rw [List.map_cons, List.map_cons]
    unfold loadLines
    simp only [id, truthy, Json.key?, if_true, step]
    rw [later, List.append_assoc]
    rfl

/-- The file holds these records, or there is none yet. -/
def Holds (host : Host) (file : Option String) (records : Records) : Prop :=
  (file = none ∧ records = []) ∨ file = some (queueText host records)

/-- What was saved is loaded. -/
theorem Holds.load {file : Option String} (holds : Holds host file records) (wf : Wellformed records) :
    loadQueue host file = (true, records) := by
  rcases holds with ⟨rfl, rfl⟩ | rfl
  · rfl
  · have keyed : ∀ r ∈ records.map (·.2), Json.Keyed (.dict r) := by
      intro r member
      obtain ⟨e, inside, rfl⟩ := List.mem_map.mp member
      obtain ⟨d, -, record⟩ := wf.each e inside
      exact record.flat.keyed
    simp only [loadQueue, queueText]
    rw [Json.readLines_writeLines keyed]
    exact loadLines_append [] wf.distinct wf.each

theorem Holds.save {file : Option String} {answers : Answers} {before : Records} (holds : Holds host file before) :
    Holds host (saveQueueAtomic host answers records file) (if answers.saved then records else before) := by
  unfold saveQueueAtomic
  split
  · exact .inr rfl
  · exact holds

/-! ### The records a call writes -/

theorem recordOf_new {now commitSha payloadSha256 signerFp : String} (named : d ≠ "") :
    RecordOf d (newRecord now d commitSha payloadSha256 signerFp) where
  named := named
  identity := rfl
  flat := by
    refine ⟨?_, ?_⟩
    · simp [Dict.Distinct, Dict.keys, newRecord]
    · intro e member
      simp only [newRecord, List.mem_cons, List.not_mem_nil, or_false] at member
      rcases member with rfl | rfl | rfl | rfl | rfl | rfl | rfl | rfl | rfl | rfl | rfl | rfl <;> trivial
  state := ⟨.queued, rfl, by decide, fun _ => rfl⟩
  attempts := ⟨0, rfl⟩

theorem RecordOf.setState {s : DirectiveState} (record : RecordOf d rec) (queued : s ≠ .queued) (auth : s ≠ .authenticated) :
    RecordOf d (rec.set "queue_state" (.str s.value)) where
  named := record.named
  identity := by
    rw [Dict.get?_set_of_ne (by decide)]
    exact record.identity
  flat := record.flat.set trivial
  state := ⟨s, Dict.get?_set_self, auth, fun same => absurd same queued⟩
  attempts := by
    rw [Dict.get?_set_of_ne (by decide)]
    exact record.attempts

/-- The record after a transition. -/
def advanced (now workerId : String) (target : DirectiveState) (rec : Record) : Record :=
  (bookkeeping now workerId target rec).2.set "queue_state" (.str target.value)

section

variable {now workerId : String} {target : DirectiveState}

theorem bookkeeping_ok (now workerId : String) (target : DirectiveState) (record : RecordOf d rec) : (bookkeeping now workerId target rec).1 = true := by
  obtain ⟨n, attempts⟩ := record.attempts
  unfold bookkeeping
  split
  · simp [Dict.get?_set, attempts, Json.increment]
  · split <;> rfl

theorem advanced_cases (now workerId : String) (target : DirectiveState) (record : RecordOf d rec) :
    (target = .claimed ∧ ∃ n : Int, advanced now workerId target rec =
      (((rec.set "lock_owner" (.str workerId)).set "claimed_at" (.str now)).set "attempt_count" (.int n)).set
        "queue_state" (.str target.value)) ∨
    (target ≠ .claimed ∧ target ∈ DirectiveState.terminal ∧ advanced now workerId target rec =
      ((rec.set "completed_at" (.str now)).set "lock_owner" .null).set "queue_state" (.str target.value)) ∨
    (target ≠ .claimed ∧ target ∉ DirectiveState.terminal ∧ advanced now workerId target rec =
      rec.set "queue_state" (.str target.value)) := by
  obtain ⟨n, attempts⟩ := record.attempts
  unfold advanced bookkeeping
  by_cases claim : target = .claimed
  · left
    refine ⟨claim, n + 1, ?_⟩
    simp [claim, Dict.get?_set, attempts, Json.increment]
  · right
    by_cases ends : target ∈ DirectiveState.terminal
    · left
      simp [claim, ends]
    · right
      simp [claim, ends]

/-- Who holds the lock after a transition. -/
theorem advanced_owner (record : RecordOf d rec) : Record.field (advanced now workerId target rec) "lock_owner" =
    if target = .claimed then .str workerId else if target ∈ DirectiveState.terminal then .null
    else Record.field rec "lock_owner" := by
  rcases advanced_cases now workerId target record with
    ⟨claim, n, same⟩ | ⟨claim, ends, same⟩ | ⟨claim, ends, same⟩
  · rw [same, if_pos claim]
    simp
  · rw [same, if_neg claim, if_pos ends]
    simp
  · rw [same, if_neg claim, if_neg ends]
    simp

theorem advanced_completed (record : RecordOf d rec) : Record.field (advanced now workerId target rec) "completed_at" =
    if target ∈ DirectiveState.terminal then .str now else Record.field rec "completed_at" := by
  rcases advanced_cases now workerId target record with
    ⟨rfl, n, same⟩ | ⟨claim, ends, same⟩ | ⟨claim, ends, same⟩
  · rw [same, if_neg (by decide)]
    simp
  · rw [same, if_pos ends]
    simp
  · rw [same, if_neg ends]
    simp

theorem advanced_state : (advanced now workerId target rec).get? "queue_state" = some (.str target.value) := Dict.get?_set_self

theorem recordOf_advanced (record : RecordOf d rec) (queued : target ≠ .queued) (auth : target ≠ .authenticated) :
    RecordOf d (advanced now workerId target rec) := by
  have state : ∃ s : DirectiveState, (advanced now workerId target rec).get? "queue_state" = some (.str s.value) ∧
      s ≠ .authenticated ∧ (s = .queued → Record.field (advanced now workerId target rec) "lock_owner" = .null) :=
    ⟨target, advanced_state, auth, fun same => absurd same queued⟩
  obtain ⟨n, attempts⟩ := record.attempts
  refine ⟨record.named, ?_, ?_, state, ?_⟩ <;>
    rcases advanced_cases now workerId target record with
      ⟨-, m, same⟩ | ⟨-, -, same⟩ | ⟨-, -, same⟩ <;> rw [same]
  iterate 3
    simp [Dict.get?_set, record.identity]
  · refine (((record.flat.set ?_).set ?_).set ?_).set ?_ <;> trivial
  · refine ((record.flat.set ?_).set ?_).set ?_ <;> trivial
  · exact record.flat.set trivial
  · exact ⟨m, by simp [Dict.get?_set]⟩
  · exact ⟨n, by simp [Dict.get?_set, attempts]⟩
  · exact ⟨n, by simp [Dict.get?_set, attempts]⟩

end

/-! ### The cases of a call -/

/-- The call gets past the checks of the state machine. -/
def Enabled (q : Queue) : Call → Prop
  | .enqueue d .. => d ≠ "" ∧ q.records.get? (.str d) = none
  | .transition d target .. => ∃ curr, stateOf q.records d = some curr ∧ target ∈ curr.validTransitions

/-- What a call on well-formed records does. -/
inductive Performed (host : Host) (answers : Answers) (q : Queue) : Call → Outcome → Prop
  | refused {call : Call} (reason : String) (stuck : ¬ Enabled q call)
      (other : reason ≠ "QUEUE_PAYLOAD_MUTATION_REJECTED") : Performed host answers q call (q.refuse reason)
  | created {d commitSha payloadSha256 signerFp workerId : String} (named : d ≠ "") (fresh : q.records.get? (.str d) = none) :
      Performed host answers q (.enqueue d commitSha payloadSha256 signerFp workerId)
        (q.conclude host answers (q.records.set (.str d) (newRecord answers.now d commitSha payloadSha256 signerFp))
          (appendEvent host answers ("EVT-ENQUEUE-" ++ toString answers.timeNs) d "NONE" DirectiveState.queued.value workerId
            (.str payloadSha256) (.str commitSha)))
  | rejected {d workerId : String} {target curr : DirectiveState} {currentPayload : Option String} {rec : Record}
      (found : q.records.get? (.str d) = some rec) (record : RecordOf d rec) (state : stateOf q.records d = some curr)
      (valid : target ∈ curr.validTransitions) (other : mutated rec currentPayload = true) :
      Performed host answers q (.transition d target workerId currentPayload)
        ⟨q.records.set (.str d) (rec.set "queue_state" (.str DirectiveState.rejected.value)),
          saveQueueAtomic host answers (q.records.set (.str d) (rec.set "queue_state" (.str DirectiveState.rejected.value))) q.file,
          none, .ok (some "QUEUE_PAYLOAD_MUTATION_REJECTED")⟩
  | moved {d workerId : String} {target curr : DirectiveState} {currentPayload : Option String} {rec : Record}
      (found : q.records.get? (.str d) = some rec) (record : RecordOf d rec) (state : stateOf q.records d = some curr)
      (valid : target ∈ curr.validTransitions) (same : mutated rec currentPayload = false) :
      Performed host answers q (.transition d target workerId currentPayload)
        (q.conclude host answers (q.records.set (.str d) (advanced answers.now workerId target rec))
          (appendEvent host answers ("EVT-TRANS-" ++ toString answers.timeNs) d curr.value target.value workerId
            (Record.field (advanced answers.now workerId target rec) "authenticated_payload_sha256")
            (Record.field (advanced answers.now workerId target rec) "authenticated_payload_commit_sha")))

theorem stateOf_found {s : DirectiveState} (found : records.get? (.str d) = some rec)
    (state : rec.get? "queue_state" = some (.str s.value)) : stateOf records d = some s := by
  unfold stateOf Record.field
  rw [found, Option.bind_some, state, Option.getD_some, DirectiveState.ofValue?_value]

/-- Only a queued record can be claimed. -/
theorem queued_of_claimed {s : DirectiveState} (valid : .claimed ∈ s.validTransitions) : s = .queued := by
  cases s <;> first | rfl | exact absurd valid (by decide)

/-- A transition never leads back to the start. -/
theorem later_of_valid {s t : DirectiveState} (valid : t ∈ s.validTransitions) (auth : s ≠ .authenticated) :
    t ≠ .queued ∧ t ≠ .authenticated := by
  cases s <;> cases t <;> first | exact absurd valid (by decide) | exact absurd rfl auth | decide

theorem enqueue_performed {answers : Answers} {q : Queue} {d commitSha payloadSha256 signerFp workerId : String} :
    Performed host answers q (.enqueue d commitSha payloadSha256 signerFp workerId)
      (enqueueDirective host answers q d commitSha payloadSha256 signerFp workerId) := by
  unfold enqueueDirective
  split
  · rename_i unnamed
    exact .refused _ (fun enabled => enabled.1 unnamed) (by decide)
  · rename_i named
    cases found : q.records.get? (.str d) with
    | some existing =>
      have stuck : ¬ Enabled q (.enqueue d commitSha payloadSha256 signerFp workerId) := by
        intro enabled
        rw [enabled.2] at found
        cases found
      dsimp only
      split
      · exact .refused _ stuck (by decide)
      · exact .refused _ stuck (by decide)
    | none => exact .created named found

theorem transition_performed {answers : Answers} {q : Queue} (wf : Wellformed q.records) {d workerId : String}
    {target : DirectiveState} {currentPayload : Option String} :
    Performed host answers q (.transition d target workerId currentPayload)
      (transitionState host answers q d target workerId currentPayload) := by
  unfold transitionState
  cases found : q.records.get? (.str d) with
  | none =>
    have stuck : ¬ Enabled q (.transition d target workerId currentPayload) := by
      intro enabled
      obtain ⟨curr, state, -⟩ := enabled
      simp [stateOf, found] at state
    exact .refused _ stuck (by decide)
  | some rec =>
    have record := wf.record found
    obtain ⟨s, state, auth, unlocked⟩ := record.state
    have known := stateOf_found found state
    have parsed : DirectiveState.ofValue? (Record.field rec "queue_state") = some s := by
      unfold Record.field
      rw [state, Option.getD_some, DirectiveState.ofValue?_value]
    have stuck (invalid : target ∉ s.validTransitions) : ¬ Enabled q (.transition d target workerId currentPayload) := by
      intro enabled
      obtain ⟨curr, state, valid⟩ := enabled
      rw [known] at state
      cases state
      exact invalid valid
    have some : rec.isEmpty = false := by
      cases rec with
      | nil => cases state
      | cons e rest => rfl
    dsimp only
    rw [some, if_neg (by decide), parsed]
    dsimp only
    split
    · rename_i terminal
      have invalid : target ∉ s.validTransitions := fun valid => DirectiveState.not_terminal_of_valid valid terminal
      split
      · exact .refused _ (stuck invalid) (by decide)
      · exact .refused _ (stuck invalid) (by decide)
    split
    · rename_i twice
      obtain ⟨rfl, rfl⟩ := twice
      exact .refused _ (stuck (by decide)) (by decide)
    split
    · rename_i invalid
      exact .refused _ (stuck invalid) (by decide)
    rename_i valid
    rw [Decidable.not_not] at valid
    split
    · rename_i other
      exact .rejected found record known valid other
    rename_i same
    split
    · rename_i locked
      obtain ⟨rfl, locked⟩ := locked
      rw [lockedByOther, unlocked (queued_of_claimed valid)] at locked
      cases locked
    have ok := bookkeeping_ok answers.now workerId target record
    have split' : bookkeeping answers.now workerId target rec = (true, (bookkeeping answers.now workerId target rec).2) := by
      rw [← ok]
    rw [split']
    exact .moved found record known valid (by simpa using same)

theorem performed (host : Host) (answers : Answers) {q : Queue} (call : Call) (wf : Wellformed q.records) :
    Performed host answers q call (perform host answers q call) := by
  cases call with
  | enqueue => exact enqueue_performed
  | transition => exact transition_performed wf

/-! ### What the cases say -/

section

variable {answers : Answers} {q : Queue} {call : Call} {o : Outcome} {event : Except Fault (Option Record)}

@[simp] theorem conclude_records : (q.conclude host answers records event).records = records := by
  unfold Queue.conclude
  dsimp only
  split
  · split <;> rfl
  · rfl

@[simp] theorem conclude_file : (q.conclude host answers records event).file = saveQueueAtomic host answers records q.file := by
  unfold Queue.conclude
  dsimp only
  split
  · split <;> rfl
  · rfl

/-- An event that was appended, after a save. -/
theorem conclude_event {e : Record} (given : (q.conclude host answers records event).event = some e) :
    answers.saved = true ∧ event = .ok (some e) := by
  unfold Queue.conclude at given
  dsimp only at given
  split at given
  · rename_i saved
    split at given
    · cases given
      exact ⟨saved, rfl⟩
    · cases given
  · cases given

theorem conclude_ok {e : Option Record} (saved : answers.saved = true) (appended : event = .ok e) :
    (q.conclude host answers records event).event = e ∧ (q.conclude host answers records event).result = .ok none := by
  unfold Queue.conclude
  rw [appended, if_pos saved]
  exact ⟨rfl, rfl⟩

/-- A success, which needs a save. -/
theorem conclude_success (success : (q.conclude host answers records event).result = .ok none) : answers.saved = true := by
  unfold Queue.conclude at success
  dsimp only at success
  split at success
  · assumption
  · cases success

/-- A call leaves the records of other directives alone. -/
theorem Performed.frame (performed : Performed host answers q call o) (other : call.directiveId ≠ d) :
    o.records.get? (.str d) = q.records.get? (.str d) := by
  have frame (rec : Record) : (q.records.set (.str call.directiveId) rec).get? (.str d) = q.records.get? (.str d) :=
    Dict.get?_set_of_ne fun same => other (Json.Key.str.inj same)
  cases performed with
  | refused => rfl
  | created => rw [conclude_records]; exact frame _
  | rejected => exact frame _
  | moved => rw [conclude_records]; exact frame _

theorem Performed.stateOf_frame (performed : Performed host answers q call o) (other : call.directiveId ≠ d) :
    stateOf o.records d = stateOf q.records d := by
  unfold stateOf
  rw [performed.frame other]

theorem notAuthenticated {s : DirectiveState} (wf : Wellformed q.records) (state : stateOf q.records d = some s) :
    s ≠ .authenticated := by
  obtain ⟨rec, found, parsed⟩ := Option.bind_eq_some_iff.mp state
  obtain ⟨t, same, auth, -⟩ := (wf.record found).state
  have known := stateOf_found found same
  rw [state] at known
  cases known
  exact auth

theorem Performed.wellformed (performed : Performed host answers q call o) (wf : Wellformed q.records) : Wellformed o.records := by
  cases performed with
  | refused => exact wf
  | created named fresh =>
    rw [conclude_records]
    exact wf.set (recordOf_new named)
  | rejected found record => exact wf.set (record.setState (by decide) (by decide))
  | moved found record state valid same =>
    rw [conclude_records]
    obtain ⟨queued, auth⟩ := later_of_valid valid (notAuthenticated wf state)
    exact wf.set (recordOf_advanced record queued auth)

theorem saveQueueAtomic_cases (answers : Answers) (records : Records) (file : Option String) :
    saveQueueAtomic host answers records file = file ∨ saveQueueAtomic host answers records file = some (queueText host records) := by
  unfold saveQueueAtomic
  split
  · exact .inr rfl
  · exact .inl rfl

/-- The file is left as it was, or holds the records in memory. -/
theorem Performed.file (performed : Performed host answers q call o) : o.file = q.file ∨ o.file = some (queueText host o.records) := by
  cases performed with
  | refused => exact .inl rfl
  | created =>
    rw [conclude_file, conclude_records]
    exact saveQueueAtomic_cases _ _ _
  | rejected => exact saveQueueAtomic_cases _ _ _
  | moved =>
    rw [conclude_file, conclude_records]
    exact saveQueueAtomic_cases _ _ _

/-- A file that queues have written. -/
def Sound (host : Host) (file : Option String) : Prop := ∃ saved, Holds host file saved ∧ Wellformed saved

theorem Performed.sound (performed : Performed host answers q call o) (wf : Wellformed q.records) (sound : Sound host q.file) :
    Sound host o.file := by
  rcases performed.file with same | saved
  · rwa [same]
  · exact ⟨o.records, .inr saved, performed.wellformed wf⟩

theorem Sound.load {file : Option String} (sound : Sound host file) : Wellformed (loadQueue host file).2 := by
  obtain ⟨saved, holds, wf⟩ := sound
  rw [holds.load wf]
  exact wf

theorem sound_none : Sound host none := ⟨[], .inl ⟨rfl, rfl⟩, RecordsOf.nil⟩

/-- What does not get past the checks is refused. -/
theorem Performed.stuck (performed : Performed host answers q call o) (stuck : ¬ Enabled q call) :
    ∃ reason, o = q.refuse reason := by
  cases performed with
  | refused reason => exact ⟨reason, rfl⟩
  | created named fresh => exact absurd ⟨named, fresh⟩ stuck
  | rejected found record state valid => exact absurd ⟨_, state, valid⟩ stuck
  | moved found record state valid => exact absurd ⟨_, state, valid⟩ stuck

/-- What gets past the checks is saved, if that can be done. -/
theorem Performed.saves (performed : Performed host answers q call o) (enabled : Enabled q call) :
    o.file = saveQueueAtomic host answers o.records q.file := by
  cases performed with
  | refused reason stuck => exact absurd enabled stuck
  | created => rw [conclude_file, conclude_records]
  | rejected => rfl
  | moved => rw [conclude_file, conclude_records]

/-- A call that succeeds got past the checks and saved. -/
theorem Performed.succeeded (performed : Performed host answers q call o) (success : o.result = .ok none) :
    Enabled q call ∧ answers.saved = true := by
  cases performed with
  | refused => cases success
  | created named fresh => exact ⟨⟨named, fresh⟩, conclude_success success⟩
  | rejected => cases success
  | moved found record state valid => exact ⟨⟨_, state, valid⟩, conclude_success success⟩

end

end ControlPlane.Directive
