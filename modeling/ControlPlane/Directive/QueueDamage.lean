import ControlPlane.Directive.QueueOwners

/-!
# A queue file with damaged lines

Loading ends at the first line that is no JSON, and the constructor does not look at the result. A
finished directive stays finished exactly if no such line stands before its record.
-/

namespace ControlPlane.Directive

open ControlPlane.Data ControlPlane.Interleaving

/-- The queue reports the directive as `COMPLETED`, `FAILED_FINAL` or `REJECTED`. -/
def Finishes (d : String) (t : Transition Queue (Option Called)) : Prop :=
  ∃ c target worker payload, t.label = some c ∧ c.call = .transition d target worker payload ∧
    target ∈ DirectiveState.terminal ∧ c.outcome.result = .ok none

/-- A truncated or malformed line. -/
def IsDamaged (host : Host) (line : List Char) : Prop := Json.loads host.floats (String.ofList line) = none

/-- The lines of the records in the file. -/
def savedLines (host : Host) (file : Option String) : List (List Char) :=
  (loadQueue host file).2.map fun e => Json.lineOf host.floats e.2

/-- The content has the line of this record, and its other lines are lines of the file or damaged. -/
structure DamagedOnly (host : Host) (file : Option String) (rec : Record) (content : String) : Prop where
  intact : Json.lineOf host.floats rec ∈ fileLines content
  others : ∀ line ∈ fileLines content, line ∈ savedLines host file ∨ IsDamaged host line

/-- The queue that is opened on this content. -/
def reopened (host : Host) (content : String) : Queue := ⟨(loadQueue host (some content)).2, some content⟩

/-- The reopened queue does not take the directive again. -/
def Refuses (host : Host) (d content : String) : Prop :=
  ∀ answers commitSha payloadSha256 signerFp worker, ∃ reason,
    (perform host answers (reopened host content) (.enqueue d commitSha payloadSha256 signerFp worker)).result = .ok (some reason)

/-- Whatever the reopened queue saves, over any number of restarts, the line of the record is in the file. -/
def Retains (host : Host) (rec : Record) (content : String) : Prop :=
  ∀ later q, History (QueueLife host) (reopened host content) later q →
    ∃ current, q.file = some current ∧ Json.lineOf host.floats rec ∈ fileLines current

/-- Up to the line of the record every line is one of the file, or blank. -/
def IntactBefore (host : Host) (file : Option String) (rec : Record) (content : String) : Prop :=
  ∃ before behind, fileLines content = before ++ Json.lineOf host.floats rec :: behind ∧
    ∀ line ∈ before, line ∈ savedLines host file ∨ line.all isSpace = true

variable {host : Host} {answers : Answers} {q q' : Queue} {call : Call} {o : Outcome} {d : String} {rec : Record}
  {s : DirectiveState} {records saved : Records} {past : List (Transition Queue (Option Called))} {l : Option Called}
  {file base : Option String} {content : String}

/-! ### A finished record stays -/

/-- The record is in memory, and in the file: as it was first, or as it was saved. -/
structure Kept (host : Host) (d : String) (rec : Record) (base : Option String) (q : Queue) : Prop where
  wf : Wellformed q.records
  memory : q.records.get? (.str d) = some rec
  file : q.file = base ∨ ∃ saved, Holds host q.file saved ∧ Wellformed saved ∧ saved.get? (.str d) = some rec

theorem finished_stuck (found : q.records.get? (.str d) = some rec) (state : rec.get? "queue_state" = some (.str s.value))
    (terminal : s ∈ DirectiveState.terminal) (same : call.directiveId = d) : ¬ Enabled q call := by
  intro enabled
  cases call with
  | enqueue =>
    obtain rfl := same
    obtain ⟨-, fresh⟩ := enabled
    rw [Call.directiveId, fresh] at found
    cases found
  | transition =>
    obtain rfl := same
    obtain ⟨curr, known, valid⟩ := enabled
    have known' := stateOf_found found state
    rw [Call.directiveId, known] at known'
    cases known'
    exact DirectiveState.not_terminal_of_valid valid terminal

theorem Kept.step (kept : Kept host d rec base q) (state : rec.get? "queue_state" = some (.str s.value))
    (terminal : s ∈ DirectiveState.terminal) (loads : Wellformed (loadQueue host base).2 ∧
      (loadQueue host base).2.get? (.str d) = some rec) (step : QueueLife host q l q') : Kept host d rec base q' := by
  cases step with
  | restart =>
    rcases kept.file with same | ⟨saved, holds, wf, found⟩
    · refine ⟨?_, ?_, .inl same⟩
      · rw [same]
        exact loads.1
      · rw [same]
        exact loads.2
    · refine ⟨?_, ?_, .inr ⟨saved, holds, wf, found⟩⟩
      · rw [holds.load wf]
        exact wf
      · rw [holds.load wf]
        exact found
  | @call _ c step =>
    have performed := step.performed kept.wf
    have wf := performed.wellformed kept.wf
    obtain ⟨-, rfl⟩ := step.inv
    by_cases same : c.call.directiveId = d
    · obtain ⟨reason, refused⟩ := performed.stuck (finished_stuck kept.memory state terminal same)
      rw [refused]
      exact kept
    · have memory := (performed.frame same).trans kept.memory
      refine ⟨wf, memory, ?_⟩
      rcases performed.file with unsaved | saved
      · have same : c.outcome.queue.file = q.file := unsaved
        rw [same]
        exact kept.file
      · exact .inr ⟨_, .inr saved, wf, memory⟩

theorem kept_of_history (kept : Kept host d rec base q) (state : rec.get? "queue_state" = some (.str s.value))
    (terminal : s ∈ DirectiveState.terminal) (loads : Wellformed (loadQueue host base).2 ∧
      (loadQueue host base).2.get? (.str d) = some rec) (history : History (QueueLife host) q past q') :
    Kept host d rec base q' :=
  (history.invariant kept fun t member kept => kept.step state terminal loads (history.moved t member)).1

/-- The record of a directive that was reported as finished is in the file ever after. -/
theorem finished_saved (history : History (QueueLife host) emptyQueue past q) (finished : ∃ t ∈ past, Finishes d t) :
    ∃ saved rec s, Holds host q.file saved ∧ Wellformed saved ∧ saved.get? (.str d) = some rec ∧
      rec.get? "queue_state" = some (.str s.value) ∧ s ∈ DirectiveState.terminal := by
  obtain ⟨t, member, c, target, worker, payload, label, call, terminal, result⟩ := finished
  have wf := life_wellformed history t member
  obtain ⟨later, earlier, rfl⟩ := List.append_of_mem member
  obtain ⟨mid, first, second⟩ := history.cut
  cases first with
  | @step _ before label' mid _ step =>
    obtain rfl : label' = some c := label
    cases step with
    | call step =>
      have performed := step.performed wf
      have wf' := performed.wellformed wf
      obtain ⟨-, rfl⟩ := step.inv
      obtain ⟨enabled, could⟩ := performed.succeeded result
      have written := performed.saves enabled
      rw [saveQueueAtomic, if_pos could] at written
      obtain ⟨rec, found, state⟩ : ∃ rec, c.outcome.records.get? (.str d) = some rec ∧
          rec.get? "queue_state" = some (.str target.value) := by
        obtain ⟨answers, call', o⟩ := c
        obtain rfl : call' = .transition d target worker payload := call
        dsimp only at performed result ⊢
        cases performed with
        | refused => cases result
        | rejected => cases result
        | moved => exact ⟨_, by rw [conclude_records, Dict.get?_set_self], advanced_state⟩
      have holds : Holds host c.outcome.file c.outcome.records := .inr written
      have loaded := holds.load wf'
      have kept := kept_of_history (⟨wf', found, .inl rfl⟩ : Kept host d rec c.outcome.file c.outcome.queue) state terminal
        (by rw [loaded]; exact ⟨wf', found⟩) second
      rcases kept.file with same | ⟨saved, holds', wf'', found'⟩
      · exact ⟨_, rec, target, same ▸ holds, wf', found, state, terminal⟩
      · exact ⟨saved, rec, target, holds', wf'', found', state, terminal⟩

/-! ### Loading a damaged file -/

/-- The lines as `load_queue` reads them. -/
def parsed (host : Host) (lines : List (List Char)) : List (Option Json) :=
  (lines.filter fun line => !line.all isSpace).map fun line => Json.loads host.floats (String.ofList line)

/-- Every line before this one is good: saved, or blank. -/
def Reaches (good : List Char → Prop) (target : List Char) (lines : List (List Char)) : Prop :=
  ∃ before behind, lines = before ++ target :: behind ∧ ∀ line ∈ before, good line

theorem reaches_cons {good : List Char → Prop} {target line : List Char} {lines : List (List Char)} :
    Reaches good target (line :: lines) ↔ line = target ∨ (good line ∧ Reaches good target lines) := by
  constructor
  · intro reaches
    obtain ⟨before, behind, split, fine⟩ := reaches
    cases before with
    | nil => exact .inl (List.cons.inj split).1
    | cons first before =>
      obtain ⟨rfl, rest⟩ := List.cons.inj split
      obtain ⟨here, later⟩ := List.forall_mem_cons.mp fine
      exact .inr ⟨here, before, behind, rest, later⟩
  · intro cases'
    rcases cases' with rfl | ⟨here, before, behind, rfl, later⟩
    · exact ⟨[], lines, rfl, by simp⟩
    · exact ⟨line :: before, behind, rfl, List.forall_mem_cons.mpr ⟨here, later⟩⟩

theorem lineOf_injective {r r' : Record} (record : RecordOf d r) (record' : ∃ d', RecordOf d' r')
    (same : Json.lineOf host.floats r = Json.lineOf host.floats r') : r = r' := by
  obtain ⟨d', record'⟩ := record'
  have first : Json.loads host.floats (String.ofList (Json.lineOf host.floats r)) = some (.dict r) :=
    Json.loads_lineOf record.flat.keyed
  have second : Json.loads host.floats (String.ofList (Json.lineOf host.floats r')) = some (.dict r') :=
    Json.loads_lineOf record'.flat.keyed
  rw [same, second] at first
  cases first
  rfl

theorem recordOf_name {d' : String} (record : RecordOf d rec) (record' : RecordOf d' rec) : d = d' := by
  have same := record.identity.symm.trans record'.identity
  cases same
  rfl

/-- A line that was saved goes into the records. -/
theorem loadLines_saved {line : List Char} {lines : List (List Char)} (record : RecordOf d rec)
    (saved : line = Json.lineOf host.floats rec) :
    loadLines records (parsed host (line :: lines)) = loadLines (records.set (.str d) rec) (parsed host lines) := by
  have kept : (!line.all isSpace) = true := by
    rw [saved, (Json.lineOf_solid host.floats rec).notBlank]
    rfl
  have truthy : (Json.str d).truthy = true := by simp [Json.truthy, record.named]
  have id : Record.field rec "directive_id" = .str d := by
    unfold Record.field
    rw [record.identity, Option.getD_some]
  unfold parsed
  rw [List.filter_cons, if_pos kept, List.map_cons, saved, Json.loads_lineOf record.flat.keyed, loadLines]
  simp only [id, truthy, Json.key?, if_true]

theorem loadLines_blank {line : List Char} {lines : List (List Char)} (blank : line.all isSpace = true) :
    loadLines records (parsed host (line :: lines)) = loadLines records (parsed host lines) := by
  unfold parsed
  rw [List.filter_cons_of_neg (by simp [blank])]

/-- A damaged line ends the loading. -/
theorem loadLines_damaged {line : List Char} {lines : List (List Char)} (some : line.all isSpace = false)
    (damaged : IsDamaged host line) : loadLines records (parsed host (line :: lines)) = (false, records) := by
  have kept : (!line.all isSpace) = true := by rw [some]; rfl
  unfold parsed
  rw [List.filter_cons, if_pos kept, List.map_cons, damaged]
  rfl

/-- What is loaded are records of the file, and a record is loaded exactly if loading gets to its line. -/
theorem load_damaged {lines : List (List Char)} (wf : Wellformed saved)
    (all : ∀ line ∈ lines, line ∈ saved.map (fun e => Json.lineOf host.floats e.2) ∨ IsDamaged host line)
    (found : Wellformed records) (sub : ∀ d r, records.get? (.str d) = some r → saved.get? (.str d) = some r) :
    Wellformed (loadLines records (parsed host lines)).2 ∧
    (∀ d r, (loadLines records (parsed host lines)).2.get? (.str d) = some r → saved.get? (.str d) = some r) ∧
    ∀ d r, saved.get? (.str d) = some r → ((loadLines records (parsed host lines)).2.get? (.str d) = some r ↔
      records.get? (.str d) = some r ∨ Reaches (fun line => line ∈ saved.map (fun e => Json.lineOf host.floats e.2) ∨
        line.all isSpace = true) (Json.lineOf host.floats r) lines) := by
  induction lines generalizing records with
  | nil =>
    refine ⟨found, sub, fun d r _ => ⟨.inl, fun either => either.resolve_right ?_⟩⟩
    intro reaches
    obtain ⟨before, behind, split, -⟩ := reaches
    cases before <;> cases split
  | cons line lines ih =>
    obtain ⟨here, later⟩ := List.forall_mem_cons.mp all
    by_cases blank : line.all isSpace = true
    · rw [loadLines_blank blank]
      obtain ⟨wf', sub', exact'⟩ := ih later found sub
      refine ⟨wf', sub', fun d r known => ?_⟩
      rw [exact' d r known, reaches_cons]
      have other : line ≠ Json.lineOf host.floats r := by
        intro same
        rw [same, (Json.lineOf_solid host.floats r).notBlank] at blank
        cases blank
      simp [blank, other]
    rw [Bool.not_eq_true] at blank
    rcases here with member | damaged
    · obtain ⟨e, inside, rfl⟩ := List.mem_map.mp member
      obtain ⟨d', key, record⟩ := wf.each e inside
      have known' : saved.get? (.str d') = some e.2 := by
        rw [Dict.get?_iff wf.distinct, ← key]
        exact inside
      have sub' : ∀ d r, (records.set (.str d') e.2).get? (.str d) = some r → saved.get? (.str d) = some r := by
        intro d r held
        rw [Dict.get?_set] at held
        split at held
        · rename_i same
          cases held
          rw [← same]
          exact known'
        · exact sub d r held
      rw [loadLines_saved record rfl]
      obtain ⟨wf'', sub'', exact'⟩ := ih later (found.set record) sub'
      refine ⟨wf'', sub'', fun d r known => ?_⟩
      have record' := wf.record known
      rw [exact' d r known, reaches_cons, Dict.get?_set]
      by_cases same : Json.Key.str d' = .str d
      · cases same
        rw [known] at known'
        cases known'
        simp
      · have other : Json.lineOf host.floats e.2 ≠ Json.lineOf host.floats r := by
          intro line
          obtain rfl := lineOf_injective record ⟨d, record'⟩ line
          exact same (congrArg _ (recordOf_name record record'))
        rw [if_neg same]
        simp only [other, false_or]
        have good : (Json.lineOf host.floats e.2 ∈ saved.map (fun e => Json.lineOf host.floats e.2) ∨
            (Json.lineOf host.floats e.2).all isSpace = true) := .inl member
        simp only [good, true_and]
    · rw [loadLines_damaged blank damaged]
      refine ⟨found, sub, fun d r known => ⟨.inl, fun either => either.resolve_right ?_⟩⟩
      rw [reaches_cons]
      have notSaved (r : Record) (record : ∃ d, RecordOf d r) : line ≠ Json.lineOf host.floats r := by
        intro same
        obtain ⟨d, record⟩ := record
        rw [IsDamaged, same, Json.loads_lineOf record.flat.keyed] at damaged
        cases damaged
      intro either
      rcases either with same | ⟨member | wrong, -⟩
      · exact notSaved r ⟨d, wf.record known⟩ same
      · obtain ⟨e, inside, same⟩ := List.mem_map.mp member
        obtain ⟨d', -, record⟩ := wf.each e inside
        exact notSaved e.2 ⟨d', record⟩ same.symm
      · rw [blank] at wrong
        cases wrong

/-! ### The reopened queue -/

theorem reopened_records : (reopened host content).records = (loadLines [] (parsed host (fileLines content))).2 := rfl

theorem enqueue_stuck (host : Host) (commitSha payloadSha256 signerFp worker : String) (wf : Wellformed q.records) (named : d ≠ "") :
    (∀ answers, ∃ reason, (perform host answers q (.enqueue d commitSha payloadSha256 signerFp worker)).result =
      .ok (some reason)) ↔ q.records.get? (.str d) ≠ none := by
  constructor
  · intro refuses fresh
    -- a host that can save and append would take the directive
    have audits : Audits host ⟨"", "", 0, true, none, true⟩ := ⟨rfl, rfl⟩
    obtain ⟨reason, result⟩ := refuses ⟨"", "", 0, true, none, true⟩
    have performed := performed host ⟨"", "", 0, true, none, true⟩ (.enqueue d commitSha payloadSha256 signerFp worker) wf
    rcases performed.told (fun _ => ⟨rfl, audits, trivial⟩) with ⟨same, -⟩ | ⟨e, -, success, -⟩
    · have changed := performed.changes ⟨named, fresh⟩
      exact changed (congrArg (fun q => stateOf q.records d) same)
    · rw [result] at success
      cases success
  · intro known answers
    have performed := performed host answers (.enqueue d commitSha payloadSha256 signerFp worker) wf
    obtain ⟨reason, refused⟩ := performed.stuck fun enabled => known enabled.2
    exact ⟨reason, by rw [refused]; rfl⟩

theorem holds_line (holds : Holds host file saved) (found : saved.get? (.str d) = some rec) :
    ∃ current, file = some current ∧ Json.lineOf host.floats rec ∈ fileLines current := by
  rcases holds with ⟨-, rfl⟩ | rfl
  · cases found
  · refine ⟨_, rfl, ?_⟩
    unfold queueText Json.writeLines
    rw [fileLines_join]
    · exact List.mem_map_of_mem (List.mem_map_of_mem (f := Prod.snd) (Dict.mem_of_get? found))
    · intro line member
      obtain ⟨r, -, rfl⟩ := List.mem_map.mp member
      exact Json.lineOf_solid host.floats r

/-- A directive that was reported as finished is never taken again, and its record never leaves the file, exactly if
no damaged line stands before the line of its record. -/
theorem finished_iff (history : History (QueueLife host) emptyQueue past q) (finished : ∃ t ∈ past, Finishes d t)
    (found : (loadQueue host q.file).2.get? (.str d) = some rec) (damaged : DamagedOnly host q.file rec content) :
    (Refuses host d content ∧ Retains host rec content) ↔ IntactBefore host q.file rec content := by
  obtain ⟨saved, r, s, holds, wf, known, state, terminal⟩ := finished_saved history finished
  have loaded := holds.load wf
  rw [loaded] at found
  obtain rfl := Option.some.inj (known.symm.trans found)
  have all := damaged.others
  unfold savedLines at all
  rw [loaded] at all
  obtain ⟨wf', sub, exact'⟩ := load_damaged wf all RecordsOf.nil (by intro d r held; cases held)
  rw [← reopened_records] at wf' sub exact'
  have named := (wf.record known).named
  have same : IntactBefore host q.file r content ↔ (reopened host content).records.get? (.str d) = some r := by
    rw [exact' d r known]
    unfold IntactBefore Reaches savedLines
    rw [loaded]
    simp
  rw [same]
  constructor
  · intro given
    obtain ⟨refuses, -⟩ := given
    have there := (enqueue_stuck host "" "" "" "" wf' named).mp fun answers => refuses answers "" "" "" ""
    obtain ⟨r', held⟩ := Option.ne_none_iff_exists'.mp there
    rw [held, ← known, sub d r' held]
  · intro held
    refine ⟨?_, ?_⟩
    · intro answers commitSha payloadSha256 signerFp worker
      exact (enqueue_stuck host commitSha payloadSha256 signerFp worker wf' named).mpr (by rw [held]; simp) answers
    · intro later q' onward
      have kept := kept_of_history (⟨wf', held, .inl rfl⟩ : Kept host d r (some content) (reopened host content)) state terminal
        ⟨wf', held⟩ onward
      rcases kept.file with unsaved | ⟨saved', holds', -, found'⟩
      · exact ⟨content, unsaved, damaged.intact⟩
      · exact holds_line holds' found'

/-- Two directives, of which `DIR-1` is rejected. -/
def rejectedAmong (first second : String) : List (Option (Answers × Call)) :=
  [some (answered, .enqueue first "c0ffee" "aa" "FP" "WORKER-01"), some (answered, .enqueue second "c0ffee" "aa" "FP" "WORKER-01"),
    some (answered, .transition "DIR-1" .rejected "WORKER-01" none)]

def rejectedPast (first second : String) : List (Transition Queue (Option Called)) × Queue :=
  History.replay (nextLife sampleHost) emptyQueue (rejectedAmong first second)

theorem rejectedPast_history (first second : String) :
    History (QueueLife sampleHost) emptyQueue (rejectedPast first second).1 (rejectedPast first second).2 :=
  History.history_replay _ (nextLife_step sampleHost) _ _

theorem brace_damaged : IsDamaged sampleHost ['\x7b'] := by
  unfold IsDamaged Json.loads
  rw [String.toList_ofList]
  rfl

theorem brace_solid : Solid ['\x7b'] := ⟨List.forall_mem_singleton.mpr rfl, ⟨'\x7b', [], rfl, by decide⟩, ⟨'\x7b', [], rfl, by decide⟩⟩

theorem rejectedPast_loads (first second : String) (saved : (rejectedPast first second).2.file =
    some (queueText sampleHost (rejectedPast first second).2.records)) :
    (loadQueue sampleHost (rejectedPast first second).2.file).2 = (rejectedPast first second).2.records := by
  obtain ⟨⟨wf, -⟩, -⟩ := life_sound (rejectedPast_history first second)
  have holds : Holds sampleHost (rejectedPast first second).2.file (rejectedPast first second).2.records := .inr saved
  rw [holds.load wf]

/-- The record of `DIR-1` and a line that is nothing but a brace, in this order or the other. -/
def withBrace (braceFirst : Bool) (rec : Record) : List (List Char) :=
  if braceFirst then [['\x7b'], Json.lineOf sampleHost.floats rec] else [Json.lineOf sampleHost.floats rec, ['\x7b']]

theorem fileLines_withBrace (braceFirst : Bool) (rec : Record) :
    fileLines (String.ofList (joinLines (withBrace braceFirst rec))) = withBrace braceFirst rec := by
  refine fileLines_join ?_
  intro line member
  have either : line = ['\x7b'] ∨ line = Json.lineOf sampleHost.floats rec := by
    cases braceFirst <;> simp [withBrace] at member <;> tauto
  rcases either with rfl | rfl
  · exact brace_solid
  · exact Json.lineOf_solid _ _

theorem damaged_withBrace {braceFirst : Bool} (saved : Json.lineOf sampleHost.floats rec ∈ savedLines sampleHost file) :
    DamagedOnly sampleHost file rec (String.ofList (joinLines (withBrace braceFirst rec))) := by
  refine ⟨?_, ?_⟩
  · rw [fileLines_withBrace]
    cases braceFirst <;> simp [withBrace]
  · rw [fileLines_withBrace]
    intro line member
    have either : line = ['\x7b'] ∨ line = Json.lineOf sampleHost.floats rec := by
      cases braceFirst <;> simp [withBrace] at member <;> tauto
    rcases either with rfl | rfl
    · exact .inr brace_damaged
    · exact .inl saved

theorem saved_line (found : (loadQueue host file).2.get? (.str d) = some rec) :
    Json.lineOf host.floats rec ∈ savedLines host file := List.mem_map_of_mem (f := fun e => Json.lineOf host.floats e.2)
  (Dict.mem_of_get? found)

/-- The damaged line stands behind. -/
theorem finished_iff_behind : ∃ rec,
    (loadQueue sampleHost (rejectedPast "DIR-1" "DIR-2").2.file).2.get? (.str "DIR-1") = some rec ∧
    ((Refuses sampleHost "DIR-1" (String.ofList (joinLines (withBrace false rec))) ∧
      Retains sampleHost rec (String.ofList (joinLines (withBrace false rec)))) ↔
    IntactBefore sampleHost (rejectedPast "DIR-1" "DIR-2").2.file rec (String.ofList (joinLines (withBrace false rec)))) := by
  obtain ⟨rec, found⟩ : ∃ rec, (loadQueue sampleHost (rejectedPast "DIR-1" "DIR-2").2.file).2.get? (.str "DIR-1") = some rec := by
    rw [rejectedPast_loads _ _ rfl]
    exact ⟨_, rfl⟩
  have finished : ∃ t ∈ (rejectedPast "DIR-1" "DIR-2").1, Finishes "DIR-1" t :=
    ⟨_, List.mem_cons_self, _, .rejected, "WORKER-01", none, rfl, rfl, by decide, rfl⟩
  exact ⟨rec, found, finished_iff (rejectedPast_history _ _) finished found (damaged_withBrace (saved_line found))⟩

/-- The damaged line stands before: the rejected directive is taken again. -/
theorem finished_taken_again : ∃ rec,
    (∃ t ∈ (rejectedPast "DIR-2" "DIR-1").1, Finishes "DIR-1" t) ∧
    (loadQueue sampleHost (rejectedPast "DIR-2" "DIR-1").2.file).2.get? (.str "DIR-1") = some rec ∧
    DamagedOnly sampleHost (rejectedPast "DIR-2" "DIR-1").2.file rec (String.ofList (joinLines (withBrace true rec))) ∧
    ¬ (Refuses sampleHost "DIR-1" (String.ofList (joinLines (withBrace true rec))) ∧
      Retains sampleHost rec (String.ofList (joinLines (withBrace true rec)))) := by
  obtain ⟨rec, found⟩ : ∃ rec, (loadQueue sampleHost (rejectedPast "DIR-2" "DIR-1").2.file).2.get? (.str "DIR-1") = some rec := by
    rw [rejectedPast_loads _ _ rfl]
    exact ⟨_, rfl⟩
  refine ⟨rec, ⟨_, List.mem_cons_self, _, .rejected, "WORKER-01", none, rfl, rfl, by decide, rfl⟩, found,
    damaged_withBrace (saved_line found), ?_⟩
  intro given
  obtain ⟨refuses, -⟩ := given
  have nothing : (reopened sampleHost (String.ofList (joinLines (withBrace true rec)))).records = [] := by
    have lines : withBrace true rec = ['\x7b'] :: [Json.lineOf sampleHost.floats rec] := rfl
    rw [reopened_records, fileLines_withBrace, lines, loadLines_damaged (by decide : ['\x7b'].all isSpace = false) brace_damaged]
  have wf : Wellformed (reopened sampleHost (String.ofList (joinLines (withBrace true rec)))).records := by
    rw [nothing]
    exact RecordsOf.nil
  have there := (enqueue_stuck sampleHost "" "" "" "" wf (by decide : "DIR-1" ≠ "")).mp fun answers => refuses answers "" "" "" ""
  rw [nothing] at there
  exact there rfl

end ControlPlane.Directive
