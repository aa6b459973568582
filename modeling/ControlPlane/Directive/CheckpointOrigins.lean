import ControlPlane.Data.Colons
import ControlPlane.Data.Json.Scan
import ControlPlane.Directive.Checkpoints
import ControlPlane.Interleaving.History

/-!
# Where a restored checkpoint comes from

Whoever writes the checkpoint files without the key can only move signatures about. Which
directive and which attempt a file is of, `restore_checkpoint` does not ask.
-/

namespace ControlPlane.Directive

open ControlPlane.Data ControlPlane.Interleaving

/-- The files, and all checkpoints that were signed. -/
structure CheckpointState where
  files : CheckpointFiles
  saves : List SavedCheckpoint

inductive CheckpointEvent where
  | saved (cp : SavedCheckpoint)
  | moved
  | restored (directiveId : String) (attemptCount : Int) (payloadHash : String) (outcome : Option RestoreOutcome)

section

variable (host : RecoveryHost) (settings : RecoverySettings)

/-- What can be read of the content carries a signature that was made. -/
def Borrowed (saves : List SavedCheckpoint) (content : String) : Prop :=
  ∀ built cp, (Json.loads host.floats content).bind (fromDict host built) = some cp → ∃ made ∈ saves, cp.signature = .str made.signature

/-- The file is there with this content, or gone. -/
def CheckpointFiles.put (files : CheckpointFiles) (name : String) : Option String → CheckpointFiles
  | some content => files.set name content
  | none => files.filter fun e => e.1 ≠ name

/-- Saves, whose file may be lost, changes of the files with signatures that were made, and restores. -/
inductive CheckpointStep : CheckpointState → CheckpointEvent → CheckpointState → Prop
  | save {s : CheckpointState} {now : Instant} {directiveId : String} {attemptCount : Int} {stateVector : List (PyKey × PyValue)}
      {payloadHash : String} {cp : SavedCheckpoint}
      (saved : saveCheckpoint host settings now directiveId attemptCount (.dict stateVector) payloadHash = some cp) (written : Bool) :
      CheckpointStep s (.saved cp) ⟨if written then writeCheckpoint host s.files cp else s.files, cp :: s.saves⟩
  | move {s : CheckpointState} (name : String) (content : Option String)
      (borrowed : ∀ text, content = some text → Borrowed host s.saves text) :
      CheckpointStep s .moved ⟨s.files.put name content, s.saves⟩
  | restore {s : CheckpointState} (built now : Instant) (directiveId : String) (attemptCount : Int) (payloadHash : String) :
      CheckpointStep s (.restored directiveId attemptCount payloadHash
        (restoreCheckpoint host settings built now directiveId attemptCount payloadHash s.files)) s

abbrev CheckpointHistory := History (CheckpointStep host settings) ⟨[], []⟩

/-- The text that was signed. -/
def SavedCheckpoint.data (cp : SavedCheckpoint) : Option String :=
  (savedVector host cp.stateVector).map fun vector =>
    checkpointData cp.directiveId (String.ofList (Json.intText cp.attemptCount)) cp.payloadHash cp.timestamp vector

/-- No other text has the signature. -/
def SignedAlone (cp : SavedCheckpoint) : Prop :=
  ∀ data, host.hmac settings.secretKey data = cp.signature → cp.data host = some data

end

abbrev CheckpointRun := List (Transition CheckpointState CheckpointEvent)

/-- What is restored was saved for the directive, the attempt and the payload that were asked for. -/
def RestoresSaved (host : RecoveryHost) (past : CheckpointRun) : Prop :=
  ∀ later t earlier, past = later ++ t :: earlier → ∀ directiveId attemptCount payloadHash restored reason event,
    t.label = .restored directiveId attemptCount payloadHash (some ⟨some restored, reason, event⟩) →
      ∃ u ∈ earlier, ∃ cp, u.label = .saved cp ∧ cp.directiveId = directiveId ∧ cp.attemptCount = attemptCount ∧
        cp.payloadHash = payloadHash ∧ SameVector host restored.stateVector cp.stateVector

/-- No colon in what is joined by colons, and a file that is restored names the directive and the attempt that are asked for. -/
def NamesAsked (host : RecoveryHost) (t : Transition CheckpointState CheckpointEvent) : Prop :=
  match t.label with
  | .saved cp => ':' ∉ cp.directiveId.toList ∧ ':' ∉ cp.payloadHash.toList
  | .moved => True
  | .restored directiveId attemptCount payloadHash _ => ':' ∉ directiveId.toList ∧ ':' ∉ payloadHash.toList ∧
      ∀ content built cp, t.before.files.get? (checkpointName directiveId attemptCount) = some content →
        (Json.loads host.floats content).bind (fromDict host built) = some cp →
          host.shown cp.directiveId = directiveId ∧ host.shown cp.attemptCount = String.ofList (Json.intText attemptCount)

section

variable {host : RecoveryHost} {settings : RecoverySettings} {s : CheckpointState} {past : CheckpointRun}

/-! ### Signatures -/

/-- Every file carries a signature that was made. -/
def AllBorrowed (host : RecoveryHost) (s : CheckpointState) : Prop :=
  ∀ name content, s.files.get? name = some content → Borrowed host s.saves content

theorem Borrowed.more {saves : List SavedCheckpoint} {content : String} (borrowed : Borrowed host saves content) (cp : SavedCheckpoint) :
    Borrowed host (cp :: saves) content := by
  intro built read found
  obtain ⟨made, member, same⟩ := borrowed built read found
  exact ⟨made, List.mem_cons_of_mem _ member, same⟩

theorem borrowed_saved {now : Instant} {directiveId payloadHash : String} {attemptCount : Int} {stateVector : PyValue}
    {cp : SavedCheckpoint} (saved : saveCheckpoint host settings now directiveId attemptCount stateVector payloadHash = some cp)
    (saves : List SavedCheckpoint) : Borrowed host (cp :: saves) (checkpointText host cp) := by
  intro built read found
  have timed : (Json.str cp.timestamp).truthy = true := by
    obtain ⟨_, _, made⟩ := Option.map_eq_some_iff.mp saved
    rw [← made]
    exact isoformat_truthy now
  rw [read_checkpoint timed] at found
  refine ⟨cp, List.mem_cons_self, ?_⟩
  rw [← Option.some.inj found]
  rfl

theorem CheckpointFiles.get?_put_ne {files : CheckpointFiles} {name other content : String} {change : Option String} (apart : name ≠ other)
    (found : (files.put name change).get? other = some content) : files.get? other = some content := by
  cases change with
  | some text => exact (Dict.get?_set_of_ne apart).symm.trans found
  | none =>
    have kept : (files.filter fun e => e.1 ≠ name).find? (fun e => e.1 = other) = files.find? fun e => e.1 = other := by
      rw [List.find?_filter]
      congr 1
      funext e
      by_cases same : e.1 = other
      · simp [same, Ne.symm apart]
      · simp [same]
    unfold CheckpointFiles.put Dict.get? at found
    rw [kept] at found
    exact found

theorem CheckpointFiles.get?_put_self {files : CheckpointFiles} {name content : String} {change : Option String}
    (found : (files.put name change).get? name = some content) : change = some content := by
  cases change with
  | some text => exact (Dict.get?_set_self.symm.trans found).symm ▸ rfl
  | none =>
    have gone : Dict.get? (files.filter fun e => e.1 ≠ name) name = none := by
      rw [Dict.get?_none]
      intro member
      obtain ⟨e, inside, same⟩ := List.mem_map.mp member
      have other := (List.mem_filter.mp inside).2
      simp [same] at other
    rw [CheckpointFiles.put, gone] at found
    cases found

theorem CheckpointStep.borrowed {l : CheckpointEvent} {s' : CheckpointState} (moved : CheckpointStep host settings s l s')
    (all : AllBorrowed host s) : AllBorrowed host s' := by
  intro name content found
  cases moved with
  | @save now directiveId attemptCount stateVector payloadHash cp saved written =>
    dsimp only at found ⊢
    cases written with
    | false => exact (all name content found).more cp
    | true =>
      by_cases here : checkpointName cp.directiveId cp.attemptCount = name
      · rw [if_pos rfl, writeCheckpoint, here, Dict.get?_set_self] at found
        rw [← Option.some.inj found]
        exact borrowed_saved saved s.saves
      · rw [if_pos rfl, writeCheckpoint, Dict.get?_set_of_ne here] at found
        exact (all name content found).more cp
  | move changed change borrowed =>
    by_cases here : changed = name
    · subst here
      exact borrowed content (CheckpointFiles.get?_put_self found)
    · exact all name content (CheckpointFiles.get?_put_ne here found)
  | restore => exact all name content found

theorem all_borrowed (history : CheckpointHistory host settings past s) : AllBorrowed host s := by
  refine (history.invariant (I := AllBorrowed host) ?_ fun t member all => (history.moved t member).borrowed all).1
  intro name content found
  cases found

/-- What was signed was saved by a step. -/
theorem saved_by (history : CheckpointHistory host settings past s) {cp : SavedCheckpoint} (member : cp ∈ s.saves) :
    ∃ u ∈ past, u.label = .saved cp ∧ ∃ entries, cp.stateVector = .dict entries := by
  induction history with
  | start => cases member
  | step history moved ih =>
    cases moved with
    | @save now directiveId attemptCount stateVector payloadHash made saved written =>
      rcases List.mem_cons.mp member with rfl | earlier
      · obtain ⟨_, _, same⟩ := Option.map_eq_some_iff.mp saved
        exact ⟨_, List.mem_cons_self, rfl, stateVector, by rw [← same]⟩
      · obtain ⟨u, inside, label⟩ := ih earlier
        exact ⟨u, List.mem_cons_of_mem _ inside, label⟩
    | move =>
      obtain ⟨u, inside, label⟩ := ih member
      exact ⟨u, List.mem_cons_of_mem _ inside, label⟩
    | restore =>
      obtain ⟨u, inside, label⟩ := ih member
      exact ⟨u, List.mem_cons_of_mem _ inside, label⟩

/-! ### The signed text -/

theorem intText_plain (n : Int) : ':' ∉ (String.ofList (Json.intText n)).toList := by
  rw [String.toList_ofList]
  intro member
  exact absurd ((Json.numeric_intText n).all _ member) (by decide)

theorem intText_inj {m n : Int} (same : String.ofList (Json.intText m) = String.ofList (Json.intText n)) : m = n := by
  have texts : Json.intText m = Json.intText n := String.ofList_injective same
  have first : Json.number Json.ratioFloats (Json.intText m) = some (.int m) := Json.number_intText m
  rw [texts, Json.number_intText] at first
  exact (Json.int.inj (Option.some.inj first)).symm

/-- Without colons in them, the first three parts can be told. -/
theorem checkpointData_inj {d d' k k' h h' time time' vector vector' : String} (plain : ':' ∉ d.toList ∧ ':' ∉ k.toList ∧ ':' ∉ h.toList)
    (plain' : ':' ∉ d'.toList ∧ ':' ∉ k'.toList ∧ ':' ∉ h'.toList)
    (same : checkpointData d k h time vector = checkpointData d' k' h' time' vector') :
    d = d' ∧ k = k' ∧ h = h' ∧ time ++ ":" ++ vector = time' ++ ":" ++ vector' := by
  have split := words_inj.mpr same
  unfold checkpointData at split
  simp only [words_append, words_plain plain.1, words_plain plain.2.1, words_plain plain.2.2, words_plain plain'.1,
    words_plain plain'.2.1, words_plain plain'.2.2, List.cons_append, List.nil_append, List.cons.injEq] at split
  obtain ⟨first, second, third, rest⟩ := split
  refine ⟨String.toList_inj.mp first, String.toList_inj.mp second, String.toList_inj.mp third, words_inj.mp ?_⟩
  rw [words_append, words_append]
  exact rest

theorem plainLayout : Json.Plain {} := ⟨rfl, rfl⟩

/-- Only a dictionary ends in a brace. -/
theorem dict_of_last {repr : ℚ → List Char} {floats : Json.Floats} (own : repr = floats.repr) {v : Json}
    (last : (Json.text repr {} v).getLast? = some '\x7d') : ∃ es, v = .dict es := by
  subst own
  have numeric {t : List Char} (numeric : Json.Numeric t) : t.getLast? ≠ some '\x7d' := by
    intro brace
    exact absurd (numeric.all _ (List.mem_of_getLast? brace)) (by decide)
  cases v with
  | null => exact absurd last (by decide : "null".toList.getLast? ≠ some '\x7d')
  | bool b =>
    cases b with
    | true => exact absurd last (by decide : "true".toList.getLast? ≠ some '\x7d')
    | false => exact absurd last (by decide : "false".toList.getLast? ≠ some '\x7d')
  | int i => exact absurd last (numeric (Json.numeric_intText i))
  | float x =>
    cases x with
    | nan => exact absurd last (by decide : "NaN".toList.getLast? ≠ some '\x7d')
    | negInf => exact absurd last (by decide : "-Infinity".toList.getLast? ≠ some '\x7d')
    | posInf => exact absurd last (by decide : "Infinity".toList.getLast? ≠ some '\x7d')
    | fin q => exact absurd last (numeric (Json.numeric_float (floats.written q)))
  | str s =>
    rw [Json.text, Json.quote, List.getLast?_append] at last
    simp at last
  | list xs =>
    rw [Json.text, List.getLast?_append] at last
    simp at last
  | dict es => exact ⟨es, rfl⟩

/-- Behind a time and a colon, the text of a dictionary can be told. -/
theorem vector_of_data {floats : Json.Floats} {xs ys : List Char} {v : Json} {es : List (String × Json)}
    (same : xs ++ [':'] ++ Json.text floats.repr {} v = ys ++ [':'] ++ Json.text floats.repr {} (.dict es)) :
    Json.text floats.repr {} v = Json.text floats.repr {} (.dict es) := by
  have closes (fs : List (String × Json)) : (Json.text floats.repr {} (.dict fs)).getLast? = some '\x7d' := by
    rw [Json.text, List.getLast?_append]
    simp
  have opens : Json.text floats.repr {} v ≠ [] := by
    obtain ⟨c, tail, begins, -⟩ : Json.Opens (Json.text floats.repr {} v) := Json.text_opens v
    simp [begins]
  have last := congrArg List.getLast? same
  rw [List.getLast?_append_of_ne_nil _ opens, List.getLast?_append, closes, Option.some_or] at last
  obtain ⟨fs, rfl⟩ := dict_of_last rfl last
  have fronts := Json.front_of_dict plainLayout same
  rw [fronts] at same
  exact List.append_cancel_left same

/-! ### What is restored -/

theorem compareDigest_true {given : Json} {expected : String} (same : compareDigest given expected = some true) : given = .str expected := by
  unfold compareDigest at same
  split at same
  · split at same
    · rw [of_decide_eq_true (Option.some.inj same)]
    · cases same
  · cases same

theorem restore_returns {built now : Instant} {directiveId payloadHash reason : String} {attemptCount : Int} {files : CheckpointFiles}
    {restored : RecoveryCheckpoint} {event : RecoveryEvent} (returned : restoreCheckpoint host settings built now directiveId attemptCount
      payloadHash files = some ⟨some restored, reason, event⟩) :
    ∃ content, files.get? (checkpointName directiveId attemptCount) = some content ∧
      (Json.loads host.floats content).bind (fromDict host built) = some restored ∧
      restored.signature = .str (host.hmac settings.secretKey (restored.data host)) ∧ restored.payloadHash = .str payloadHash := by
  unfold restoreCheckpoint at returned
  split at returned
  · cases returned
  · rename_i content found
    split at returned
    · cases returned
    · rename_i cp read
      dsimp only at returned
      split at returned
      · cases returned
      · cases returned
      · rename_i verified
        have outcome := Option.some.inj returned
        unfold restoreSigned at outcome
        split at outcome
        · cases outcome
        · rename_i hash
          split at outcome
          · cases outcome
          · split at outcome
            · cases outcome
            · injection outcome with checkpoint
              obtain rfl := Option.some.inj checkpoint
              exact ⟨content, found, read, compareDigest_true verified, Json.str?_some (not_not.mp hash)⟩

theorem savedVector_dict {entries : List (PyKey × PyValue)} {vector : String} (saved : savedVector host (.dict entries) = some vector) :
    ∃ es, vector = Json.dumps host.floats.repr {} (.dict es) := by
  obtain ⟨v, sorted, rfl⟩ := Option.map_eq_some_iff.mp saved
  rw [PyValue.sorted] at sorted
  obtain ⟨items, -, rfl⟩ := Option.map_eq_some_iff.mp sorted
  exact ⟨_, rfl⟩

theorem sortedText_arranged (v : Json) : sortedText host.toHost v = Json.dumps host.floats.repr {} (Json.arranged v) :=
  congrArg String.ofList (Json.text_sorted host.floats.repr {} v)

/-- The saves are kept. -/
theorem saves_kept {later earlier : CheckpointRun} {t : Transition CheckpointState CheckpointEvent} {cp : SavedCheckpoint}
    (history : CheckpointHistory host settings (later ++ t :: earlier) s) (member : cp ∈ t.before.saves) : cp ∈ s.saves := by
  have kept {before after : CheckpointState} {l : CheckpointEvent} (moved : CheckpointStep host settings before l after)
      (member : cp ∈ before.saves) : cp ∈ after.saves := by
    cases moved with
    | save => exact List.mem_cons_of_mem _ member
    | move => exact member
    | restore => exact member
  exact (history.ever_after (I := fun s => cp ∈ s.saves) (kept history.upTo.2 member) fun u newer =>
    kept (history.moved u (List.mem_append_left _ newer))).1

/-- A checkpoint whose text was signed for this one, with the names that were asked for, is this one. -/
theorem saved_of_data {made : SavedCheckpoint} {restored : RecoveryCheckpoint} {entries : List (PyKey × PyValue)}
    {directiveId payloadHash : String} {attemptCount : Int} (signed : made.data host = some (restored.data host))
    (vector : made.stateVector = .dict entries) (hash : restored.payloadHash = .str payloadHash)
    (named : host.shown restored.directiveId = directiveId)
    (counted : host.shown restored.attemptCount = String.ofList (Json.intText attemptCount))
    (plain : ':' ∉ directiveId.toList ∧ ':' ∉ payloadHash.toList)
    (plain' : ':' ∉ made.directiveId.toList ∧ ':' ∉ made.payloadHash.toList) :
    made.directiveId = directiveId ∧ made.attemptCount = attemptCount ∧ made.payloadHash = payloadHash ∧
      SameVector host restored.stateVector made.stateVector := by
  obtain ⟨text, written, same⟩ := Option.map_eq_some_iff.mp signed
  rw [RecoveryCheckpoint.data, named, counted, hash, host.shown_str] at same
  obtain ⟨directive, count, payload, rest⟩ := checkpointData_inj ⟨plain'.1, intText_plain _, plain'.2⟩
    ⟨plain.1, intText_plain _, plain.2⟩ same
  refine ⟨directive, intText_inj count, payload, ?_⟩
  rw [SameVector, written]
  rw [vector] at written
  obtain ⟨es, rfl⟩ := savedVector_dict written
  rw [sortedText_arranged] at rest ⊢
  have texts := congrArg String.toList rest.symm
  unfold Json.dumps at texts
  simp only [String.toList_append, String.toList_ofList] at texts
  exact congrArg (fun text => some (String.ofList text)) (vector_of_data texts).symm

/-- Where every restore finds the names it asks for and nothing joined by colons has one, what is restored was saved. -/
theorem restores_saved (history : CheckpointHistory host settings past s) (alone : ∀ cp ∈ s.saves, SignedAlone host settings cp)
    (asked : ∀ t ∈ past, NamesAsked host t) : RestoresSaved host past := by
  intro later t earlier whole directiveId attemptCount payloadHash restored reason event returned
  subst whole
  obtain ⟨before, taken⟩ := history.upTo
  have names := asked t (List.mem_append_right _ List.mem_cons_self)
  have signedAlone : ∀ cp ∈ t.before.saves, SignedAlone host settings cp := fun cp member => alone cp (saves_kept history member)
  obtain ⟨start, label, final⟩ := t
  dsimp only at before taken returned signedAlone
  subst returned
  generalize outcome : some (⟨some restored, reason, event⟩ : RestoreOutcome) = result at taken
  cases taken with
  | restore built now =>
    obtain ⟨content, found, read, signature, hash⟩ := restore_returns outcome.symm
    obtain ⟨made, member, borrowed⟩ := all_borrowed before _ content found built restored read
    obtain ⟨u, inside, label, entries, vector⟩ := saved_by before member
    have signed : made.data host = some (restored.data host) := by
      refine signedAlone made member _ ?_
      exact Json.str.inj (signature.symm.trans borrowed)
    have saving := asked u (List.mem_append_right _ (List.mem_cons_of_mem _ inside))
    rw [NamesAsked, label] at saving
    obtain ⟨plainDirective, plainHash, agrees⟩ := names
    obtain ⟨named, counted⟩ := agrees content built restored found read
    exact ⟨u, inside, made, label, saved_of_data signed vector hash named counted ⟨plainDirective, plainHash⟩ saving⟩

/-! ### Two runs -/

def stepVector : List (PyKey × PyValue) := [(.str "step", .int 1)]

/-- What is signed for one step of `DIR-1`. -/
def stepData : String := "DIR-1:1:h1:2026-01-01T00:00:00+00:00:\x7b\"step\": 1\x7d"

def stepCheckpoint : SavedCheckpoint :=
  ⟨"DIR-1", 1, .dict stepVector, "h1", newYearText, plainHmac stepData⟩

theorem step_vector : savedVector plainRecovery (.dict stepVector) = some "\x7b\"step\": 1\x7d" := by
  have sorts : (PyValue.sortedEntries plainRecovery.floats.repr plainRecovery.order stepVector).bind
      (sortItems plainRecovery.order) = some [(.str "step", .int 1)] := rfl
  unfold savedVector PyValue.sortedDumps
  rw [PyValue.sorted, sorts]
  decide

theorem step_data : stepCheckpoint.data plainRecovery = some stepData := by
  unfold SavedCheckpoint.data stepCheckpoint
  rw [step_vector]
  decide

theorem step_saved : saveCheckpoint plainRecovery plainSettings newYear "DIR-1" 1 (.dict stepVector) "h1" = some stepCheckpoint := by
  have signed : checkpointData "DIR-1" (String.ofList (Json.intText 1)) "h1" newYearText "\x7b\"step\": 1\x7d" = stepData := by
    decide
  have time : plainRecovery.isoformat newYear = newYearText := by
    show plainIso newYear = newYearText
    unfold plainIso
    exact if_pos rfl
  unfold saveCheckpoint
  rw [step_vector, Option.map_some, time, signed]
  rfl

theorem step_alone : SignedAlone plainRecovery plainSettings stepCheckpoint := by
  intro data same
  have digest : plainHmac data = plainHmac stepData := same
  have first : plainHmac stepData = "948f124c75d91a385e36ec3ef48e9c0ea30dc3d1491997ef2dd8cd130cba050c" := if_pos rfl
  rw [first] at digest
  rw [step_data]
  unfold plainHmac at digest
  split at digest
  · rename_i here
    exact congrArg some here.symm
  split at digest
  · exact absurd digest (by decide)
  · exact absurd digest (by decide)

theorem step_ordered : stepCheckpoint.stateVector.InOrder plainRecovery.floats.repr plainRecovery.order := by
  have sorts : (PyValue.sortedEntries plainRecovery.floats.repr plainRecovery.order stepVector).bind
      (sortItems plainRecovery.order) = some [(.str "step", .int 1)] := rfl
  unfold stepCheckpoint stepVector
  rw [PyValue.InOrder]
  refine ⟨fun items same => ?_, trivial, trivial⟩
  rw [← Option.some.inj (sorts.symm.trans same)]
  exact List.pairwise_singleton _ _

theorem step_restored {asked : String} {count : Int} {files : CheckpointFiles}
    (found : files.get? (checkpointName asked count) = some (checkpointText plainRecovery stepCheckpoint)) :
    ∃ event, restoreCheckpoint plainRecovery plainSettings newYear newYear asked count "h1" files =
      some ⟨some (stepCheckpoint.readBack plainRecovery.floats.repr), "CHECKPOINT_INTEGRITY_VALIDATED", event⟩ := by
  have same := (sameVector_iff step_saved).mpr step_ordered
  have restored : restoreCheckpoint plainRecovery plainSettings newYear newYear asked count stepCheckpoint.payloadHash files = _ :=
    restore_copied step_saved (by decide) found
  rw [if_pos (signature_fits step_saved same)] at restored
  exact ⟨_, restored⟩

/-- The file of the checkpoint is there. -/
def stepFiles : CheckpointFiles := writeCheckpoint plainRecovery [] stepCheckpoint

theorem step_history : CheckpointHistory plainRecovery plainSettings [⟨⟨[], []⟩, .saved stepCheckpoint, ⟨stepFiles, [stepCheckpoint]⟩⟩]
    ⟨stepFiles, [stepCheckpoint]⟩ := History.start.step (.save step_saved true)

/-- A copy of it bears the name of another directive. -/
def copiedFiles : CheckpointFiles := stepFiles.put (checkpointName "DIR-2" 1) (some (checkpointText plainRecovery stepCheckpoint))

/-- `DIR-2` is given what was saved for `DIR-1`. -/
theorem checkpoint_of_another : ∃ past s, CheckpointHistory plainRecovery plainSettings past s ∧
    (∀ cp ∈ s.saves, SignedAlone plainRecovery plainSettings cp) ∧ ¬ RestoresSaved plainRecovery past := by
  have copied : copiedFiles.get? (checkpointName "DIR-2" 1) = some (checkpointText plainRecovery stepCheckpoint) := Dict.get?_set_self
  obtain ⟨event, restored⟩ := step_restored copied
  have borrowed : ∀ text, some (checkpointText plainRecovery stepCheckpoint) = some text → Borrowed plainRecovery [stepCheckpoint] text := by
    intro text same
    rw [← Option.some.inj same]
    exact borrowed_saved step_saved []
  have history := (step_history.step (.move (checkpointName "DIR-2" 1) _ borrowed)).step (.restore newYear newYear "DIR-2" 1 "h1")
  refine ⟨_, _, history, ?_, fun restores => ?_⟩
  · intro cp member
    rw [List.mem_singleton.mp member]
    exact step_alone
  · obtain ⟨u, inside, cp, label, directive, -⟩ := restores [] _ _ rfl _ _ _ _ _ _ (congrArg (CheckpointEvent.restored "DIR-2" 1 "h1") restored)
    rcases List.mem_cons.mp inside with rfl | inside
    · cases label
    · rw [List.mem_singleton.mp inside] at label
      injection label with same
      rw [← same] at directive
      exact absurd directive (by decide)

/-- `DIR-1` is given what was saved for it. -/
theorem checkpoint_of_its_own : ∃ past s, CheckpointHistory plainRecovery plainSettings past s ∧
    (∃ t ∈ past, ∃ restored reason event, t.label = .restored "DIR-1" 1 "h1" (some ⟨some restored, reason, event⟩)) ∧
      RestoresSaved plainRecovery past := by
  have found : stepFiles.get? (checkpointName "DIR-1" 1) = some (checkpointText plainRecovery stepCheckpoint) := Dict.get?_set_self
  obtain ⟨event, restored⟩ := step_restored found
  have history := step_history.step (.restore newYear newYear "DIR-1" 1 "h1")
  refine ⟨_, _, history, ⟨_, List.mem_cons_self, _, _, _, congrArg (CheckpointEvent.restored "DIR-1" 1 "h1") restored⟩, restores_saved history ?_ ?_⟩
  · intro cp member
    rw [List.mem_singleton.mp member]
    exact step_alone
  · intro t member
    rcases List.mem_cons.mp member with rfl | member
    · refine ⟨by decide, by decide, fun content built cp file read => ?_⟩
      have own : content = checkpointText plainRecovery stepCheckpoint := (Option.some.inj (found.symm.trans file)).symm
      rw [own, read_checkpoint (by decide)] at read
      rw [← Option.some.inj read]
      exact ⟨rfl, rfl⟩
    · rw [List.mem_singleton.mp member]
      exact ⟨by decide, by decide⟩

end

end ControlPlane.Directive
