import ControlPlane.Directive.QueueCalls
import ControlPlane.Interleaving.History

/-!
# Notifications

`NotificationManager` of `approval_engine.py`: a call that finds a notification of its request on
record answers with it, whatever became of it; else it notifies and writes all records to the file.
-/

namespace ControlPlane.Directive

open ControlPlane.Data ControlPlane.Interleaving

structure Notice where
  approvalRequestId : String
  directiveId : String
  riskClass : String
  summary : String
  simulateFailure : Bool

/-- How the write of the file ends: as a whole, with no file opened, or cut short by an error or by the end of the process. -/
inductive FileWrite where
  | whole
  | refused
  | raised (kept : Nat)
  | died (kept : Nat)

/-- The two times a call reads, and how its write ends. -/
structure Sending where
  named : ℚ
  created : ℚ
  write : FileWrite

/-- The triple, where the call returns one. -/
inductive NoticeAnswer where
  | returned (success : Bool) (notificationId : Json.Key) (status : Json)
  | raised
  | died

/-- The records of the process, while there is one, and the file. -/
structure NotificationState where
  memory : Option Records
  file : Option String

/-- The request a notification is of. -/
def noticeOf (rec : Record) : Option String := (Record.field rec "approval_request_id").str?

def statusOf (rec : Record) : Option String := (Record.field rec "delivery_status").str?

section

variable (host : Host)

/-- `NotificationManager._load` -/
def loadNotifications (file : Option String) : Records :=
  match file with
  | none => []
  | some content => loadBy "notification_id" [] (Json.readLines host.floats content)

/-- `f'{approval_request_id}:{time.time()}'` -/
def notificationSeed (approvalRequestId : String) (now : ℚ) : String :=
  approvalRequestId ++ ":" ++ String.ofList (host.floats.repr now)

def notificationId (approvalRequestId : String) (now : ℚ) : String :=
  "NOTIF-" ++ String.ofList ((host.sha256 (notificationSeed host approvalRequestId now)).toList.take 16)

def newNotification (id : String) (notice : Notice) (createdAt : ℚ) : Record :=
  [("notification_id", .str id), ("approval_request_id", .str notice.approvalRequestId), ("directive_id", .str notice.directiveId),
    ("risk_class", .str notice.riskClass), ("summary", .str notice.summary), ("created_at", .float (.fin createdAt)),
    ("delivery_status", .str (if notice.simulateFailure then "FAILED" else "DELIVERED"))]

/-- `NotificationManager._persist`: the file afterwards. -/
def persistNotifications (records : Records) (file : Option String) : FileWrite → Option String
  | .whole => some (queueText host records)
  | .refused => file
  | .raised kept | .died kept => some (String.ofList ((queueText host records).toList.take kept))

/-- What follows the write. -/
def noticeAnswer (notice : Notice) (id : String) : FileWrite → NoticeAnswer
  | .whole =>
    if notice.simulateFailure then .returned false (.str id) (.str "NOTIFICATION_FAILURE_EXECUTION_BLOCKED")
    else .returned true (.str id) (.str "DELIVERED")
  | .refused | .raised _ => .raised
  | .died _ => .died

/-- `NotificationManager.send_notification` -/
def sendNotification (records : Records) (file : Option String) (notice : Notice) (sending : Sending) :
    NotificationState × NoticeAnswer :=
  match records.find? fun e => noticeOf e.2 = some notice.approvalRequestId with
  | some (id, rec) =>
    match rec.get? "delivery_status" with
    | some status => (⟨some records, file⟩, .returned true id status)
    | none => (⟨some records, file⟩, .raised)
  | none =>
    let id := notificationId host notice.approvalRequestId sending.named
    let sent := records.set (.str id) (newNotification id notice sending.created)
    let alive := match sending.write with
      | .died _ => none
      | _ => some sent
    (⟨alive, persistNotifications host sent file sending.write⟩, noticeAnswer notice id sending.write)

/-! ### Runs -/

inductive NotificationEvent where
  | sent (notice : Notice) (sending : Sending) (answer : NoticeAnswer)
  | loaded

/-- Calls, and managers that are made of the file, at any time. -/
inductive NotificationStep : NotificationState → NotificationEvent → NotificationState → Prop
  | send {s : NotificationState} {records : Records} (alive : s.memory = some records) (notice : Notice) (sending : Sending) :
      NotificationStep s (.sent notice sending (sendNotification host records s.file notice sending).2)
        (sendNotification host records s.file notice sending).1
  | load {s : NotificationState} : NotificationStep s .loaded ⟨some (loadNotifications host s.file), s.file⟩

abbrev NotificationHistory := History (NotificationStep host) ⟨none, none⟩

end

abbrev NotificationRun := List (Transition NotificationState NotificationEvent)

def HasStatus (records : Records) (request status : String) : Prop :=
  ∃ e ∈ records, noticeOf e.2 = some request ∧ statusOf e.2 = some status

/-- A call for the request. -/
def CallsFor (request : String) (t : Transition NotificationState NotificationEvent) : Prop :=
  ∃ notice sending answer, t.label = .sent notice sending answer ∧ notice.approvalRequestId = request

/-- A call that notifies. -/
def Attempts (request : String) (failed : Bool) (t : Transition NotificationState NotificationEvent) : Prop :=
  ∃ notice sending answer, t.label = .sent notice sending answer ∧ notice.approvalRequestId = request ∧
    notice.simulateFailure = failed ∧ ∀ records, t.before.memory = some records → ∀ e ∈ records, noticeOf e.2 ≠ some request

/-- A call that returns True. -/
def ReturnsTrue (request : String) (t : Transition NotificationState NotificationEvent) : Prop :=
  ∃ notice sending id status, t.label = .sent notice sending (.returned true id status) ∧ notice.approvalRequestId = request

/-- Success means delivery, a failure is tried again, and nothing is delivered twice. -/
structure NotificationsHold (past : NotificationRun) : Prop where
  success : ∀ t ∈ past, ∀ request, ReturnsTrue request t →
    ∃ records, t.after.memory = some records ∧ HasStatus records request "DELIVERED"
  retried : ∀ later t earlier, past = later ++ t :: earlier → ∀ request, CallsFor request t →
    (∃ u ∈ earlier, Attempts request true u) → (∀ u ∈ earlier, ¬ Attempts request false u) → ∃ failed, Attempts request failed t
  once : past.Pairwise fun later earlier => ∀ request, ¬ (Attempts request false later ∧ Attempts request false earlier)

/-- The call finds no failed notification of its request on record. -/
def FindsNoFailure (t : Transition NotificationState NotificationEvent) : Prop :=
  ∀ request, CallsFor request t → ∀ records, t.before.memory = some records → ¬ HasStatus records request "FAILED"

/-- The write completes, and the notification has an identity of its own. -/
def Completes (host : Host) (t : Transition NotificationState NotificationEvent) : Prop :=
  ∀ notice sending answer, t.label = .sent notice sending answer → sending.write = .whole ∧
    ∀ records, t.before.memory = some records →
      records.get? (.str (notificationId host notice.approvalRequestId sending.named)) = none

section

variable {host : Host} {s : NotificationState} {past : NotificationRun} {records : Records} {notice : Notice} {sending : Sending}
  {request : String} {t : Transition NotificationState NotificationEvent}

/-! ### What a call does -/

/-- A record as the manager makes them. -/
structure NotificationOf (id : String) (rec : Record) : Prop where
  identity : rec.get? "notification_id" = some (.str id)
  flat : Record.Flat rec
  status : rec.get? "delivery_status" = some (.str "DELIVERED") ∨ rec.get? "delivery_status" = some (.str "FAILED")

theorem notificationOf_new (id : String) (notice : Notice) (createdAt : ℚ) : NotificationOf id (newNotification id notice createdAt) where
  identity := by simp [newNotification, Dict.get?]
  flat := by
    refine ⟨?_, ?_⟩
    · simp [Dict.Distinct, Dict.keys, newNotification]
    · intro e member
      simp only [newNotification, List.mem_cons, List.not_mem_nil, or_false] at member
      rcases member with rfl | rfl | rfl | rfl | rfl | rfl | rfl <;> trivial
  status := by
    cases failed : notice.simulateFailure with
    | true =>
      right
      simp [newNotification, failed, Dict.get?]
    | false =>
      left
      simp [newNotification, failed, Dict.get?]

theorem noticeOf_new (id : String) (createdAt : ℚ) : noticeOf (newNotification id notice createdAt) = some notice.approvalRequestId := by
  simp [noticeOf, Record.field, newNotification, Dict.get?, Json.str?]

theorem statusOf_new (id : String) (createdAt : ℚ) :
    statusOf (newNotification id notice createdAt) = some (if notice.simulateFailure then "FAILED" else "DELIVERED") := by
  simp [statusOf, Record.field, newNotification, Dict.get?, Json.str?]

/-- Records of a manager, one for a request. -/
structure Notified (records : Records) : Prop where
  wf : RecordsOf NotificationOf records
  single : ∀ e ∈ records, ∀ f ∈ records, noticeOf e.2 = noticeOf f.2 → e = f

theorem Notified.nil : Notified [] := ⟨.nil, by simp⟩

theorem Notified.reload (notified : Notified records) : loadNotifications host (some (queueText host records)) = records := by
  unfold loadNotifications
  exact notified.wf.reload (fun _ _ record => record.identity) fun _ _ record => record.flat

theorem Notified.status (notified : Notified records) {e : Json.Key × Record} (member : e ∈ records) :
    ∃ v, e.2.get? "delivery_status" = some (.str v) ∧ statusOf e.2 = some v ∧ (v = "DELIVERED" ∨ v = "FAILED") := by
  obtain ⟨id, -, record⟩ := notified.wf.each e member
  rcases record.status with delivered | failed
  · exact ⟨_, delivered, by simp [statusOf, Record.field, delivered, Json.str?], .inl rfl⟩
  · exact ⟨_, failed, by simp [statusOf, Record.field, failed, Json.str?], .inr rfl⟩

/-- A call finds a notification of its request and answers with it, or adds one. -/
theorem sendNotification_cases (notified : Notified records) (file : Option String) (whole : sending.write = .whole)
    (fresh : records.get? (.str (notificationId host notice.approvalRequestId sending.named)) = none) :
    (∃ e ∈ records, noticeOf e.2 = some notice.approvalRequestId ∧ ∃ v, sendNotification host records file notice sending =
        (⟨some records, file⟩, .returned true e.1 v)) ∨
      (∀ e ∈ records, noticeOf e.2 ≠ some notice.approvalRequestId) ∧ ∃ id rec, (rec = newNotification id notice sending.created) ∧
        Json.Key.str id ∉ records.keys ∧ (sendNotification host records file notice sending).1 =
          ⟨some (records ++ [(.str id, rec)]), some (queueText host (records ++ [(.str id, rec)]))⟩ ∧
        (sendNotification host records file notice sending).2 =
          if notice.simulateFailure then .returned false (.str id) (.str "NOTIFICATION_FAILURE_EXECUTION_BLOCKED")
          else .returned true (.str id) (.str "DELIVERED") := by
  unfold sendNotification
  cases found : records.find? fun e => noticeOf e.2 = some notice.approvalRequestId with
  | some e =>
    left
    have member := List.mem_of_find?_eq_some found
    have own : noticeOf e.2 = some notice.approvalRequestId := by simpa using List.find?_some found
    obtain ⟨v, status, -⟩ := notified.status member
    refine ⟨e, member, own, .str v, ?_⟩
    simp only [status]
  | none =>
    right
    have absent : ∀ e ∈ records, noticeOf e.2 ≠ some notice.approvalRequestId := by simpa using List.find?_eq_none.mp found
    have unknown := Dict.get?_none.mp fresh
    refine ⟨absent, _, _, rfl, unknown, ?_, ?_⟩
    · simp only [whole, persistNotifications, Dict.set_fresh unknown]
    · simp only [whole, noticeAnswer]

/-! ### What a run keeps -/

/-- The file holds what a manager has in its memory. -/
structure FileAgrees (host : Host) (s : NotificationState) : Prop where
  notified : Notified (loadNotifications host s.file)
  same : ∀ records, s.memory = some records → records = loadNotifications host s.file

theorem Notified.add (notified : Notified records) {id : String} {createdAt : ℚ} (unknown : Json.Key.str id ∉ records.keys)
    (absent : ∀ e ∈ records, noticeOf e.2 ≠ some notice.approvalRequestId) :
    Notified (records ++ [(.str id, newNotification id notice createdAt)]) := by
  have put : Dict.set records (.str id) (newNotification id notice createdAt) = records ++ [(.str id, newNotification id notice createdAt)] :=
    Dict.set_fresh unknown
  constructor
  · rw [← put]
    exact notified.wf.set (notificationOf_new id notice createdAt)
  · intro e first f second alike
    rcases List.mem_append.mp first with first | first
    · rcases List.mem_append.mp second with second | second
      · exact notified.single e first f second alike
      · obtain rfl := List.mem_singleton.mp second
        exact absurd alike (absent e first)
    · obtain rfl := List.mem_singleton.mp first
      rcases List.mem_append.mp second with second | second
      · exact absurd alike.symm (absent f second)
      · exact (List.mem_singleton.mp second).symm

/-- One step: nothing but a notification that is added to the file. -/
theorem NotificationStep.kept {l : NotificationEvent} {s' : NotificationState} (moved : NotificationStep host s l s')
    (settled : FileAgrees host s) (completes : Completes host ⟨s, l, s'⟩) :
    FileAgrees host s' ∧ loadNotifications host s.file <+: loadNotifications host s'.file := by
  cases moved with
  | load => exact ⟨⟨settled.notified, fun records same => (Option.some.inj same).symm⟩, List.prefix_rfl⟩
  | @send records alive notice sending =>
    obtain ⟨whole, fresh⟩ := completes notice sending _ rfl
    have notified : Notified records := settled.same records alive ▸ settled.notified
    rcases sendNotification_cases notified s.file whole (fresh records alive) with
      ⟨e, -, -, v, same⟩ | ⟨absent, id, rec, made, unknown, after, -⟩
    · rw [same]
      exact ⟨⟨settled.notified, fun records' again => (Option.some.inj again) ▸ settled.same records alive⟩, List.prefix_rfl⟩
    · have added : Notified (records ++ [(.str id, newNotification id notice sending.created)]) := notified.add unknown absent
      rw [← made] at added
      rw [after]
      have reloaded : loadNotifications host (some (queueText host (records ++ [(.str id, rec)]))) =
          records ++ [(.str id, rec)] := added.reload
      refine ⟨⟨reloaded.symm ▸ added, fun records' again => (Option.some.inj again) ▸ reloaded.symm⟩, ?_⟩
      rw [← settled.same records alive, reloaded]
      exact List.prefix_append _ _

theorem settled_start : FileAgrees host ⟨none, none⟩ := ⟨.nil, by simp⟩

theorem notifications_settled (history : NotificationHistory host past s) (completes : ∀ t ∈ past, Completes host t) :
    FileAgrees host s ∧ ∀ t ∈ past, FileAgrees host t.before ∧ FileAgrees host t.after :=
  history.invariant settled_start fun t member settled => ((history.moved t member).kept settled (completes t member)).1

theorem HasStatus.mono {more : Records} (has : HasStatus records request status) (sub : records <+: more) :
    HasStatus more request status := by
  obtain ⟨e, member, same⟩ := has
  exact ⟨e, sub.subset member, same⟩

/-- A call of a manager: what was on record, and what it answered. -/
theorem CallsFor.inv (calls : CallsFor request t) (moved : NotificationStep host t.before t.label t.after) :
    ∃ notice sending records, notice.approvalRequestId = request ∧ t.before.memory = some records ∧
      t.label = .sent notice sending (sendNotification host records t.before.file notice sending).2 ∧
      t.after = (sendNotification host records t.before.file notice sending).1 := by
  obtain ⟨notice, sending, answer, label, own⟩ := calls
  obtain ⟨before, l, after⟩ := t
  dsimp only at label moved
  subst label
  cases moved with
  | @send records alive _ _ => exact ⟨notice, sending, records, own, alive, rfl, rfl⟩

theorem Attempts.calls {failed : Bool} (attempts : Attempts request failed t) : CallsFor request t := by
  obtain ⟨notice, sending, answer, label, own, -⟩ := attempts
  exact ⟨notice, sending, answer, label, own⟩

theorem ReturnsTrue.calls (succeeds : ReturnsTrue request t) : CallsFor request t := by
  obtain ⟨notice, sending, id, status, label, own⟩ := succeeds
  exact ⟨notice, sending, _, label, own⟩

/-- A call that notifies leaves the notification on record. -/
theorem Attempts.recorded {failed : Bool} (attempts : Attempts request failed t) (moved : NotificationStep host t.before t.label t.after)
    (settled : FileAgrees host t.before) (completes : Completes host t) :
    HasStatus (loadNotifications host t.after.file) request (if failed then "FAILED" else "DELIVERED") := by
  obtain ⟨notice, sending, answer, label, own, fails, absent⟩ := attempts
  obtain ⟨before, l, after⟩ := t
  dsimp only at label moved absent settled
  subst label
  cases moved with
  | @send records alive _ _ =>
    obtain ⟨whole, fresh⟩ := completes notice sending _ rfl
    have notified : Notified records := settled.same records alive ▸ settled.notified
    rcases sendNotification_cases notified before.file whole (fresh records alive) with
      ⟨e, member, here, -⟩ | ⟨unheard, id, rec, made, unknown, added, -⟩
    · exact absurd (own ▸ here) (absent records alive e member)
    · have more : Notified (records ++ [(.str id, newNotification id notice sending.created)]) := notified.add unknown unheard
      rw [← made] at more
      dsimp only
      rw [added, more.reload]
      refine ⟨(.str id, rec), List.mem_append_right _ (List.mem_singleton_self _), ?_, ?_⟩
      · rw [made, noticeOf_new, own]
      · rw [made, statusOf_new, fails]

/-- What a call finds of its request, it answers with. -/
theorem CallsFor.found (calls : CallsFor request t) (moved : NotificationStep host t.before t.label t.after)
    (settled : FileAgrees host t.before) (completes : Completes host t) :
    ∃ records, t.before.memory = some records ∧ Notified records ∧
      ((∃ e ∈ records, noticeOf e.2 = some request ∧ ReturnsTrue request t ∧ t.after.memory = some records) ∨
        ∃ failed, Attempts request failed t ∧ (ReturnsTrue request t → failed = false) ∧ ∃ sent, t.after.memory = some sent) := by
  obtain ⟨notice, sending, records, own, alive, label, after⟩ := calls.inv moved
  obtain ⟨whole, fresh⟩ := completes notice sending _ label
  have notified : Notified records := settled.same records alive ▸ settled.notified
  refine ⟨records, alive, notified, ?_⟩
  rcases sendNotification_cases notified t.before.file whole (fresh records alive) with
    ⟨e, member, here, v, same⟩ | ⟨absent, id, rec, -, -, put, answered⟩
  · left
    rw [same] at label after
    exact ⟨e, member, own ▸ here, ⟨notice, sending, _, _, label, own⟩, by rw [after]⟩
  · right
    refine ⟨notice.simulateFailure, ⟨notice, sending, _, label, own, rfl, ?_⟩, ?_, ⟨_, by rw [after, put]⟩⟩
    · intro records' again
      rw [alive] at again
      obtain rfl := Option.some.inj again
      exact own ▸ absent
    · rintro ⟨notice', sending', id', status', label', -⟩
      rw [label, answered] at label'
      obtain ⟨rfl, -, returned⟩ := NotificationEvent.sent.inj label'
      cases failed : notice.simulateFailure with
      | false => rfl
      | true =>
        rw [failed] at returned
        cases returned

/-! ### The promise -/

theorem success_of_spared (history : NotificationHistory host past s) (completes : ∀ t ∈ past, Completes host t)
    (spared : ∀ t ∈ past, FindsNoFailure t) (member : t ∈ past) (succeeds : ReturnsTrue request t) :
    ∃ records, t.after.memory = some records ∧ HasStatus records request "DELIVERED" := by
  have moved := history.moved t member
  obtain ⟨before, after⟩ := (notifications_settled history completes).2 t member
  obtain ⟨records, alive, notified, ⟨e, inside, own, -, same⟩ | ⟨failed, attempts, fine, sent, same⟩⟩ :=
    succeeds.calls.found moved before (completes t member)
  · obtain ⟨v, -, status, delivered | failed⟩ := notified.status inside
    · exact ⟨records, same, e, inside, own, delivered ▸ status⟩
    · exact absurd ⟨e, inside, own, failed ▸ status⟩ (spared t member request succeeds.calls records alive)
  · have recorded := attempts.recorded moved before (completes t member)
    rw [fine succeeds, ← after.same sent same] at recorded
    exact ⟨sent, same, recorded⟩

/-- What is on record stays there. -/
theorem recorded_since {later earlier : NotificationRun} {u : Transition NotificationState NotificationEvent} {failed : Bool}
    (history : NotificationHistory host (later ++ u :: earlier) s) (completes : ∀ t ∈ later ++ u :: earlier, Completes host t)
    (attempts : Attempts request failed u) :
    HasStatus (loadNotifications host s.file) request (if failed then "FAILED" else "DELIVERED") := by
  have settled := (notifications_settled history completes).2
  have member : u ∈ later ++ u :: earlier := List.mem_append_right _ List.mem_cons_self
  have start := attempts.recorded (history.moved u member) (settled u member).1 (completes u member)
  have kept : ∀ v ∈ later, HasStatus (loadNotifications host v.before.file) request (if failed then "FAILED" else "DELIVERED") →
      HasStatus (loadNotifications host v.after.file) request (if failed then "FAILED" else "DELIVERED") := by
    intro v newer has
    have member : v ∈ later ++ u :: earlier := List.mem_append_left _ newer
    exact has.mono ((history.moved v member).kept (settled v member).1 (completes v member)).2
  exact (history.ever_after (I := fun v => HasStatus (loadNotifications host v.file) request (if failed then "FAILED" else "DELIVERED"))
    start kept).1

/-- Nothing is notified of twice. -/
theorem notified_once (history : NotificationHistory host past s) (completes : ∀ t ∈ past, Completes host t) :
    past.Pairwise fun later earlier => ∀ request, ¬ (Attempts request false later ∧ Attempts request false earlier) := by
  refine history.at_most_once (fun request t => Attempts request false t)
    (fun request v => HasStatus (loadNotifications host v.file) request "DELIVERED") ?_ ?_
  · intro t member request attempts
    obtain ⟨before, -⟩ := (notifications_settled history completes).2 t member
    refine ⟨?_, attempts.recorded (history.moved t member) before (completes t member)⟩
    rintro ⟨e, inside, own, -⟩
    obtain ⟨-, -, records, -, alive, -⟩ := attempts.calls.inv (history.moved t member)
    obtain ⟨-, -, -, -, -, -, absent⟩ := attempts
    exact absent records alive e (before.same records alive ▸ inside) own
  · intro t member request has
    obtain ⟨before, -⟩ := (notifications_settled history completes).2 t member
    exact has.mono ((history.moved t member).kept before (completes t member)).2

/-- No request is called for again once it has failed. -/
theorem spared_of_success (history : NotificationHistory host past s) (completes : ∀ t ∈ past, Completes host t)
    (success : ∀ t ∈ past, ∀ request, ReturnsTrue request t →
      ∃ records, t.after.memory = some records ∧ HasStatus records request "DELIVERED") : ∀ t ∈ past, FindsNoFailure t := by
  intro t member request calls records alive
  rintro ⟨e, inside, own, failed⟩
  obtain ⟨before, -⟩ := (notifications_settled history completes).2 t member
  obtain ⟨records', again, notified, ⟨f, inside', own', succeeds, same⟩ | ⟨-, ⟨-, -, -, -, -, -, absent⟩, -⟩⟩ :=
    calls.found (history.moved t member) before (completes t member)
  · obtain rfl : records = records' := Option.some.inj (alive.symm.trans again)
    obtain ⟨records'', after, g, there, own'', delivered⟩ := success t member request succeeds
    obtain rfl : records = records'' := Option.some.inj (same.symm.trans after)
    obtain rfl : e = g := notified.single e inside g there (own.trans own''.symm)
    rw [failed] at delivered
    exact absurd delivered (by decide)
  · exact absent records alive e inside own

/-- Where every write completes, the promise is kept exactly if no request is called for again once it has failed. -/
theorem notifications_hold_iff (history : NotificationHistory host past s) (completes : ∀ t ∈ past, Completes host t) :
    NotificationsHold past ↔ ∀ t ∈ past, FindsNoFailure t := by
  constructor
  · intro hold
    exact spared_of_success history completes hold.success
  · intro spared
    refine ⟨fun t member request succeeds => success_of_spared history completes spared member succeeds, ?_,
      notified_once history completes⟩
    rintro later t earlier rfl request calls ⟨u, member, attempts⟩ -
    obtain ⟨newer, older, rfl⟩ := List.append_of_mem member
    obtain ⟨before, moved⟩ := history.upTo
    have inside : t ∈ later ++ t :: (newer ++ u :: older) := List.mem_append_right _ List.mem_cons_self
    have known := recorded_since before (fun v earlier => completes v (List.mem_append_right _ (List.mem_cons_of_mem _ earlier))) attempts
    obtain ⟨settled, -⟩ := (notifications_settled history completes).2 t inside
    obtain ⟨-, -, records, -, alive, -⟩ := calls.inv moved
    exact absurd (settled.same records alive ▸ known) (spared t inside request calls records alive)

/-! ### The same request, twice -/

def askApproval (failed : Bool) : Notice := ⟨"APP-1", "DIR-1", "CRITICAL", "Delete", failed⟩

def wholeAt (n : ℚ) : Sending := ⟨n, n, .whole⟩

def firstId : String := notificationId sampleHost "APP-1" 0

def firstRecords (failed : Bool) : Records := [(.str firstId, newNotification firstId (askApproval failed) 0)]

def firstState (failed : Bool) : NotificationState := ⟨some (firstRecords failed), some (queueText sampleHost (firstRecords failed))⟩

/-- A manager is made, and notifies twice; the first time it may fail. -/
def askedTwice (failed : Bool) : NotificationRun :=
  [⟨firstState failed, .sent (askApproval false) (wholeAt 5) (.returned true (.str firstId)
      (.str (if failed then "FAILED" else "DELIVERED"))), firstState failed⟩,
    ⟨⟨some [], none⟩, .sent (askApproval failed) (wholeAt 0) (noticeAnswer (askApproval failed) firstId .whole), firstState failed⟩,
    ⟨⟨none, none⟩, .loaded, ⟨some [], none⟩⟩]

theorem askedTwice_history (failed : Bool) : NotificationHistory sampleHost (askedTwice failed) (firstState failed) := by
  have first : sendNotification sampleHost [] none (askApproval failed) (wholeAt 0) =
      (firstState failed, noticeAnswer (askApproval failed) firstId .whole) := rfl
  have again : sendNotification sampleHost (firstRecords failed) (firstState failed).file (askApproval false) (wholeAt 5) =
      (firstState failed, .returned true (.str firstId) (.str (if failed then "FAILED" else "DELIVERED"))) := by
    have found : ((firstRecords failed).find? fun e => noticeOf e.2 = some (askApproval false).approvalRequestId) =
        some (.str firstId, newNotification firstId (askApproval failed) 0) := by
      simp [firstRecords, noticeOf_new, askApproval]
    have status : (newNotification firstId (askApproval failed) 0).get? "delivery_status" =
        some (.str (if failed then "FAILED" else "DELIVERED")) := by
      cases failed <;> simp [newNotification, Dict.get?, askApproval]
    unfold sendNotification
    simp only [found, status, firstState]
  have opened : NotificationHistory sampleHost [⟨⟨none, none⟩, .loaded, ⟨some [], none⟩⟩] ⟨some [], none⟩ := .step .start .load
  have one := opened.step (.send rfl (askApproval failed) (wholeAt 0))
  rw [first] at one
  have two := one.step (.send rfl (askApproval false) (wholeAt 5))
  rw [again] at two
  exact two

theorem askedTwice_completes (failed : Bool) : ∀ t ∈ askedTwice failed, Completes sampleHost t := by
  have apart : firstId ≠ notificationId sampleHost "APP-1" 5 := by decide
  intro t member notice sending answer label
  simp only [askedTwice, List.mem_cons, List.not_mem_nil, or_false] at member
  rcases member with rfl | rfl | rfl
  · obtain ⟨rfl, rfl, -⟩ := NotificationEvent.sent.inj label
    refine ⟨rfl, fun records alive => ?_⟩
    obtain rfl : firstRecords failed = records := Option.some.inj alive
    have other : Json.Key.str firstId ≠ .str (notificationId sampleHost (askApproval false).approvalRequestId (wholeAt 5).named) :=
      fun same => apart (Json.Key.str.inj same)
    rw [firstRecords, Dict.get?_cons, if_neg other, Dict.get?_nil]
  · obtain ⟨rfl, rfl, -⟩ := NotificationEvent.sent.inj label
    refine ⟨rfl, fun records alive => ?_⟩
    obtain rfl : [] = records := Option.some.inj alive
    rfl
  · cases label

theorem askedTwice_status (failed : Bool) {status : String} (has : HasStatus (firstRecords failed) "APP-1" status) :
    status = if failed then "FAILED" else "DELIVERED" := by
  obtain ⟨e, member, -, same⟩ := has
  obtain rfl := List.mem_singleton.mp member
  rw [statusOf_new] at same
  exact (Option.some.inj same).symm

/-- The second call returns True, and nothing was delivered. -/
theorem notifications_fail : NotificationHistory sampleHost (askedTwice true) (firstState true) ∧ ¬ NotificationsHold (askedTwice true) := by
  refine ⟨askedTwice_history true, fun hold => ?_⟩
  obtain ⟨records, after, delivered⟩ := hold.success _ List.mem_cons_self "APP-1"
    ⟨askApproval false, wholeAt 5, .str firstId, .str "FAILED", rfl, rfl⟩
  obtain rfl : firstRecords true = records := Option.some.inj after
  exact absurd (askedTwice_status true delivered) (by decide)

/-- The first call delivers, and the second finds what it delivered. -/
theorem notifications_delivered : NotificationsHold (askedTwice false) := by
  refine (notifications_hold_iff (askedTwice_history false) (askedTwice_completes false)).mpr ?_
  intro t member request calls records alive has
  simp only [askedTwice, List.mem_cons, List.not_mem_nil, or_false] at member
  rcases member with rfl | rfl | rfl
  · obtain ⟨notice, sending, answer, label, own⟩ := calls
    obtain ⟨rfl, -⟩ := NotificationEvent.sent.inj label
    obtain rfl : firstRecords false = records := Option.some.inj alive
    subst own
    exact absurd (askedTwice_status false has) (by decide)
  · obtain rfl : [] = records := Option.some.inj alive
    obtain ⟨e, member, -⟩ := has
    cases member
  · cases alive

end

end ControlPlane.Directive
