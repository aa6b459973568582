import ControlPlane.Directive.Watcher
import ControlPlane.Interleaving.History

/-!
# What an acknowledgement says after its directive was recorded

Runs of a watcher effect by effect, with files that come to the inbox at any time and crashes between
any two effects. A file whose acknowledgement goes where the one of a recorded directive is rewrites it.
-/

namespace ControlPlane.Directive

open ControlPlane.Data ControlPlane.Interleaving

/-- A watcher, with the effects of the current file that are still to come. -/
structure Watch where
  channel : Channel
  pending : List Effect

inductive WatchLabel where
  | submitted
  | took (name : String)
  | performed
  | crashed

/-- What can happen next. A crash is followed by a restart. -/
inductive WatchStep (host : WatcherHost) : Watch → WatchLabel → Watch → Prop
  | submitted {w : Watch} (name : String) (content : Option String) :
      WatchStep host w .submitted ⟨w.channel.submit name content, w.pending⟩
  | took {w : Watch} {now : String} {answers : FileAnswers} {name : String} {content : Option String} {h : Handling}
      (idle : w.pending = []) (waits : w.channel.inbox.get? name = some content)
      (ok : handle host now answers w.channel name (readInbox host content) = .ok h) :
      WatchStep host w (.took name) ⟨w.channel, h.effects answers name⟩
  | performed {w : Watch} {effect : Effect} {rest : List Effect} (next : w.pending = effect :: rest) :
      WatchStep host w .performed ⟨w.channel.perform host effect, rest⟩
  | crashed {w : Watch} {c : Channel} (restarted : w.channel.restart host = .ok c) :
      WatchStep host w .crashed ⟨c, []⟩

abbrev WatchPast := List (Transition Watch WatchLabel)

/-- A file that is taken and acknowledged where a recorded directive is has the id of that directive,
and the directive was rejected. -/
def Calm (host : WatcherHost) (t : Transition Watch WatchLabel) : Prop := ∀ name directiveId d record file,
  t.label = .took name →
  (readInbox host (t.before.channel.inbox.get? name).join).ackId name = some directiveId →
  host.place (host.shown directiveId) = .acks file →
  t.before.channel.consumed.get? (.str d) = some record → host.place d = .acks file →
  host.shown directiveId = d ∧ record.decision = .str Decision.rejected.value

section

variable {host : WatcherHost} {w w' : Watch} {l : WatchLabel} {d file : String} {record : ConsumedRecord}
  {ledger : Option String}

/-! ### The ledger file -/

section

variable {c : Channel} {now name : String} {answers : FileAnswers} {reading : Reading} {h : Handling}
  {payload : DirectivePayload} {envelope : DirectiveEnvelope}

end

/-! ### One step -/

section

variable {c : Channel} {now reason : String} {answers : FileAnswers} {payload : DirectivePayload}
  {envelope : DirectiveEnvelope} {decision : Decision} {written : Bool} {key : Json.Key}

end

theorem performAll_history {init : Watch} {effects : List Effect} {c : Channel} {past : WatchPast}
    (history : History (WatchStep host) init past ⟨c, effects⟩) :
    ∃ past, History (WatchStep host) init past ⟨c.performAll host effects, []⟩ := by
  induction effects generalizing c past with
  | nil => exact ⟨past, history⟩
  | cons effect rest ih => exact ih (history.step (.performed rfl))

theorem pollFiles_history {init : Watch} {answers : PollAnswers} {c : Channel} {past : WatchPast} {names : List String}
    (apart : names.Nodup) (waits : ∀ n ∈ names, (c.inbox.get? n).isSome)
    (history : History (WatchStep host) init past ⟨c, []⟩) :
    ∃ past, History (WatchStep host) init past ⟨(pollFiles host answers c names).channel, []⟩ := by
  induction names generalizing c past with
  | nil => exact ⟨past, history⟩
  | cons name names ih =>
    obtain ⟨fresh, apart⟩ := List.nodup_cons.mp apart
    obtain ⟨content, found⟩ := Option.isSome_iff_exists.mp (waits name List.mem_cons_self)
    have read : (c.inbox.get? name).join = content := by rw [found]; rfl
    rw [pollFiles, read]
    cases ok : handle host answers.now (answers.file name) c name (readInbox host content) with
    | error fault => exact ⟨past, history⟩
    | ok h =>
      obtain ⟨past, reached⟩ := performAll_history (history.step (.took rfl found ok))
      refine ih apart (fun n member => ?_) reached
      have other : name ≠ n := fun same => fresh (same ▸ member)
      rw [performAll_inbox, Directory.get?_remove, if_neg other, ackedInbox]
      have here := waits n (List.mem_cons_of_mem _ member)
      cases ackPlace host h.ack with
      | inbox file =>
        simp only [Directory.get?_write]
        split
        · rfl
        · exact here
      | _ => exact here

/-- A poll is a run of the watcher. -/
theorem poll_history {init : Watch} {answers : PollAnswers} {c : Channel} {past : WatchPast}
    (history : History (WatchStep host) init past ⟨c, []⟩) :
    ∃ past, History (WatchStep host) init past ⟨(pollInbox host answers c).channel, []⟩ :=
  pollFiles_history Directory.names_nodup (fun _ member => Directory.mem_names.mp member) history

end

/-! ### A directive that comes twice -/

end ControlPlane.Directive
