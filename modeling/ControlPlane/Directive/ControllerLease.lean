import ControlPlane.Directive.DurableQueue
import ControlPlane.Interleaving.History
import Mathlib.Logic.Function.Basic

/-!
# Controllers on one lease file

`ControllerLeaseManager` of `watchdog.py`: calls of `acquire_or_renew_lease` down to the single file
operations, on one clock. A call looks at the file, empties it and writes its own record; between any
two of its operations other calls do theirs.
-/

namespace ControlPlane.Directive

open ControlPlane.Data ControlPlane.Interleaving

section

variable (host : Host) (ttl : String → PyFloat)

/-- `new_rec` of a manager; each controller has its `lease_ttl`. -/
def leaseRecord (controllerId : String) (now : ℚ) : Record :=
  [("owner", .str controllerId), ("acquired_at", .float (.fin now)), ("expires_at", .float (.fin now + ttl controllerId))]

def leaseText (controllerId : String) (now : ℚ) : List Char :=
  Json.lineOf host.floats (leaseRecord ttl controllerId now) ++ ['\n']

/-- The content names another owner whose lease has not expired. Whatever cannot be read blocks nobody. -/
def blocks (controllerId : String) (now : ℚ) (content : List Char) : Bool :=
  match Json.loads host.floats (String.ofList content) with
  | some (.dict rec) =>
    (Record.field rec "owner").str? ≠ some controllerId &&
      match (fieldOr rec "expires_at" (.int 0)).number? with
      | some expires => decide (.fin now < expires)
      | none => false
  | _ => false

/-- How far a call has come. -/
inductive LeaseStage where
  | started
  /-- `exists()` was true. -/
  | found
  /-- It has seen this and goes on to write. -/
  | cleared (seen : Option (List Char))
  /-- It has emptied the file. -/
  | writing (written rest : List Char)

/-- A call in progress, with its `time.time()`. -/
structure LeaseCall where
  controllerId : String
  now : ℚ
  stage : LeaseStage

/-- A call that returned `True`. -/
structure Told where
  controllerId : String
  now : ℚ
  toldAt : ℚ

def Told.expires (g : Told) : PyFloat := .fin g.now + ttl g.controllerId

structure LeaseWorld where
  clock : ℚ
  file : Option (List Char)
  calls : Nat → Option LeaseCall
  told : List Told

def LeaseWorld.put (w : LeaseWorld) (i : Nat) (c : Option LeaseCall) : LeaseWorld :=
  { w with calls := Function.update w.calls i c }

/-- A write at a place in the file; zeros fill what is missing before it. -/
def writeAt (content : List Char) (place : Nat) (chunk : List Char) : List Char :=
  content.take place ++ List.replicate (place - content.length) '\x00' ++ chunk ++ content.drop (place + chunk.length)

/-- The stage after `exists()`. -/
def afterExists (file : Option (List Char)) : LeaseStage := if file.isSome then .found else .cleared file

/-- The call after `read_text()`: one that is blocked returns `False`. -/
def afterRead (controllerId : String) (now : ℚ) (file : Option (List Char)) : Option LeaseCall :=
  if blocks host controllerId now (file.getD []) then none else some ⟨controllerId, now, .cleared file⟩

inductive LeaseLabel where
  | passed
  | began (i : Nat)
  | looked (i : Nat)
  | read (i : Nat)
  | emptied (i : Nat)
  | wrote (i : Nat)
  | returned (i : Nat)

/-- The next operation of some call, or time that passes. -/
inductive LeaseStep : LeaseWorld → LeaseLabel → LeaseWorld → Prop
  | passed {w : LeaseWorld} {clock : ℚ} (later : w.clock ≤ clock) : LeaseStep w .passed { w with clock := clock }
  | began {w : LeaseWorld} {i : Nat} (controllerId : String) (free : w.calls i = none) :
      LeaseStep w (.began i) (w.put i (some ⟨controllerId, w.clock, .started⟩))
  | looked {w : LeaseWorld} {i : Nat} {c : String} {now : ℚ} (here : w.calls i = some ⟨c, now, .started⟩) :
      LeaseStep w (.looked i) (w.put i (some ⟨c, now, afterExists w.file⟩))
  | read {w : LeaseWorld} {i : Nat} {c : String} {now : ℚ} (here : w.calls i = some ⟨c, now, .found⟩) :
      LeaseStep w (.read i) (w.put i (afterRead host c now w.file))
  | emptied {w : LeaseWorld} {i : Nat} {c : String} {now : ℚ} {seen : Option (List Char)}
      (here : w.calls i = some ⟨c, now, .cleared seen⟩) :
      LeaseStep w (.emptied i) { w.put i (some ⟨c, now, .writing [] (leaseText host ttl c now)⟩) with file := some [] }
  | wrote {w : LeaseWorld} {i : Nat} {c : String} {now : ℚ} {written chunk rest : List Char} (nonempty : chunk ≠ [])
      (here : w.calls i = some ⟨c, now, .writing written (chunk ++ rest)⟩) :
      LeaseStep w (.wrote i) { w.put i (some ⟨c, now, .writing (written ++ chunk) rest⟩) with
        file := some (writeAt (w.file.getD []) written.length chunk) }
  | returned {w : LeaseWorld} {i : Nat} {c : String} {now : ℚ} {written : List Char}
      (here : w.calls i = some ⟨c, now, .writing written []⟩) :
      LeaseStep w (.returned i) { w.put i none with told := ⟨c, now, w.clock⟩ :: w.told }

/-- Nobody has called yet; the file may hold anything. -/
def noCalls (clock : ℚ) (file : Option (List Char)) : LeaseWorld := ⟨clock, file, fun _ => none, []⟩

abbrev LeasePast := List (Transition LeaseWorld LeaseLabel)

/-- At no moment are both told. -/
def Apart (g h : Told) : Prop := ¬ ∃ t : ℚ, g.toldAt ≤ t ∧ .fin t < g.expires ttl ∧ h.toldAt ≤ t ∧ .fin t < h.expires ttl

/-! ### Calls that are not disturbed -/

/-- The call has emptied the file and has not returned. -/
def LeaseWorld.Writes (w : LeaseWorld) (i : Nat) : Prop := ∃ c now written rest, w.calls i = some ⟨c, now, .writing written rest⟩

/-- The content is a lease of this controller that it acquired at a later time. -/
def ownLater (controllerId : String) (now : ℚ) (content : List Char) : Bool :=
  match Json.loads host.floats (String.ofList content) with
  | some (.dict rec) =>
    (Record.field rec "owner").str? = some controllerId &&
      match (Record.field rec "acquired_at").number? with
      | some acquired => decide (.fin now < acquired)
      | none => false
  | _ => false

/-- The file is still as the call has seen it, nobody is writing it, and it holds no later lease of
the same controller. -/
def Undisturbed (w : LeaseWorld) (i : Nat) : Prop := ∀ c now seen, w.calls i = some ⟨c, now, .cleared seen⟩ →
  w.file = seen ∧ (∀ j, j ≠ i → ¬ w.Writes j) ∧ ownLater host c now (seen.getD []) = false

end

end ControlPlane.Directive
