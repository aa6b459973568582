import ControlPlane.Autonomy.CanonicalPlan
import ControlPlane.Data.Tree
import ControlPlane.Interleaving.Crash

/-!
# A workspace and its files

The calls that the controller makes on the tree of one registered workspace, next to the
statements it sends to the database. Every call can be made to fail: it then raises and
has done nothing, or, if it was a write, only part of it.
-/

namespace ControlPlane.Autonomy

open Data Interleaving

/-- The parts of a path below the root of the workspace. -/
abbrev Name := List String

/-- The registry's entry for the workspace, and what `_path` and `_actual` look up. -/
structure Site where
  workspace : Descriptor
  casefold : String → String
  /-- normalised and folded already -/
  protectedPaths : List String
  /-- `_sha` -/
  digest : Bytes → String
  digest_ne_absent : ∀ content, digest content ≠ "ABSENT"

structure World where
  db : Db
  tree : Tree Name Bytes
  /-- `_physical_id` of the root -/
  root : Answer String
  /-- `_blocked`, the registry's own memory -/
  blocked : List String

/-- The answers of the environment to one call, and how it fails if it does. -/
structure Call where
  input : Input := {}
  fault : Option Err := none
  /-- how much of a failing write was written -/
  written : Nat := 0

instance : Inhabited Call := ⟨{}⟩

/-- One of the controller's two ways to look at a file, a call of `os` or `pathlib`, or
the caller's hook. -/
inductive FileCall : Type → Type where
  /-- `_path` -/
  | path (relative : String) : FileCall Name
  /-- `_actual` -/
  | actual (x : Name) : FileCall (String × Option Bytes)
  /-- `x.exists()` -/
  | exists_ (x : Name) : FileCall Bool
  /-- `x.exists() or x.is_symlink()` -/
  | occupied (x : Name) : FileCall Bool
  /-- `not x.is_symlink() and x.lstat().st_nlink == 1` -/
  | single (x : Name) : FileCall Bool
  /-- `os.open(x, O_WRONLY | O_CREAT | O_EXCL, 0o600)` -/
  | open_ (x : Name) : FileCall Nat
  | write (descriptor : Nat) (content : Bytes) : FileCall Unit
  | fsync (descriptor : Nat) : FileCall Unit
  | close (descriptor : Nat) : FileCall Unit
  | link (x y : Name) : FileCall Unit
  | unlink (x : Name) (missingOk : Bool) : FileCall Unit
  | replace (x y : Name) : FileCall Unit
  | hook : FileCall Unit

/-- What the controller asks for. -/
abbrev Act (α : Type) := Stmt α ⊕ FileCall α

/-- The exception of a failed call. -/
def osError : Errno → Err
  | .exists_ => .other "FileExistsError"
  | .missing => .other "FileNotFoundError"
  | .directory => .other "IsADirectoryError"

/-- `path_allowed` -/
def Site.allowed (site : Site) (relative : String) : Bool :=
  !site.protectedPaths.any fun pre =>
    site.casefold relative = pre || (pre.toList ++ ['/']).isPrefixOf (site.casefold relative).toList

/-- The directories on the way to a file, the root left out. -/
def parents (x : Name) : List Name := x.dropLast.inits.tail

namespace Site

variable (site : Site)

/-- `_path` -/
def path (w : World) (relative : String) : Except Err Name := do
  require (site.allowed relative) (.blocked "configured protected path")
  require ((← w.root) = site.workspace.physicalId) (.integrityBlocked "workspace physical identity changed")
  let x := pathParts relative
  require ((parents x).all fun p => (w.tree.stat p).isNone || w.tree.isDirectory p)
    (.blocked "symlink or reparse traversal")
  require (w.tree.stat x = none ∨ ¬ w.tree.isSymlink x) (.blocked "symlink or reparse target")
  require (w.tree.stat x = none ∨ w.tree.unshared x) (.blocked "hardlinked target")
  require ((parents x).all fun p => (w.tree.stat p).isSome) (.other "FileNotFoundError")
  require (x ≠ []) (.blocked "workspace escape")
  return x

/-- `_actual` -/
def actual (t : Tree Name Bytes) (x : Name) : Except Err (String × Option Bytes) :=
  match t.seen x with
  | .absent => .ok ("ABSENT", none)
  | .file content => .ok (site.digest content, some content)
  | .irregular => .error (.blocked "non-regular target")

/-- `resolve`; a registry that has blocked the workspace is a call that fails. -/
def resolve (w : World) (workspace target : String) : Answer Descriptor := do
  require (site.workspace.workspaceId = workspace) (.integrityBlocked "workspace authority unavailable")
  require (site.workspace.targetProject = target ∧ site.workspace.kind = "DISPOSABLE")
    (.blocked "workspace target mismatch")
  require (w.root = .ok site.workspace.physicalId) (.integrityBlocked "workspace identity changed")
  return site.workspace

/-- The workspace that the statement has the registry look up. -/
def resolved (w : World) : Stmt α → Answer Descriptor
  | .resolveWorkspace workspace target => site.resolve w workspace target
  | .beginApply plan _ | .finishApply plan _ _ _ =>
    match w.db.grants.find? plan.grantId with
    | some g => site.resolve w g.workspaceId g.targetProject
    | none => .error (.integrityBlocked "workspace authority unavailable")
  | _ => .error (.integrityBlocked "workspace authority unavailable")

/-- What a statement is told of the tree. -/
def input (w : World) (s : Stmt α) (x : Input) : Input :=
  { x with
    workspace := site.resolved w s
    physicalId := w.root
    actual := fun relative => do return (← site.actual w.tree (← site.path w relative)).1 }

/-- What the registry remembers of a statement. -/
def remember (w : World) : Stmt α → List String
  | .blockWorkspace workspace _ _ => workspace :: w.blocked
  | .resolveWorkspace workspace _ =>
    if site.workspace.workspaceId = workspace ∧ w.root ≠ .ok site.workspace.physicalId then workspace :: w.blocked
    else w.blocked
  | _ => w.blocked

end Site

/-- A call that changes the tree, or fails. -/
def World.change (w : World) : Except Errno (Tree Name Bytes) → World × Answer Unit
  | .ok tree => ({ w with tree }, .ok ())
  | .error e => (w, .error (osError e))

namespace Site

variable (site : Site)

def call : FileCall α → World → World × Answer α
  | .path relative, w => (w, site.path w relative)
  | .actual x, w => (w, site.actual w.tree x)
  | .exists_ x, w => (w, .ok (w.tree.stat x).isSome)
  | .occupied x, w => (w, .ok ((w.tree.stat x).isSome || w.tree.isSymlink x))
  | .single x, w =>
    if (w.tree.names x).isNone then (w, .error (osError .missing))
    else (w, .ok (!w.tree.isSymlink x && w.tree.unshared x))
  | .open_ x, w =>
    match w.tree.create x [] with
    | .ok tree => ({ w with tree }, .ok w.tree.next)
    | .error e => (w, .error (osError e))
  | .write descriptor content, w => ({ w with tree := w.tree.write descriptor content }, .ok ())
  | .fsync _, w | .close _, w | .hook, w => (w, .ok ())
  | .link x y, w => w.change (w.tree.link x y)
  | .unlink x missingOk, w =>
    if missingOk && (w.tree.names x).isNone then (w, .ok ()) else w.change (w.tree.unlink x)
  | .replace x y, w => w.change (w.tree.replace x y)

def perform : Act α → Call → World → World × Answer α
  | .inl s, c, w =>
    let (db, answer) := Autonomy.exec s (site.input w s c.input) w.db
    ({ w with db, blocked := site.remember w s }, answer)
  | .inr s, _, w => site.call s w

/-- What a call has done when it raises. -/
def spoil : Act α → Call → World → World
  | .inr (.write descriptor content), c, w =>
    { w with tree := w.tree.write descriptor (content.take c.written) }
  | _, _, w => w

/-- A call of a kind that is trusted is given no fault and finds the store free. -/
def exec (trusted : {α : Type} → Act α → Bool) (s : Act α) (c : Call) (w : World) : World × Answer α :=
  if trusted s then site.perform s { c with input := { c.input with busy := false } } w
  else match c.fault with
    | none => site.perform s c w
    | some e => (spoil s c w, .error e)

def controller (trusted : {α : Type} → Act α → Bool) : Machine Err Act Call World := ⟨site.exec trusted⟩

end Site

end ControlPlane.Autonomy
