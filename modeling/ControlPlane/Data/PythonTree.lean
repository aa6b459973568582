import Mathlib.Data.List.Basic

/-!
# Syntax trees of Python

The nodes of `ast` that can bind a constant to a name, with all other nodes as nodes that have
children, and what each of them binds.
-/

namespace ControlPlane.Data

/-- `ast.Constant.value`; numbers, bytes and `...` are told apart from nothing here. -/
inductive PyConstant where
  | none
  | bool (b : Bool)
  | str (s : String)
  | other
  deriving DecidableEq

/-- A key of a dictionary display is missing before `**`; a keyword has no name there. -/
inductive PyNode where
  | constant (value : PyConstant)
  | name (id : String)
  | attribute (value : PyNode) (attr : String)
  | subscript (value slice : PyNode)
  | tuple (elts : List PyNode)
  | list (elts : List PyNode)
  | starred (value : PyNode)
  | dict (entries : List (Option PyNode × PyNode)) (lineno : Nat)
  | call (func : PyNode) (args : List PyNode) (keywords : List (Option String × PyNode))
  | assign (targets : List PyNode) (value : PyNode) (lineno : Nat)
  | annAssign (target annotation : PyNode) (value : Option PyNode)
  | namedExpr (target value : PyNode)
  | other (children : List PyNode)

namespace PyNode

mutual

/-- The nodes of a tree. -/
def nodes : PyNode → List PyNode
  | constant value => [constant value]
  | name id => [name id]
  | .attribute value attr => .attribute value attr :: nodes value
  | subscript value slice => subscript value slice :: (nodes value ++ nodes slice)
  | tuple elts => tuple elts :: nodesOfAll elts
  | list elts => list elts :: nodesOfAll elts
  | starred value => starred value :: nodes value
  | dict entries lineno => dict entries lineno :: nodesOfEntries entries
  | call func args keywords => call func args keywords :: (nodes func ++ nodesOfAll args ++ nodesOfKeywords keywords)
  | assign targets value lineno => assign targets value lineno :: (nodesOfAll targets ++ nodes value)
  | annAssign target annotation none => annAssign target annotation none :: (nodes target ++ nodes annotation)
  | annAssign target annotation (some value) =>
    annAssign target annotation (some value) :: (nodes target ++ nodes annotation ++ nodes value)
  | namedExpr target value => namedExpr target value :: (nodes target ++ nodes value)
  | other children => other children :: nodesOfAll children

def nodesOfAll : List PyNode → List PyNode
  | [] => []
  | node :: rest => nodes node ++ nodesOfAll rest

def nodesOfEntries : List (Option PyNode × PyNode) → List PyNode
  | [] => []
  | (none, value) :: rest => nodes value ++ nodesOfEntries rest
  | (some key, value) :: rest => nodes key ++ nodes value ++ nodesOfEntries rest

def nodesOfKeywords : List (Option String × PyNode) → List PyNode
  | [] => []
  | (_, value) :: rest => nodes value ++ nodesOfKeywords rest

end

/-- The literal `True` -/
def isTrue : PyNode → Bool
  | constant (.bool true) => true
  | _ => false

def isStarred : PyNode → Bool
  | starred _ => true
  | _ => false

/-- The elements of a display with parentheses or brackets. -/
def elements? : PyNode → Option (List PyNode)
  | tuple elts => some elts
  | list elts => some elts
  | _ => none

/-- The text of a string constant. -/
def text? : PyNode → Option String
  | constant (.str s) => some s
  | _ => none

/-- Targets and values up to the first star. -/
def pairedFront : List PyNode → List PyNode → List (PyNode × PyNode)
  | target :: targets, value :: values =>
    if target.isStarred || value.isStarred then [] else (target, value) :: pairedFront targets values
  | _, _ => []

/-- What unpacking pairs by position: all elements, or with a star those before it and those behind it. -/
def paired (targets values : List PyNode) : List (PyNode × PyNode) :=
  if values.any isStarred ∨ (targets.any isStarred ∧ targets.length ≤ values.length + 1) then
    pairedFront targets values ++ pairedFront targets.reverse values.reverse
  else if targets.any isStarred ∨ targets.length ≠ values.length then []
  else targets.zip values

/-- An assignment of the value to the target binds the literal `True` to the name, as a name, an attribute or a key. -/
inductive BindsTrue : PyNode → PyNode → String → Prop
  | name {v : String} {value : PyNode} (literal : value.isTrue = true) : BindsTrue (name v) value v
  | attr {object value : PyNode} {v : String} (literal : value.isTrue = true) : BindsTrue (.attribute object v) value v
  | subscript {object slice value : PyNode} {v : String} (key : slice.text? = some v) (literal : value.isTrue = true) :
      BindsTrue (subscript object slice) value v
  | unpacked {target value t w : PyNode} {ts ws : List PyNode} {v : String} (left : target.elements? = some ts)
      (right : value.elements? = some ws) (pair : (t, w) ∈ paired ts ws) (binds : BindsTrue t w v) : BindsTrue target value v

/-- A statement or expression that binds the literal `True` to the name. -/
inductive Binding : PyNode → String → Prop
  | assigned {targets : List PyNode} {target value : PyNode} {lineno : Nat} {v : String} (member : target ∈ targets)
      (binds : BindsTrue target value v) : Binding (assign targets value lineno) v
  | annotated {target annotation value : PyNode} {v : String} (binds : BindsTrue target value v) :
      Binding (annAssign target annotation (some value)) v
  | walrus {target value : PyNode} {v : String} (binds : BindsTrue target value v) : Binding (namedExpr target value) v
  | literal {entries : List (Option PyNode × PyNode)} {key value : PyNode} {lineno : Nat} {v : String}
      (member : (some key, value) ∈ entries) (text : key.text? = some v) (true' : value.isTrue = true) :
      Binding (dict entries lineno) v
  | keyword {args : List PyNode} {keywords : List (Option String × PyNode)} {value : PyNode} {v : String}
      (member : (some v, value) ∈ keywords) (true' : value.isTrue = true) : Binding (call (name "dict") args keywords) v

end PyNode

end ControlPlane.Data
