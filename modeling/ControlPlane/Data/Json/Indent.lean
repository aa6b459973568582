import ControlPlane.Data.Json.Value

/-!
# `json.dumps` with an indent
-/

namespace ControlPlane.Data.Json

section

variable (repr : ℚ → List Char) (indent : Nat)

def newline (level : Nat) : List Char := '\n' :: List.replicate (indent * level) ' '

/-- The parts of a list or a dictionary, each on a line of its own. -/
def block (level : Nat) (opening closing : Char) (parts : List (List Char)) : List Char :=
  if parts.isEmpty then [opening, closing]
  else
    opening :: newline indent (level + 1) ++ separate (',' :: newline indent (level + 1)) parts ++ newline indent level ++
      [closing]

mutual

def indented : Nat → Json → List Char
  | level, list xs => block indent level '[' ']' (indentedItems (level + 1) xs)
  | level, dict entries => block indent level '\x7b' '\x7d' (indentedEntries (level + 1) entries)
  | _, v => v.text repr {}

def indentedItems : Nat → List Json → List (List Char)
  | _, [] => []
  | level, v :: rest => indented level v :: indentedItems level rest

def indentedEntries : Nat → List (String × Json) → List (List Char)
  | _, [] => []
  | level, (k, v) :: rest => (quote k ++ [':', ' '] ++ indented level v) :: indentedEntries level rest

end

/-- `json.dumps(v, indent=indent)` -/
def dumpsIndented (v : Json) : String := String.ofList (indented repr indent 0 v)

end

end ControlPlane.Data.Json
