import ControlPlane.Data.Json.Dynamic

/-!
# Equality of JSON values

`a == b` of values that were read from JSON: numbers by their value, a dictionary without the
order of its keys. A `NaN` that was read is one object, and so counts as itself.
-/

namespace ControlPlane.Data.Json

mutual

def equal : Json → Json → Bool
  | list xs, list ys => equalItems xs ys
  | dict es, dict fs => es.length == fs.length && equalEntries es fs
  | null, v => decide (v.key? = some .none)
  | bool b, v => decide (v.key? = (bool b).key?)
  | int i, v => decide (v.key? = (int i).key?)
  | float x, v => decide (v.key? = (float x).key?)
  | str s, v => decide (v.key? = (str s).key?)
  | _, _ => false

def equalItems : List Json → List Json → Bool
  | [], [] => true
  | v :: vs, w :: ws => equal v w && equalItems vs ws
  | _, _ => false

def equalEntries : List (String × Json) → List (String × Json) → Bool
  | [], _ => true
  | (k, v) :: es, fs =>
    (match get? fs k with
      | some w => equal v w
      | none => false) && equalEntries es fs

end

end ControlPlane.Data.Json
