import ControlPlane.Data.PyFloat

/-!
# JSON values and `json.dumps`

Dictionaries keep their entries in order. The only thing left open is `repr`, the
text of a finite float.
-/

namespace ControlPlane.Data

inductive Json where
  | null
  | bool (b : Bool)
  | int (i : Int)
  | float (x : PyFloat)
  | str (s : String)
  | list (xs : List Json)
  | dict (entries : List (String × Json))

namespace Json

/-- `d.get(key)` of a dictionary with distinct keys. -/
def get? (entries : List (String × Json)) (key : String) : Option Json :=
  (entries.find? fun e => e.1 = key).map (·.2)

/-- A field of a dictionary; another value has none. -/
def field : Json → String → Json
  | dict entries, key => (get? entries key).getD null
  | _, _ => null

/-- A text, where the value is one. -/
def str? : Json → Option String
  | str s => some s
  | _ => none

/-- `isinstance(v, int) and not isinstance(v, bool)` -/
def int? : Json → Option Int
  | int i => some i
  | _ => none

theorem str?_some {v : Json} {s : String} (h : v.str? = some s) : v = str s := by
  cases v <;> first | cases h; rfl | cases h

theorem int?_some {v : Json} {i : Int} (h : v.int? = some i) : v = int i := by
  cases v <;> first | cases h; rfl | cases h

/-! ### Scalars -/

def hexDigit (n : Nat) : Char := if n < 10 then Char.ofNat (48 + n) else Char.ofNat (87 + n)

/-- `\uXXXX` -/
def unicodeEscape (n : Nat) : List Char :=
  ['\\', 'u', hexDigit (n / 4096 % 16), hexDigit (n / 256 % 16), hexDigit (n / 16 % 16), hexDigit (n % 16)]

/-- One character under `ensure_ascii`; outside the first plane a surrogate pair. -/
def escapeChar (c : Char) : List Char :=
  if c = '"' then ['\\', '"']
  else if c = '\\' then ['\\', '\\']
  else if c = '\n' then ['\\', 'n']
  else if c = '\r' then ['\\', 'r']
  else if c = '\t' then ['\\', 't']
  else if c = '\x0c' then ['\\', 'f']
  else if c = '\x08' then ['\\', 'b']
  else if ' ' ≤ c ∧ c ≤ '~' then [c]
  else if c.toNat < 0x10000 then unicodeEscape c.toNat
  else unicodeEscape (0xd800 + (c.toNat - 0x10000) / 1024) ++ unicodeEscape (0xdc00 + (c.toNat - 0x10000) % 1024)

def quote (s : String) : List Char := '"' :: s.toList.flatMap escapeChar ++ ['"']

def digits (n : Nat) : List Char := Nat.toDigits 10 n

def intText : Int → List Char
  | .ofNat n => digits n
  | .negSucc n => '-' :: digits (n + 1)

def floatText (repr : ℚ → List Char) : PyFloat → List Char
  | .nan => "NaN".toList
  | .negInf => "-Infinity".toList
  | .posInf => "Infinity".toList
  | .fin q => repr q

/-! ### `json.dumps` -/

/-- The options `separators` and `sort_keys`. -/
structure Layout where
  itemSeparator : List Char := [',', ' ']
  keySeparator : List Char := [':', ' ']
  sortKeys : Bool := false

/-- `separators=(",", ":")` -/
def compact : Layout := { itemSeparator := [','], keySeparator := [':'] }

/-- `sort_keys=True, separators=(",", ":")` -/
def canonical : Layout := { compact with sortKeys := true }

def separate (separator : List Char) : List (List Char) → List Char
  | [] => []
  | [t] => t
  | t :: rest => t ++ separator ++ separate separator rest

def insertEntry (e : String × List Char) : List (String × List Char) → List (String × List Char)
  | [] => [e]
  | f :: rest => if f.1 < e.1 then f :: insertEntry e rest else e :: f :: rest

def arrange (layout : Layout) (entries : List (String × List Char)) : List (String × List Char) :=
  if layout.sortKeys then entries.foldr insertEntry [] else entries

section

variable (repr : ℚ → List Char) (layout : Layout)

mutual

def text : Json → List Char
  | null => "null".toList
  | bool true => "true".toList
  | bool false => "false".toList
  | int i => intText i
  | float x => floatText repr x
  | str s => quote s
  | list xs => '[' :: separate layout.itemSeparator (texts xs) ++ [']']
  | dict entries => '{' :: separate layout.itemSeparator
      ((arrange layout (entryTexts entries)).map fun e => quote e.1 ++ layout.keySeparator ++ e.2) ++ ['}']

def texts : List Json → List (List Char)
  | [] => []
  | v :: rest => text v :: texts rest

def entryTexts : List (String × Json) → List (String × List Char)
  | [] => []
  | (k, v) :: rest => (k, text v) :: entryTexts rest

end

def dumps (v : Json) : String := String.ofList (v.text repr layout)

end

end Json

end ControlPlane.Data
