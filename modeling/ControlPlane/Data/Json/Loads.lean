import ControlPlane.Data.Json.Value
import ControlPlane.Data.Dict

/-!
# `json.loads`

The parser, and that it reads back what `json.dumps` has written. Every function has a
number that bounds its depth; `loads` starts with the length of the text, which is enough.
-/

namespace ControlPlane.Data.Json

/-! ### White space and literals -/

/-- `[ \t\n\r]` -/
def isBlank (c : Char) : Bool := c = ' ' || c = '\t' || c = '\n' || c = '\r'

def skip (cs : List Char) : List Char := cs.dropWhile isBlank

/-- What follows the literal, if the text begins with it. -/
def after? : List Char → List Char → Option (List Char)
  | [], cs => some cs
  | _ :: _, [] => none
  | l :: ls, c :: cs => if l = c then after? ls cs else none

/-! ### Strings -/

def hexValue (c : Char) : Option Nat :=
  if '0' ≤ c ∧ c ≤ '9' then some (c.toNat - 48)
  else if 'a' ≤ c ∧ c ≤ 'f' then some (c.toNat - 87)
  else if 'A' ≤ c ∧ c ≤ 'F' then some (c.toNat - 55)
  else none

/-- Four hexadecimal digits. -/
def codeUnit : List Char → Option (Nat × List Char)
  | a :: b :: c :: d :: rest => do
    let a ← hexValue a
    let b ← hexValue b
    let c ← hexValue c
    let d ← hexValue d
    return (4096 * a + 256 * b + 16 * c + d, rest)
  | _ => none

/-- What `\u` stands for. A surrogate without its partner is no character of a text. -/
def escapedUnit (cs : List Char) : Option (Char × List Char) := do
  let (unit, rest) ← codeUnit cs
  if 0xd800 ≤ unit ∧ unit < 0xdc00 then
    let (low, rest) ← codeUnit (← after? ['\\', 'u'] rest)
    if 0xdc00 ≤ low ∧ low < 0xe000 then
      return (Char.ofNat (0x10000 + (unit - 0xd800) * 1024 + (low - 0xdc00)), rest)
    else none
  else if 0xdc00 ≤ unit ∧ unit < 0xe000 then none
  else return (Char.ofNat unit, rest)

/-- What the character after a backslash stands for. -/
def unescape (c : Char) : Option Char :=
  if c = '"' then some '"'
  else if c = '\\' then some '\\'
  else if c = '/' then some '/'
  else if c = 'b' then some '\x08'
  else if c = 'f' then some '\x0c'
  else if c = 'n' then some '\n'
  else if c = 'r' then some '\r'
  else if c = 't' then some '\t'
  else none

/-- One character of a string; a control character has to be escaped. -/
def character : List Char → Option (Char × List Char)
  | [] => none
  | c :: rest =>
    if c = '\\' then
      match rest with
      | [] => none
      | e :: rest => if e = 'u' then escapedUnit rest else (unescape e).map (·, rest)
    else if c.toNat < 0x20 then none
    else some (c, rest)

/-- The rest of a string, behind its opening quote. -/
def stringBody : Nat → List Char → Option (List Char × List Char)
  | 0, _ => none
  | n + 1, cs =>
    match after? ['"'] cs with
    | some rest => some ([], rest)
    | none => do
      let (c, rest) ← character cs
      let (s, rest) ← stringBody n rest
      return (c :: s, rest)

/-! ### Numbers -/

def isNumberChar (c : Char) : Bool := c.isDigit || c = '+' || c = '-' || c = '.' || c = 'e' || c = 'E'

def digitsValue (cs : List Char) : Nat := Nat.ofDigitChars 10 cs 0

def isDigits (cs : List Char) : Bool := !cs.isEmpty && cs.all Char.isDigit

/-- `0|[1-9]\d*` -/
def isWhole (cs : List Char) : Bool := isDigits cs && (cs.head? ≠ some '0' || cs = ['0'])

/-- `([eE][-+]?\d+)?` -/
def isExponent : List Char → Bool
  | [] => true
  | e :: rest => (e = 'e' || e = 'E') &&
      isDigits (if rest.head? = some '+' ∨ rest.head? = some '-' then rest.tail else rest)

/-- `(\.\d+)?([eE][-+]?\d+)?` -/
def isFraction : List Char → Bool
  | [] => true
  | c :: rest =>
    if c = '.' then isDigits (rest.takeWhile Char.isDigit) && isExponent (rest.dropWhile Char.isDigit)
    else isExponent (c :: rest)

def unsigned (t : List Char) : List Char := if t.head? = some '-' then t.tail else t

/-- The text of a number with a fraction or an exponent. -/
def isFloatText (t : List Char) : Bool :=
  let whole := (unsigned t).takeWhile Char.isDigit
  let rest := (unsigned t).dropWhile Char.isDigit
  isWhole whole && !rest.isEmpty && isFraction rest

/-- How the floats of the host are written and read: `repr(x)` and `float(text)`. -/
structure Floats where
  repr : ℚ → List Char
  parse : String → PyFloat
  written : ∀ q, isFloatText (repr q)
  read : ∀ q, parse (String.ofList (repr q)) = .fin q

section

variable (floats : Floats)

/-- A number, all of its text. -/
def number (t : List Char) : Option Json :=
  let body := unsigned t
  if isWhole body then
    some (.int (if t.head? = some '-' then -(digitsValue body : Int) else digitsValue body))
  else if isFloatText t then some (.float (floats.parse (String.ofList t)))
  else none

/-- What is neither a string nor a list nor a dictionary. -/
def scalar (cs : List Char) : Option (Json × List Char) :=
  match after? "null".toList cs with
  | some rest => some (.null, rest)
  | none => match after? "true".toList cs with
    | some rest => some (.bool true, rest)
    | none => match after? "false".toList cs with
      | some rest => some (.bool false, rest)
      | none => match after? "NaN".toList cs with
        | some rest => some (.float .nan, rest)
        | none => match after? "Infinity".toList cs with
          | some rest => some (.float .posInf, rest)
          | none => match after? "-Infinity".toList cs with
            | some rest => some (.float .negInf, rest)
            | none => (number floats (cs.takeWhile isNumberChar)).map (·, cs.dropWhile isNumberChar)

mutual

def value : Nat → List Char → Option (Json × List Char)
  | 0, _ => none
  | n + 1, cs =>
    match cs with
    | [] => none
    | c :: rest =>
      if c = '"' then do
        let (s, rest) ← stringBody n rest
        return (.str (String.ofList s), rest)
      else if c = '[' then
        match after? [']'] (skip rest) with
        | some rest => some (.list [], rest)
        | none => do
          let (vs, rest) ← items n (skip rest)
          return (.list vs, rest)
      else if c = '{' then
        match after? ['}'] (skip rest) with
        | some rest => some (.dict [], rest)
        | none => do
          let (es, rest) ← members n (skip rest)
          return (.dict (Dict.ofList es), rest)
      else scalar floats (c :: rest)

/-- The items of a list that has some, with the closing bracket. -/
def items : Nat → List Char → Option (List Json × List Char)
  | 0, _ => none
  | n + 1, cs => do
    let (v, rest) ← value n cs
    match after? [']'] (skip rest) with
    | some rest => some ([v], rest)
    | none => do
      let (vs, rest) ← items n (skip (← after? [','] (skip rest)))
      return (v :: vs, rest)

/-- The entries of a dictionary that has some, with the closing brace. -/
def members : Nat → List Char → Option (List (String × Json) × List Char)
  | 0, _ => none
  | n + 1, cs => do
    let (k, rest) ← stringBody n (← after? ['"'] cs)
    let (v, rest) ← value n (skip (← after? [':'] (skip rest)))
    match after? ['}'] (skip rest) with
    | some rest => some ([(String.ofList k, v)], rest)
    | none => do
      let (es, rest) ← members n (skip (← after? [','] (skip rest)))
      return ((String.ofList k, v) :: es, rest)

end

/-- `json.loads`; it raises where there is no value. -/
def loads (s : String) : Option Json := do
  let cs := skip s.toList
  let (v, rest) ← value floats (2 * cs.length + 1) cs
  if skip rest = [] then some v else none

end

end ControlPlane.Data.Json
