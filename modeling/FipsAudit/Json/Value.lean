import FipsAudit.Text.Number

/-!
# `FipsAudit.Json.Value` — documents to be written

Reports and policies are written with one element or member a line, indented by two blanks a level. Empty arrays
and objects stay on one line.

* `Value` — what is written: texts, truth values, arrays and objects.
* `Value.pretty` — the document.
-/

namespace FipsAudit.Json

open Text

/-- A value to be written. -/
inductive Value where
  | text (s : String)
  | bool (b : Bool)
  | list (elements : List Value)
  /-- An object; members keep their order. -/
  | object (members : List (String × Value))

/-- An array of strings. -/
def Value.texts (l : List String) : Value := .list (l.map .text)

/-! ## Strings -/

/-- The escape of a control character by its number. -/
def controlEscape (c : Char) : List Char :=
  let ds := hex c.toNat
  ['\\', 'u'] ++ List.replicate (4 - ds.length) '0' ++ ds

/-- A character inside a string. -/
def escapeChar (c : Char) : List Char :=
  match c with
  | '"' => ['\\', '"']
  | '\\' => ['\\', '\\']
  | '\n' => ['\\', 'n']
  | '\r' => ['\\', 'r']
  | '\t' => ['\\', 't']
  | '\x08' => ['\\', 'b']
  | '\x0c' => ['\\', 'f']
  | c => if c.toNat < 0x20 then controlEscape c else [c]

/-- A string with its quotation marks. -/
def stringChars (s : String) : List Char := '"' :: s.toList.flatMap escapeChar ++ ['"']

/-! ## Layout -/

/-- A line break and the indentation of a level. -/
def newLine (level : Nat) : List Char := '\n' :: List.replicate (2 * level) ' '

/-- Parts between brackets, each on a line of its own one level deeper. -/
def bracketed (opening closing : Char) (level : Nat) (parts : List (List Char)) : List Char :=
  if parts.isEmpty then [opening, closing]
  else opening :: [','].intercalate (parts.map (newLine (level + 1) ++ ·)) ++ newLine level ++ [closing]

namespace Value

mutual

/-- A value at a level of indentation. -/
def chars (level : Nat) : Value → List Char
  | text s => stringChars s
  | bool true => "true".toList
  | bool false => "false".toList
  | list elements => bracketed '[' ']' level (elementChars (level + 1) elements)
  | object members => bracketed '\x7b' '\x7d' level (memberChars (level + 1) members)

/-- The elements of an array. -/
def elementChars (level : Nat) : List Value → List (List Char)
  | [] => []
  | v :: vs => v.chars level :: elementChars level vs

/-- The members of an object. -/
def memberChars (level : Nat) : List (String × Value) → List (List Char)
  | [] => []
  | (k, v) :: ms => (stringChars k ++ [':', ' '] ++ v.chars level) :: memberChars level ms

end

/-- The document. -/
def pretty (v : Value) : String := String.ofList (v.chars 0)

end Value

end FipsAudit.Json
