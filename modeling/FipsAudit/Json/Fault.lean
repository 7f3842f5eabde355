import FipsAudit.Text.Number
import FipsAudit.Text.Quoted
import FipsAudit.Text.Utf8

/-!
# `FipsAudit.Json.Fault` — what is wrong with a document

A document is refused at the first fault in reading order. A fault has a cause and a place; causes fall into three
classes, by whether the document is cut short, is no JSON, or is JSON of another shape than wanted.

* `Cause`, `Cause.category`, `Cause.message` — the causes.
* `Fault` — a cause and the number of bytes left to read.
* `Fault.message` — the wording with line and column, columns counted in bytes.
-/

namespace FipsAudit.Json

open Text

/-- The classes of causes. -/
inductive Category where
  /-- The document ends too early. -/
  | eof
  /-- The document is no JSON. -/
  | grammar
  /-- The document has another shape than wanted. -/
  | data
deriving DecidableEq, Repr

/-- Why a document is refused. -/
inductive Cause where
  | endInList
  | endInObject
  | endInString
  | endInValue
  | expectedColon
  | expectedListEnd
  | expectedObjectEnd
  /-- A word that begins like a literal and is none. -/
  | expectedIdent
  /-- A character that begins no value. -/
  | expectedValue
  | invalidEscape
  | invalidNumber
  | numberOutOfRange
  | controlCharacter
  | keyNotString
  /-- A surrogate without its partner. -/
  | loneSurrogate
  | trailingComma
  | trailingCharacters
  /-- A leading surrogate that no escape follows. -/
  | unfinishedPair
  | invalidType (found expected : String)
  | invalidLength (found : Nat) (expected : String)
  | missingField (name : String)
  | duplicateField (name : String)
  /-- A string that is not in the form wanted. -/
  | invalidText (reason : String)
deriving DecidableEq, Repr

/-- The class of a cause. -/
def Cause.category : Cause → Category
  | .endInList | .endInObject | .endInString | .endInValue => .eof
  | .invalidType _ _ | .invalidLength _ _ | .missingField _ | .duplicateField _ | .invalidText _ => .data
  | _ => .grammar

/-- The wording of a cause. -/
def Cause.message : Cause → String
  | .endInList => "EOF while parsing a list"
  | .endInObject => "EOF while parsing an object"
  | .endInString => "EOF while parsing a string"
  | .endInValue => "EOF while parsing a value"
  | .expectedColon => "expected `:`"
  | .expectedListEnd => "expected `,` or `]`"
  | .expectedObjectEnd => "expected `,` or `\x7d`"
  | .expectedIdent => "expected ident"
  | .expectedValue => "expected value"
  | .invalidEscape => "invalid escape"
  | .invalidNumber => "invalid number"
  | .numberOutOfRange => "number out of range"
  | .controlCharacter => "control character (\\u0000-\\u001F) found while parsing a string"
  | .keyNotString => "key must be a string"
  | .loneSurrogate => "lone leading surrogate in hex escape"
  | .trailingComma => "trailing comma"
  | .trailingCharacters => "trailing characters"
  | .unfinishedPair => "unexpected end of hex escape"
  | .invalidType found expected => s!"invalid type: {found}, expected {expected}"
  | .invalidLength found expected => s!"invalid length {String.ofList (decimal found)}, expected {expected}"
  | .missingField name => s!"missing field `{name}`"
  | .duplicateField name => s!"duplicate field `{name}`"
  | .invalidText reason => reason

/-- A cause and its place. -/
structure Fault where
  /-- What is wrong. -/
  cause : Cause
  /-- The number of bytes from the place to the end of the document. -/
  remaining : Nat
deriving DecidableEq, Repr

/-- A fault `ahead` bytes into `s`, or at its end. -/
def Fault.at (cause : Cause) (s : List Char) (ahead : Nat := 0) : Fault := ⟨cause, Utf8.size s - ahead⟩

theorem exists_ok_of_map {α β : Type} {x : Except Fault α} {f : α → β} {b : β} (h : x.map f = .ok b) :
    ∃ a, x = .ok a ∧ f a = b := by
  cases x with
  | error e => simp [Except.map] at h
  | ok a => exact ⟨a, rfl, by simpa [Except.map] using h⟩

/-- Line and column after the given bytes: lines count from one, columns are the bytes of the last line. -/
def position (bytes : List UInt8) : Nat × Nat :=
  bytes.foldl (fun p b => if b = 10 then (p.1 + 1, 0) else (p.1, p.2 + 1)) (1, 0)

/-- The wording of a fault in `document`. -/
def Fault.message (f : Fault) (document : String) : String :=
  let bytes := Utf8.encode document
  let (line, column) := position (bytes.take (bytes.length - f.remaining))
  s!"{f.cause.message} at line {String.ofList (decimal line)} column {String.ofList (decimal column)}"

end FipsAudit.Json
