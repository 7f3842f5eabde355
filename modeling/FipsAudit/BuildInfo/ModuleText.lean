import FipsAudit.BuildInfo.Quoted
import FipsAudit.Metadata

/-!
# `FipsAudit.BuildInfo.ModuleText` — the text of the build record

The record is a text of lines. A line names its content before the first tab: the path of the main package, the
main module, or a build setting; other lines are of no concern here. Later lines override earlier ones.

* `parseSetting` — key and value of a build line.
* `parseModuleText` — the record of a text, or the first fault in a build line.
-/

namespace FipsAudit.BuildInfo

open Text

/-- Faults of a build line. -/
inductive SettingError where
  /-- Nothing at all. -/
  | empty
  /-- Begins with the equal sign. -/
  | missingKey
  /-- A quoted key that is not closed or has a bad escape. -/
  | badQuotedKey
  /-- No equal sign after a quoted key. -/
  | missingEqualsAfterQuotedKey
  /-- No equal sign. -/
  | missingEquals
  /-- A quoted value that is not one whole literal. -/
  | badQuotedValue
deriving DecidableEq, Repr

/-- The wording of a fault. -/
def SettingError.message : SettingError → String
  | .empty => "build line missing '='"
  | .missingKey => "build line with missing key"
  | .badQuotedKey => "invalid quoted key in build line"
  | .missingEqualsAfterQuotedKey => "build line missing '=' after quoted key"
  | .missingEquals => "build line missing '=' after key"
  | .badQuotedValue => "invalid quoted value in build line"

/-- Whether `c` opens a quoted literal. -/
def isQuote (c : Char) : Bool := c == '"' || c == backQuote

/-- The key of a build line, and what follows the equal sign. -/
def parseKey (s : List Char) : Except SettingError (List Char × List Char) :=
  match s with
  | [] => .error .empty
  | c :: _ =>
    if c = '=' then .error .missingKey
    else if isQuote c then
      match quotedLead? s with
      | none => .error .badQuotedKey
      | some (literal, '=' :: value) =>
        match unquote literal with
        | none => .error .badQuotedKey
        | some key => .ok (key, value)
      | some _ => .error .missingEqualsAfterQuotedKey
    else
      match cutAt? '=' s with
      | none => .error .missingEquals
      | some (key, value) => .ok (key, value)

/-- The value of a build line: a quoted literal, or the text as it stands. -/
def parseValue (s : List Char) : Except SettingError (List Char) :=
  match s with
  | [] => .ok []
  | c :: _ =>
    if isQuote c then
      match unquote s with
      | none => .error .badQuotedValue
      | some value => .ok value
    else .ok s

/-- Key and value of a build line. -/
def parseSetting (s : List Char) : Except SettingError (List Char × List Char) := do
  let (key, raw) ← parseKey s
  let value ← parseValue raw
  return (key, value)

/-- What a line says. -/
inductive Line where
  /-- The path of the main package. -/
  | path (text : List Char)
  /-- The main module: its path, before the version. -/
  | mainModule (path : List Char)
  /-- A build setting, yet to be parsed. -/
  | setting (payload : List Char)
  /-- Anything else. -/
  | other
deriving DecidableEq, Repr

/-- What a line says, by its beginning. -/
def Line.ofChars (s : List Char) : Line :=
  match after? "path\t".toList s with
  | some r => .path r
  | none =>
    match after? "mod\t".toList s with
    | some r => .mainModule (r.takeWhile (· ≠ '\t'))
    | none =>
      match after? "build\t".toList s with
      | some r => .setting r
      | none => .other

/-- The record with one more line taken into account. -/
def BuildMetadata.addLine (m : BuildMetadata) (line : List Char) : Except SettingError BuildMetadata :=
  match Line.ofChars line with
  | .path p => .ok { m with path := some (String.ofList p) }
  | .mainModule p => .ok { m with mainModule := some (String.ofList p) }
  | .setting payload => do
    let (key, value) ← parseSetting payload
    return { m with settings := m.settings.insert (String.ofList key) (String.ofList value) }
  | .other => .ok m

/-- The record with all lines taken into account, in order. -/
def addLines (m : BuildMetadata) (lines : List (List Char)) : Except SettingError BuildMetadata :=
  lines.foldlM BuildMetadata.addLine m

/-- The record of a text. -/
def parseModuleText (runtimeVersion text : String) : Except SettingError BuildMetadata :=
  addLines { runtimeVersion } (pieces '\n' text.toList)

end FipsAudit.BuildInfo
