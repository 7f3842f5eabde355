import FipsAudit.FileSystem.Resolve
import FipsAudit.Pattern.Parser
import FipsAudit.Policy.Document

/-!
# `FipsAudit.Policy.Load` — policies from files

A policy file is a document in UTF-8. Its pattern of library names is checked when the file is loaded.

* `Policy.load` — the policy of a file.
* `PolicyError` — why a file has none.
-/

namespace FipsAudit

open Text

/-- Why a policy file has no policy. -/
inductive PolicyError where
  | unreadable (path : Path) (cause : IoError)
  | malformed (path : Path) (document : String) (fault : Json.Fault)
  | pattern (fault : Pattern.Fault)
deriving DecidableEq, Repr

namespace PolicyError

/-- The wording of a failure to load a policy. -/
def message : PolicyError → String
  | .unreadable path cause => s!"Failed to read config at {path.text}: {cause.message}"
  | .malformed path document fault => s!"Failed to parse config JSON at {path.text}: {fault.message document}"
  | .pattern fault => s!"Invalid crypto library pattern: {fault.message}"

/-- The wording of the cause. -/
def cause : PolicyError → String
  | .unreadable _ cause => cause.message
  | .malformed _ document fault => fault.message document
  | .pattern fault => fault.message

/-- The wording of a failure to load a policy, then that of its cause. -/
def chain (e : PolicyError) : List String := [e.message, e.cause]

end PolicyError

/-- The text of the file that a path leads to. -/
def FileSystem.readText (fs : FileSystem) (path : Path) : Except IoError String :=
  match fs.read path with
  | .error cause => .error cause
  | .ok content =>
    match Utf8.decode? content.data.toList with
    | none => .error .notText
    | some text => .ok text

namespace Policy

/-- The policy, if its pattern of library names is well-formed. -/
def checked (policy : Policy) : Except PolicyError Policy :=
  -- The pattern is read again where it is used.
  match Pattern.parse policy.cryptoLibraryPattern with
  | .error fault => .error (.pattern fault)
  | .ok _ => .ok policy

/-- The policy of the file that a path leads to. -/
def load (fs : FileSystem) (path : Path) : Except PolicyError Policy :=
  match fs.readText path with
  | .error cause => .error (.unreadable path cause)
  | .ok document =>
    match ofDocument document with
    | .error fault => .error (.malformed path document fault)
    | .ok policy => policy.checked

end Policy

end FipsAudit
