import FipsAudit.Audit.Binary
import FipsAudit.Audit.Image
import FipsAudit.Audit.Rootfs
import FipsAudit.Audit.Rpm
import FipsAudit.Policy.Load
import FipsAudit.Request

/-!
# `FipsAudit.CommandLine` — what a request gets

A request for an audit is answered by its verdict: exit code zero for success, one for anything else. Words that
are no request get exit code two.

* `Options.run` — the policy is loaded, then the audit runs.
* `answer` — the answer to words.
-/

namespace FipsAudit

/-- Why an audit that was asked for has no verdict. -/
inductive RequestError where
  | policy (path : Path) (cause : PolicyError)
  | audit (cause : AuditError)

namespace RequestError

/-- The wordings of a failure and its causes, outermost first. -/
def chain : RequestError → List String
  | .policy path cause => s!"Failed to load config {path.text}" :: cause.chain
  | .audit cause => cause.chain

/-- A failure and its causes on one line. -/
def line (e : RequestError) : String := "Error: " ++ ": ".intercalate e.chain

end RequestError

/-- What comes out of a request. -/
structure Answer where
  /-- The exit code. -/
  exitCode : Nat
  /-- The line that says why there is no verdict. -/
  complaint : Option String := none
deriving DecidableEq, Repr

/-- The version of the program. -/
def version : String := "0.1.0"

/-- The name of the program. -/
def programName : String := "fips-validator"

/-- How to use the program. -/
def usage : String :=
  s!"Usage: {programName} [--debug] [--config CONFIG] [--json] COMMAND

Commands:
  binary PATH
  rpm PATH
  image IMAGE_REF
  rootfs ROOT [--skip-libcrypto]
"

/-- Runs the audit of a target. -/
def Target.run (a : Audit) : Target → Run AuditError Bool
  | .binary path => a.binary path
  | .rpm path => a.rpm path
  | .image reference => a.image reference
  | .rootfs root skipLibraries => a.rootfs root skipLibraries

/-- The policy that the options ask for. -/
def Options.policy (options : Options) (fs : FileSystem) : Except RequestError Policy :=
  match options.config with
  | none => .ok .builtIn
  | some path => (Policy.load fs (.ofString path)).mapError (.policy (.ofString path))

/-- Runs an audit with its options. -/
def Options.run (options : Options) (target : Target) : Run RequestError Bool := do
  match options.policy (← Run.files) with
  | .error e => throw e
  | .ok policy => Run.adapt .audit (target.run { policy, json := options.json })

/-- The answer that a verdict stands for. -/
def Answer.ofVerdict : Except RequestError Bool → Answer
  | .ok success => ⟨if success then 0 else 1, none⟩
  | .error e => ⟨1, some e.line⟩

/-- What the words get. -/
def answer (words : List String) : Run Empty Answer := do
  match Request.parse words with
  | none => return ⟨2, none⟩
  | some .version =>
    Run.print s!"{programName} {version}\n"
    return ⟨0, none⟩
  | some .help =>
    Run.print usage
    return ⟨0, none⟩
  | some (.audit options target) => return .ofVerdict (← Run.attempt (options.run target))

end FipsAudit
