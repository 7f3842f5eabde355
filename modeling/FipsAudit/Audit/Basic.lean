import FipsAudit.Digest.Sha256
import FipsAudit.Reporter

/-!
# `FipsAudit.Audit.Basic` — what all audits share

An audit judges one target under a policy: a binary, a package, a container image or a root directory. It fails
only if there is nothing to judge or a judgement cannot be finished; a target that breaks the policy is a result.

* `Audit` — the policy and the form of the outcome.
* `AuditError` — why an audit has no result, outermost cause first.
* `FileSystem.absolute` — the path that an argument means.
* `Audit.checkLibraries`, `Audit.scanRoot` — the two parts that roots are judged by.
-/

namespace FipsAudit

/-- What an audit is done by. -/
structure Audit where
  /-- The tables to judge by. -/
  policy : Policy
  /-- Whether the outcome is one document. -/
  json : Bool := false

/-! ## Failures -/

/-- What a tool is needed for. -/
inductive ToolTask where
  | imageExists
  | pullImage
  | mountImage
  | unmountImage
  | unpackPackage
deriving DecidableEq, Repr

/-- The wording of a task whose tool has no output. -/
def ToolTask.failureText : ToolTask → String
  | .imageExists => "Failed to check whether image exists"
  | .pullImage => "Failed to pull image"
  | .mountImage => "Failed to mount image"
  | .unmountImage => "Failed to unmount image"
  | .unpackPackage => "Failed to run rpm2cpio"

/-- The wording of a task whose tool reports failure. -/
def ToolTask.refusalText : ToolTask → String
  | .unpackPackage => "Failed to unpack RPM"
  | task => task.failureText

/-- Why an audit has no result. -/
inductive AuditError where
  | noBinary (path : Path)
  | noPackage (path : Path)
  | noRoot (path : Path)
  | unopened (path : Path) (cause : IoError)
  | unread (path : Path) (cause : IoError)
  | noScratch (cause : IoError)
  | libraries (root : Path) (cause : LibraryScanError)
  | walk (cause : ScanError)
  | tool (task : ToolTask) (cause : RunError)
  | refused (task : ToolTask) (output : Output)
  | noMountPoint (image : String)
deriving DecidableEq, Repr

namespace AuditError

/-- The wording of a failed audit. -/
def message : AuditError → String
  | .noBinary path => s!"Binary file does not exist: {path.text}"
  | .noPackage path => s!"RPM package does not exist: {path.text}"
  | .noRoot path => s!"Root directory does not exist: {path.text}"
  | .unopened path _ => s!"Failed to open binary for hashing: {path.text}"
  | .unread path _ => s!"Failed to read binary for hashing: {path.text}"
  | .noScratch _ => "Failed to create temporary directory"
  | .libraries root _ => s!"Failed to check libcrypto under {root.text}"
  | .walk cause => s!"Failed to scan {cause.root.text}"
  | .tool task _ => task.failureText
  | .refused task output =>
    s!"{task.refusalText}, exit code {output.exitCode}: {Text.trim output.complaint}"
  | .noMountPoint image => s!"podman did not report a mount point for {image}"

/-- The wordings of the causes, the nearest first. -/
def causes : AuditError → List String
  | .unopened _ cause | .unread _ cause | .noScratch cause => [cause.message]
  | .libraries _ cause => cause.chain
  | .walk cause => [cause.message, cause.cause.message, cause.cause.cause.message]
  | .tool _ cause => cause.chain
  | _ => []

/-- The wording of a failed audit, then those of its causes. -/
def chain (e : AuditError) : List String := e.message :: e.causes

/-- A failed audit and its causes on one line. -/
def line (e : AuditError) : String := ": ".intercalate e.chain

end AuditError

/-! ## Targets -/

/-- The path that an argument means: without dots and symbolic links where it leads to something, and else from
    the working directory. -/
def FileSystem.absolute (fs : FileSystem) (argument : String) : Path :=
  let p := Path.ofString argument
  if p.same ⟨[Path.dot]⟩ then fs.currentDirectory
  else
    match fs.canonical p with
    | .ok q => q
    | .error _ => fs.currentDirectory.join p

/-- The digest of the file at a path. -/
def FileSystem.sha256 (fs : FileSystem) (path : Path) : Except AuditError String :=
  match fs.opened path with
  | .error cause => .error (.unopened path cause)
  | .ok _ =>
    match fs.read path with
    | .error cause => .error (.unread path cause)
    | .ok content => .ok (Digest.Sha256.hexDigest content)

/-! ## Roots -/

namespace Audit

/-- Judges the crypto libraries of a root and tells the outcome. -/
def checkLibraries (a : Audit) (root : Path) (r : Reporter) : Run AuditError Reporter := do
  let report ← Run.adapt (.libraries root) (scanLibraries a.policy root)
  r.libcrypto report

/-- Tells reports one after the other. -/
def tellReports (r : Reporter) : List (Logged BinaryReport) → Run AuditError Reporter
  | [] => return r
  | report :: rest => do
    Run.leave report.notes
    let r ← r.binary report.value
    tellReports r rest

/-- Judges all executables of a root and tells each outcome. -/
def scanRoot (a : Audit) (root : Path) (r : Reporter) : Run AuditError Reporter := do
  Run.note (.debug s!"scanning {root.text}")
  let scan := scanTree a.policy (← Run.files) root
  let r ← tellReports r scan.reports
  match scan.outcome with
  | .error cause => throw (.walk cause)
  | .ok summary =>
    Run.note summary.note
    return r

end Audit

end FipsAudit
