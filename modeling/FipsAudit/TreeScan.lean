import FipsAudit.FileSystem.Walk
import FipsAudit.Validation

/-!
# `FipsAudit.TreeScan` — all programs under a root

Every regular file under a root that someone may execute is validated, one after the other as the walk visits
them. A failure of the walk ends the scan; what was validated before stays reported.

* `BinaryReport` — a file with its outcome.
* `Summary` — how many outcomes of each kind there were.
* `scanItems` — the scan of a given sequence of walk items.
* `scanTree`, `treeReport`, `allValid` — the scan of a root: step by step, as a whole, as a yes or no.
-/

namespace FipsAudit

/-- The outcome of one file of a scan. -/
structure BinaryReport where
  /-- The file's path inside the root. -/
  path : Path
  /-- Its outcome, or why it has none. -/
  result : Except ValidationError Outcome

/-- Whether the file passed or was skipped. A missing outcome is a failure: nothing was verified. -/
def BinaryReport.passed (r : BinaryReport) : Bool :=
  match r.result with
  | .ok outcome => outcome.isSuccess
  | .error _ => false

/-- Outcomes counted by kind. -/
structure Summary where
  /-- All files. -/
  checked : Nat := 0
  /-- Files that passed. -/
  passed : Nat := 0
  /-- Files that were skipped. -/
  skipped : Nat := 0
  /-- Files that failed. -/
  failed : Nat := 0
  /-- Files without outcome. -/
  errors : Nat := 0
deriving DecidableEq, Repr

namespace Summary

/-- Whether nothing failed. -/
def allValid (s : Summary) : Bool := s.failed == 0 && s.errors == 0

/-- The summary with one more file. -/
def record (s : Summary) (r : BinaryReport) : Summary :=
  let s := { s with checked := s.checked + 1 }
  match r.result with
  | .ok .passed => { s with passed := s.passed + 1 }
  | .ok (.skipped _) => { s with skipped := s.skipped + 1 }
  | .ok (.failed _) => { s with failed := s.failed + 1 }
  | .error _ => { s with errors := s.errors + 1 }

/-- What the log says about a finished scan. -/
def note (s : Summary) : Note :=
  .debug s!"checked {s.checked} binaries: {s.passed} passed, {s.skipped} skipped, {s.failed} failed, {s.errors} errors"

end Summary

/-- Why a scan has no summary. -/
structure ScanError where
  /-- The root of the scan. -/
  root : Path
  /-- The failure of the walk. -/
  cause : WalkError
deriving DecidableEq, Repr

/-- The wording of a failed scan. -/
def ScanError.message (e : ScanError) : String := s!"failed to walk {e.root.text}: {e.cause.message}"

/-- What a scan delivers. -/
structure Scan where
  /-- The reports, in the order of the walk. -/
  reports : List (Logged BinaryReport)
  /-- The summary, unless the walk failed. -/
  outcome : Except ScanError Summary

/-- The report on an entry of a walk from `root`. -/
def WalkEntry.report (policy : Policy) (fs : FileSystem) (root : Path) (e : WalkEntry) : Logged BinaryReport := do
  let inner := Path.innerTo root e.path
  return ⟨inner, ← validate policy fs root inner⟩

/-- Scans walk items; `summary` counts those before. -/
def scanItems (report : WalkEntry → Logged BinaryReport) (root : Path) (summary : Summary) :
    List WalkItem → Scan
  | [] => ⟨[], .ok summary⟩
  -- What comes after a failure is not looked at.
  | .error e :: _ => ⟨[], .error ⟨root, e⟩⟩
  | .ok entry :: rest =>
    if entry.node.isExecutable then
      let r := report entry
      let scan := scanItems report root (summary.record r.value) rest
      ⟨r :: scan.reports, scan.outcome⟩
    else scanItems report root summary rest

/-- Scans everything under a root. -/
def scanTree (policy : Policy) (fs : FileSystem) (root : Path) : Scan :=
  scanItems (WalkEntry.report policy fs root) root {} (fs.walk root)

/-- All reports of a walk with their summary. -/
structure TreeReport where
  /-- The reports, in the order of the walk. -/
  binaries : List BinaryReport
  /-- Their summary. -/
  summary : Summary

/-- The reports and the summary of a scan that did not fail. -/
def Scan.report (s : Scan) : Except ScanError TreeReport :=
  s.outcome.map fun summary => ⟨s.reports.map (·.value), summary⟩

/-- Whether nothing failed, the walk included. -/
def Scan.allValid (s : Scan) : Bool :=
  match s.outcome with
  | .ok summary => summary.allValid
  | .error _ => false

/-- The notes of a scan that is only asked for success: those on the files, and the failure of the walk. -/
def Scan.notes (s : Scan) : List Note :=
  s.reports.flatMap (·.notes) ++
    match s.outcome with
    | .ok _ => []
    | .error e => [⟨.error, e.message⟩]

end FipsAudit
