import FipsAudit.Json.Value
import FipsAudit.LibraryScan
import FipsAudit.TreeScan

/-!
# `FipsAudit.Report` — the outcome of a run as a document

A report says what was looked at, when, and what came out: an entry for the crypto libraries if they were looked
at, an entry for each binary, and whether all of them are successes.

* `BinaryEntry`, `LibraryEntry` — the entries.
* `Report` — the whole; `Report.addBinary`, `Report.addLibraries` keep its success up to date.
* `Report.document` — the written form.
-/

namespace FipsAudit

open Json

/-! ## Entries -/

/-- How a binary fared. -/
inductive EntryStatus where
  | passed
  | skipped
  | failed
  | error
deriving DecidableEq, Repr

/-- The written form of a status. -/
def EntryStatus.text : EntryStatus → String
  | .passed => "passed"
  | .skipped => "skipped"
  | .failed => "failed"
  | .error => "error"

/-- One binary of a report. -/
structure BinaryEntry where
  /-- Its path. -/
  path : String
  /-- How it fared. -/
  status : EntryStatus
  /-- Why it was skipped or could not be judged. -/
  detail : Option String := none
  /-- What was found wrong. -/
  reasons : List String := []
deriving DecidableEq, Repr

namespace BinaryEntry

/-- The entry of a file with an outcome. -/
def ofOutcome (path : Path) : Outcome → BinaryEntry
  | .passed => { path := path.text, status := .passed }
  | .skipped reason => { path := path.text, status := .skipped, detail := some reason.text }
  | .failed verdict => { path := path.text, status := .failed, reasons := verdict.messages }

/-- The entry of a file without outcome. -/
def unjudged (path : Path) (problem : String) : BinaryEntry :=
  { path := path.text, status := .error, detail := some problem }

/-- The entry of a validated file. -/
def ofReport (r : BinaryReport) : BinaryEntry :=
  match r.result with
  | .ok outcome => .ofOutcome r.path outcome
  | .error e => .unjudged r.path e.message

/-- Whether the entry is a success. -/
def passed (e : BinaryEntry) : Bool :=
  match e.status with
  | .passed | .skipped => true
  | .failed | .error => false

/-- The value that is written for an entry: an absent detail and an empty list of reasons are left out. -/
def value (e : BinaryEntry) : Value :=
  .object ([("path", .text e.path), ("status", .text e.status.text)] ++
    (e.detail.toList.map fun detail => ("detail", .text detail)) ++
    if e.reasons.isEmpty then [] else [("reasons", .texts e.reasons)])

end BinaryEntry

/-- The crypto libraries of a report. -/
structure LibraryEntry where
  /-- Their paths. -/
  libraries : List String
  /-- Whether nothing was found wrong. -/
  passed : Bool
  /-- What was found wrong. -/
  reasons : List String
deriving DecidableEq, Repr

namespace LibraryEntry

/-- The entry of a library scan. -/
def ofReport (r : LibraryReport) : LibraryEntry := ⟨r.libraries, r.verdict.ok, r.verdict.messages⟩

/-- The value that is written for an entry. -/
def value (e : LibraryEntry) : Value :=
  .object [("libraries", .texts e.libraries), ("passed", .bool e.passed), ("reasons", .texts e.reasons)]

end LibraryEntry

/-! ## Reports -/

/-- What was looked at. -/
inductive Mode where
  | binary
  | rpm
  | image
  | rootfs
deriving DecidableEq, Repr

/-- The written form of a mode. -/
def Mode.text : Mode → String
  | .binary => "binary"
  | .rpm => "rpm"
  | .image => "image"
  | .rootfs => "rootfs"

/-- The outcome of a run. -/
structure Report where
  /-- What was looked at. -/
  target : String
  /-- What kind of thing it is. -/
  mode : Mode
  /-- When the run began. -/
  checkedAt : String
  /-- The digest of a single binary. -/
  sha256 : Option String := none
  /-- The crypto libraries, if they were looked at. -/
  libcrypto : Option LibraryEntry := none
  /-- The binaries, in the order in which they were judged. -/
  binaries : List BinaryEntry := []
  /-- Whether all entries are successes. -/
  success : Bool := true
deriving DecidableEq, Repr

namespace Report

/-- The report with the crypto libraries. -/
def addLibraries (r : Report) (e : LibraryEntry) : Report :=
  { r with libcrypto := some e, success := r.success && e.passed }

/-- The report with one more binary. -/
def addBinary (r : Report) (e : BinaryEntry) : Report :=
  { r with binaries := r.binaries ++ [e], success := r.success && e.passed }

/-- The value that is written for a report: an absent digest and absent libraries are left out. -/
def value (r : Report) : Value :=
  .object ([("target", .text r.target), ("mode", .text r.mode.text), ("checked_at", .text r.checkedAt)] ++
    (r.sha256.toList.map fun digest => ("sha256", .text digest)) ++
    (r.libcrypto.toList.map fun e => ("libcrypto", e.value)) ++
    [("binaries", .list (r.binaries.map BinaryEntry.value)), ("success", .bool r.success)])

/-- The written form of a report. -/
def document (r : Report) : String := r.value.pretty

end Report

end FipsAudit
