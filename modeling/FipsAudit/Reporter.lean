import FipsAudit.Report
import FipsAudit.Session

/-!
# `FipsAudit.Reporter` — how a run tells what it does

A run is told either to people, step by step as it goes on, or as one document at its end. The report is kept the
same way in both forms.

* `Reporter.step`, `Reporter.stepDone` — the beginning and the end of a step.
* `Reporter.libcrypto`, `Reporter.binary` — an entry, told as a step.
* `Reporter.finish` — the closing line, or the document.
-/

namespace FipsAudit

/-- A report in the making. -/
structure Reporter where
  /-- Whether the run is told as one document. -/
  json : Bool
  /-- What is known so far. -/
  report : Report

namespace Reporter

variable {ε : Type}

/-- The report on a run that begins now. -/
def start (json : Bool) (target : String) (mode : Mode) : Run ε Reporter :=
  return ⟨json, { target, mode, checkedAt := (← get).time }⟩

/-- The reporter with the digest of the target. -/
def setSha256 (r : Reporter) (digest : String) : Reporter :=
  { r with report := { r.report with sha256 := some digest } }

/-! ## Steps -/

/-- What is shown of a step that begins. -/
def stepText (what : String) : String := s!"• {what}... "

/-- What is shown of a step that ended. -/
def doneText (status : String) : String := status ++ "\n"

/-- What is shown of a step that failed. -/
def failedText (reasons : List String) : String :=
  doneText "failed" ++ String.join (reasons.map fun reason => doneText s!"  ✘ {reason}")

/-- Shows a text to people. -/
def tell (r : Reporter) (text : String) : Run ε Unit := if r.json then pure () else Run.print text

/-- Tells that a step begins. Where a document is made, the log tells it. -/
def step (r : Reporter) (what : String) : Run ε Unit :=
  if r.json then Run.note ⟨.info, what⟩ else Run.print (stepText what)

/-- Tells how a step ended. -/
def stepDone (r : Reporter) (status : String) : Run ε Unit := r.tell (doneText status)

/-! ## Entries -/

/-- What is shown of the end of a binary's step. -/
def binaryText (e : BinaryEntry) : String :=
  match e.status with
  | .passed => doneText "success"
  | .skipped => doneText ("skipped (" ++ e.detail.getD "" ++ ")")
  | .failed => failedText e.reasons
  | .error => failedText e.detail.toList

/-- What is shown of the end of the libraries' step. -/
def libraryText (e : LibraryEntry) : String := if e.passed then doneText "success" else failedText e.reasons

/-- Tells the verdict on the crypto libraries. -/
def libcrypto (r : Reporter) (report : LibraryReport) : Run ε Reporter := do
  let e := LibraryEntry.ofReport report
  -- The libraries were checked before; the step is told as a whole.
  r.step "validating libcrypto is present and FIPS-capable"
  r.tell (libraryText e)
  return { r with report := r.report.addLibraries e }

/-- Tells the entry of a binary. -/
def entry (r : Reporter) (e : BinaryEntry) : Run ε Reporter := do
  r.step s!"validating binary {e.path}"
  r.tell (binaryText e)
  return { r with report := r.report.addBinary e }

/-- Tells the outcome of a binary. -/
def binary (r : Reporter) (report : BinaryReport) : Run ε Reporter := r.entry (.ofReport report)

/-! ## The end -/

/-- What is shown at the end. -/
def closing (r : Reporter) : String :=
  if r.json then r.report.document
  else if r.report.success then "Validation successful"
  else "Validation failed"

/-- Closes the report; the result is its success. -/
def finish (r : Reporter) : Run ε Bool := do
  Run.print (r.closing ++ "\n")
  return r.report.success

end Reporter

end FipsAudit
