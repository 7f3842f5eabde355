import FipsAudit.Audit.Basic
import FipsAudit.Proofs.Parallel
import FipsAudit.Proofs.Reporter

/-!
# `FipsAudit.Proofs.Transcript` — what people are told of a run

A run that is not told as a document prints a line for each step, with what came of it at the end, and a further line
for each complaint. Here such a transcript is described by its steps: tasks that the run has done on the way, and the
entries that also stand in the report. What the reporter prints is that description, piece by piece, and whatever it
prints it also keeps.

* `Told`, `transcript` — the steps, and their text.
* `Report.addAll` — what the steps leave in a report.
* `Reporter.says_binary`, `Reporter.says_libcrypto`, `Audit.says_tellReports` — a reporter says the entries it keeps.
-/

namespace FipsAudit

open Run Session

/-! ## Steps -/

/-- A task that is done on the way to the entries. -/
inductive Task where
  | findImage (found : Bool)
  | pullImage
  | mountImage
  | unmountImage (done : Bool)
  | unpackPackage
deriving DecidableEq, Repr

/-- What the task is called. -/
def Task.title : Task → String
  | .findImage _ => "checking OCI image exists locally"
  | .pullImage => "pulling image"
  | .mountImage => "mounting OCI image"
  | .unmountImage _ => "unmounting OCI image"
  | .unpackPackage => "unpacking RPM"

/-- What came of the task. -/
def Task.result : Task → String
  | .findImage found => if found then "found" else "not found"
  | .unmountImage done => if done then "done" else "failed"
  | _ => "done"

/-- What came of a binary: the reason stands behind the status if it was skipped. -/
def BinaryEntry.outcome (e : BinaryEntry) : String :=
  match e.status with
  | .passed => "success"
  | .skipped => "skipped (" ++ e.detail.getD "" ++ ")"
  | .failed | .error => "failed"

/-- What is held against a binary: what was found wrong, or why it could not be judged. -/
def BinaryEntry.complaints (e : BinaryEntry) : List String :=
  match e.status with
  | .passed | .skipped => []
  | .failed => e.reasons
  | .error => e.detail.toList

/-- A step that people are told of. -/
inductive Told where
  | task (t : Task)
  | libraries (e : LibraryEntry)
  | binary (e : BinaryEntry)
deriving DecidableEq, Repr

namespace Told

/-- What the step is called. -/
def title : Told → String
  | .task t => t.title
  | .libraries _ => "validating libcrypto is present and FIPS-capable"
  | .binary e => "validating binary " ++ e.path

/-- What came of the step. -/
def result : Told → String
  | .task t => t.result
  | .libraries e => if e.passed then "success" else "failed"
  | .binary e => e.outcome

/-- The complaints that follow. -/
def complaints : Told → List String
  | .task _ => []
  | .libraries e => if e.passed then [] else e.reasons
  | .binary e => e.complaints

/-- A line for the step, and one for each complaint. -/
def text (t : Told) : String :=
  "• " ++ t.title ++ "... " ++ t.result ++ "\n" ++ String.join (t.complaints.map fun c => "  ✘ " ++ c ++ "\n")

/-- The entry of a binary, if the step tells one. -/
def binary? : Told → Option BinaryEntry
  | .binary e => some e
  | _ => none

/-- The entry of the crypto libraries, if the step tells it. -/
def libraries? : Told → Option LibraryEntry
  | .libraries e => some e
  | _ => none

/-- The step that tells a report. -/
def ofReport (report : BinaryReport) : Told := .binary (.ofReport report)

end Told

/-- The text of steps that are told one after the other. -/
def transcript (steps : List Told) : String := String.join (steps.map Told.text)

@[simp] theorem transcript_nil : transcript [] = "" := rfl

@[simp] theorem transcript_append (l m : List Told) : transcript (l ++ m) = transcript l ++ transcript m := by
  rw [transcript, List.map_append, String.join_append]
  rfl

@[simp] theorem transcript_cons (t : Told) (l : List Told) : transcript (t :: l) = t.text ++ transcript l := by
  rw [transcript, List.map_cons, String.join_cons]
  rfl

/-! ## What the steps leave in a report -/

namespace Report

/-- The report after a step. -/
def add (r : Report) : Told → Report
  | .task _ => r
  | .libraries e => r.addLibraries e
  | .binary e => r.addBinary e

/-- The report after steps. -/
def addAll (r : Report) (steps : List Told) : Report := steps.foldl add r

@[simp] theorem addAll_nil (r : Report) : r.addAll [] = r := rfl

@[simp] theorem addAll_cons (r : Report) (t : Told) (l : List Told) : r.addAll (t :: l) = (r.add t).addAll l := rfl

@[simp] theorem addAll_append (r : Report) (l m : List Told) : r.addAll (l ++ m) = (r.addAll l).addAll m :=
  List.foldl_append

/-- **The binaries of the report are those that were told**, in the same order, behind those from before. -/
theorem binaries_addAll (r : Report) (steps : List Told) :
    (r.addAll steps).binaries = r.binaries ++ steps.filterMap Told.binary? := by
  induction steps generalizing r with
  | nil => exact (List.append_nil _).symm
  | cons t rest ih =>
      rw [addAll_cons, ih]
      cases t with
      | task _ => rfl
      | libraries _ => rfl
      | binary e =>
          show (r.binaries ++ [e]) ++ rest.filterMap Told.binary? = _
          rw [List.append_assoc]
          rfl

/-- The crypto libraries of the report are those that were told last. -/
theorem libcrypto_addAll (r : Report) (steps : List Told) :
    (r.addAll steps).libcrypto = (steps.filterMap Told.libraries?).getLast?.or r.libcrypto := by
  induction steps generalizing r with
  | nil => rfl
  | cons t rest ih =>
      rw [addAll_cons, ih]
      cases t with
      | task _ => rfl
      | binary _ => rfl
      | libraries e =>
          show (rest.filterMap Told.libraries?).getLast?.or (some e) =
            ((e :: rest.filterMap Told.libraries?).getLast?).or r.libcrypto
          rw [List.getLast?_cons]
          cases (rest.filterMap Told.libraries?).getLast? <;> rfl

/-- Whether the report is a success depends on the steps, and on what it was before. -/
theorem success_addAll {r r' : Report} (h : r.success = r'.success) (steps : List Told) :
    (r.addAll steps).success = (r'.addAll steps).success := by
  induction steps generalizing r r' with
  | nil => exact h
  | cons t rest ih =>
      refine ih ?_
      cases t with
      | task _ => exact h
      | libraries e => exact congrArg (· && e.passed) h
      | binary e => exact congrArg (· && e.passed) h

end Report

/-- The reporter after steps. -/
def Reporter.addAll (r : Reporter) (steps : List Told) : Reporter := { r with report := r.report.addAll steps }

/-! ## Telling steps -/

namespace Reporter

variable {ε : Type}

theorem aloud_append (r : Reporter) (text text' : String) : r.aloud (text ++ text') = r.aloud text ++ r.aloud text' := by
  unfold aloud
  split <;> rfl

/-- A step that is told as a whole is its beginning and its end. -/
theorem stepText_append (t : Told) {told : String} (h : told = t.result ++ "\n" ++
    String.join (t.complaints.map fun c => "  ✘ " ++ c ++ "\n")) : stepText t.title ++ told = t.text := by
  subst h
  show ("• " ++ t.title ++ "... ") ++ _ = "• " ++ t.title ++ "... " ++ t.result ++ "\n" ++ _
  simp only [String.append_assoc]

theorem doneText_eq (status : String) : doneText status = status ++ "\n" ++ String.join [] :=
  (String.append_empty (s := status ++ "\n")).symm

theorem failedText_eq (reasons : List String) :
    failedText reasons = "failed" ++ "\n" ++ String.join (reasons.map fun c => "  ✘ " ++ c ++ "\n") := rfl

theorem stepText_append_binaryText (e : BinaryEntry) :
    stepText ("validating binary " ++ e.path) ++ binaryText e = Told.text (.binary e) := by
  refine stepText_append (.binary e) ?_
  simp only [binaryText, Told.result, Told.complaints, BinaryEntry.outcome, BinaryEntry.complaints]
  cases e.status with
  | passed => exact doneText_eq _
  | skipped => exact doneText_eq _
  | failed => exact failedText_eq _
  | error => exact failedText_eq _

theorem stepText_append_libraryText (e : LibraryEntry) :
    stepText "validating libcrypto is present and FIPS-capable" ++ libraryText e = Told.text (.libraries e) := by
  refine stepText_append (.libraries e) ?_
  simp only [libraryText, Told.result, Told.complaints]
  split
  · exact doneText_eq _
  · exact failedText_eq _

theorem stepText_append_doneText (t : Task) : stepText t.title ++ doneText t.result = Told.text (.task t) :=
  stepText_append (.task t) (doneText_eq _)

/-- A step without a result of its own is said as it stands in a transcript. -/
theorem aloud_step (r : Reporter) {t : Told} {what told : String} (h : stepText what ++ told = t.text) :
    r.aloud (stepText what) ++ (r.aloud told ++ "") = r.aloud (transcript [t]) := by
  rw [String.append_empty, ← aloud_append, h, transcript_cons, transcript_nil, String.append_empty]

/-- **A reporter says the entry of a binary and keeps it.** -/
theorem says_binary (r : Reporter) (report : BinaryReport) :
    Says (r.binary report : Run ε Reporter) (r.addAll [.ofReport report]) (r.aloud (transcript [.ofReport report])) := by
  refine Says.of_text (r.says_entry (.ofReport report)) ?_
  exact r.aloud_step (stepText_append_binaryText (.ofReport report))

/-- **A reporter says the entry of the crypto libraries and keeps it.** -/
theorem says_libcrypto (r : Reporter) (report : LibraryReport) :
    Says (r.libcrypto report : Run ε Reporter) (r.addAll [.libraries (.ofReport report)])
      (r.aloud (transcript [.libraries (.ofReport report)])) := by
  refine Says.of_text (r.says_libraryEntry report) ?_
  exact r.aloud_step (stepText_append_libraryText (.ofReport report))

end Reporter

/-- **Reports are told one after the other**, and nothing else is printed. -/
theorem Audit.says_tellReports (r : Reporter) (reports : List (Logged BinaryReport)) :
    Says (tellReports r reports) (r.addAll (reports.map fun report => .ofReport report.value))
      (r.aloud (transcript (reports.map fun report => .ofReport report.value))) := by
  induction reports generalizing r with
  | nil => exact Says.of_text (Says.pure r) (ite_self _).symm
  | cons report rest ih =>
      refine Says.of_text ((Says.leave _).bind ((r.says_binary report.value).bind (ih _))) ?_
      show _ = r.aloud (transcript ([.ofReport report.value] ++ rest.map fun report => .ofReport report.value))
      rw [transcript_append, Reporter.aloud_append, String.empty_append]
      rfl

end FipsAudit
