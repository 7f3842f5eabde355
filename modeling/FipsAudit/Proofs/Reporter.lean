import FipsAudit.Proofs.Run
import FipsAudit.Proofs.TreeScan
import FipsAudit.Reporter

/-!
# `FipsAudit.Proofs.Reporter` — what telling does to a report

A reporter only notes and prints. Beside that it keeps the report, whose success is lost with the first entry that is
none and never comes back.

* `Reporter.says_step`, `says_stepDone`, `says_finish` — what is printed of a step, and at the end.
* `Reporter.says_libraryEntry`, `says_entry` — what is printed of an entry, which is added to the report.
* `Reporter.tells_step` and its siblings — the same where the text does not matter.
* `Reporter.yields_start`, `yields_finish` — a report begins as a success and ends with what has become of it.
-/

namespace FipsAudit

open Run

namespace Reporter

variable {ε : Type}

/-- A report begins as a success. -/
theorem yields_start {json : Bool} {target : String} {mode : Mode} {s : Session} {Q : Reporter → Session → Prop}
    {P : Prop} (h : ∀ r : Reporter, r.report.success = true → (Q r s ↔ P)) :
    Yields (start json target mode : Run ε Reporter) s Q ↔ P :=
  (yields_iff_of_ok rfl).trans (h ⟨json, { target, mode, checkedAt := s.time }⟩ rfl)

/-! ## Texts -/

/-- What the reporter prints of a text for people. -/
def aloud (r : Reporter) (text : String) : String := if r.json then "" else text

theorem says_tell (r : Reporter) (text : String) : Says (r.tell text : Run ε Unit) () (r.aloud text) := by
  unfold tell aloud
  split
  · exact Says.pure ()
  · exact Says.print text

theorem says_step (r : Reporter) (what : String) : Says (r.step what : Run ε Unit) () (r.aloud (stepText what)) := by
  unfold step aloud
  split
  · exact Says.leave _
  · exact Says.print _

theorem says_stepDone (r : Reporter) (status : String) :
    Says (r.stepDone status : Run ε Unit) () (r.aloud (doneText status)) :=
  r.says_tell _

/-- The entry of the crypto libraries is said in two parts, and kept. -/
theorem says_libraryEntry (r : Reporter) (report : LibraryReport) :
    Says (r.libcrypto report : Run ε Reporter) { r with report := r.report.addLibraries (.ofReport report) }
      (r.aloud (stepText "validating libcrypto is present and FIPS-capable") ++
        (r.aloud (libraryText (.ofReport report)) ++ "")) :=
  (r.says_step _).bind ((r.says_tell _).bind (Says.pure _))

/-- So is that of a binary. -/
theorem says_entry (r : Reporter) (e : BinaryEntry) :
    Says (r.entry e : Run ε Reporter) { r with report := r.report.addBinary e }
      (r.aloud (stepText ("validating binary " ++ e.path)) ++ (r.aloud (binaryText e) ++ "")) :=
  (r.says_step _).bind ((r.says_tell _).bind (Says.pure _))

/-- At the end a reporter says the closing line, or the document. -/
theorem says_finish (r : Reporter) : Says (r.finish : Run ε Bool) r.report.success (r.closing ++ "\n") :=
  Says.of_text ((Says.print _).bind (Says.pure _)) String.append_empty

/-! ## Whatever is said -/

theorem tells_step (r : Reporter) (what : String) : Tells (r.step what : Run ε Unit) () := (r.says_step what).tells

theorem tells_stepDone (r : Reporter) (status : String) : Tells (r.stepDone status : Run ε Unit) () :=
  (r.says_stepDone status).tells

theorem tells_libcrypto (r : Reporter) (report : LibraryReport) :
    Tells (r.libcrypto report : Run ε Reporter) { r with report := r.report.addLibraries (.ofReport report) } :=
  (r.says_libraryEntry report).tells

theorem tells_binary (r : Reporter) (report : BinaryReport) :
    Tells (r.binary report : Run ε Reporter) { r with report := r.report.addBinary (.ofReport report) } :=
  (r.says_entry (.ofReport report)).tells

theorem tells_finish (r : Reporter) : Tells (r.finish : Run ε Bool) r.report.success := r.says_finish.tells

/-- A report ends with success exactly if it is one. -/
theorem yields_finish {r : Reporter} {s : Session} :
    Yields (r.finish : Run ε Bool) s (fun success _ => success = true) ↔ r.report.success = true :=
  r.tells_finish.yields_iff fun _ _ => Iff.rfl

end Reporter

/-- With the crypto libraries a report stays a success exactly if nothing was found wrong with them. -/
theorem Report.success_addLibraries (r : Report) (report : LibraryReport) :
    (r.addLibraries (.ofReport report)).success = true ↔ r.success = true ∧ report.verdict.reasons = [] := by
  simp [addLibraries, LibraryEntry.ofReport, Verdict.ok]

/-- With one more binary a report stays a success exactly if the binary passed. -/
theorem Report.success_addBinary (r : Report) (report : BinaryReport) :
    (r.addBinary (.ofReport report)).success = true ↔ r.success = true ∧ report.passed = true := by
  simp [addBinary, BinaryEntry.passed_ofReport]

end FipsAudit
