import FipsAudit.Proofs.Audit.Tandem
import FipsAudit.Proofs.ReportDocument
import Mathlib.Data.List.Forall2

/-!
# `FipsAudit.Proofs.Audit.Account` — a transcript and a document that say the same

At the end of a run either the verdict is told, or the document is written. Both are made of the steps that were kept on
the way. So what the document says when it is read back is what people were told: the verdict, and each binary with its
status and with what is held against it.

* `BinaryReading.ToldAs` — what a document says of a binary, in the lines for people.
* `Account` — a transcript and a document that say the same.
* `Kept.account`, `Reporter.parallel_finish` — the steps of a run, and its end.
-/

namespace FipsAudit

open Json Run Session

/-! ## Binaries -/

/-- The lines in which people are told of a binary. -/
def binaryLines (path outcome : String) (complaints : List String) : String :=
  "• " ++ ("validating binary " ++ path) ++ "... " ++ outcome ++ "\n" ++
    String.join (complaints.map fun complaint => "  ✘ " ++ complaint ++ "\n")

/-- What a document says of a binary is what people are told of it in these lines. -/
inductive BinaryReading.ToldAs : BinaryReading → String → Prop
  | passed (path : String) :
    ToldAs { path := some path, status := some "passed" } (binaryLines path "success" [])
  | skipped (path detail : String) :
    ToldAs { path := some path, status := some "skipped", detail := some detail }
      (binaryLines path ("skipped (" ++ detail ++ ")") [])
  | failed (path : String) (reasons : List String) :
    ToldAs { path := some path, status := some "failed", reasons := if reasons.isEmpty then none else some reasons }
      (binaryLines path "failed" reasons)
  | error (path detail : String) :
    ToldAs { path := some path, status := some "error", detail := some detail } (binaryLines path "failed" [detail])

/-- **The entry of a file says what people are told of the file.** -/
theorem BinaryEntry.toldAs_reading (report : BinaryReport) :
    (BinaryEntry.ofReport report).reading.ToldAs (Told.ofReport report).text := by
  obtain ⟨path, result⟩ := report
  cases result with
  | error e => exact .error path.text e.message
  | ok outcome =>
      cases outcome with
      | passed => exact .passed path.text
      | skipped reason => exact .skipped path.text reason.text
      | failed verdict => exact .failed path.text verdict.messages

/-! ## The whole -/

/-- A transcript and a document that say the same. -/
structure Account (steps : List Told) (report : Report) (told document : String) (success : Bool) : Prop where
  /-- People are told the steps, and the verdict at the end. -/
  told_eq : told = transcript steps ++ ((if success then "Validation successful" else "Validation failed") ++ "\n")
  /-- The document is that of the report. -/
  document_eq : document = report.document ++ "\n"
  /-- Read back, it says what the report has: -/
  document_read : readDocument ReportReading.reader document.toList = .ok report.reading
  /-- the verdict -/
  success_read : report.reading.success = some success
  /-- and the binaries that people were told of, in this order, each as they were told. -/
  binaries_read : ∃ readings, report.reading.binaries = some readings ∧
    List.Forall₂ (fun reading e => reading.ToldAs (Told.binary e).text) readings (steps.filterMap Told.binary?)
  /-- The binaries of the report are those that people were told of. -/
  binaries_eq : report.binaries = steps.filterMap Told.binary?
  /-- Each of them is the entry of a file with its outcome. -/
  faithful : ∀ e ∈ report.binaries, ∃ r : BinaryReport, e = .ofReport r
  /-- The crypto libraries of the report are those that people were told of. -/
  libcrypto_eq : report.libcrypto = (steps.filterMap Told.libraries?).getLast?
  /-- The report says the verdict, too. -/
  success_eq : report.success = success

/-- The run was closed with the same verdict in both forms. -/
def Closed : Relation Bool Bool := fun told told' success success' =>
  success = success' ∧ ∃ steps report, Account steps report told told' success

/-! ## From the beginning to the end -/

/-- Two reporters at the beginning of a run: nothing was looked at yet. -/
structure Beginning (r r' : Reporter) : Prop extends Tandem r r' where
  /-- There are no binaries. -/
  binaries : r'.report.binaries = []
  /-- There are no crypto libraries. -/
  libcrypto : r'.report.libcrypto = none

/-- The digest goes into the document. -/
theorem Beginning.setSha256 {r r' : Reporter} (h : Beginning r r') (digest : String) :
    Beginning r (r'.setSha256 digest) :=
  ⟨⟨h.plain, h.document, h.success⟩, h.binaries, h.libcrypto⟩

variable {r r' q q' : Reporter} {told told' : String}

/-- Steps that were told since the beginning are in the account. -/
theorem Kept.account (h : Kept r r' told told' q q') (hbegin : Beginning r r') :
    ∃ steps report, Account steps report (told ++ (q.closing ++ "\n")) (told' ++ (q'.closing ++ "\n"))
      q'.report.success := by
  have htandem := h.tandem hbegin.toTandem
  obtain ⟨rfl, steps, rfl, hfaithful, rfl, rfl⟩ := h
  have hbinaries : (r'.report.addAll steps).binaries = steps.filterMap Told.binary? := by
    rw [Report.binaries_addAll, hbegin.binaries, List.nil_append]
  have hreports : ∀ e ∈ steps.filterMap Told.binary?, ∃ r : BinaryReport, e = .ofReport r := by
    intro e he
    obtain ⟨t, ht, htold⟩ := List.mem_filterMap.mp he
    cases t with
    | task _ => cases htold
    | libraries _ => cases htold
    | binary e' => exact Option.some.inj htold ▸ hfaithful _ ht
  have hdocument : "" ++ ((r'.addAll steps).closing ++ "\n") = (r'.report.addAll steps).document ++ "\n" := by
    rw [Reporter.closing, htandem.document, String.empty_append]
    rfl
  refine ⟨steps, r'.report.addAll steps, ?_, hdocument, ?_, rfl, ⟨_, rfl, ?_⟩, hbinaries, ?_, ?_, rfl⟩
  · rw [Reporter.closing, htandem.plain, htandem.success]
    rfl
  · rw [hdocument]
    exact Report.readDocument_document _ (by simp [isBlank])
  · rw [hbinaries, List.forall₂_map_left_iff, List.forall₂_same]
    intro e he
    obtain ⟨report, rfl⟩ := hreports e he
    exact BinaryEntry.toldAs_reading report
  · rwa [hbinaries]
  · rw [Report.libcrypto_addAll, hbegin.libcrypto, Option.or_none]

/-- A run is closed with all that was kept. -/
theorem Reporter.parallel_finish (h : Kept r r' told told' q q') (hbegin : Beginning r r') :
    Parallel (fun next next' => Closed (told ++ next) (told' ++ next')) (q.finish : Run AuditError Bool) q'.finish := by
  obtain ⟨steps, report, haccount⟩ := h.account hbegin
  have hsuccess := (h.tandem hbegin.toTandem).success
  refine Parallel.of_says q.says_finish q'.says_finish ⟨hsuccess, steps, report, ?_⟩
  rw [hsuccess]
  exact haccount

end FipsAudit
