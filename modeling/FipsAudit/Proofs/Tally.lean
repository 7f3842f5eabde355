import FipsAudit.Proofs.Transcript

/-!
# `FipsAudit.Proofs.Tally` — one scan, counted in many ways

A scan hands on a report for each executable and counts them on the way. Others count again: a report says whether it
passed, its entry says so, the reporter keeps a success, and whoever asks for a yes or no gets one. Whatever sequence of
items the walk delivers, they all agree. If the walk fails, what came before is all that was handed on.

* `Walked` — a sequence of walk items: entries, and perhaps a failure after them.
* `Summary.Counts` — the counters are those of the reports; `Summary.Counts.record` is the step.
* `scanItems_eq` — the reports and the outcome of a scan.
* `Audit.tellScan` — telling a scan, which is what the scan of a root is.
* `Scan.Finished`, `Scan.Stopped`, `scanItems_tally` — what a scan comes to, in all its counts.
-/

namespace FipsAudit

open Run

/-! ## Walk items -/

/-- A walk delivers entries, and then it ends or fails. What comes after a failure does not matter. -/
inductive Walked : List WalkItem → List WalkEntry → Option WalkError → Prop
  | finished (entries : List WalkEntry) : Walked (entries.map .ok) entries none
  | stopped (entries : List WalkEntry) (e : WalkError) (rest : List WalkItem) :
      Walked (entries.map .ok ++ .error e :: rest) entries (some e)

theorem Walked.cons {items : List WalkItem} {entries : List WalkEntry} {stop : Option WalkError} (entry : WalkEntry)
    (h : Walked items entries stop) : Walked (.ok entry :: items) (entry :: entries) stop := by
  cases h with
  | finished => exact .finished (entry :: entries)
  | stopped _ e rest => exact .stopped (entry :: entries) e rest

/-- Every sequence of items is that of a walk. -/
theorem exists_walked (items : List WalkItem) : ∃ entries stop, Walked items entries stop := by
  induction items with
  | nil => exact ⟨[], none, .finished []⟩
  | cons item rest ih =>
      cases item with
      | error e => exact ⟨[], some e, .stopped [] e rest⟩
      | ok entry =>
          obtain ⟨entries, stop, hwalked⟩ := ih
          exact ⟨entry :: entries, stop, hwalked.cons entry⟩

/-- The reports on the regular files among entries that someone may execute, in the order of the entries. -/
def executableReports (report : WalkEntry → Logged BinaryReport) (entries : List WalkEntry) :
    List (Logged BinaryReport) :=
  (entries.filter (·.node.Executable)).map report

/-! ## Counters -/

/-- How the file of a report fared. -/
def BinaryReport.status (r : BinaryReport) : EntryStatus :=
  match r.result with
  | .ok .passed => .passed
  | .ok (.skipped _) => .skipped
  | .ok (.failed _) => .failed
  | .error _ => .error

/-- Files pass that neither failed nor went without an outcome. -/
theorem BinaryReport.passed_iff_status (r : BinaryReport) :
    r.passed = true ↔ r.status ≠ .failed ∧ r.status ≠ .error := by
  obtain ⟨path, result⟩ := r
  cases result with
  | error e => simp [passed, status]
  | ok outcome => cases outcome <;> simp [passed, status, Outcome.isSuccess]

namespace Summary

/-- The counter for a status. -/
def count (s : Summary) : EntryStatus → Nat
  | .passed => s.passed
  | .skipped => s.skipped
  | .failed => s.failed
  | .error => s.errors

/-- One more file is counted once, and for what it is. -/
theorem count_record (s : Summary) (r : BinaryReport) (status : EntryStatus) :
    (s.record r).count status = s.count status + if r.status = status then 1 else 0 := by
  obtain ⟨path, result⟩ := r
  cases result with
  | error e => cases status <;> rfl
  | ok outcome => cases outcome <;> cases status <;> rfl

theorem checked_record (s : Summary) (r : BinaryReport) : (s.record r).checked = s.checked + 1 := by
  obtain ⟨path, result⟩ := r
  cases result with
  | error e => rfl
  | ok outcome => cases outcome <;> rfl

/-- The counters are those of the reports. -/
structure Counts (s : Summary) (reports : List BinaryReport) : Prop where
  /-- Every report is counted. -/
  checked : s.checked = reports.length
  /-- Every report is counted for what it is. -/
  counted : ∀ status, s.count status = reports.countP (·.status = status)
  /-- The counters add up. -/
  total : s.checked = s.passed + s.skipped + s.failed + s.errors

/-- Nothing is counted at first. -/
theorem counts_nil : Counts {} [] := ⟨rfl, fun status => by cases status <;> rfl, rfl⟩

/-- **Counting one more report** keeps the counters right. -/
theorem Counts.record {s : Summary} {reports : List BinaryReport} (h : s.Counts reports) (r : BinaryReport) :
    (s.record r).Counts (reports ++ [r]) := by
  refine ⟨?_, fun status => ?_, ?_⟩
  · rw [checked_record, h.checked, List.length_append, List.length_singleton]
  · rw [count_record, h.counted, List.countP_append, List.countP_singleton]
    simp only [decide_eq_true_eq]
  · have hpassed := s.count_record r .passed
    have hskipped := s.count_record r .skipped
    have hfailed := s.count_record r .failed
    have herror := s.count_record r .error
    have hone := h.total
    simp only [count] at hpassed hskipped hfailed herror
    rw [checked_record, hpassed, hskipped, hfailed, herror]
    cases r.status <;> simp <;> omega

/-- Nothing failed exactly if every report passed. -/
theorem Counts.allValid_iff {s : Summary} {reports : List BinaryReport} (h : s.Counts reports) :
    s.allValid = true ↔ ∀ r ∈ reports, r.passed = true := by
  have hfailed : s.failed = _ := h.counted .failed
  have herrors : s.errors = _ := h.counted .error
  rw [allValid, Bool.and_eq_true, beq_iff_eq, beq_iff_eq, hfailed, herrors, List.countP_eq_zero, List.countP_eq_zero]
  simp only [decide_eq_true_eq, BinaryReport.passed_iff_status]
  constructor
  · rintro ⟨hnotFailed, hnotError⟩ r hr
    exact ⟨hnotFailed r hr, hnotError r hr⟩
  · intro hpassed
    exact ⟨fun r hr => (hpassed r hr).1, fun r hr => (hpassed r hr).2⟩

end Summary

/-! ## Scans -/

section Scans

variable {report : WalkEntry → Logged BinaryReport} {root : Path} {items : List WalkItem} {entries : List WalkEntry}
  {stop : Option WalkError}

/-- The summary after more reports. -/
def Summary.recordAll (s : Summary) (reports : List (Logged BinaryReport)) : Summary :=
  reports.foldl (fun s r => s.record r.value) s

/-- Reports that are counted one after the other are all counted. -/
theorem Summary.Counts.recordAll {s : Summary} {binaries : List BinaryReport} (h : s.Counts binaries)
    (reports : List (Logged BinaryReport)) : (s.recordAll reports).Counts (binaries ++ reports.map (·.value)) := by
  induction reports generalizing s binaries with
  | nil => rwa [List.map_nil, List.append_nil]
  | cons r rest ih =>
      have hrest := ih (h.record r.value)
      rwa [List.append_assoc] at hrest

theorem executableReports_of_executable {entry : WalkEntry} (h : entry.node.Executable) (rest : List WalkEntry) :
    executableReports report (entry :: rest) = report entry :: executableReports report rest := by
  rw [executableReports, List.filter_cons, if_pos (decide_eq_true h)]
  rfl

theorem executableReports_of_other {entry : WalkEntry} (h : ¬entry.node.Executable) (rest : List WalkEntry) :
    executableReports report (entry :: rest) = executableReports report rest := by
  rw [executableReports, List.filter_cons, if_neg (mt of_decide_eq_true h)]
  rfl

/-- Entries are scanned, and then what comes after them, which has no more reports. -/
theorem scanItems_append {last : List WalkItem} {outcome : Summary → Except ScanError Summary}
    (hlast : ∀ summary, scanItems report root summary last = ⟨[], outcome summary⟩) (summary : Summary)
    (entries : List WalkEntry) :
    scanItems report root summary (entries.map .ok ++ last) =
      ⟨executableReports report entries, outcome (summary.recordAll (executableReports report entries))⟩ := by
  induction entries generalizing summary with
  | nil => exact hlast summary
  | cons entry rest ih =>
      rw [List.map_cons, List.cons_append, scanItems]
      by_cases hexec : entry.node.Executable
      · rw [if_pos (Node.isExecutable_iff.mpr hexec), executableReports_of_executable hexec]
        simp only [ih]
        rfl
      · rw [if_neg (mt Node.isExecutable_iff.mp hexec), ih, executableReports_of_other hexec]

/-- **What a scan delivers**: a report for each executable that the walk came to, in its order, and their summary unless
    the walk failed. -/
theorem scanItems_eq (summary : Summary) (h : Walked items entries stop) :
    scanItems report root summary items = ⟨executableReports report entries,
      match stop with
      | none => .ok (summary.recordAll (executableReports report entries))
      | some e => .error ⟨root, e⟩⟩ := by
  cases h with
  | finished =>
      have hend : ∀ s, scanItems report root s [] = ⟨[], .ok s⟩ := fun _ => rfl
      have hscan := scanItems_append hend summary entries
      rwa [List.append_nil] at hscan
  | stopped _ e rest =>
      have hend : ∀ s, scanItems report root s (.error e :: rest) = ⟨[], .error ⟨root, e⟩⟩ := fun _ => rfl
      exact scanItems_append hend summary entries

/-- **A scan says yes exactly if it is clean.** -/
theorem allValid_scanItems_iff (report : WalkEntry → Logged BinaryReport) (root : Path) (items : List WalkItem) :
    (scanItems report root {} items).allValid = true ↔ (scanItems report root {} items).Clean := by
  obtain ⟨entries, stop, hwalked⟩ := exists_walked items
  rw [scanItems_eq {} hwalked]
  cases stop with
  | none =>
      have hcounts := Summary.counts_nil.recordAll (executableReports report entries)
      refine hcounts.allValid_iff.trans ⟨fun hpassed => ⟨⟨_, rfl⟩, fun r hr => ?_⟩, fun hclean => ?_⟩
      · exact hpassed r.value (List.mem_map_of_mem hr)
      · exact List.forall_mem_map.mpr hclean.passed
  | some e =>
      refine iff_of_false Bool.false_ne_true ?_
      rintro ⟨⟨summary, hfinished⟩, -⟩
      cases hfinished

end Scans

/-! ## Telling a scan -/

/-- The report with more binaries. -/
def Report.addBinaries (r : Report) (binaries : List BinaryReport) : Report :=
  { r with
    binaries := r.binaries ++ binaries.map .ofReport
    success := r.success && binaries.all (·.passed) }

/-- Telling reports one after the other adds all of them. -/
theorem Report.addAll_ofReport (r : Report) (binaries : List BinaryReport) :
    r.addAll (binaries.map .ofReport) = r.addBinaries binaries := by
  induction binaries generalizing r with
  | nil => simp [addBinaries]
  | cons b rest ih =>
      rw [List.map_cons, addAll_cons, ih]
      simp [addBinaries, Told.ofReport, add, addBinary, BinaryEntry.passed_ofReport, Bool.and_assoc]

namespace Audit

/-- Tells the reports of a scan, and passes its failure on. -/
def tellScan (r : Reporter) (scan : Scan) : Run AuditError Reporter := do
  let r ← tellReports r scan.reports
  match scan.outcome with
  | .error cause => throw (.walk cause)
  | .ok summary =>
    Run.note summary.note
    return r

/-- A scan that was finished is told with all its binaries. -/
theorem says_tellScan (r : Reporter) {scan : Scan} {summary : Summary} (h : scan.outcome = .ok summary) :
    Says (tellScan r scan) { r with report := r.report.addBinaries (scan.reports.map (·.value)) }
      (r.aloud (transcript ((scan.reports.map (·.value)).map .ofReport))) := by
  have htold := says_tellReports r scan.reports
  rw [← Report.addAll_ofReport, List.map_map]
  refine Says.of_text (htold.bind ?_) String.append_empty
  rw [h]
  exact Says.of_text ((Says.leave _).bind (Says.pure _)) String.append_empty

/-- Of a scan that was stopped, what came before is told, and then it fails. -/
theorem exec_tellScan_of_error (r : Reporter) {scan : Scan} {cause : ScanError} (h : scan.outcome = .error cause)
    (s : Session) : ∃ s', exec (tellScan r scan) s = (.error (.walk cause), s') ∧
      s.Hears (r.aloud (transcript ((scan.reports.map (·.value)).map .ofReport))) s' := by
  obtain ⟨s', hexec, hhears⟩ := says_tellReports r scan.reports s
  refine ⟨s', ?_, ?_⟩
  · rw [tellScan, exec_bind_of_ok hexec, h]
    rfl
  · rwa [List.map_map]

end Audit

/-! ## All counts -/

/-- A scan of these binaries that was finished: whatever counts them comes to the same. -/
structure Scan.Finished (scan : Scan) (binaries : List BinaryReport) (summary : Summary) : Prop where
  /-- The summary is the outcome. -/
  outcome : scan.outcome = .ok summary
  /-- Its counters are those of the binaries. -/
  counts : summary.Counts binaries
  /-- Nothing failed exactly if every binary passed. -/
  allValid_iff : summary.allValid = true ↔ ∀ b ∈ binaries, b.passed = true
  /-- Every binary passed exactly if every entry is a success. -/
  passed_iff : (∀ b ∈ binaries, b.passed = true) ↔ ∀ e ∈ binaries.map BinaryEntry.ofReport, e.passed = true
  /-- The scan says yes exactly if nothing failed. -/
  yes : scan.allValid = summary.allValid
  /-- The scan as a whole is the binaries with their summary. -/
  whole : scan.report = .ok ⟨binaries, summary⟩
  /-- A reporter adds the entries of the binaries, in order, and stays with its success if nothing failed. -/
  told : ∀ r : Reporter, Says (Audit.tellScan r scan)
    { r with report := { r.report with
        binaries := r.report.binaries ++ binaries.map .ofReport
        success := r.report.success && summary.allValid } }
    (r.aloud (transcript (binaries.map .ofReport)))

/-- A scan that was stopped after these binaries: they were handed on, and nothing but the failure comes of it. -/
structure Scan.Stopped (scan : Scan) (binaries : List BinaryReport) (cause : ScanError) : Prop where
  /-- The failure is the outcome. -/
  outcome : scan.outcome = .error cause
  /-- The scan does not say yes. -/
  no : scan.allValid = false
  /-- The scan as a whole has failed. -/
  whole : scan.report = .error cause
  /-- A reporter tells the binaries, and then it fails. -/
  told : ∀ (r : Reporter) (s : Session), ∃ s', exec (Audit.tellScan r scan) s = (.error (.walk cause), s') ∧
    s.Hears (r.aloud (transcript (binaries.map .ofReport))) s'

/-- All counts come to the same once the counters of the summary are right. -/
theorem Scan.finished_of_counts {scan : Scan} {summary : Summary} (houtcome : scan.outcome = .ok summary)
    (hcounts : summary.Counts (scan.reports.map (·.value))) :
    scan.Finished (scan.reports.map (·.value)) summary where
  outcome := houtcome
  counts := hcounts
  allValid_iff := hcounts.allValid_iff
  passed_iff := by simp only [List.forall_mem_map, BinaryEntry.passed_ofReport]
  yes := by rw [allValid, houtcome]
  whole := by rw [Scan.report, houtcome]; rfl
  told r := by
    have hall : summary.allValid = (scan.reports.map (·.value)).all (·.passed) := by
      rw [Bool.eq_iff_iff, hcounts.allValid_iff, List.all_eq_true]
    rw [hall]
    exact Audit.says_tellScan r houtcome

theorem Scan.stopped_of_error {scan : Scan} {cause : ScanError} (houtcome : scan.outcome = .error cause) :
    scan.Stopped (scan.reports.map (·.value)) cause where
  outcome := houtcome
  no := by rw [allValid, houtcome]
  whole := by rw [Scan.report, houtcome]; rfl
  told r s := Audit.exec_tellScan_of_error r houtcome s

/-- **All counts of a scan agree**, whatever items the walk delivers: entries, and then its end or a failure. The scan
    hands on a report for each executable among the entries, in their order. If the walk ended, then the counters of
    the summary are those of the reports and add up, and the yes or no of the summary, of the reports, of their
    entries, of the scan and of a reporter are the same. If it failed, then what came before was handed on, and there
    is no summary. The scan of a root tells its scan in just this way. -/
theorem scanItems_tally :
    (∀ (report : WalkEntry → Logged BinaryReport) (root : Path) (items : List WalkItem),
      ∃ entries stop, Walked items entries stop ∧
        (scanItems report root {} items).reports = executableReports report entries ∧
        match stop with
        | none => ∃ summary, (scanItems report root {} items).Finished
            ((executableReports report entries).map (·.value)) summary
        | some e => (scanItems report root {} items).Stopped ((executableReports report entries).map (·.value))
            ⟨root, e⟩) ∧
      ∀ (a : Audit) (root : Path) (r : Reporter) (s : Session), exec (a.scanRoot root r) s =
        exec (Audit.tellScan r (scanItems (WalkEntry.report a.policy s.files root) root {} (s.files.walk root)))
          { s with notes := s.notes ++ [.debug s!"scanning {root.text}"] } := by
  refine ⟨fun report root items => ?_, fun a root r s => rfl⟩
  obtain ⟨entries, stop, hwalked⟩ := exists_walked items
  have hscan : scanItems report root {} items = _ := scanItems_eq {} hwalked
  refine ⟨entries, stop, hwalked, by rw [hscan], ?_⟩
  rw [hscan]
  cases stop with
  | none => exact ⟨_, Scan.finished_of_counts rfl (Summary.counts_nil.recordAll _)⟩
  | some e => exact Scan.stopped_of_error rfl

end FipsAudit
