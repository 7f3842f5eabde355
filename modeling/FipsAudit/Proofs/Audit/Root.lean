import FipsAudit.Audit.Rootfs
import FipsAudit.Proofs.LibraryScan
import FipsAudit.Proofs.Reporter

/-!
# `FipsAudit.Proofs.Audit.Root` — audits of roots keep every failure

The parts of an audit hand on a reporter. Its success is a conjunction over everything that was reported; what is not
reported ends the audit with an error. So an audit that gets to its end with success has come across nothing else.

* `Audit.tells_tellReports` — telling reports keeps success exactly if all of them passed.
* `Audit.yields_scanRoot` — the scan keeps success exactly if the tree is clean.
* `CleanRoot`, `Audit.yields_judgeRoot` — libraries and tree together.
* `Audit.yields_rootfs` — what the audit of a directory demands.
-/

namespace FipsAudit

open Run Session

variable {a : Audit} {root : Path} {r : Reporter} {s : Session}

/-! ## Trees -/

namespace Audit

/-- Reports that are told one after the other: success is kept exactly if all of them passed. -/
theorem tells_tellReports (r : Reporter) (reports : List (Logged BinaryReport)) :
    ∃ r', Tells (tellReports r reports) r' ∧
      (r'.report.success = true ↔ r.report.success = true ∧ ∀ report ∈ reports, report.value.passed = true) := by
  induction reports generalizing r with
  | nil => exact ⟨r, Tells.pure r, by simp⟩
  | cons report rest ih =>
      obtain ⟨r', htells, hsuccess⟩ := ih { r with report := r.report.addBinary (.ofReport report.value) }
      refine ⟨r', (Tells.leave _).bind ((r.tells_binary report.value).bind htells), ?_⟩
      rw [hsuccess, Report.success_addBinary, List.forall_mem_cons, and_assoc]

/-- A scan keeps success exactly if the tree is clean. -/
theorem yields_scanRoot :
    Yields (a.scanRoot root r) s (fun r' _ => r'.report.success = true) ↔
      r.report.success = true ∧ CleanTree a.policy s.files root := by
  obtain ⟨r', htells, hsuccess⟩ := tells_tellReports r (scanTree a.policy s.files root).reports
  rw [← scanTree_clean_iff, scanRoot, yields_bind]
  refine (Tells.leave _).yields_iff fun s₁ h₁ => ?_
  rw [yields_bind, yields_files, ← h₁.files, yields_bind]
  refine htells.yields_iff fun s₂ _ => ?_
  cases hscan : (scanTree a.policy s.files root).outcome with
  | error cause =>
      refine iff_of_false (yields_throw _) ?_
      rintro ⟨-, ⟨summary, hfinished⟩, -⟩
      rw [hscan] at hfinished
      cases hfinished
  | ok summary =>
      show Yields (Run.note summary.note >>= fun _ => pure r') s₂ _ ↔ _
      rw [yields_bind]
      refine (Tells.leave _).yields_iff fun s₃ _ => ?_
      rw [yields_pure, hsuccess]
      exact and_congr_right fun _ => ⟨fun hpassed => ⟨⟨summary, hscan⟩, hpassed⟩, fun hclean => hclean.passed⟩

end Audit

theorem quiet_cleanTree (policy : Policy) (root : Path) : Quiet fun s => CleanTree policy s.files root := by
  intro s t h
  show CleanTree policy s.files root ↔ CleanTree policy t.files root
  rw [h.files]

/-! ## Roots -/

/-- A root that the policy has nothing against: the library scan succeeds and finds nothing wrong, and the tree is
    clean as the tools of that scan left it. -/
def CleanRoot (policy : Policy) (root : Path) (s : Session) : Prop :=
  Yields (scanLibraries policy root) s fun report s' => report.verdict.reasons = [] ∧ CleanTree policy s'.files root

theorem quiet_cleanRoot (policy : Policy) (root : Path) : Quiet (CleanRoot policy root) :=
  (scanLibraries_silent policy root).quiet_yields fun _ s' t' h =>
    and_congr_right fun _ => quiet_cleanTree policy root s' t' h

/-- Libraries and tree, judged one after the other, keep success exactly if the root is clean. -/
theorem Audit.yields_judgeRoot :
    Yields (a.checkLibraries root r >>= a.scanRoot root) s (fun r' _ => r'.report.success = true) ↔
      r.report.success = true ∧ CleanRoot a.policy root s := by
  rw [yields_bind, checkLibraries, yields_bind, yields_adapt, CleanRoot, ← yields_and]
  refine yields_congr fun report s₁ => ?_
  refine (r.tells_libcrypto report).yields_iff fun s₂ h₂ => ?_
  rw [yields_scanRoot, Report.success_addLibraries, h₂.files, and_assoc]

/-- The audit of a directory demands that it is one and that, as a root, it is clean; without its libraries, that its
    tree is. -/
theorem Audit.yields_rootfs {argument : String} {skipLibraries : Bool} :
    Yields (a.rootfs argument skipLibraries) s (fun success _ => success = true) ↔
      s.files.isDirectory (s.files.absolute argument) = true ∧
        if skipLibraries then CleanTree a.policy s.files (s.files.absolute argument)
        else CleanRoot a.policy (s.files.absolute argument) s := by
  rw [Audit.rootfs, yields_bind, yields_files]
  refine yields_guard.trans (and_congr_right fun _ => ?_)
  rw [yields_bind]
  refine Reporter.yields_start fun r hr => ?_
  cases skipLibraries with
  | true =>
      simp only [if_true, yields_bind, yields_pure, Reporter.yields_finish]
      exact yields_scanRoot.trans (and_iff_right hr)
  | false =>
      simp only [if_false, Bool.false_eq_true, yields_bind, Reporter.yields_finish]
      exact yields_bind.symm.trans (yields_judgeRoot.trans (and_iff_right hr))

end FipsAudit
