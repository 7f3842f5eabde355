import FipsAudit.Audit.Rpm
import FipsAudit.Proofs.Audit.Root

/-!
# `FipsAudit.Proofs.Audit.Rpm` — what audits of packages demand

A package is unpacked into a scratch directory by a pipeline. The audit ends with success exactly if there is such a
directory, the pipeline succeeds, and what is there then is a clean tree; taking it away again does not count.

* `Unpacked`, `CleanPackage` — a package that is unpacked, and one that is clean as well.
* `Audit.yields_rpm` — what the audit demands.
-/

namespace FipsAudit

open Run Session

variable {a : Audit} {package directory : Path} {r : Reporter} {s : Session}

/-- The package is unpacked into the directory, in the session that follows. -/
inductive Unpacked (package directory : Path) (s : Session) : Session → Prop
  /-- The pipeline runs and succeeds. -/
  | unpacked {output : Output} (unpacked : s.Succeeds (Audit.unpackCall package directory) output) :
      Unpacked package directory s (s.after (Audit.unpackCall package directory))

/-- The session with a new directory. -/
def Session.withDirectory (s : Session) (directory : Path) : Session :=
  { s with files := s.files.create directory .directory }

/-- A package that the policy has nothing against: there is a scratch directory, the package is unpacked into it,
    and what is there is a clean tree. -/
def CleanPackage (policy : Policy) (package : Path) (s : Session) : Prop :=
  ∃ directory, s.scratch = .ok directory ∧
    ∃ s', Unpacked package directory (s.withDirectory directory) s' ∧ CleanTree policy s'.files directory

theorem quietStep_unpacked (package directory : Path) : QuietStep (Unpacked package directory) := by
  intro s t s' halike h
  cases h with
  | unpacked unpacked => exact ⟨_, .unpacked (unpacked.alike halike), halike.after _⟩

namespace Audit

/-- A package is unpacked exactly if the pipeline runs and succeeds. -/
theorem yields_unpack {Q : Unit → Session → Prop} :
    Yields (unpack package directory) s Q ↔
      ∃ output, s.Succeeds (unpackCall package directory) output ∧ Q () (s.after (unpackCall package directory)) :=
  yields_call_iff_succeeds

/-- There is a scratch directory exactly if the session has one to give. -/
theorem yields_makeScratch {Q : Path → Session → Prop} :
    Yields makeScratch s Q ↔ ∃ directory, s.scratch = .ok directory ∧ Q directory (s.withDirectory directory) := by
  rw [makeScratch, yields_bind, yields_get]
  cases hscratch : s.scratch with
  | error cause =>
      refine iff_of_false (yields_throw _) ?_
      rintro ⟨directory, hok, -⟩
      cases hok
  | ok directory =>
      simp only [yields_bind, yields_changeFiles, yields_pure, Except.ok.injEq, exists_eq_left']
      exact Iff.rfl

/-- Unpacking and scanning demands that the package can be unpacked and that what is there is a clean tree. -/
theorem yields_unpackAndScan (hr : r.report.success = true) :
    Yields (a.unpackAndScan package directory r) s (fun success _ => success = true) ↔
      ∃ s', Unpacked package directory s s' ∧ CleanTree a.policy s'.files directory := by
  rw [unpackAndScan, yields_bind]
  refine (Tells.leave _).yields_iff fun s₁ h₁ => ?_
  rw [yields_bind]
  refine (r.tells_step _).yields_iff fun s₂ h₂ => ?_
  have hunpacked := (quietStep_unpacked package directory).exists_congr (quiet_cleanTree a.policy directory) (h₁.trans h₂)
  rw [hunpacked, yields_bind, yields_unpack]
  have hscan : ∀ s', Yields (do
      r.stepDone "done"
      let r ← a.scanRoot directory r
      r.finish) s' (fun success _ => success = true) ↔ CleanTree a.policy s'.files directory := by
    intro s'
    rw [yields_bind]
    refine (r.tells_stepDone _).yields_iff fun s₃ h₃ => ?_
    rw [yields_bind]
    simp only [Reporter.yields_finish]
    rw [yields_scanRoot, h₃.files]
    exact and_iff_right hr
  constructor
  · rintro ⟨output, hunpacked, h⟩
    exact ⟨_, .unpacked hunpacked, (hscan _).mp h⟩
  · rintro ⟨s', hunpacked, h⟩
    cases hunpacked with
    | unpacked unpacked => exact ⟨_, unpacked, (hscan _).mpr h⟩

/-- The audit of a package demands that it is a regular file and that the package is clean. -/
theorem yields_rpm {argument : String} :
    Yields (a.rpm argument) s (fun success _ => success = true) ↔
      s.files.isFile (s.files.absolute argument) = true ∧ CleanPackage a.policy (s.files.absolute argument) s := by
  rw [Audit.rpm, yields_bind, yields_files]
  refine yields_guard.trans (and_congr_right fun _ => ?_)
  rw [yields_bind]
  refine Reporter.yields_start fun r hr => ?_
  rw [yields_bind, yields_makeScratch]
  refine exists_congr fun directory => and_congr_right fun _ => ?_
  -- The scratch directory is taken away; the result is not touched.
  have hdrop : ∀ (result : Except AuditError Bool) (s' : Session),
      Yields (dropScratch directory >>= fun _ => ExceptT.mk (pure result)) s' (fun success _ => success = true) ↔
        result = .ok true := by
    intro result s'
    rw [yields_bind, dropScratch, yields_changeFiles, yields_true_iff, exec_mk]
  rw [yields_bind, yields_attempt, hdrop, ← yields_true_iff]
  exact yields_unpackAndScan hr

end Audit

end FipsAudit
