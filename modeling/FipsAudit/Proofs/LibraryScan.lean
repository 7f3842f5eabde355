import FipsAudit.LibraryScan
import FipsAudit.Proofs.Parallel

/-!
# `FipsAudit.Proofs.LibraryScan` — what the library scan depends on

Tools list the symbols of libraries, so the outcome of a scan is up to them. It is not up to what was noted and
printed before, and a scan prints nothing itself.

* `scanLibraries_silent` — a scan comes to the same in sessions that are alike.
-/

namespace FipsAudit

open Run

theorem checkLibrary_silent (policy : Policy) (root : Path) (library : String) :
    Silent (checkLibrary policy root library) := by
  refine Parallel.silent_bind (Parallel.call _) fun reply => ?_
  cases reply with
  | error cause => exact Parallel.throw _
  | ok output => exact Parallel.says_bind (Says.leave _) (Says.leave _) (Parallel.pure ⟨rfl, rfl, rfl⟩)

/-- As each library is checked silently, so are all of them. -/
theorem checkLibraries_silent (policy : Policy) (root : Path) (libraries : List String) :
    Silent (checkLibraries policy root libraries) := by
  induction libraries with
  | nil => exact Parallel.pure ⟨rfl, rfl, rfl⟩
  | cons library rest ih =>
      refine Parallel.silent_bind (checkLibrary_silent policy root library) fun _ => ?_
      exact Parallel.silent_bind ih fun _ => Parallel.pure ⟨rfl, rfl, rfl⟩

/-- A scan comes to the same in sessions that are alike. -/
theorem scanLibraries_silent (policy : Policy) (root : Path) : Silent (scanLibraries policy root) := by
  rw [scanLibraries]
  split
  · exact Parallel.throw _
  · refine Parallel.silent_bind Parallel.files fun _ => ?_
    exact Parallel.silent_bind (checkLibraries_silent policy root _) fun _ => Parallel.pure ⟨rfl, rfl, rfl⟩

end FipsAudit
