import FipsAudit.Audit.Basic
import FipsAudit.Shell.Quoted

/-!
# `FipsAudit.Audit.Rpm` — audits of packages

A package is unpacked by a shell pipeline into a scratch directory, which is taken away again at the end.

* `unpackScript` — the pipeline.
* `Audit.rpm` — judges all executables of a package.
-/

namespace FipsAudit.Audit

/-- The pipeline that unpacks a package into the present directory. -/
def unpackScript (package : String) : String := s!"rpm2cpio {Shell.quote package} | cpio -idm"

/-- The call that unpacks a package into a directory. -/
def unpackCall (package directory : Path) : Call where
  directory := some directory
  program := "sh"
  arguments := ["-c", unpackScript package.text]

/-- Unpacks a package into a directory. -/
def unpack (package directory : Path) : Run AuditError Unit := do
  match ← Run.call (unpackCall package directory) with
  | .error cause => throw (.tool .unpackPackage cause)
  | .ok output => if output.success then pure () else throw (.refused .unpackPackage output)

/-- Makes the scratch directory. -/
def makeScratch : Run AuditError Path := do
  match (← get).scratch with
  | .error cause => throw (.noScratch cause)
  | .ok path =>
    Run.changeFiles (·.create path .directory)
    return path

/-- Takes the scratch directory away. -/
def dropScratch (path : Path) : Run AuditError Unit :=
  Run.changeFiles fun fs => fs.remove (FileSystem.steps path)

/-- Unpacks a package into a directory, and judges all executables there. -/
def unpackAndScan (a : Audit) (package directory : Path) (r : Reporter) : Run AuditError Bool := do
  Run.note (.debug s!"using temporary directory {directory.text}")
  r.step "unpacking RPM"
  unpack package directory
  r.stepDone "done"
  let r ← a.scanRoot directory r
  r.finish

/-- Judges the package that an argument names. -/
def rpm (a : Audit) (argument : String) : Run AuditError Bool := do
  let fs ← Run.files
  let package := fs.absolute argument
  if !fs.isFile package then throw (.noPackage package)
  let r ← Reporter.start a.json package.text .rpm
  let directory ← makeScratch
  -- The scratch directory is taken away before a failure is passed on.
  let result ← Run.attempt (a.unpackAndScan package directory r)
  dropScratch directory
  ExceptT.mk (pure result)

end FipsAudit.Audit
