import FipsAudit.Audit.Basic

/-!
# `FipsAudit.Audit.Rootfs` — audits of root directories

* `Audit.rootfs` — judges the crypto libraries and all executables under a directory.
-/

namespace FipsAudit.Audit

/-- Judges the root directory that an argument names; the libraries can be left out. -/
def rootfs (a : Audit) (argument : String) (skipLibraries : Bool) : Run AuditError Bool := do
  let fs ← Run.files
  let root := fs.absolute argument
  if !fs.isDirectory root then throw (.noRoot root)
  let r ← Reporter.start a.json root.text .rootfs
  let r ← if skipLibraries then pure r else a.checkLibraries root r
  let r ← a.scanRoot root r
  r.finish

end FipsAudit.Audit
