import FipsAudit.Audit.Basic

/-!
# `FipsAudit.Audit.Binary` — audits of single binaries

* `Audit.binary` — judges one file of the file system. The document holds its digest.
-/

namespace FipsAudit.Audit

/-- The reporter with the digest of the binary, which only documents hold. -/
def withDigest (r : Reporter) (path : Path) : Run AuditError Reporter := do
  if r.json then return r.setSha256 (← ExceptT.mk (pure ((← Run.files).sha256 path))) else return r

/-- Judges the binary that an argument names. -/
def binary (a : Audit) (argument : String) : Run AuditError Bool := do
  let fs ← Run.files
  let path := fs.absolute argument
  if !fs.isFile path then throw (.noBinary path)
  let r ← withDigest (← Reporter.start a.json path.text .binary) path
  let result ← Run.logged (validate a.policy fs .rootDirectory path)
  let r ← r.binary ⟨path, result⟩
  r.finish

end FipsAudit.Audit
