import FipsAudit.Audit.Basic

/-!
# `FipsAudit.Audit.Image` — audits of container images

An image is fetched if it is not there, mounted, and judged like a root directory. Once it is mounted it is
unmounted again, however the audit ends; a failure to unmount is only noted.

* `Audit.mount`, `Audit.unmount` — the image's root directory given and taken away.
* `Audit.image` — judges the crypto libraries and all executables of an image.
-/

namespace FipsAudit.Audit

/-- The call of the container tool. -/
def podmanCall (arguments : List String) : Call where
  program := "podman"
  arguments := arguments

/-- Has the container tool do a task; reported failure counts as failure. -/
def podman (task : ToolTask) (arguments : List String) : Run AuditError Output := do
  match ← Run.call (podmanCall arguments) with
  | .error cause => throw (.tool task cause)
  | .ok output => if output.success then return output else throw (.refused task output)

/-- Whether the image is there. -/
def imageExists (image : String) : Run AuditError Bool := do
  match ← Run.call (podmanCall ["image", "exists", image]) with
  | .error cause => throw (.tool .imageExists cause)
  | .ok output => return output.success

/-- Fetches the image if it is not there. -/
def provide (image : String) (r : Reporter) : Run AuditError Unit := do
  r.step "checking OCI image exists locally"
  if ← imageExists image then r.stepDone "found"
  else
    r.stepDone "not found"
    r.step "pulling image"
    let _ ← podman .pullImage ["pull", image]
    r.stepDone "done"

/-- The root directory that the output of the tool names: its text without line ends at its end. -/
def mountPoint (output : Output) : String :=
  String.ofList ((Text.Utf8.decodeLossyChars output.stdout).reverse.dropWhile (· = '\n')).reverse

/-- Mounts the image; the result is its root directory. -/
def mount (image : String) (r : Reporter) : Run AuditError Path := do
  provide image r
  r.step "mounting OCI image"
  let output ← podman .mountImage ["image", "mount", image]
  let root := mountPoint output
  if root.isEmpty then throw (.noMountPoint image)
  r.stepDone "done"
  return .ofString root

/-- Unmounts the image and tells the step; a failure to do so is left in the log. -/
def unmountTold (image : String) (r : Reporter) : Run AuditError Unit := do
  r.step "unmounting OCI image"
  match ← Run.attempt (podman .unmountImage ["image", "unmount", image]) with
  | .ok _ => r.stepDone "done"
  | .error e =>
    r.stepDone "failed"
    Run.note ⟨.warn, e.line⟩

/-- Unmounts the image without telling the step, after an audit that failed. -/
def unmountSilently (image : String) : Run AuditError Unit := do
  match ← Run.attempt (podman .unmountImage ["image", "unmount", image]) with
  | .ok _ => pure ()
  | .error e => Run.note ⟨.warn, e.line⟩

/-- Judges the root directory of an image. -/
def judgeMounted (a : Audit) (root : Path) (r : Reporter) : Run AuditError Reporter := do
  Run.note (.debug s!"image mounted at {root.text}")
  let r ← a.checkLibraries root r
  a.scanRoot root r

/-- Judges the image that an argument names. -/
def image (a : Audit) (argument : String) : Run AuditError Bool := do
  let r ← Reporter.start a.json argument .image
  let root ← mount argument r
  match ← Run.attempt (a.judgeMounted root r) with
  | .ok r =>
    unmountTold argument r
    r.finish
  -- The failure of the audit is what is told, whether unmounting succeeds or not.
  | .error e =>
    unmountSilently argument
    throw e

end FipsAudit.Audit
