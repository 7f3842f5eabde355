import FipsAudit.CommandLine
import FipsAudit.Proofs.Audit.Binary
import FipsAudit.Proofs.Audit.Image
import FipsAudit.Proofs.Audit.Rpm
import FipsAudit.Proofs.Outcome

/-!
# `FipsAudit.Proofs.CommandLine` — what exit codes mean

A request for an audit is answered with exit code zero exactly if its policy can be loaded and its target is clean.
Whatever else comes up on the way, the exit code is one.

* `Target.Clean` — what each kind of target has to be like.
* `Options.run_eq_ok_true_iff` — a request succeeds exactly if there is a policy and the target is clean under it.
* `exitCode_eq_zero_iff` — the exit code says just that.
-/

namespace FipsAudit

open Run

/-! ## Targets -/

/-- What the policy demands of a target in the session in which its audit begins. -/
def Target.Clean (policy : Policy) (s : Session) : Target → Prop
  | .binary path =>
    s.files.isFile (s.files.absolute path) = true ∧ Accepts policy s.files .rootDirectory (s.files.absolute path)
  | .rpm path => s.files.isFile (s.files.absolute path) = true ∧ CleanPackage policy (s.files.absolute path) s
  | .image reference => ∃ root s', Mounted reference s root s' ∧ CleanRoot policy root s'
  | .rootfs root skipLibraries =>
    s.files.isDirectory (s.files.absolute root) = true ∧
      if skipLibraries then CleanTree policy s.files (s.files.absolute root)
      else CleanRoot policy (s.files.absolute root) s

/-- The audit of a target ends with success exactly if the target is clean. -/
theorem Target.run_eq_ok_true_iff (target : Target) (a : Audit) (s : Session) :
    (exec (target.run a) s).1 = .ok true ↔ target.Clean a.policy s := by
  rw [← yields_true_iff]
  cases target with
  | binary path => exact Audit.yields_binary
  | rpm path => exact Audit.yields_rpm
  | image reference => exact Audit.yields_image
  | rootfs root skipLibraries => exact Audit.yields_rootfs

/-! ## Requests -/

/-- A request succeeds exactly if there is a policy under which the audit does. -/
theorem Options.run_eq_ok_true_iff (options : Options) (target : Target) (s : Session) :
    (exec (options.run target) s).1 = .ok true ↔
      ∃ policy, options.policy s.files = .ok policy ∧ target.Clean policy s := by
  rw [← yields_true_iff, Options.run, yields_bind, yields_files]
  cases hpolicy : options.policy s.files with
  | error e =>
      refine iff_of_false (yields_throw _) ?_
      rintro ⟨policy, hok, -⟩
      cases hok
  | ok policy =>
      show Yields (Run.adapt RequestError.audit (target.run { policy, json := options.json })) s _ ↔ _
      rw [yields_adapt, yields_true_iff, target.run_eq_ok_true_iff]
      simp only [Except.ok.injEq, exists_eq_left']

/-- Words that ask for an audit are answered by its result. -/
theorem exec_answer {words : List String} {options : Options} {target : Target}
    (h : Request.parse words = some (.audit options target)) (s : Session) :
    exec (answer words) s = (.ok (.ofVerdict (exec (options.run target) s).1), (exec (options.run target) s).2) := by
  rw [answer, h]
  exact exec_bind_of_ok (exec_attempt _ s) _

/-- A verdict has exit code zero if it is success, and else one. -/
theorem Answer.exitCode_ofVerdict (verdict : Except RequestError Bool) :
    (verdict = .ok true ∧ (ofVerdict verdict).exitCode = 0) ∨
      (verdict ≠ .ok true ∧ (ofVerdict verdict).exitCode = 1) := by
  cases verdict with
  | error e => exact Or.inr ⟨by simp, rfl⟩
  | ok success => cases success <;> simp [ofVerdict]

/-- **No failure is lost on the way to the exit code.** The audit of a target ends with success exactly if the target
    is clean. A request for it always gets an answer: its exit code is zero exactly if the policy can be loaded and
    the target is clean under it, and else one. -/
theorem exitCode_eq_zero_iff (target : Target) (s : Session) :
    (∀ a : Audit, (exec (target.run a) s).1 = .ok true ↔ target.Clean a.policy s) ∧
      ∀ (words : List String) (options : Options), Request.parse words = some (.audit options target) →
        ∃ reply s', exec (answer words) s = (.ok reply, s') ∧
          (reply.exitCode = 0 ↔ ∃ policy, options.policy s.files = .ok policy ∧ target.Clean policy s) ∧
          (reply.exitCode ≠ 0 → reply.exitCode = 1) := by
  refine ⟨fun a => target.run_eq_ok_true_iff a s, fun words options h => ?_⟩
  refine ⟨_, _, exec_answer h s, ?_⟩
  rw [← options.run_eq_ok_true_iff target s]
  rcases Answer.exitCode_ofVerdict (exec (options.run target) s).1 with ⟨hok, hzero⟩ | ⟨hnot, hone⟩
  · exact ⟨iff_of_true hzero hok, fun h => absurd hzero h⟩
  · exact ⟨iff_of_false (by simp [hone]) hnot, fun _ => hone⟩

/-- A session in which `/r` holds one executable, `/r/s`, and no tool can be run. -/
def lonely (content : ByteArray) : Session where
  files := { entries := [([[0x72]], .directory), ([[0x72], [0x73]], .file 0o755 content)] }
  tools := fun _ _ _ => { result := .error .canceled }

/-- A script is nothing against a root whose libraries are left out: the exit code is zero. -/
theorem exitCode_eq_zero_iff_script :
    let script : ByteArray := ⟨#[0x23, 0x21]⟩
    let words := ["rootfs", "/r", "--skip-libcrypto"]
    Request.parse words = some (.audit {} (.rootfs "/r" true)) ∧
      ∃ reply s', exec (answer words) (lonely script) = (.ok reply, s') ∧ reply.exitCode = 0 := by
  intro script words
  let root : Path := ⟨[0x2f, 0x72]⟩
  let file : Path := ⟨[0x2f, 0x72, 0x2f, 0x73]⟩
  have hroot (c : ByteArray) : (lonely c).files.absolute "/r" = root := by cbv
  have hdirectory (c : ByteArray) : (lonely c).files.isDirectory root = true := by cbv
  have hwalk (c : ByteArray) :
      (lonely c).files.walk root = [.ok ⟨root, .directory⟩, .ok ⟨file, .file 0o755 c⟩] := by cbv
  have hread (c : ByteArray) :
      (lonely c).files.read (Path.resolveUnder root (Path.innerTo root file)) = .ok c := by cbv
  have hscript : inspect script = .notObject .script := by decide +kernel
  have htree : CleanTree .builtIn (lonely script).files root := by
    have hwalked : ∀ e, .error e ∉ (lonely script).files.walk root := by simp [hwalk]
    refine ⟨hwalked, fun entry hunder hexec => ?_⟩
    rw [← FileSystem.mem_walk_iff hwalked, hwalk] at hunder
    rcases List.mem_cons.mp hunder with hentry | hentry
    · rw [Except.ok.inj hentry] at hexec
      cases hexec
    · rw [Except.ok.inj (List.mem_singleton.mp hentry)]
      exact Or.inr ⟨.script, by rw [value_validate (hread script), judge, hscript]; rfl⟩
  have hwords : Request.parse words = some (.audit {} (.rootfs "/r" true)) := by decide +kernel
  obtain ⟨reply, s', hanswer, hzero, -⟩ :=
    (exitCode_eq_zero_iff (.rootfs "/r" true) (lonely script)).2 words {} hwords
  refine ⟨hwords, reply, s', hanswer, hzero.mpr ⟨.builtIn, rfl, ?_⟩⟩
  show (lonely script).files.isDirectory ((lonely script).files.absolute "/r") = true ∧
    CleanTree .builtIn (lonely script).files ((lonely script).files.absolute "/r")
  rw [hroot]
  exact ⟨hdirectory script, htree⟩

end FipsAudit
