import FipsAudit.Audit.Binary
import FipsAudit.Proofs.FileSystem.SamePath
import FipsAudit.Proofs.Reporter

/-!
# `FipsAudit.Proofs.Audit.Binary` — what audits of binaries demand

A binary has to be a regular file, and then only the file itself counts. A document holds its digest, too. If the file
cannot be read, then there is none, and the audit ends there; but such a file is not accepted in any case.

* `isAbsolute_absolute` — the path of the binary is absolute.
* `Audit.sha256_of_read`, `Audit.sha256_of_unread` — a file has a digest exactly if it can be read.
* `Audit.yields_binary` — what the audit demands.
-/

namespace FipsAudit

open Run FileSystem

/-! ## Paths -/

theorem isAbsolute_pathOf (l : Location) : (pathOf l).isAbsolute = true := rfl

/-- **An argument is made absolute** in any case. -/
theorem isAbsolute_absolute (fs : FileSystem) (argument : String) : (fs.absolute argument).isAbsolute = true := by
  unfold FileSystem.absolute
  dsimp only
  split
  next => exact isAbsolute_pathOf _
  next =>
    cases hcanonical : fs.canonical (.ofString argument) with
    | ok path =>
        unfold canonical at hcanonical
        cases hresolve : fs.resolve true (.ofString argument) with
        | error e =>
            rw [hresolve] at hcanonical
            cases hcanonical
        | ok found =>
            rw [hresolve] at hcanonical
            cases hcanonical
            exact isAbsolute_pathOf _
    | error cause =>
        show (fs.currentDirectory.join (.ofString argument)).isAbsolute = true
        cases habsolute : (Path.ofString argument).isAbsolute with
        | true => rw [Path.join, if_pos habsolute, habsolute]
        | false =>
            rw [Path.isAbsolute_join habsolute]
            exact isAbsolute_pathOf _

namespace Audit

variable {a : Audit} {r : Reporter} {s : Session} {fs : FileSystem} {path : Path}

/-! ## Digests -/

/-- A file that can be read has a digest. -/
theorem sha256_of_read {data : ByteArray} (h : fs.read path = .ok data) :
    fs.sha256 path = .ok (Digest.Sha256.hexDigest data) := by
  have hopened : ∃ found, fs.opened path = .ok found := by
    rw [FileSystem.read] at h
    split at h
    next => contradiction
    next l _ content hfound => exact ⟨_, hfound⟩
    next found _ hfound => exact ⟨found, hfound⟩
  obtain ⟨found, hfound⟩ := hopened
  rw [FileSystem.sha256, hfound, h]

/-- A file that cannot be read has none: it cannot be opened, or not be read when it is open. -/
theorem sha256_of_unread {cause : IoError} (h : fs.read path = .error cause) :
    fs.sha256 path = .error (.unopened path cause) ∨ fs.sha256 path = .error (.unread path cause) := by
  rw [FileSystem.sha256]
  cases hfound : fs.opened path with
  | error e =>
      rw [FileSystem.read, hfound] at h
      exact Or.inl (by rw [Except.error.inj h])
  | ok found =>
      rw [h]
      exact Or.inr rfl

/-- The digest is put into the report without harm to its success. -/
theorem exec_withDigest {digest : String} (h : s.files.sha256 path = .ok digest) :
    ∃ r', exec (withDigest r path) s = (.ok r', s) ∧ r'.report.success = r.report.success := by
  rw [withDigest]
  split
  · rw [exec_bind_of_ok (exec_files s), h]
    exact ⟨r.setSha256 digest, rfl, rfl⟩
  · exact ⟨r, rfl, rfl⟩

/-- Without one there is no document. -/
theorem exec_withDigest_of_error {e : AuditError} (hjson : r.json = true) (h : s.files.sha256 path = .error e) :
    exec (withDigest r path) s = (.error e, s) := by
  rw [withDigest, if_pos hjson, exec_bind_of_ok (exec_files s), h]
  exact exec_bind_of_error rfl _

/-! ## Audits -/

/-- A file that cannot be read is not accepted. -/
theorem not_accepts_of_unread {policy : Policy} {root : Path} {cause : IoError}
    (h : fs.read (root.resolveUnder path) = .error cause) : ¬Accepts policy fs root path := by
  have hvalue : (validate policy fs root path).value = .error (.unreadable (root.resolveUnder path) cause) := by
    rw [validate, h]
  rw [Accepts, hvalue]
  rintro (hpassed | ⟨reason, hskipped⟩)
  · cases hpassed
  · cases hskipped

/-- What follows the digest demands that the file is accepted. -/
theorem yields_judged {policy : Policy} (r : Reporter) (hr : r.report.success = true) :
    Yields (do
        let result ← Run.logged (validate policy fs .rootDirectory path)
        let r ← r.binary ⟨path, result⟩
        r.finish : Run AuditError Bool) s (fun success _ => success = true) ↔
      Accepts policy fs .rootDirectory path := by
  rw [yields_bind]
  refine (Tells.logged _).yields_iff fun s₁ _ => ?_
  rw [yields_bind]
  refine (r.tells_binary _).yields_iff fun s₂ _ => ?_
  rw [Reporter.yields_finish, Report.success_addBinary, BinaryReport.passed_iff]
  exact and_iff_right hr

/-- The audit of a binary demands that it is a regular file and that it is accepted. -/
theorem yields_binary {argument : String} :
    Yields (a.binary argument) s (fun success _ => success = true) ↔
      s.files.isFile (s.files.absolute argument) = true ∧
        Accepts a.policy s.files .rootDirectory (s.files.absolute argument) := by
  rw [Audit.binary, yields_bind, yields_files]
  refine yields_guard.trans (and_congr_right fun hfile => ?_)
  rw [yields_bind]
  refine Reporter.yields_start fun r hr => ?_
  rw [yields_bind]
  cases hdigest : s.files.sha256 (s.files.absolute argument) with
  | ok digest =>
      obtain ⟨r', hexec, hsuccess⟩ := exec_withDigest (r := r) hdigest
      rw [yields_iff_of_ok hexec]
      exact yields_judged r' (hsuccess.trans hr)
  | error e =>
      cases hjson : r.json with
      | false =>
          have hexec : exec (withDigest r (s.files.absolute argument)) s = (.ok r, s) := by
            rw [withDigest, hjson]
            rfl
          rw [yields_iff_of_ok hexec]
          exact yields_judged r hr
      | true =>
          -- There is no document, and there would be no success either.
          refine iff_of_false (not_yields_of_error (exec_withDigest_of_error hjson hdigest)) ?_
          cases hread : s.files.read (s.files.absolute argument) with
          | ok data =>
              rw [sha256_of_read hread] at hdigest
              cases hdigest
          | error cause =>
              have hunread := (read_resolveUnder_root hfile (isAbsolute_absolute _ _)).trans hread
              exact not_accepts_of_unread hunread

end Audit

end FipsAudit
