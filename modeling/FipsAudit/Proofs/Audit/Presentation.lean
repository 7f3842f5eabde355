import FipsAudit.CommandLine
import FipsAudit.Proofs.Audit.Account
import FipsAudit.Proofs.Audit.Binary
import FipsAudit.Proofs.Audit.Rpm
import FipsAudit.Proofs.CommandLine
import FipsAudit.Proofs.Request

/-!
# `FipsAudit.Proofs.Audit.Presentation` — the form of the outcome is only a form

Whether a run is told to people or written as a document is asked at every step. The two forms of a run are followed
side by side here: they have the same tools called, come to the same verdict or the same failure, and where they reach
the end, what people were told of each binary is what the document says about it. In one place they part: a document
holds the digest of a single binary, and if that binary cannot be read, then there is no document, whereas people are
told that it cannot be judged. That is no success either.

* `Audit.bothForms_image` and its siblings — the two forms of the audits, one for each kind of target.
* `Target.Unread`, `Parted` — where the two forms part; `Options.forms` — they do so nowhere else.
* `presentation_only` — the two forms of a run, from the request to the exit code.
-/

namespace FipsAudit

open Run Session

variable {policy : Policy} {json json' : Bool} {r r' q q' : Reporter} {told told' : String} {s : Session}

namespace Audit

/-! ## Audits -/

/-- The two forms of an audit of one target. -/
abbrev BothForms {ε : Type} (x y : Run ε Bool) (s : Session) : Prop := ∃ told told', Beside Closed x s y s told told'

theorem beginning_start (target : String) (mode : Mode) (s : Session) :
    Beginning ⟨false, { target, mode, checkedAt := s.time }⟩ ⟨true, { target, mode, checkedAt := s.time }⟩ :=
  ⟨⟨rfl, rfl, rfl⟩, rfl, rfl⟩

/-- Where the guard does not hold, both fail alike. -/
theorem beside_guard {c : Bool} {e : AuditError} {f g : PUnit → Run AuditError Bool}
    (h : c = true → BothForms (f ()) (g ()) s) :
    BothForms (if !c then throw e >>= f else f ()) (if !c then throw e >>= g else g ()) s := by
  cases c with
  | true => exact h rfl
  | false => exact Parallel.bind (Parallel.throw (R := fun _ _ _ _ => False) e) (by simp) s s (Alike.refl s)

theorem silent_unmountSilently (image : String) : Silent (unmountSilently image) := by
  refine Parallel.silent_bind (silent_attempt_podman _ _) fun result => ?_
  cases result with
  | ok output => exact Parallel.pure ⟨rfl, rfl, rfl⟩
  | error e => exact Parallel.of_says (Says.leave _) (Says.leave _) ⟨rfl, rfl, rfl⟩

theorem bothForms_image (policy : Policy) (argument : String) (s : Session) :
    BothForms (Audit.image ⟨policy, false⟩ argument) (Audit.image ⟨policy, true⟩ argument) s := by
  refine Beside.first (exec_start _ _ _ s) (exec_start _ _ _ s) ?_
  have hbegin := beginning_start argument .image s
  refine Beside.bind (parallel_mount hbegin.toTandem s s (Alike.refl s)) fun told told' root _ hmounted => ?_
  obtain rfl := hmounted.2.1
  refine Parallel.bind (parallel_judgeMounted hbegin.toTandem).attempt fun judged judged' result result' hresult => ?_
  cases hresult with
  | error e => exact Parallel.silent_bind (silent_unmountSilently argument) fun _ => Parallel.throw _
  | ok hjudged =>
      refine Parallel.bind (parallel_unmountTold (hjudged.tandem hbegin.toTandem)) fun unmounted unmounted' _ _ htold => ?_
      have hkept := ((hmounted.kept _ _).append hjudged).append (htold.kept _ _)
      simpa only [String.append_assoc] using Reporter.parallel_finish hkept hbegin

/-- A tree that is judged at the end of a run. -/
theorem parallel_scanned (policy : Policy) (root : Path) (json json' : Bool) (h : Kept r r' told told' q q')
    (hbegin : Beginning r r') :
    Parallel (fun next next' => Closed (told ++ next) (told' ++ next'))
      (scanRoot ⟨policy, json⟩ root q >>= Reporter.finish) (scanRoot ⟨policy, json'⟩ root q' >>= Reporter.finish) := by
  refine Parallel.bind (parallel_scanRoot (h.tandem hbegin.toTandem)) fun _ _ _ _ htree => ?_
  simpa only [String.append_assoc] using Reporter.parallel_finish (h.append htree) hbegin

theorem bothForms_rootfs (policy : Policy) (argument : String) (skipLibraries : Bool) (s : Session) :
    BothForms (rootfs ⟨policy, false⟩ argument skipLibraries) (rootfs ⟨policy, true⟩ argument skipLibraries) s := by
  refine Beside.first (exec_files s) (exec_files s) (beside_guard fun _ => ?_)
  refine Beside.first (exec_start _ _ _ s) (exec_start _ _ _ s) ?_
  have hbegin := beginning_start (s.files.absolute argument).text .rootfs s
  cases skipLibraries with
  | true =>
      refine Beside.first (f := fun r => scanRoot _ _ r >>= Reporter.finish) rfl rfl ?_
      have hscanned := parallel_scanned policy (s.files.absolute argument) false true (.refl _ _) hbegin
      simp only [String.empty_append] at hscanned
      exact hscanned s s (Alike.refl s)
  | false =>
      refine Beside.bind (parallel_checkLibraries hbegin.toTandem s s (Alike.refl s)) fun _ _ _ _ hlibraries => ?_
      exact parallel_scanned policy _ false true hlibraries hbegin

theorem silent_makeScratch : Silent makeScratch := by
  intro s t halike
  have hget : ∀ s, exec (get : Run AuditError Session) s = (.ok s, s) := fun _ => rfl
  unfold makeScratch
  refine Beside.first (hget s) (hget t) ?_
  rw [halike.scratch]
  cases t.scratch with
  | error cause => exact Parallel.throw _ s t halike
  | ok directory =>
      have hmake : Silent (do Run.changeFiles (·.create directory .directory); return directory : Run AuditError Path) :=
        Parallel.silent_bind (Parallel.changeFiles _) fun _ => Parallel.pure ⟨rfl, rfl, rfl⟩
      exact hmake s t halike

theorem silent_unpack (package directory : Path) : Silent (unpack package directory) := silent_reply

theorem parallel_unpackAndScan {package directory : Path} (hbegin : Beginning r r') :
    Parallel Closed (unpackAndScan ⟨policy, json⟩ package directory r)
      (unpackAndScan ⟨policy, json'⟩ package directory r') := by
  refine Parallel.says_bind (Says.leave _) (Says.leave _) ?_
  refine hbegin.step_bind _ (Parallel.silent_bind (silent_unpack _ _) fun _ => hbegin.stepDone_bind _ ?_)
  have hunpacked := (Done.task .unpackPackage ()).kept r r'
  have hscanned := parallel_scanned policy directory json json' hunpacked hbegin
  simp only [String.append_assoc, String.empty_append] at hscanned ⊢
  exact hscanned

theorem bothForms_rpm (policy : Policy) (argument : String) (s : Session) :
    BothForms (rpm ⟨policy, false⟩ argument) (rpm ⟨policy, true⟩ argument) s := by
  refine Beside.first (exec_files s) (exec_files s) (beside_guard fun _ => ?_)
  refine Beside.first (exec_start _ _ _ s) (exec_start _ _ _ s) ?_
  have hbegin := beginning_start (s.files.absolute argument).text .rpm s
  refine Parallel.silent_bind silent_makeScratch (fun directory => ?_) s s (Alike.refl s)
  refine Parallel.bind (parallel_unpackAndScan hbegin).attempt fun told told' result result' hresult => ?_
  refine Parallel.silent_bind (Parallel.changeFiles _) fun _ => Parallel.mk ?_
  simpa only [String.append_empty] using hresult

/-- What follows the digest of a binary. -/
theorem parallel_judged (policy : Policy) (fs : FileSystem) (path : Path) (hbegin : Beginning r r') :
    Parallel Closed
      (do
        let result ← Run.logged (validate policy fs .rootDirectory path)
        let r ← r.binary ⟨path, result⟩
        r.finish : Run AuditError Bool)
      (do
        let result ← Run.logged (validate policy fs .rootDirectory path)
        let r ← r'.binary ⟨path, result⟩
        r.finish) := by
  refine Parallel.says_bind (Says.logged _) (Says.logged _) ?_
  refine Parallel.bind (parallel_binary hbegin.toTandem _) fun told told' q q' hkept => ?_
  simpa only [String.empty_append] using Reporter.parallel_finish hkept hbegin

/-- The digest goes into the document. -/
theorem exec_withDigest_document {report : Report} {path : Path} {digest : String}
    (h : s.files.sha256 path = .ok digest) :
    exec (withDigest ⟨true, report⟩ path) s = (.ok (Reporter.setSha256 ⟨true, report⟩ digest), s) := by
  rw [withDigest, if_pos rfl, exec_bind_of_ok (exec_files s), h]
  rfl

/-- If the binary can be read, then it is judged alike in both forms. -/
theorem bothForms_binary (policy : Policy) (argument : String) (s : Session)
    (hread : s.files.isFile (s.files.absolute argument) = true →
      ∃ data, s.files.read (s.files.absolute argument) = .ok data) :
    BothForms (binary ⟨policy, false⟩ argument) (binary ⟨policy, true⟩ argument) s := by
  refine Beside.first (exec_files s) (exec_files s) (beside_guard fun hfile => ?_)
  refine Beside.first (exec_start _ _ _ s) (exec_start _ _ _ s) ?_
  obtain ⟨data, hdata⟩ := hread hfile
  have hdigest := sha256_of_read hdata
  have hbegin := (beginning_start (s.files.absolute argument).text .binary s).setSha256 (Digest.Sha256.hexDigest data)
  refine Beside.first rfl (exec_withDigest_document hdigest) ?_
  exact parallel_judged policy _ _ hbegin s s (Alike.refl s)

/-! ## Binaries that cannot be read -/

/-- There is a regular file, which cannot be read for this cause. Then there is no digest either. -/
structure Unread (fs : FileSystem) (path : Path) (cause : IoError) (e : AuditError) : Prop where
  /-- It is a regular file. -/
  file : fs.isFile path = true
  /-- It cannot be read. -/
  read : fs.read path = .error cause
  /-- There is no digest. -/
  digest : fs.sha256 path = .error e

/-- What people are told of a file that cannot be read. -/
def unreadSteps (path : Path) (cause : IoError) : List Told :=
  [.ofReport ⟨path, .error (.unreadable (Path.rootDirectory.resolveUnder path) cause)⟩]

end Audit

/-- The two forms part: people are told that a file cannot be read, and there is no document. -/
structure Parted {ε : Type} (plain document : Except ε Bool × Session) (s : Session) (path : Path) (cause : IoError)
    (e : ε) : Prop where
  /-- The verdict is no success. -/
  plain_eq : plain.1 = .ok false
  /-- In the other form there is a failure. -/
  document_eq : document.1 = .error e
  /-- Nothing else is different afterwards. -/
  alike : Alike plain.2 document.2
  /-- People are told why. -/
  printed : plain.2.printed = s.printed ++ (transcript (Audit.unreadSteps path cause) ++ ("Validation failed" ++ "\n"))
  /-- No document is written. -/
  printed' : document.2.printed = s.printed

theorem Parted.adapt {ε ε' : Type} {x y : Run ε Bool} {path : Path} {cause : IoError} {e : ε}
    (h : Parted (exec x s) (exec y s) s path cause e) (f : ε → ε') :
    Parted (exec (adapt f x) s) (exec (adapt f y) s) s path cause (f e) := by
  rw [exec_adapt, exec_adapt]
  exact ⟨by rw [h.plain_eq]; rfl, by rw [h.document_eq]; rfl, h.alike, h.printed, h.printed'⟩

namespace Audit

/-- A file that cannot be read is told, and then the verdict. -/
theorem says_unread (policy : Policy) {fs : FileSystem} {path : Path} {cause : IoError} (report : Report)
    (h : fs.read (Path.rootDirectory.resolveUnder path) = .error cause) :
    Says (do
        let result ← Run.logged (validate policy fs .rootDirectory path)
        let r ← Reporter.binary ⟨false, report⟩ ⟨path, result⟩
        r.finish : Run AuditError Bool) false (transcript (unreadSteps path cause) ++ ("Validation failed" ++ "\n")) := by
  have hvalue : (validate policy fs .rootDirectory path).value =
      .error (.unreadable (Path.rootDirectory.resolveUnder path) cause) := by
    rw [validate, h]
  have hsuccess : (report.addAll (unreadSteps path cause)).success = false := Bool.and_false _
  have hfinish : Says (Reporter.finish ⟨false, report.addAll (unreadSteps path cause)⟩ : Run AuditError Bool) false
      ("Validation failed" ++ "\n") := by
    refine Says.of_text (hsuccess ▸ Reporter.says_finish ⟨false, report.addAll (unreadSteps path cause)⟩) ?_
    simp only [Reporter.closing, hsuccess]
    rfl
  refine Says.of_text ((Says.logged _).bind ?_) String.empty_append
  rw [hvalue]
  exact (Reporter.says_binary ⟨false, report⟩ _).bind hfinish

/-- **Of a binary that cannot be read there is no document**, and people are told so. -/
theorem parted_binary (policy : Policy) {argument : String} {cause : IoError} {e : AuditError}
    (h : Unread s.files (s.files.absolute argument) cause e) :
    Parted (exec (binary ⟨policy, false⟩ argument) s) (exec (binary ⟨policy, true⟩ argument) s) s
      (s.files.absolute argument) cause e := by
  let path := s.files.absolute argument
  let report : Report := { target := path.text, mode := .binary, checkedAt := s.time }
  have hbegin (json : Bool) : exec (binary ⟨policy, json⟩ argument) s =
      exec (do
        let r ← withDigest ⟨json, report⟩ path
        let result ← Run.logged (validate policy s.files .rootDirectory path)
        let r ← r.binary ⟨path, result⟩
        r.finish) s := by
    rw [binary, exec_bind_of_ok (exec_files s)]
    simp only [h.file]
    rfl
  have hread := (FileSystem.read_resolveUnder_root h.file (isAbsolute_absolute _ _)).trans h.read
  obtain ⟨s', hexec, hhears⟩ := says_unread policy report hread s
  have hplain : exec (binary ⟨policy, false⟩ argument) s = (.ok false, s') := by
    rw [hbegin]
    exact (exec_bind_of_ok (x := withDigest ⟨false, report⟩ path) rfl _).trans hexec
  have hdocument : exec (binary ⟨policy, true⟩ argument) s = (.error e, s) := by
    rw [hbegin, exec_bind_of_error (exec_withDigest_of_error rfl h.digest)]
  rw [hplain, hdocument]
  exact ⟨rfl, rfl, hhears.alike.symm, hhears.printed, rfl⟩

end Audit

open Audit

/-! ## Requests -/

/-- The target is a binary that is there and cannot be read. -/
def Target.Unread (fs : FileSystem) (path : Path) (cause : IoError) (e : AuditError) : Target → Prop
  | .binary argument => path = fs.absolute argument ∧ Audit.Unread fs path cause e
  | _ => False

theorem Target.Unread.parted {target : Target} {path : Path} {cause : IoError} {e : AuditError}
    (h : target.Unread s.files path cause e) (policy : Policy) :
    Parted (exec (target.run ⟨policy, false⟩) s) (exec (target.run ⟨policy, true⟩) s) s path cause e := by
  cases target with
  | binary argument =>
      obtain ⟨rfl, hunread⟩ := h
      exact parted_binary policy hunread
  | rpm path => exact h.elim
  | image reference => exact h.elim
  | rootfs root skipLibraries => exact h.elim

/-- Any other target is audited alike in both forms. -/
theorem Target.bothForms {target : Target} (h : ∀ path cause e, ¬target.Unread s.files path cause e)
    (policy : Policy) :
    BothForms (target.run ⟨policy, false⟩) (target.run ⟨policy, true⟩) s := by
  cases target with
  | binary argument =>
      refine bothForms_binary policy argument s fun hfile => ?_
      cases hread : s.files.read (s.files.absolute argument) with
      | ok data => exact ⟨data, rfl⟩
      | error cause =>
          obtain ⟨e, hdigest⟩ : ∃ e, s.files.sha256 (s.files.absolute argument) = .error e :=
            (sha256_of_unread hread).elim (fun h => ⟨_, h⟩) fun h => ⟨_, h⟩
          exact absurd ⟨rfl, hfile, hread, hdigest⟩ (h _ cause e)
  | rpm path => exact bothForms_rpm policy path s
  | image reference => exact bothForms_image policy reference s
  | rootfs root skipLibraries => exact bothForms_rootfs policy root skipLibraries s

namespace Options

variable {options : Options} {target : Target}

theorem exec_run_of_policy (h : options.policy s.files = .ok policy) (json : Bool) :
    exec ({ options with json }.run target) s = exec (adapt RequestError.audit (target.run ⟨policy, json⟩)) s := by
  have hpolicy : { options with json }.policy s.files = .ok policy := h
  rw [Options.run, exec_bind_of_ok (exec_files s), hpolicy]

/-- Where a binary cannot be read, the two forms part. -/
theorem parted {path : Path} {cause : IoError} {e : AuditError} (hpolicy : options.policy s.files = .ok policy)
    (hunread : target.Unread s.files path cause e) :
    Parted (exec ({ options with json := false }.run target) s) (exec ({ options with json := true }.run target) s) s
      path cause (.audit e) := by
  rw [exec_run_of_policy hpolicy, exec_run_of_policy hpolicy]
  exact (hunread.parted policy).adapt RequestError.audit

/-- **Everywhere else they go side by side**, also where there is no policy. -/
theorem forms (options : Options) (target : Target) (s : Session) :
    BothForms ({ options with json := false }.run target) ({ options with json := true }.run target) s ∨
      ∃ path cause e, target.Unread s.files path cause e ∧
        Parted (exec ({ options with json := false }.run target) s) (exec ({ options with json := true }.run target) s) s
          path cause (.audit e) := by
  have hpolicy (json : Bool) : { options with json }.policy s.files = options.policy s.files := rfl
  cases hloaded : options.policy s.files with
  | error e =>
      refine Or.inl (Beside.first (exec_files s) (exec_files s) ?_)
      simp only [hpolicy, hloaded]
      exact Parallel.throw e s s (Alike.refl s)
  | ok policy =>
      by_cases hunread : ∃ path cause e, target.Unread s.files path cause e
      · obtain ⟨path, cause, e, hunread⟩ := hunread
        exact Or.inr ⟨path, cause, e, hunread, parted hloaded hunread⟩
      · refine Or.inl (Beside.first (exec_files s) (exec_files s) ?_)
        simp only [hpolicy, hloaded]
        have hread : ∀ path cause e, ¬target.Unread s.files path cause e := fun path cause e h =>
          hunread ⟨path, cause, e, h⟩
        exact Beside.adapt (Target.bothForms hread policy) RequestError.audit

end Options

/-- **Asking for a document changes nothing but the form of the outcome.** With and without it, an audit comes to the
    same verdict or to the same failure, unless its target is a binary that cannot be read: of that there is no
    document, but a failure, where people are told that it cannot be judged. In any case the exit code is the same, the
    same tools are called in the same order, and the same files are left.

    If a document is written, then in the other form people are told steps and the same verdict. Read back, the
    document says that verdict and lists the binaries of these steps in their order, each with the status, and with
    the detail or the reasons, that people were told. The words that ask for the two forms are answered by these two
    results; one way to ask for the document is to put that option in front. -/
theorem presentation_only (options : Options) (target : Target) (s : Session) :
    let plain := exec ({ options with json := false }.run target) s
    let document := exec ({ options with json := true }.run target) s
    (plain.1 = document.1 ∨ ∃ path cause e, target.Unread s.files path cause e ∧
        Parted plain document s path cause (.audit e)) ∧
      (∀ policy path cause e, options.policy s.files = .ok policy → target.Unread s.files path cause e →
        Parted plain document s path cause (.audit e)) ∧
      (Answer.ofVerdict plain.1).exitCode = (Answer.ofVerdict document.1).exitCode ∧
      plain.2.calls = document.2.calls ∧ plain.2.files = document.2.files ∧
      (∀ success, document.1 = .ok success → plain.1 = .ok success ∧ ∃ steps report told written,
        plain.2.printed = s.printed ++ told ∧ document.2.printed = s.printed ++ written ∧
          Account steps report told written success) ∧
      (∀ words words', Request.parse words = some (.audit { options with json := false } target) →
        Request.parse words' = some (.audit { options with json := true } target) →
        exec (answer words) s = (.ok (.ofVerdict plain.1), plain.2) ∧
          exec (answer words') s = (.ok (.ofVerdict document.1), document.2)) ∧
      ∀ words, Request.parse words = some (.audit { options with json := false } target) →
        Request.parse ("--json" :: words) = some (.audit { options with json := true } target) := by
  intro plain document
  have hparted (policy : Policy) (path : Path) (cause : IoError) (e : AuditError)
      (hpolicy : options.policy s.files = .ok policy) (hunread : target.Unread s.files path cause e) :
      Parted plain document s path cause (.audit e) := Options.parted hpolicy hunread
  have hanswers (words words' : List String)
      (hwords : Request.parse words = some (.audit { options with json := false } target))
      (hwords' : Request.parse words' = some (.audit { options with json := true } target)) :
      exec (answer words) s = (.ok (.ofVerdict plain.1), plain.2) ∧
        exec (answer words') s = (.ok (.ofVerdict document.1), document.2) :=
    ⟨exec_answer hwords s, exec_answer hwords' s⟩
  rcases options.forms target s with ⟨told, written, hresults, halike, hprinted, hprinted'⟩ |
    ⟨path, cause, e, hunread, hthere⟩
  · have hsame : plain.1 = document.1 := hresults.eq fun _ _ hclosed => hclosed.1
    refine ⟨Or.inl hsame, hparted, by rw [hsame], halike.calls, halike.files, fun success hsuccess => ?_, hanswers,
      fun words => Request.parse_json_cons⟩
    obtain ⟨_, rfl, steps, report, haccount⟩ := hresults.exists_of_ok hsuccess
    exact ⟨hsame.trans hsuccess, steps, report, told, written, hprinted, hprinted', haccount⟩
  · refine ⟨Or.inr ⟨path, cause, e, hunread, hthere⟩, hparted, ?_, hthere.alike.calls, hthere.alike.files,
      fun success hsuccess => ?_, hanswers, fun words => Request.parse_json_cons⟩
    · rw [hthere.plain_eq, hthere.document_eq]
      rfl
    · rw [hthere.document_eq] at hsuccess
      cases hsuccess

/-- A script that is audited as a binary: both forms say that it is skipped. If it cannot be opened, then only the
    second form has something to complain of, but the exit code is one in both. -/
theorem presentation_only_script :
    let s := lonely ⟨#[0x23, 0x21]⟩
    let locked : Session := { s with files := { s.files with unopened := fun _ => some .permissionDenied } }
    let words := ["binary", "/r/s"]
    Request.parse words = some (.audit {} (.binary "/r/s")) ∧
      Request.parse ("--json" :: words) = some (.audit { json := true } (.binary "/r/s")) ∧
      (∃ steps report told written, (exec (answer words) s).2.printed = told ∧
        (exec (answer ("--json" :: words)) s).2.printed = written ∧ Account steps report told written true) ∧
      (exec (answer words) locked).1 = .ok ⟨1, none⟩ ∧
      (exec (answer ("--json" :: words)) locked).1 =
        .ok ⟨1, some (RequestError.audit (.unopened ⟨[0x2f, 0x72, 0x2f, 0x73]⟩ .permissionDenied)).line⟩ := by
  intro s locked words
  let file : Path := ⟨[0x2f, 0x72, 0x2f, 0x73]⟩
  have habsolute (refused : Location → Option IoError) :
      FileSystem.absolute { s.files with unopened := refused } "/r/s" = file := by cbv
  have hfile : s.files.absolute "/r/s" = file := habsolute fun _ => none
  have hisFile : s.files.isFile file = true := by cbv
  have hread : s.files.read (Path.resolveUnder .rootDirectory file) = .ok ⟨#[0x23, 0x21]⟩ := by cbv
  have hscript : inspect ⟨#[0x23, 0x21]⟩ = .notObject .script := by decide +kernel
  have hclean : (Target.binary "/r/s").Clean .builtIn s := by
    show s.files.isFile (s.files.absolute "/r/s") = true ∧
      Accepts .builtIn s.files .rootDirectory (s.files.absolute "/r/s")
    rw [hfile]
    refine ⟨hisFile, Or.inr ⟨.script, ?_⟩⟩
    rw [value_validate hread, judge, hscript]
    rfl
  have hsuccess : (exec (Options.run { json := true } (.binary "/r/s")) s).1 = .ok true :=
    (Options.run_eq_ok_true_iff _ _ s).mpr ⟨.builtIn, rfl, hclean⟩
  have hlocked : Target.Unread locked.files file .permissionDenied (.unopened file .permissionDenied)
      (.binary "/r/s") :=
    ⟨(habsolute _).symm, by cbv, by cbv, by cbv⟩
  have hwords : Request.parse words = some (.audit {} (.binary "/r/s")) := by decide +kernel
  obtain ⟨-, -, -, -, -, haccount, hanswers, hflag⟩ := presentation_only {} (.binary "/r/s") s
  have hwords' := hflag words hwords
  refine ⟨hwords, hwords', ?_, ?_⟩
  · obtain ⟨hplain, hdocument⟩ := hanswers words _ hwords hwords'
    obtain ⟨-, steps, report, told, written, hprinted, hprinted', haccount⟩ := haccount true hsuccess
    refine ⟨steps, report, told, written, ?_, ?_, haccount⟩
    · rw [hplain]
      exact hprinted.trans String.empty_append
    · rw [hdocument]
      exact hprinted'.trans String.empty_append
  · obtain ⟨-, hparted, -, -, -, -, hanswers, -⟩ := presentation_only {} (.binary "/r/s") locked
    obtain ⟨hplain, hdocument⟩ := hanswers words _ hwords hwords'
    have hparted := hparted .builtIn file .permissionDenied _ rfl hlocked
    rw [hplain, hdocument, hparted.plain_eq, hparted.document_eq]
    exact ⟨rfl, rfl⟩

end FipsAudit
