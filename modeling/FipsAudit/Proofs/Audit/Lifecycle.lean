import FipsAudit.Proofs.Audit.Image
import FipsAudit.Proofs.Ending

/-!
# `FipsAudit.Proofs.Audit.Lifecycle` — a mounted image is unmounted once

An audit of an image asks the container tool for the image, and goes on only if it gets a root directory. From then on
there is one way out: whatever the audit of the root comes to, the image is unmounted, and nothing is called after that.
What the tool says to it is of no consequence.

* `Preparation` — the calls up to the mounting of an image, and whether it is mounted then.
* `foundLibraries` — the libraries whose symbols are listed.
* `Audit.exec_image_of_alikeBut` — how an audit ends, whatever is said to the unmounting.
* `Audit.image_lifecycle` — the calls of an audit, from the first to the last.
-/

namespace FipsAudit

open Run Session

variable {a : Audit} {policy : Policy} {image library : String} {root : Path} {root? : Option Path} {r : Reporter}
  {s s₁ : Session} {hidden : Call} {asked : List Call}

/-! ## Before the audit -/

/-- The call that takes the root directory of an image away. -/
abbrev unmountCall (image : String) : Call := Audit.podmanCall ["image", "unmount", image]

/-- The image is asked to be mounted: whether it gets a root directory, and the session that follows. -/
inductive Mounting (image : String) (s : Session) : Option Path → Session → Prop
  /-- The tool does not mount it. -/
  | refused (refused : s.Fails (mountCall image)) : Mounting image s none (s.after (mountCall image))
  /-- The tool names no directory: it says nothing but line ends. -/
  | unnamed {output : Output} (mounted : s.Succeeds (mountCall image) output)
      (unnamed : ∀ c ∈ Text.Utf8.decodeLossyChars output.stdout, c = '\n') :
      Mounting image s none (s.after (mountCall image))
  /-- The tool names the directory. -/
  | named {output : Output} {name : String} (mounted : s.Succeeds (mountCall image) output)
      (named : output.Names name) (nonempty : name ≠ "") :
      Mounting image s (some (.ofString name)) (s.after (mountCall image))

/-- The image is asked for: the calls up to its mounting, the root directory that it gets, if any, and the session that
    follows. -/
inductive Preparation (image : String) (s : Session) : List Call → Option Path → Session → Prop
  /-- The tool cannot be asked. -/
  | unasked {cause : RunError} (lost : s.replyTo (existsCall image) = .error cause) :
      Preparation image s [existsCall image] none (s.after (existsCall image))
  /-- The image is not there, and it cannot be fetched. -/
  | unfetched {output : Output} (reply : s.replyTo (existsCall image) = .ok output) (missing : output.exitCode ≠ 0)
      (refused : (s.after (existsCall image)).Fails (pullCall image)) :
      Preparation image s [existsCall image, pullCall image] none
        ((s.after (existsCall image)).after (pullCall image))
  /-- The image is there. -/
  | found {output : Output} {root? : Option Path} {s' : Session} (found : s.Succeeds (existsCall image) output)
      (mounting : Mounting image (s.after (existsCall image)) root? s') :
      Preparation image s [existsCall image, mountCall image] root? s'
  /-- The image is not there, and it is fetched. -/
  | fetched {output output' : Output} {root? : Option Path} {s' : Session}
      (reply : s.replyTo (existsCall image) = .ok output) (missing : output.exitCode ≠ 0)
      (pulled : (s.after (existsCall image)).Succeeds (pullCall image) output')
      (mounting : Mounting image ((s.after (existsCall image)).after (pullCall image)) root? s') :
      Preparation image s [existsCall image, pullCall image, mountCall image] root? s'

/-- Mounting comes to an end. -/
theorem exists_mounting (image : String) (s : Session) : ∃ root? s', Mounting image s root? s' := by
  rcases s.succeeds_or_fails (mountCall image) with ⟨output, hmounted⟩ | hrefused
  · by_cases hnamed : Audit.mountPoint output = ""
    · exact ⟨_, _, .unnamed hmounted (Audit.mountPoint_eq_empty_iff.mp hnamed)⟩
    · exact ⟨_, _, .named hmounted (Audit.mountPoint_eq_iff.mp rfl) hnamed⟩
  · exact ⟨_, _, .refused hrefused⟩

/-- Every preparation comes to an end. -/
theorem exists_preparation (image : String) (s : Session) : ∃ asked root? s₁, Preparation image s asked root? s₁ := by
  cases hreply : s.replyTo (existsCall image) with
  | error cause => exact ⟨_, _, _, .unasked hreply⟩
  | ok output =>
      by_cases hzero : output.exitCode = 0
      · obtain ⟨root?, s₁, hmounting⟩ := exists_mounting image (s.after (existsCall image))
        exact ⟨_, _, _, .found ⟨hreply, hzero⟩ hmounting⟩
      · rcases (s.after (existsCall image)).succeeds_or_fails (pullCall image) with ⟨output', hpulled⟩ | hrefused
        · obtain ⟨root?, s₁, hmounting⟩ := exists_mounting image ((s.after (existsCall image)).after (pullCall image))
          exact ⟨_, _, _, .fetched hreply hzero hpulled hmounting⟩
        · exact ⟨_, _, _, .unfetched hreply hzero hrefused⟩

theorem Mounting.calls (h : Mounting image s root? s₁) : s₁.calls = s.calls ++ [mountCall image] := by
  cases h <;> rfl

/-- The calls of a preparation are those it says. -/
theorem Preparation.calls (h : Preparation image s asked root? s₁) : s₁.calls = s.calls ++ asked := by
  cases h with
  | unasked => rfl
  | unfetched => simp [calls_after]
  | found _ mounting => simp [mounting.calls, calls_after]
  | fetched _ _ _ mounting => simp [mounting.calls, calls_after]

/-- No call of a preparation unmounts. -/
theorem Preparation.unmountCall_not_mem (h : Preparation image s asked root? s₁) : unmountCall image ∉ asked := by
  cases h <;> simp [Audit.podmanCall]

namespace Audit

/-! ## The container tool -/

/-- What a task comes to by the reply to its call. -/
def judgeReply (task : ToolTask) : Except RunError Output → Except AuditError Output
  | .error cause => .error (.tool task cause)
  | .ok output => if output.success then .ok output else .error (.refused task output)

theorem judgeReply_of_succeeds {task : ToolTask} {c : Call} {output : Output} (h : s.Succeeds c output) :
    judgeReply task (s.replyTo c) = .ok output := by
  rw [h.reply, judgeReply, if_pos (output.success_iff.mpr h.zero)]

theorem judgeReply_of_fails {c : Call} (task : ToolTask) (h : s.Fails c) :
    ∃ e, judgeReply task (s.replyTo c) = .error e := by
  cases hreply : s.replyTo c with
  | error cause => exact ⟨_, rfl⟩
  | ok output =>
      have hrefused : ¬ output.success = true := fun hsuccess => h output ⟨hreply, output.success_iff.mp hsuccess⟩
      exact ⟨_, if_neg hrefused⟩

theorem exec_podman (task : ToolTask) (arguments : List String) (s : Session) :
    exec (podman task arguments) s =
      (judgeReply task (s.replyTo (podmanCall arguments)), s.after (podmanCall arguments)) := by
  rw [podman, exec_bind_of_ok (exec_call _ s)]
  cases s.replyTo (podmanCall arguments) with
  | error cause => rfl
  | ok output =>
      simp only [judgeReply]
      split <;> rfl

/-- What a task comes to can be looked at without failing. -/
theorem exec_attempt_podman (task : ToolTask) (arguments : List String) (s : Session) :
    exec (Run.attempt (podman task arguments) : Run AuditError _) s =
      (.ok (judgeReply task (s.replyTo (podmanCall arguments))), s.after (podmanCall arguments)) := by
  rw [exec_attempt, exec_podman]

theorem endsIn_podman (task : ToolTask) {arguments : List String} (hc : podmanCall arguments ≠ hidden) :
    EndsIn hidden (podman task arguments) s (judgeReply task (s.replyTo (podmanCall arguments)))
      (s.after (podmanCall arguments)) :=
  fun s₀ h => ⟨_, by rw [exec_podman, h.replyTo hc], h.after hc⟩

/-! ## Mounting -/

/-- What follows the preparation: the root directory is asked for. -/
theorem endsIn_rooted (h : Mounting image s root? s₁) (hc : mountCall image ≠ hidden) :
    ∃ result, result.toOption = root? ∧
      EndsIn hidden (do
        r.step "mounting OCI image"
        let output ← podman .mountImage ["image", "mount", image]
        let root := mountPoint output
        if root.isEmpty then throw (.noMountPoint image)
        r.stepDone "done"
        return .ofString root) s result s₁ := by
  cases h with
  | refused refused =>
      obtain ⟨e, he⟩ := judgeReply_of_fails .mountImage refused
      exact ⟨.error e, rfl, .tells (r.tells_step _) (.bind_error (he ▸ endsIn_podman .mountImage hc))⟩
  | @unnamed output mounted unnamed =>
      refine ⟨.error (.noMountPoint image), rfl, .tells (r.tells_step _) ?_⟩
      refine .bind (judgeReply_of_succeeds mounted ▸ endsIn_podman .mountImage hc) ?_
      simp only [if_pos (String.isEmpty_iff.mpr (mountPoint_eq_empty_iff.mpr unnamed))]
      exact .bind_error (.throw _)
  | @named output name mounted named nonempty =>
      obtain rfl := mountPoint_eq_iff.mpr named
      refine ⟨.ok _, rfl, .tells (r.tells_step _) ?_⟩
      refine .bind (judgeReply_of_succeeds mounted ▸ endsIn_podman .mountImage hc) ?_
      simp only [if_neg (mt String.isEmpty_iff.mp nonempty)]
      exact .tells (r.tells_stepDone _) (.pure _)

/-- The question whether an image is there ends with the exit code. -/
theorem endsIn_imageExists {output : Output} (reply : s.replyTo (existsCall image) = .ok output)
    (hc : existsCall image ≠ hidden) :
    EndsIn hidden (imageExists image) s (.ok output.success) (s.after (existsCall image)) := by
  refine (EndsIn.call hc).bind ?_
  rw [reply]
  exact .pure _

/-- An image that is there is not fetched. -/
theorem endsIn_provide_of_found {output : Output} (found : s.Succeeds (existsCall image) output)
    (hc : existsCall image ≠ hidden) :
    EndsIn hidden (provide image r) s (.ok ()) (s.after (existsCall image)) := by
  refine .tells (r.tells_step _) (.bind (endsIn_imageExists found.reply hc) ?_)
  rw [if_pos (output.success_iff.mpr found.zero)]
  exact .of_tells (r.tells_stepDone _)

/-- An image that is not there is fetched; whether it can be is what providing it comes to. -/
theorem endsIn_provide_of_missing {output : Output} (reply : s.replyTo (existsCall image) = .ok output)
    (missing : output.exitCode ≠ 0) (hask : existsCall image ≠ hidden) (hfetch : pullCall image ≠ hidden) :
    EndsIn hidden (provide image r) s
      ((judgeReply .pullImage ((s.after (existsCall image)).replyTo (pullCall image))).map fun _ => ())
      ((s.after (existsCall image)).after (pullCall image)) := by
  have hpull := endsIn_podman .pullImage hfetch (s := s.after (existsCall image))
  refine .tells (r.tells_step _) (.bind (endsIn_imageExists reply hask) ?_)
  rw [if_neg (mt output.success_iff.mp missing)]
  refine .tells (r.tells_stepDone _) (.tells (r.tells_step _) ?_)
  cases hjudged : judgeReply .pullImage ((s.after (existsCall image)).replyTo (pullCall image)) with
  | error e => exact .bind_error (hjudged ▸ hpull)
  | ok output' => exact .bind (hjudged ▸ hpull) (.of_tells (r.tells_stepDone _))

/-- Mounting an image ends as its preparation does. -/
theorem endsIn_mount (h : Preparation image s asked root? s₁) (hask : existsCall image ≠ hidden)
    (hfetch : pullCall image ≠ hidden) (hmount : mountCall image ≠ hidden) :
    ∃ result, result.toOption = root? ∧ EndsIn hidden (mount image r) s result s₁ := by
  cases h with
  | @unasked cause lost =>
      refine ⟨.error (.tool .imageExists cause), rfl, .bind_error (.tells (r.tells_step _) (.bind_error ?_))⟩
      refine (EndsIn.call hask).bind ?_
      rw [lost]
      exact .throw _
  | unfetched reply missing refused =>
      obtain ⟨e, he⟩ := judgeReply_of_fails .pullImage refused
      have hprovide := endsIn_provide_of_missing (r := r) reply missing hask hfetch
      rw [he] at hprovide
      exact ⟨.error e, rfl, .bind_error hprovide⟩
  | found found mounting =>
      obtain ⟨result, hresult, hrooted⟩ := endsIn_rooted (r := r) mounting hmount
      exact ⟨result, hresult, (endsIn_provide_of_found found hask).bind hrooted⟩
  | fetched reply missing pulled mounting =>
      obtain ⟨result, hresult, hrooted⟩ := endsIn_rooted (r := r) mounting hmount
      have hprovide := endsIn_provide_of_missing (r := r) reply missing hask hfetch
      rw [judgeReply_of_succeeds pulled] at hprovide
      exact ⟨result, hresult, hprovide.bind hrooted⟩

end Audit

/-! ## Listing symbols -/

/-- The libraries of a root; none if the pattern of their names is malformed. -/
def foundLibraries (policy : Policy) (fs : FileSystem) (root : Path) : List String :=
  match Pattern.parse policy.cryptoLibraryPattern with
  | .error _ => []
  | .ok pattern => fs.libraries root policy.libraryDirs pattern

/-- An operation lists the symbols of libraries, one after the other, and calls nothing else. It lists those of all
    libraries, unless it fails. -/
structure Lists (policy : Policy) (root : Path) (libraries : List String) {ε α : Type} (result : Except ε α)
    (s t : Session) (listed : List String) : Prop where
  /-- The first libraries. -/
  first : listed <+: libraries
  /-- All of them. -/
  all : (∃ a, result = .ok a) → listed = libraries
  /-- One call for each. -/
  calls : t.calls = s.calls ++ listed.map (listingCall policy root)

/-- Listing the symbols of a library does not unmount. -/
theorem listingCall_ne_unmountCall (policy : Policy) (root : Path) (library image : String) :
    listingCall policy root library ≠ unmountCall image := by
  intro h
  have harguments := congrArg (·.arguments.length) h
  simp [listingCall, Audit.podmanCall] at harguments

section Listing

variable (hlisting : ∀ library, listingCall policy root library ≠ hidden)
include hlisting

theorem endsIn_checkLibrary (s : Session) (library : String) :
    ∃ result,
      EndsIn hidden (checkLibrary policy root library) s result (s.after (listingCall policy root library)) := by
  cases hreply : s.replyTo (listingCall policy root library) with
  | error cause =>
      refine ⟨.error (.listing library cause), .bind (.call (hlisting library)) ?_⟩
      rw [hreply]
      exact .throw _
  | ok output =>
      refine ⟨.ok (judgeListing policy library output), .bind (.call (hlisting library)) ?_⟩
      rw [hreply]
      exact .tells (Tells.leave _) (.pure _)

/-- Libraries are checked one after the other, until a check fails. -/
theorem endsIn_checkLibraries (s : Session) (libraries : List String) :
    ∃ result t listed, EndsIn hidden (checkLibraries policy root libraries) s result t ∧
      Lists policy root libraries result s t listed := by
  induction libraries generalizing s with
  | nil => exact ⟨.ok [], s, [], .pure _, ⟨List.prefix_refl _, fun _ => rfl, by simp⟩⟩
  | cons library rest ih =>
      obtain ⟨checked, hchecked⟩ := endsIn_checkLibrary hlisting s library
      cases checked with
      | error e =>
          refine ⟨.error e, _, [library], .bind_error hchecked, ⟨?_, ?_, by simp [calls_after]⟩⟩
          · exact List.cons_prefix_cons.mpr ⟨rfl, List.nil_prefix⟩
          · rintro ⟨_, hok⟩
            cases hok
      | ok first =>
          obtain ⟨result, t, listed, hrest, hlists⟩ := ih (s.after (listingCall policy root library))
          have hcalls : t.calls = s.calls ++ (library :: listed).map (listingCall policy root) := by
            rw [hlists.calls, calls_after, List.map_cons, List.append_assoc, List.singleton_append]
          have hfirst : library :: listed <+: library :: rest := List.cons_prefix_cons.mpr ⟨rfl, hlists.first⟩
          cases result with
          | error e =>
              refine ⟨.error e, t, library :: listed, hchecked.bind (.bind_error hrest), ⟨hfirst, ?_, hcalls⟩⟩
              rintro ⟨_, hok⟩
              cases hok
          | ok violations =>
              refine ⟨.ok _, t, library :: listed, hchecked.bind (hrest.bind (.pure _)), ⟨hfirst, ?_, hcalls⟩⟩
              exact fun _ => congrArg _ (hlists.all ⟨_, rfl⟩)

/-- A scan for libraries lists the symbols of those that it finds. -/
theorem endsIn_scanLibraries (s : Session) :
    ∃ result t listed, EndsIn hidden (scanLibraries policy root) s result t ∧
      Lists policy root (foundLibraries policy s.files root) result s t listed := by
  unfold scanLibraries foundLibraries
  cases Pattern.parse policy.cryptoLibraryPattern with
  | error fault =>
      exact ⟨.error (.pattern fault), s, [], .throw _, ⟨List.prefix_refl _, fun _ => rfl, by simp⟩⟩
  | ok pattern =>
      obtain ⟨result, t, listed, hchecked, hlists⟩ :=
        endsIn_checkLibraries hlisting s (s.files.libraries root policy.libraryDirs pattern)
      cases result with
      | error e =>
          exact ⟨.error e, t, listed, EndsIn.files.bind (.bind_error hchecked), hlists.first, by simp, hlists.calls⟩
      | ok violations =>
          exact ⟨.ok _, t, listed, EndsIn.files.bind (hchecked.bind (.pure _)), hlists.first,
            fun _ => hlists.all ⟨_, rfl⟩, hlists.calls⟩

end Listing

namespace Audit

/-- The scan of a tree calls nothing. -/
theorem endsIn_scanRoot (a : Audit) (root : Path) (r : Reporter) (s : Session) :
    ∃ result, EndsIn hidden (a.scanRoot root r) s result s := by
  obtain ⟨r', htells, -⟩ := tells_tellReports r (scanTree a.policy s.files root).reports
  cases houtcome : (scanTree a.policy s.files root).outcome with
  | error cause =>
      refine ⟨.error (.walk cause), .tells (Tells.leave _) (EndsIn.files.bind (.tells htells ?_))⟩
      rw [houtcome]
      exact .throw _
  | ok summary =>
      refine ⟨.ok r', .tells (Tells.leave _) (EndsIn.files.bind (.tells htells ?_))⟩
      rw [houtcome]
      exact .tells (Tells.leave _) (.pure _)

/-- The audit of a mounted image lists symbols and calls nothing else, however it ends. -/
theorem endsIn_judgeMounted (hlisting : ∀ library, listingCall a.policy root library ≠ hidden) (r : Reporter)
    (s : Session) :
    ∃ result t listed, EndsIn hidden (a.judgeMounted root r) s result t ∧
      Lists a.policy root (foundLibraries a.policy s.files root) result s t listed := by
  obtain ⟨scanned, t, listed, hscanned, hlists⟩ := endsIn_scanLibraries hlisting s
  have hadapted := hscanned.adapt (AuditError.libraries root)
  cases scanned with
  | error e =>
      exact ⟨_, t, listed, .tells (Tells.leave _) (.bind_error (.bind_error hadapted)), hlists.first, by simp,
        hlists.calls⟩
  | ok report =>
      let reported : Reporter := { r with report := r.report.addLibraries (.ofReport report) }
      obtain ⟨result, htree⟩ : ∃ result, EndsIn hidden (a.scanRoot root reported) t result t :=
        endsIn_scanRoot a root reported t
      exact ⟨result, t, listed,
        .tells (Tells.leave _) (.bind (.bind hadapted (.of_tells (r.tells_libcrypto report))) htree), hlists.first,
        fun _ => hlists.all ⟨_, rfl⟩, hlists.calls⟩

/-! ## After the audit -/

/-- Unmounting is one call, and it never fails. -/
theorem exec_unmountSilently (image : String) (s : Session) :
    ∃ s', exec (unmountSilently image) s = (.ok (), s') ∧ s'.calls = s.calls ++ [unmountCall image] := by
  rw [unmountSilently, exec_bind_of_ok (exec_attempt_podman _ _ s)]
  cases judgeReply .unmountImage (s.replyTo (unmountCall image)) with
  | ok output => exact ⟨_, rfl, rfl⟩
  | error e => exact ⟨_, rfl, rfl⟩

/-- So it is when the step is told. -/
theorem exec_unmountTold (image : String) (r : Reporter) (s : Session) :
    ∃ s', exec (unmountTold image r) s = (.ok (), s') ∧ s'.calls = s.calls ++ [unmountCall image] := by
  obtain ⟨s₁, hstep, halike₁⟩ : ∃ s₁, exec (r.step "unmounting OCI image" : Run AuditError Unit) s = (.ok (), s₁) ∧
      Alike s s₁ := r.tells_step _ s
  rw [unmountTold, exec_bind_of_ok hstep, exec_bind_of_ok (exec_attempt_podman _ _ s₁), halike₁.calls]
  -- However the call ended, telling it is all that is left.
  cases judgeReply .unmountImage (s₁.replyTo (unmountCall image)) with
  | ok output =>
      have htells : Tells (r.stepDone "done" : Run AuditError Unit) () := r.tells_stepDone _
      obtain ⟨s₂, htold, halike₂⟩ := htells (s₁.after (unmountCall image))
      exact ⟨s₂, htold, halike₂.calls.symm⟩
  | error e =>
      have htells : Tells (do r.stepDone "failed"; Run.note ⟨.warn, e.line⟩ : Run AuditError Unit) () :=
        (r.tells_stepDone _).bind (Tells.leave _)
      obtain ⟨s₂, htold, halike₂⟩ := htells (s₁.after (unmountCall image))
      exact ⟨s₂, htold, halike₂.calls.symm⟩

/-- After the audit of the root there is one call, and what was found stays the result. -/
theorem exec_unmounted (image : String) (judged : Except AuditError Reporter) (s : Session) :
    ∃ s', exec (match judged with
      | .ok r => do
        unmountTold image r
        r.finish
      | .error e => do
        unmountSilently image
        throw e : Run AuditError Bool) s = (judged.map (·.report.success), s') ∧
      s'.calls = s.calls ++ [unmountCall image] := by
  cases judged with
  | ok r =>
      obtain ⟨s₁, hunmount, hcalls⟩ := exec_unmountTold image r s
      obtain ⟨s₂, hfinish, halike⟩ : ∃ s₂, exec (r.finish : Run AuditError Bool) s₁ = (.ok r.report.success, s₂) ∧
          Alike s₁ s₂ := r.tells_finish s₁
      exact ⟨s₂, (exec_bind_of_ok hunmount _).trans hfinish, halike.calls.symm.trans hcalls⟩
  | error e =>
      obtain ⟨s₁, hunmount, hcalls⟩ := exec_unmountSilently image s
      exact ⟨s₁, (exec_bind_of_ok hunmount _).trans rfl, hcalls⟩

theorem exec_start (json : Bool) (target : String) (mode : Mode) (s : Session) :
    exec (Reporter.start json target mode : Run AuditError Reporter) s =
      (.ok ⟨json, { target, mode, checkedAt := s.time }⟩, s) := rfl

/-- **How the audit of an image ends**, whatever is said to the unmounting. -/
theorem exec_image_of_alikeBut (a : Audit) (h : Preparation image s asked root? s₁) :
    ∃ result ending, (∀ s₀, AlikeBut (unmountCall image) s s₀ → s.time = s₀.time →
        (exec (a.image image) s₀).1 = result ∧ (exec (a.image image) s₀).2.calls = s₁.calls ++ ending) ∧
      match root? with
      | none => (∃ e, result = .error e) ∧ ending = []
      | some root => ∃ listed, listed <+: foundLibraries a.policy s₁.files root ∧
          ((∃ success, result = .ok success) → listed = foundLibraries a.policy s₁.files root) ∧
          ending = listed.map (listingCall a.policy root) ++ [unmountCall image] := by
  let r : Reporter := ⟨a.json, { target := image, mode := .image, checkedAt := s.time }⟩
  have hexists : existsCall image ≠ unmountCall image := by simp [podmanCall]
  have hpull : pullCall image ≠ unmountCall image := by simp [podmanCall]
  have hmount : mountCall image ≠ unmountCall image := by simp [podmanCall]
  obtain ⟨mounted, hmounted, hends⟩ := endsIn_mount (r := r) h hexists hpull hmount
  cases mounted with
  | error e =>
      obtain rfl : none = root? := hmounted
      refine ⟨.error e, [], fun s₀ halike htime => ?_, ⟨e, rfl⟩, rfl⟩
      obtain ⟨t₀, hexec, halike'⟩ := hends s₀ halike
      rw [Audit.image, exec_bind_of_ok (exec_start _ _ _ s₀), ← htime, exec_bind_of_error hexec]
      exact ⟨rfl, by rw [← halike'.calls, List.append_nil]⟩
  | ok root =>
      obtain rfl : some root = root? := hmounted
      obtain ⟨judged, t, listed, hjudged, hlists⟩ := endsIn_judgeMounted (a := a)
        (fun library => listingCall_ne_unmountCall a.policy root library image) r s₁
      refine ⟨judged.map (·.report.success), _, fun s₀ halike htime => ?_, listed, hlists.first, ?_, rfl⟩
      · obtain ⟨s₂, hexec, halike₂⟩ := hends s₀ halike
        obtain ⟨t₀, hexec', halike'⟩ := hjudged s₂ halike₂
        obtain ⟨t₁, hunmounted, hcalls⟩ := exec_unmounted image judged t₀
        have hattempt : exec (Run.attempt (a.judgeMounted root r) : Run AuditError _) s₂ = (.ok judged, t₀) := by
          rw [exec_attempt, hexec']
        have himage : exec (a.image image) s₀ = (judged.map (·.report.success), t₁) := by
          rw [Audit.image, exec_bind_of_ok (exec_start _ _ _ s₀), ← htime, exec_bind_of_ok hexec,
            exec_bind_of_ok hattempt]
          exact hunmounted
        rw [himage, hcalls, ← halike'.calls, hlists.calls, List.append_assoc]
        exact ⟨rfl, rfl⟩
      · rintro ⟨success, hsuccess⟩
        refine hlists.all ?_
        cases judged with
        | ok r => exact ⟨r, rfl⟩
        | error e => cases hsuccess

/-- **The calls of an audit of an image, from the first to the last.** The container tool is asked for the image. If
    that does not get it a root directory, the audit fails, and the image is not unmounted. If it does, the symbols of
    its libraries are listed, of all of them unless the audit fails; then the image is unmounted, once, and nothing is
    called after that. What the tool says to the unmounting makes no difference to the result. -/
theorem image_lifecycle (a : Audit) (image : String) (s : Session) :
    (∃ asked root? s₁, Preparation image s asked root? s₁ ∧ unmountCall image ∉ asked ∧
      match root? with
      | none => (∃ e, (exec (a.image image) s).1 = .error e) ∧ (exec (a.image image) s).2.calls = s.calls ++ asked
      | some root => ∃ listed, listed <+: foundLibraries a.policy s₁.files root ∧
          ((∃ success, (exec (a.image image) s).1 = .ok success) → listed = foundLibraries a.policy s₁.files root) ∧
          unmountCall image ∉ listed.map (listingCall a.policy root) ∧
          (exec (a.image image) s).2.calls =
            s.calls ++ asked ++ listed.map (listingCall a.policy root) ++ [unmountCall image]) ∧
    ∀ answer, (exec (a.image image) (s.answering (unmountCall image) answer)).1 = (exec (a.image image) s).1 := by
  obtain ⟨asked, root?, s₁, hprepared⟩ := exists_preparation image s
  obtain ⟨result, ending, hends, hending⟩ := exec_image_of_alikeBut a hprepared
  obtain ⟨hresult, hcalls⟩ := hends s (.refl _ s) rfl
  rw [hprepared.calls] at hcalls
  refine ⟨⟨asked, root?, s₁, hprepared, hprepared.unmountCall_not_mem, ?_⟩, fun answer => ?_⟩
  · rw [hresult, hcalls]
    cases root? with
    | none =>
        obtain ⟨herror, rfl⟩ := hending
        exact ⟨herror, List.append_nil _⟩
    | some root =>
        obtain ⟨listed, hfirst, hall, rfl⟩ := hending
        refine ⟨listed, hfirst, hall, ?_, (List.append_assoc _ _ _).symm⟩
        rw [List.mem_map]
        rintro ⟨library, -, hlisting⟩
        exact listingCall_ne_unmountCall a.policy root library image hlisting
  · rw [hresult]
    exact (hends _ (alikeBut_answering s _ answer) rfl).1

end Audit

end FipsAudit
