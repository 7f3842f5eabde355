import FipsAudit.Audit.Image
import FipsAudit.Proofs.Audit.Root
import Mathlib.Data.List.DropRight

/-!
# `FipsAudit.Proofs.Audit.Image` — what audits of images demand

The container tool is asked whether the image is there, fetches it if not, and names its root directory. The audit ends
with success exactly if all of this succeeds and the root is clean; unmounting does not count.

* `Output.Names`, `Audit.mountPoint_eq_iff` — the directory that the output of the tool names.
* `Provided`, `Rooted`, `Mounted` — an image that is there, one that gets a root directory, and both.
* `Audit.yields_mount` — mounting succeeds exactly then.
* `Audit.yields_image` — what the audit demands.
-/

namespace FipsAudit

open Run Session

variable {a : Audit} {image : String} {root : Path} {r : Reporter} {s : Session}

/-! ## Mount points -/

/-- The output consists of a name and of line ends behind it, with which the name itself does not end. -/
structure Output.Names (output : Output) (name : String) : Prop where
  /-- The name is followed by line ends only. -/
  text : ∃ n, Text.Utf8.decodeLossyChars output.stdout = name.toList ++ List.replicate n '\n'
  /-- None of them belongs to the name. -/
  last : name.toList.getLast? ≠ some '\n'

namespace Audit

/-- The output without the line ends behind it. -/
theorem toList_mountPoint (output : Output) :
    (mountPoint output).toList = (Text.Utf8.decodeLossyChars output.stdout).rdropWhile (· = '\n') :=
  String.toList_ofList

theorem rdropWhile_append_replicate (l : List Char) (n : Nat) :
    (l ++ List.replicate n '\n').rdropWhile (· = '\n') = l.rdropWhile (· = '\n') := by
  induction n with
  | zero => rw [List.replicate_zero, List.append_nil]
  | succ n ih => rw [List.replicate_succ', ← List.append_assoc, List.rdropWhile_concat_pos _ _ _ (by simp), ih]

/-- **The mount point is the name in the output**, of which there is only one. -/
theorem mountPoint_eq_iff {output : Output} {name : String} : mountPoint output = name ↔ output.Names name := by
  constructor
  · rintro rfl
    refine ⟨⟨((Text.Utf8.decodeLossyChars output.stdout).rtakeWhile (· = '\n')).length, ?_⟩, fun hlast => ?_⟩
    · have hends : (Text.Utf8.decodeLossyChars output.stdout).rtakeWhile (· = '\n') = List.replicate _ '\n' :=
        List.eq_replicate_of_mem fun c hc => by simpa using List.mem_rtakeWhile_imp hc
      rw [toList_mountPoint, ← hends, List.rdropWhile_append_rtakeWhile]
    · rw [toList_mountPoint] at hlast
      have hne := List.ne_nil_of_mem (List.mem_of_getLast? hlast)
      rw [List.getLast?_eq_some_getLast hne, Option.some.injEq] at hlast
      exact List.rdropWhile_last_not _ _ hne (by simp [hlast])
  · rintro ⟨⟨n, htext⟩, hlast⟩
    rw [← String.toList_inj, toList_mountPoint, htext, rdropWhile_append_replicate, List.rdropWhile_eq_self_iff]
    intro hne hend
    exact hlast (by rw [List.getLast?_eq_some_getLast hne, of_decide_eq_true hend])

/-- **There is none exactly if there is nothing but line ends.** -/
theorem mountPoint_eq_empty_iff {output : Output} :
    mountPoint output = "" ↔ ∀ c ∈ Text.Utf8.decodeLossyChars output.stdout, c = '\n' := by
  rw [← String.toList_eq_nil_iff, toList_mountPoint, List.rdropWhile_eq_nil_iff]
  simp only [decide_eq_true_eq]

end Audit

/-! ## Mounted images -/

/-- The call that asks whether an image is there. -/
abbrev existsCall (image : String) : Call := Audit.podmanCall ["image", "exists", image]

/-- The call that fetches an image. -/
abbrev pullCall (image : String) : Call := Audit.podmanCall ["pull", image]

/-- The call that gives an image a root directory. -/
abbrev mountCall (image : String) : Call := Audit.podmanCall ["image", "mount", image]

/-- The image is there, in the session that follows. -/
inductive Provided (image : String) (s : Session) : Session → Prop
  /-- The tool finds it. -/
  | found {output : Output} (found : s.Succeeds (existsCall image) output) :
      Provided image s (s.after (existsCall image))
  /-- The tool does not find it, and fetches it. -/
  | pulled {output output' : Output} (reply : s.replyTo (existsCall image) = .ok output)
      (missing : output.exitCode ≠ 0) (pulled : (s.after (existsCall image)).Succeeds (pullCall image) output') :
      Provided image s ((s.after (existsCall image)).after (pullCall image))

/-- The tool gives the image a root directory, in the session that follows. -/
inductive Rooted (image : String) (s : Session) : Path → Session → Prop
  /-- The tool names the directory. -/
  | named {output : Output} {name : String} (mounted : s.Succeeds (mountCall image) output)
      (named : output.Names name) (nonempty : name ≠ "") :
      Rooted image s (.ofString name) (s.after (mountCall image))

/-- The image is there and gets a root directory, in the session that follows. -/
def Mounted (image : String) (s : Session) (root : Path) (s' : Session) : Prop :=
  ∃ s₁, Provided image s s₁ ∧ Rooted image s₁ root s'

theorem quietStep_provided (image : String) : QuietStep (Provided image) := by
  intro s t s' halike h
  cases h with
  | found found => exact ⟨_, .found (found.alike halike), halike.after _⟩
  | pulled reply missing pulled =>
      have hreply := (halike.replyTo _).symm.trans reply
      exact ⟨_, .pulled hreply missing (pulled.alike (halike.after _)), (halike.after _).after _⟩

theorem quietStep_rooted (image : String) (root : Path) : QuietStep (Rooted image · root) := by
  intro s t s' halike h
  cases h with
  | named mounted named nonempty => exact ⟨_, .named (mounted.alike halike) named nonempty, halike.after _⟩

theorem quiet_exists_rooted (image : String) {Q : Path → Session → Prop} (hQ : ∀ root, Quiet (Q root)) :
    Quiet fun s => ∃ root s', Rooted image s root s' ∧ Q root s' :=
  fun _ _ halike => exists_congr fun root => (quietStep_rooted image root).exists_congr (hQ root) halike

namespace Audit

/-! ## Mounting -/

/-- The container tool does a task exactly if its call succeeds. -/
theorem yields_podman {task : ToolTask} {arguments : List String} {Q : Output → Session → Prop} :
    Yields (podman task arguments) s Q ↔
      ∃ output, s.Succeeds (podmanCall arguments) output ∧ Q output (s.after (podmanCall arguments)) :=
  yields_call_iff_succeeds

/-- An image that is not there is fetched. -/
theorem yields_pull {P : Session → Prop} (hP : Quiet P) :
    Yields (do
        r.stepDone "not found"
        r.step "pulling image"
        let _ ← podman .pullImage ["pull", image]
        r.stepDone "done") s (fun _ => P) ↔
      ∃ output, s.Succeeds (pullCall image) output ∧ P (s.after (pullCall image)) := by
  rw [yields_bind]
  refine (r.tells_stepDone _).yields_iff fun s₁ h₁ => ?_
  rw [yields_bind]
  refine (r.tells_step _).yields_iff fun s₂ h₂ => ?_
  have halike := h₁.trans h₂
  rw [yields_bind, yields_podman]
  refine exists_congr fun output => and_congr (succeeds_congr halike).symm ?_
  exact (r.tells_stepDone _).yields_iff fun s₃ h₃ => (hP _ _ ((halike.after _).trans h₃)).symm

/-- Providing an image succeeds exactly if the image is found or fetched. -/
theorem yields_provide {P : Session → Prop} (hP : Quiet P) :
    Yields (provide image r) s (fun _ => P) ↔ ∃ s', Provided image s s' ∧ P s' := by
  rw [provide, yields_bind]
  refine (r.tells_step _).yields_iff fun s₁ h₁ => ?_
  rw [(quietStep_provided image).exists_congr hP h₁, yields_bind, imageExists, yields_bind, yields_call]
  cases hreply : s₁.replyTo (existsCall image) with
  | error cause =>
      refine iff_of_false (yields_throw _) ?_
      rintro ⟨s', hprovided, -⟩
      cases hprovided with
      | found found => cases hreply.symm.trans found.reply
      | pulled reply => cases hreply.symm.trans reply
  | ok output =>
      show Yields (pure output.success) (s₁.after (existsCall image)) _ ↔ _
      rw [yields_pure]
      by_cases hzero : output.exitCode = 0
      · rw [if_pos (output.success_iff.mpr hzero)]
        refine (r.tells_stepDone _).yields_iff fun s₂ h₂ => ?_
        rw [← hP _ _ h₂]
        constructor
        · exact fun h => ⟨_, .found ⟨hreply, hzero⟩, h⟩
        · rintro ⟨s', hprovided, h⟩
          cases hprovided with
          | found found => exact h
          | pulled reply missing =>
              cases hreply.symm.trans reply
              exact absurd hzero missing
      · rw [if_neg (mt output.success_iff.mp hzero)]
        refine (yields_pull hP).trans ?_
        constructor
        · rintro ⟨output', hpulled, h⟩
          exact ⟨_, .pulled hreply hzero hpulled, h⟩
        · rintro ⟨s', hprovided, h⟩
          cases hprovided with
          | found found =>
              cases hreply.symm.trans found.reply
              exact absurd found.zero hzero
          | pulled reply missing pulled => exact ⟨_, pulled, h⟩

/-- An image that is there gets a root directory exactly if the tool names one. -/
theorem yields_rooted {Q : Path → Session → Prop} (hQ : ∀ root, Quiet (Q root)) :
    Yields (do
        r.step "mounting OCI image"
        let output ← podman .mountImage ["image", "mount", image]
        let root := mountPoint output
        if root.isEmpty then throw (.noMountPoint image)
        r.stepDone "done"
        return .ofString root) s Q ↔
      ∃ root s', Rooted image s root s' ∧ Q root s' := by
  rw [yields_bind]
  refine (r.tells_step _).yields_iff fun s₁ h₁ => ?_
  refine Iff.trans ?_ (quiet_exists_rooted image hQ s s₁ h₁).symm
  have hdone : ∀ (root : Path) (s' : Session), Yields (do
      r.stepDone "done"
      return root : Run AuditError Path) s' Q ↔ Q root s' := by
    intro root s'
    rw [yields_bind]
    refine (r.tells_stepDone _).yields_iff fun s₂ h₂ => ?_
    rw [yields_pure]
    exact (hQ root _ _ h₂).symm
  rw [yields_bind, yields_podman]
  constructor
  · rintro ⟨output, hmounted, h⟩
    by_cases hempty : (mountPoint output).isEmpty = true
    · simp only [if_pos hempty, yields_bind, yields_throw] at h
    · simp only [if_neg hempty] at h
      have hnonempty := mt String.isEmpty_iff.mpr hempty
      exact ⟨_, _, .named hmounted (mountPoint_eq_iff.mp rfl) hnonempty, (hdone _ _).mp h⟩
  · rintro ⟨root, s', hroot, h⟩
    cases hroot with
    | named mounted named nonempty =>
        refine ⟨_, mounted, ?_⟩
        obtain rfl := mountPoint_eq_iff.mpr named
        simp only [if_neg (mt String.isEmpty_iff.mp nonempty)]
        exact (hdone _ _).mpr h

/-- Mounting an image succeeds exactly if the image is there and gets a root directory. -/
theorem yields_mount {Q : Path → Session → Prop} (hQ : ∀ root, Quiet (Q root)) :
    Yields (mount image r) s Q ↔ ∃ root s', Mounted image s root s' ∧ Q root s' := by
  rw [mount, yields_bind]
  refine (yields_congr fun _ s₁ => yields_rooted hQ).trans ?_
  rw [yields_provide (quiet_exists_rooted image hQ)]
  constructor
  · rintro ⟨s₁, hprovided, root, s', hroot, h⟩
    exact ⟨root, s', ⟨s₁, hprovided, hroot⟩, h⟩
  · rintro ⟨root, s', ⟨s₁, hprovided, hroot⟩, h⟩
    exact ⟨s₁, hprovided, root, s', hroot, h⟩

/-! ## The audit -/

/-- Unmounting makes no difference to anything but the session. -/
theorem yields_unmountTold {p : Prop} : Yields (unmountTold image r) s (fun _ _ => p) ↔ p := by
  rw [unmountTold, yields_bind]
  refine (r.tells_step _).yields_iff fun s₁ _ => ?_
  rw [yields_bind, yields_attempt]
  split
  next => exact (r.tells_stepDone _).yields_iff fun _ _ => Iff.rfl
  next e _ =>
    rw [yields_bind]
    refine (r.tells_stepDone _).yields_iff fun s₂ _ => ?_
    exact (Tells.leave _).yields_iff fun _ _ => Iff.rfl

/-- A mounted image is judged like a root directory. -/
theorem yields_judgeMounted :
    Yields (a.judgeMounted root r) s (fun r' _ => r'.report.success = true) ↔
      r.report.success = true ∧ CleanRoot a.policy root s := by
  rw [judgeMounted, yields_bind]
  refine (Tells.leave _).yields_iff fun s₁ h₁ => ?_
  rw [yields_judgeRoot, quiet_cleanRoot a.policy root s s₁ h₁]

/-- The audit of an image demands that it can be mounted and that its root is clean. -/
theorem yields_image :
    Yields (a.image image) s (fun success _ => success = true) ↔
      ∃ root s', Mounted image s root s' ∧ CleanRoot a.policy root s' := by
  rw [Audit.image, yields_bind]
  refine Reporter.yields_start fun r hr => ?_
  rw [yields_bind, ← yields_mount (quiet_cleanRoot a.policy)]
  refine yields_congr fun root s₁ => ?_
  have hjudged : Yields (a.judgeMounted root r) s₁ (fun r' _ => r'.report.success = true) ↔
      CleanRoot a.policy root s₁ :=
    yields_judgeMounted.trans (and_iff_right hr)
  rw [yields_bind, yields_attempt]
  rcases hexec : exec (a.judgeMounted root r) s₁ with ⟨judged, s₂⟩
  cases judged with
  | ok r' =>
      rw [← hjudged, yields_iff_of_ok hexec]
      show Yields (unmountTold image r' >>= fun _ => r'.finish) s₂ _ ↔ _
      rw [yields_bind]
      simp only [Reporter.yields_finish]
      exact yields_unmountTold
  | error e =>
      refine iff_of_false ?_ (mt hjudged.mpr (not_yields_of_error hexec))
      show ¬ Yields (unmountSilently image >>= fun _ => throw e) s₂ _
      rw [yields_bind]
      rintro ⟨_, s₃, _, h⟩
      exact yields_throw e h

end Audit

end FipsAudit
