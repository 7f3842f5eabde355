import FipsAudit.Proofs.Audit.Lifecycle
import FipsAudit.Proofs.Transcript

/-!
# `FipsAudit.Proofs.Audit.Tandem` — the parts of a run, told in two forms

A run is told to people or written as a document. Here each of its parts is followed in both forms, side by side: the
reporters go through the same steps, the same tools are called, and what people are told are tasks, and the steps that
the reporters keep.

* `Tandem` — the reporters of the two forms.
* `Done`, `Kept` — what a part of a run has told, by what it delivers.
* `Audit.parallel_mount`, `Audit.parallel_unmountTold` — tasks on the way.
* `Audit.parallel_checkLibraries`, `Audit.parallel_scanRoot`, `Audit.parallel_binary` — what is judged.
-/

namespace FipsAudit

open Run Session

/-! ## Reporters -/

/-- Two reporters of one run: the first tells people, the second makes a document. -/
structure Tandem (r r' : Reporter) : Prop where
  /-- The first does not make a document. -/
  plain : r.json = false
  /-- The second does. -/
  document : r'.json = true
  /-- Both know the same success. -/
  success : r.report.success = r'.report.success

namespace Tandem

variable {r r' : Reporter}

theorem aloud (h : Tandem r r') (text : String) : r.aloud text = text := by
  rw [Reporter.aloud, h.plain]
  rfl

theorem aloud' (h : Tandem r r') (text : String) : r'.aloud text = "" := by
  rw [Reporter.aloud, h.document]
  rfl

/-- Both reporters go through the same steps. -/
theorem addAll (h : Tandem r r') (steps : List Told) : Tandem (r.addAll steps) (r'.addAll steps) :=
  ⟨h.plain, h.document, Report.success_addAll h.success steps⟩

variable {α β : Type} {S : Relation α β} {f : Unit → Run AuditError α} {g : Unit → Run AuditError β}

theorem step_bind (h : Tandem r r') (what : String)
    (hfg : Parallel (fun next => S (Reporter.stepText what ++ next)) (f ()) (g ())) :
    Parallel S (r.step what >>= f) (r'.step what >>= g) := by
  refine Parallel.says_bind (r.says_step what) (r'.says_step what) ?_
  rw [h.aloud, h.aloud']
  simpa only [String.empty_append] using hfg

theorem stepDone_bind (h : Tandem r r') (status : String)
    (hfg : Parallel (fun next => S (Reporter.doneText status ++ next)) (f ()) (g ())) :
    Parallel S (r.stepDone status >>= f) (r'.stepDone status >>= g) := by
  refine Parallel.says_bind (r.says_stepDone status) (r'.says_stepDone status) ?_
  rw [h.aloud, h.aloud']
  simpa only [String.empty_append] using hfg

theorem stepDone (h : Tandem r r') (status : String) {S : Relation Unit Unit}
    (hS : S (Reporter.doneText status) "" () ()) :
    Parallel S (r.stepDone status : Run AuditError Unit) (r'.stepDone status) := by
  refine Parallel.of_says (r.says_stepDone status) (r'.says_stepDone status) ?_
  rwa [h.aloud, h.aloud']

end Tandem

/-! ## Tasks -/

/-- Tasks were told on the way to the same result. -/
def Done {α : Type} : Relation α α := fun told told' a b =>
  told' = "" ∧ a = b ∧ ∃ tasks : List Task, told = transcript (tasks.map .task)

theorem Done.append {α β : Type} {told told' next next' : String} {a b : α} {c d : β} (h : Done told told' a b)
    (h' : Done next next' c d) : Done (told ++ next) (told' ++ next') c d := by
  obtain ⟨rfl, -, tasks, rfl⟩ := h
  obtain ⟨rfl, hcd, tasks', rfl⟩ := h'
  exact ⟨rfl, hcd, tasks ++ tasks', by rw [List.map_append, transcript_append]⟩

theorem transcript_map_task_cons (t : Task) (tasks : List Task) :
    transcript ((t :: tasks).map .task) =
      Reporter.stepText t.title ++ (Reporter.doneText t.result ++ transcript (tasks.map .task)) := by
  rw [List.map_cons, transcript_cons, ← Reporter.stepText_append_doneText, String.append_assoc]

/-- One task was told. -/
theorem Done.task {α : Type} (t : Task) (a : α) :
    Done (Reporter.stepText t.title ++ Reporter.doneText t.result) "" a a :=
  ⟨rfl, rfl, [t], by rw [transcript_map_task_cons, List.map_nil, transcript_nil, String.append_empty]⟩

namespace Audit

variable {image : String} {r r' : Reporter}

theorem silent_podman (task : ToolTask) (arguments : List String) : Silent (podman task arguments) := silent_reply

/-- What a task comes to can be looked at in silence. -/
theorem silent_attempt_podman (task : ToolTask) (arguments : List String) :
    Silent (Run.attempt (podman task arguments) : Run AuditError (Except AuditError Output)) := by
  intro s t halike
  refine ⟨"", "", ?_, ?_, ?_, ?_⟩
  · rw [exec_attempt_podman, exec_attempt_podman, halike.replyTo]
    exact .ok ⟨rfl, rfl, rfl⟩
  · rw [exec_attempt_podman, exec_attempt_podman]
    exact halike.after _
  · rw [exec_attempt_podman]
    exact String.append_empty.symm
  · rw [exec_attempt_podman]
    exact String.append_empty.symm

theorem silent_imageExists (image : String) : Silent (imageExists image) := by
  refine Parallel.silent_bind (Parallel.call _) fun reply => ?_
  cases reply with
  | error cause => exact Parallel.throw _
  | ok output => exact Parallel.pure ⟨rfl, rfl, rfl⟩

theorem parallel_provide (h : Tandem r r') : Parallel Done (provide image r) (provide image r') := by
  refine h.step_bind _ (Parallel.silent_bind (silent_imageExists image) fun found => ?_)
  cases found with
  | true => exact h.stepDone _ (Done.task (.findImage true) ())
  | false =>
      refine h.stepDone_bind _ (h.step_bind _ (Parallel.silent_bind (silent_podman _ _) fun _ => ?_))
      refine h.stepDone _ ?_
      have htold := (Done.task (.findImage false) ()).append (Done.task .pullImage ())
      rw [String.append_assoc] at htold
      exact htold

theorem parallel_mount (h : Tandem r r') : Parallel Done (mount image r) (mount image r') := by
  refine Parallel.bind (parallel_provide h) fun told told' _ _ hprovided => ?_
  refine h.step_bind _ (Parallel.silent_bind (silent_podman _ _) fun output => ?_)
  simp only
  split
  · exact Parallel.throw _
  · refine h.stepDone_bind _ (Parallel.pure ?_)
    have htold := hprovided.append (Done.task .mountImage (Path.ofString (mountPoint output)))
    rw [String.append_empty]
    exact htold

/-- Unmounting is told, whether it is done or not. -/
theorem parallel_unmountTold (h : Tandem r r') : Parallel Done (unmountTold image r) (unmountTold image r') := by
  refine h.step_bind _ (Parallel.silent_bind (silent_attempt_podman _ _) fun result => ?_)
  cases result with
  | ok output => exact h.stepDone _ (Done.task (.unmountImage true) ())
  | error e =>
      refine h.stepDone_bind _ (Parallel.of_says (Says.leave _) (Says.leave _) ?_)
      rw [String.append_empty]
      exact Done.task (.unmountImage false) ()

end Audit

/-! ## Entries -/

/-- The step is that of a file with its outcome, if it is about a binary at all. -/
def Told.Faithful : Told → Prop
  | .binary e => ∃ report : BinaryReport, e = .ofReport report
  | _ => True

/-- Steps were told, and both reporters have gone through them. -/
def Kept (r r' : Reporter) : Relation Reporter Reporter := fun told told' q q' =>
  told' = "" ∧ ∃ steps : List Told, told = transcript steps ∧ (∀ t ∈ steps, t.Faithful) ∧
    q = r.addAll steps ∧ q' = r'.addAll steps

theorem Reporter.addAll_append (r : Reporter) (l m : List Told) : r.addAll (l ++ m) = (r.addAll l).addAll m := by
  rw [addAll, Report.addAll_append]
  rfl

/-- Tasks are not kept. -/
theorem Reporter.addAll_tasks (r : Reporter) (tasks : List Task) : r.addAll (tasks.map .task) = r := by
  induction tasks with
  | nil => rfl
  | cons t rest ih => exact ih

section Kept

variable {r r' p p' q q' : Reporter} {told told' next next' : String}

theorem Kept.refl (r r' : Reporter) : Kept r r' "" "" r r' := ⟨rfl, [], rfl, by simp, rfl, rfl⟩

theorem Kept.append (h : Kept r r' told told' p p') (h' : Kept p p' next next' q q') :
    Kept r r' (told ++ next) (told' ++ next') q q' := by
  obtain ⟨rfl, steps, rfl, hfaithful, rfl, rfl⟩ := h
  obtain ⟨rfl, steps', rfl, hfaithful', rfl, rfl⟩ := h'
  refine ⟨rfl, steps ++ steps', (transcript_append _ _).symm, ?_, ?_, ?_⟩
  · exact List.forall_mem_append.mpr ⟨hfaithful, hfaithful'⟩
  · rw [Reporter.addAll_append]
  · rw [Reporter.addAll_append]

/-- Tasks are steps that the reporters do not keep. -/
theorem Done.kept {α : Type} {a b : α} (h : Done told told' a b) (r r' : Reporter) : Kept r r' told told' r r' := by
  obtain ⟨rfl, -, tasks, rfl⟩ := h
  refine ⟨rfl, tasks.map .task, rfl, ?_, (r.addAll_tasks tasks).symm, (r'.addAll_tasks tasks).symm⟩
  intro t ht
  obtain ⟨task, -, rfl⟩ := List.mem_map.mp ht
  trivial

/-- Reporters that have gone through the same steps are still of one run. -/
theorem Kept.tandem (h : Kept r r' told told' q q') (htandem : Tandem r r') : Tandem q q' := by
  obtain ⟨-, steps, -, -, rfl, rfl⟩ := h
  exact htandem.addAll steps

end Kept

namespace Audit

variable {policy : Policy} {root : Path} {json json' : Bool} {r r' : Reporter}

theorem parallel_checkLibraries (h : Tandem r r') :
    Parallel (Kept r r') (checkLibraries ⟨policy, json⟩ root r) (checkLibraries ⟨policy, json'⟩ root r') := by
  refine Parallel.silent_bind ((scanLibraries_silent policy root).adapt _) fun report => ?_
  refine Parallel.of_says (r.says_libcrypto report) (r'.says_libcrypto report) ?_
  rw [h.aloud, h.aloud']
  exact ⟨rfl, [.libraries (.ofReport report)], rfl, by simp [Told.Faithful], rfl, rfl⟩

theorem parallel_binary (h : Tandem r r') (report : BinaryReport) :
    Parallel (Kept r r') (r.binary report : Run AuditError Reporter) (r'.binary report) := by
  refine Parallel.of_says (r.says_binary report) (r'.says_binary report) ?_
  rw [h.aloud, h.aloud']
  refine ⟨rfl, [.ofReport report], rfl, ?_, rfl, rfl⟩
  intro t ht
  rw [List.mem_singleton.mp ht]
  exact ⟨report, rfl⟩

/-- The reports of a scan are told in both forms. -/
theorem kept_reports (h : Tandem r r') (reports : List (Logged BinaryReport)) :
    let steps := reports.map fun report => Told.ofReport report.value
    Kept r r' (r.aloud (transcript steps)) (r'.aloud (transcript steps)) (r.addAll steps) (r'.addAll steps) := by
  intro steps
  rw [h.aloud, h.aloud']
  refine ⟨rfl, steps, rfl, ?_, rfl, rfl⟩
  intro t ht
  obtain ⟨report, -, rfl⟩ := List.mem_map.mp ht
  exact ⟨report.value, rfl⟩

theorem parallel_scanRoot (h : Tandem r r') :
    Parallel (Kept r r') (scanRoot ⟨policy, json⟩ root r) (scanRoot ⟨policy, json'⟩ root r') := by
  refine Parallel.says_bind (Says.leave _) (Says.leave _) (Parallel.silent_bind Parallel.files fun fs => ?_)
  refine Parallel.says_bind (says_tellReports r _) (says_tellReports r' _) ?_
  simp only [String.empty_append]
  have hkept := kept_reports h (scanTree policy fs root).reports
  cases (scanTree policy fs root).outcome with
  | error cause => exact Parallel.throw _
  | ok summary =>
      refine Parallel.says_bind (Says.leave _) (Says.leave _) (Parallel.pure ?_)
      simpa only [String.append_empty] using hkept

/-- Libraries and tree. -/
theorem parallel_judgeRoot (h : Tandem r r') :
    Parallel (Kept r r') (checkLibraries ⟨policy, json⟩ root r >>= scanRoot ⟨policy, json⟩ root)
      (checkLibraries ⟨policy, json'⟩ root r' >>= scanRoot ⟨policy, json'⟩ root) := by
  refine Parallel.bind (parallel_checkLibraries h) fun told told' q q' hlibraries => ?_
  exact (parallel_scanRoot (hlibraries.tandem h)).mono fun _ _ _ _ htree => hlibraries.append htree

theorem parallel_judgeMounted (h : Tandem r r') :
    Parallel (Kept r r') (judgeMounted ⟨policy, json⟩ root r) (judgeMounted ⟨policy, json'⟩ root r') := by
  refine Parallel.says_bind (Says.leave _) (Says.leave _) ?_
  simpa only [String.empty_append] using parallel_judgeRoot h

end Audit

end FipsAudit
