import FipsAudit.Session

/-!
# `FipsAudit.Proofs.Run` — what an operation does to a session

A run is a function on sessions. This file says what each basic operation is as such a function, and how results
pass from one operation to the next. Tools and files cannot see what was noted and printed: sessions that differ
in that alone are alike, and an operation that does not look there cannot tell them apart.

* `Run.exec` — the result of an operation and the session after it.
* `Run.Yields` — what an operation has to come to for something to hold at its end.
* `Session.replyTo`, `Session.after` — a call, split into its result and its effect.
* `Session.Succeeds` — a call that is answered with exit code zero.
* `Session.Alike` — sessions that differ at most in what was noted and printed; `Session.Quiet`, `Session.QuietStep` —
  conditions and relations that are the same for them.
* `Run.Says` — operations that print a given text and beside that only note; `Run.Tells` — whatever the text is.
-/

namespace FipsAudit

/-! ## Sessions -/

namespace Session

/-- The result of a call in this session. -/
def replyTo (s : Session) (c : Call) : Except RunError Output :=
  (s.tools s.calls.length c s.files).result.mapError (⟨c.program, ·⟩)

/-- The session after a call. -/
def after (s : Session) (c : Call) : Session :=
  let reply := s.tools s.calls.length c s.files
  { s with
    calls := s.calls ++ [c]
    notes := s.notes ++ reply.notes
    files := Run.createIn c.directory s.files reply.creates }

/-- Two sessions that differ at most in what was noted and printed. -/
structure Alike (s t : Session) : Prop where
  /-- The same files. -/
  files : s.files = t.files
  /-- The same tools. -/
  tools : s.tools = t.tools
  /-- The same scratch directory. -/
  scratch : s.scratch = t.scratch
  /-- The same calls so far. -/
  calls : s.calls = t.calls

namespace Alike

variable {s t u : Session}

theorem refl (s : Session) : Alike s s := ⟨rfl, rfl, rfl, rfl⟩

theorem symm (h : Alike s t) : Alike t s := ⟨h.files.symm, h.tools.symm, h.scratch.symm, h.calls.symm⟩

theorem trans (h : Alike s t) (h' : Alike t u) : Alike s u :=
  ⟨h.files.trans h'.files, h.tools.trans h'.tools, h.scratch.trans h'.scratch, h.calls.trans h'.calls⟩

/-- A call has the same result in sessions that are alike. -/
theorem replyTo (h : Alike s t) (c : Call) : s.replyTo c = t.replyTo c := by
  simp only [Session.replyTo, h.files, h.tools, h.calls]

/-- Sessions that are alike stay so over a call. -/
theorem after (h : Alike s t) (c : Call) : Alike (s.after c) (t.after c) := by
  refine ⟨?_, h.tools, h.scratch, ?_⟩
  · simp only [Session.after, h.files, h.tools, h.calls]
  · simp only [Session.after, h.calls]

end Alike

/-- The call is answered with `output` and exit code zero. -/
structure Succeeds (s : Session) (c : Call) (output : Output) : Prop where
  /-- There is an output. -/
  reply : s.replyTo c = .ok output
  /-- It reports success. -/
  zero : output.exitCode = 0

theorem Succeeds.alike {s t : Session} {c : Call} {output : Output} (h : s.Succeeds c output) (halike : Alike s t) :
    t.Succeeds c output :=
  ⟨halike.replyTo c ▸ h.reply, h.zero⟩

theorem succeeds_congr {s t : Session} {c : Call} {output : Output} (halike : Alike s t) :
    s.Succeeds c output ↔ t.Succeeds c output :=
  ⟨fun h => h.alike halike, fun h => h.alike halike.symm⟩

/-- After the session, a text has been printed, and nothing else has changed but for notes. -/
structure Hears (s : Session) (text : String) (s' : Session) : Prop where
  /-- Tools and files are as before. -/
  alike : Alike s s'
  /-- The text is all that was printed. -/
  printed : s'.printed = s.printed ++ text

/-- A condition that does not depend on what was noted and printed. -/
def Quiet (P : Session → Prop) : Prop := ∀ s t, Alike s t → (P s ↔ P t)

/-- A relation to later sessions that does not depend on what was noted and printed. -/
def QuietStep (R : Session → Session → Prop) : Prop :=
  ∀ s t s', Alike s t → R s s' → ∃ t', R t t' ∧ Alike s' t'

/-- Sessions that are alike lead to the same quiet conditions. -/
theorem QuietStep.exists_congr {R : Session → Session → Prop} {P : Session → Prop} {s t : Session} (hR : QuietStep R)
    (hP : Quiet P) (halike : Alike s t) : (∃ s', R s s' ∧ P s') ↔ ∃ t', R t t' ∧ P t' := by
  constructor
  · rintro ⟨s', hs', h⟩
    obtain ⟨t', ht', halike'⟩ := hR s t s' halike hs'
    exact ⟨t', ht', (hP s' t' halike').mp h⟩
  · rintro ⟨t', ht', h⟩
    obtain ⟨s', hs', halike'⟩ := hR t s t' halike.symm ht'
    exact ⟨s', hs', (hP t' s' halike').mp h⟩

end Session

theorem Output.success_iff (o : Output) : o.success = true ↔ o.exitCode = 0 := beq_iff_eq

open Session

namespace Run

variable {ε ε' α β : Type}

/-! ## Results and sessions -/

/-- The result of an operation, and the session after it. -/
def exec (x : Run ε α) (s : Session) : Except ε α × Session := StateT.run (ExceptT.run x) s

/-- The first failure ends a sequence of operations. -/
theorem exec_bind (x : Run ε α) (f : α → Run ε β) (s : Session) :
    exec (x >>= f) s =
      match (exec x s).1 with
      | .ok a => exec (f a) (exec x s).2
      | .error e => (.error e, (exec x s).2) := by
  unfold exec ExceptT.run StateT.run
  simp only [bind, ExceptT.bind, ExceptT.mk, StateT.bind, ExceptT.bindCont]
  rcases x s with ⟨a | e, s'⟩ <;> rfl

/-- An operation that succeeds hands its result on. -/
theorem exec_bind_of_ok {x : Run ε α} {a : α} {s s' : Session} (h : exec x s = (.ok a, s')) (f : α → Run ε β) :
    exec (x >>= f) s = exec (f a) s' := by
  rw [exec_bind, h]

/-- An operation that fails is the last one. -/
theorem exec_bind_of_error {x : Run ε α} {e : ε} {s s' : Session} (h : exec x s = (.error e, s')) (f : α → Run ε β) :
    exec (x >>= f) s = (.error e, s') := by
  rw [exec_bind, h]

@[simp] theorem exec_files (s : Session) : exec (files : Run ε FileSystem) s = (.ok s.files, s) := rfl

@[simp] theorem exec_adapt (f : ε' → ε) (x : Run ε' α) (s : Session) :
    exec (adapt f x) s = ((exec x s).1.mapError f, (exec x s).2) := by
  show StateT.run (Except.mapError f <$> ExceptT.run x) s = _
  rw [StateT.run_map]
  rfl

@[simp] theorem exec_attempt (x : Run ε' α) (s : Session) :
    exec (attempt x : Run ε (Except ε' α)) s = (.ok (exec x s).1, (exec x s).2) := by
  show StateT.run (Except.ok <$> ExceptT.run x) s = _
  rw [StateT.run_map]
  rfl

@[simp] theorem exec_mk (r : Except ε α) (s : Session) : exec (ExceptT.mk (pure r) : Run ε α) s = (r, s) := rfl

/-! ## Success -/

/-- The operation succeeds, and `Q` holds of its result and of the session after it. -/
def Yields (x : Run ε α) (s : Session) (Q : α → Session → Prop) : Prop :=
  ∃ a s', exec x s = (.ok a, s') ∧ Q a s'

section Yields

variable {x : Run ε α} {s s' : Session} {Q : α → Session → Prop}

theorem yields_iff_of_ok {a : α} (h : exec x s = (.ok a, s')) : Yields x s Q ↔ Q a s' := by
  constructor
  · rintro ⟨b, t, hb, hQ⟩
    obtain ⟨hab, rfl⟩ := Prod.mk.inj (h.symm.trans hb)
    exact Except.ok.inj hab ▸ hQ
  · exact fun hQ => ⟨a, s', h, hQ⟩

theorem not_yields_of_error {e : ε} (h : exec x s = (.error e, s')) : ¬ Yields x s Q := by
  rintro ⟨a, t, ha, -⟩
  rw [h] at ha
  cases ha

@[simp] theorem yields_pure (a : α) : Yields (pure a : Run ε α) s Q ↔ Q a s := yields_iff_of_ok rfl

@[simp] theorem yields_throw (e : ε) : ¬ Yields (throw e : Run ε α) s Q := not_yields_of_error rfl

/-- A sequence succeeds if its parts do, each in the session that the one before left. -/
@[simp] theorem yields_bind {f : α → Run ε β} {Q : β → Session → Prop} :
    Yields (x >>= f) s Q ↔ Yields x s fun a s' => Yields (f a) s' Q := by
  rcases h : exec x s with ⟨r, s'⟩
  cases r with
  | ok a =>
      rw [yields_iff_of_ok h]
      unfold Yields
      rw [exec_bind_of_ok h]
  | error e => exact iff_of_false (not_yields_of_error (exec_bind_of_error h f)) (not_yields_of_error h)

@[simp] theorem yields_files {Q : FileSystem → Session → Prop} :
    Yields (files : Run ε FileSystem) s Q ↔ Q s.files s := yields_iff_of_ok rfl

@[simp] theorem yields_get {Q : Session → Session → Prop} : Yields (get : Run ε Session) s Q ↔ Q s s :=
  yields_iff_of_ok rfl

@[simp] theorem yields_changeFiles {f : FileSystem → FileSystem} {Q : Unit → Session → Prop} :
    Yields (changeFiles f : Run ε Unit) s Q ↔ Q () { s with files := f s.files } := yields_iff_of_ok rfl

@[simp] theorem yields_call {c : Call} {Q : Except RunError Output → Session → Prop} :
    Yields (call c : Run ε (Except RunError Output)) s Q ↔ Q (s.replyTo c) (s.after c) := yields_iff_of_ok rfl

/-- Another kind of failure makes no difference to success. -/
@[simp] theorem yields_adapt {f : ε → ε'} : Yields (adapt f x) s Q ↔ Yields x s Q := by
  rcases h : exec x s with ⟨r, s'⟩
  have hadapt := exec_adapt f x s
  rw [h] at hadapt
  cases r with
  | ok a => rw [yields_iff_of_ok h, yields_iff_of_ok hadapt]
  | error e => exact iff_of_false (not_yields_of_error hadapt) (not_yields_of_error h)

@[simp] theorem yields_attempt {Q : Except ε α → Session → Prop} :
    Yields (attempt x : Run ε' (Except ε α)) s Q ↔ Q (exec x s).1 (exec x s).2 :=
  yields_iff_of_ok (exec_attempt x s)

/-- For a plain yes only the result counts. -/
theorem yields_true_iff {x : Run ε Bool} : Yields x s (fun b _ => b = true) ↔ (exec x s).1 = .ok true := by
  rcases h : exec x s with ⟨r, s'⟩
  cases r with
  | ok b => rw [yields_iff_of_ok h, Except.ok.injEq]
  | error e => exact iff_of_false (not_yields_of_error h) (by simp)

/-- A guard passes exactly if its condition holds. -/
theorem yields_guard {c : Bool} {e : ε} {f : PUnit → Run ε α} :
    Yields (if !c then throw e >>= f else f ()) s Q ↔ c = true ∧ Yields (f ()) s Q := by
  cases c with
  | true => simp
  | false => simp

theorem yields_congr {Q' : α → Session → Prop} (h : ∀ a s', Q a s' ↔ Q' a s') : Yields x s Q ↔ Yields x s Q' := by
  simp only [Yields, h]

/-- What does not depend on the operation can be asked for before it. -/
theorem yields_and {p : Prop} : Yields x s (fun a s' => p ∧ Q a s') ↔ p ∧ Yields x s Q := by
  constructor
  · rintro ⟨a, s', h, hp, hQ⟩
    exact ⟨hp, a, s', h, hQ⟩
  · rintro ⟨hp, a, s', h, hQ⟩
    exact ⟨a, s', h, hp, hQ⟩

/-- Of a reply nothing is accepted but success. -/
theorem yields_call_iff_succeeds {c : Call} {lost : RunError → ε} {refused : Output → ε} {result : Output → β}
    {Q : β → Session → Prop} :
    Yields (call c >>= fun reply : Except RunError Output =>
        (match reply with
        | .error cause => throw (lost cause)
        | .ok output => if output.success then pure (result output) else throw (refused output) : Run ε β)) s Q ↔
      ∃ output, s.Succeeds c output ∧ Q (result output) (s.after c) := by
  rw [yields_bind, yields_call]
  constructor
  · intro h
    cases hreply : s.replyTo c with
    | error cause =>
        rw [hreply] at h
        exact absurd h (yields_throw _)
    | ok output =>
        rw [hreply] at h
        by_cases hsuccess : output.success = true
        · simp only [if_pos hsuccess, yields_pure] at h
          exact ⟨output, ⟨hreply, output.success_iff.mp hsuccess⟩, h⟩
        · simp only [if_neg hsuccess] at h
          exact absurd h (yields_throw _)
  · rintro ⟨output, ⟨hreply, hzero⟩, hQ⟩
    rw [hreply]
    simp only [if_pos (output.success_iff.mpr hzero), yields_pure]
    exact hQ

end Yields

/-! ## Telling -/

variable {text text' : String}

/-- The operation succeeds with `a` and prints the text; beside that it does nothing but note. -/
def Says (x : Run ε α) (a : α) (text : String) : Prop := ∀ s, ∃ s', exec x s = (.ok a, s') ∧ s.Hears text s'

namespace Says

theorem pure (a : α) : Says (pure a : Run ε α) a "" := fun s => ⟨s, rfl, Alike.refl s, String.append_empty.symm⟩

theorem leave (notes : List Note) : Says (leave notes : Run ε Unit) () "" :=
  fun _ => ⟨_, rfl, ⟨rfl, rfl, rfl, rfl⟩, String.append_empty.symm⟩

theorem logged (x : Logged α) : Says (logged x : Run ε α) x.value "" :=
  fun _ => ⟨_, rfl, ⟨rfl, rfl, rfl, rfl⟩, String.append_empty.symm⟩

theorem print (text : String) : Says (print text : Run ε Unit) () text := fun _ => ⟨_, rfl, ⟨rfl, rfl, rfl, rfl⟩, rfl⟩

/-- What is printed is printed one after the other. -/
theorem bind {x : Run ε α} {f : α → Run ε β} {a : α} {b : β} (hx : Says x a text) (hf : Says (f a) b text') :
    Says (x >>= f) b (text ++ text') := by
  intro s
  obtain ⟨s₁, hs₁, halike₁, hprinted₁⟩ := hx s
  obtain ⟨s₂, hs₂, halike₂, hprinted₂⟩ := hf s₁
  refine ⟨s₂, (exec_bind_of_ok hs₁ f).trans hs₂, halike₁.trans halike₂, ?_⟩
  rw [hprinted₂, hprinted₁, String.append_assoc]

theorem of_text {x : Run ε α} {a : α} (h : Says x a text) (htext : text = text') : Says x a text' := htext ▸ h

end Says

/-- The operation succeeds with `a`, and does nothing but note and print. -/
def Tells (x : Run ε α) (a : α) : Prop := ∀ s, ∃ s', exec x s = (.ok a, s') ∧ Alike s s'

/-- What is printed is of no account to tools and files. -/
theorem Says.tells {x : Run ε α} {a : α} (h : Says x a text) : Tells x a := by
  intro s
  obtain ⟨s', hexec, hhears⟩ := h s
  exact ⟨s', hexec, hhears.alike⟩

namespace Tells

theorem pure (a : α) : Tells (pure a : Run ε α) a := (Says.pure a).tells

theorem leave (notes : List Note) : Tells (leave notes : Run ε Unit) () := (Says.leave notes).tells

theorem logged (x : Logged α) : Tells (logged x : Run ε α) x.value := (Says.logged x).tells

theorem bind {x : Run ε α} {f : α → Run ε β} {a : α} {b : β} (hx : Tells x a) (hf : Tells (f a) b) :
    Tells (x >>= f) b := by
  intro s
  obtain ⟨s₁, hs₁, halike₁⟩ := hx s
  obtain ⟨s₂, hs₂, halike₂⟩ := hf s₁
  exact ⟨s₂, (exec_bind_of_ok hs₁ f).trans hs₂, halike₁.trans halike₂⟩

/-- After telling, all depends on how things go on in sessions that are alike. -/
theorem yields_iff {x : Run ε α} {a : α} {s : Session} {Q : α → Session → Prop} {P : Prop} (hx : Tells x a)
    (h : ∀ s', Alike s s' → (Q a s' ↔ P)) : Yields x s Q ↔ P := by
  obtain ⟨s', hs', halike⟩ := hx s
  rw [yields_iff_of_ok hs']
  exact h s' halike

end Tells

end Run

end FipsAudit
