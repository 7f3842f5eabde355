import FipsAudit.Proofs.Run

/-!
# `FipsAudit.Proofs.Ending` — how an operation ends

An operation ends with a result in a session. How it ends is the same in all sessions that are alike, and it is the same
under other tools too, as long as those answer every call of the operation as before. So one call can be hidden: what an
operation comes to before that call does not depend on the answer to it.

* `Session.Fails` — a call that is not answered with exit code zero.
* `Session.AlikeBut` — sessions that are alike, except that their tools may answer one call in different ways.
* `Run.EndsIn` — the result of an operation and the session after it, in all such sessions.
* `Session.answering` — a session whose tools answer one call in another way.
-/

namespace FipsAudit

namespace Session

variable {hidden c : Call} {s t u : Session}

/-- The call has no output, or its exit code is not zero. -/
def Fails (s : Session) (c : Call) : Prop := ∀ output, ¬ s.Succeeds c output

/-- Every call is answered with exit code zero, or it fails. -/
theorem succeeds_or_fails (s : Session) (c : Call) : (∃ output, s.Succeeds c output) ∨ s.Fails c :=
  (Classical.em _).imp_right not_exists.mp

/-- Two sessions that differ at most in what was noted and printed and in the answers to one call. -/
structure AlikeBut (hidden : Call) (s t : Session) : Prop where
  /-- The same files. -/
  files : s.files = t.files
  /-- The same answers to all other calls. -/
  tools : ∀ n c fs, c ≠ hidden → s.tools n c fs = t.tools n c fs
  /-- The same scratch directory. -/
  scratch : s.scratch = t.scratch
  /-- The same calls so far. -/
  calls : s.calls = t.calls

theorem Alike.but (h : Alike s t) (hidden : Call) : AlikeBut hidden s t :=
  ⟨h.files, fun _ _ _ _ => by rw [h.tools], h.scratch, h.calls⟩

namespace AlikeBut

theorem refl (hidden : Call) (s : Session) : AlikeBut hidden s s := (Alike.refl s).but hidden

theorem trans (h : AlikeBut hidden s t) (h' : AlikeBut hidden t u) : AlikeBut hidden s u :=
  ⟨h.files.trans h'.files, fun n c fs hc => (h.tools n c fs hc).trans (h'.tools n c fs hc),
    h.scratch.trans h'.scratch, h.calls.trans h'.calls⟩

/-- All calls but the hidden one have the same result. -/
theorem replyTo (h : AlikeBut hidden s t) (hc : c ≠ hidden) : s.replyTo c = t.replyTo c := by
  simp only [Session.replyTo, h.files, h.calls, h.tools _ _ _ hc]

/-- All calls but the hidden one keep the sessions alike. -/
theorem after (h : AlikeBut hidden s t) (hc : c ≠ hidden) : AlikeBut hidden (s.after c) (t.after c) := by
  refine ⟨?_, h.tools, h.scratch, ?_⟩
  · simp only [Session.after, h.files, h.calls, h.tools _ _ _ hc]
  · simp only [Session.after, h.calls]

end AlikeBut

/-- The session with tools that answer a call in another way. -/
def answering (s : Session) (hidden : Call) (answer : Nat → FileSystem → Reply) : Session :=
  { s with tools := fun n c fs => if c = hidden then answer n fs else s.tools n c fs }

theorem alikeBut_answering (s : Session) (hidden : Call) (answer : Nat → FileSystem → Reply) :
    AlikeBut hidden s (s.answering hidden answer) :=
  ⟨rfl, fun _ _ _ hc => (if_neg hc).symm, rfl, rfl⟩

theorem calls_after (s : Session) (c : Call) : (s.after c).calls = s.calls ++ [c] := rfl

end Session

open Session

namespace Run

variable {ε ε' α β : Type} {hidden c : Call} {s t u : Session} {x : Run ε α} {r : Except ε β}

@[simp] theorem exec_call (c : Call) (s : Session) :
    exec (call c : Run ε (Except RunError Output)) s = (.ok (s.replyTo c), s.after c) := rfl

/-- Wherever the answers to the hidden call are the only ones that can differ, the operation ends with this result, in
    this session but for such differences. -/
def EndsIn (hidden : Call) (x : Run ε α) (s : Session) (r : Except ε α) (t : Session) : Prop :=
  ∀ s₀, AlikeBut hidden s s₀ → ∃ t₀, exec x s₀ = (r, t₀) ∧ AlikeBut hidden t t₀

namespace EndsIn

theorem throw (e : ε) : EndsIn hidden (throw e : Run ε α) s (.error e) s := fun s₀ h => ⟨s₀, rfl, h⟩

/-- What only notes and prints ends where it began. -/
theorem of_tells {a : α} (h : Tells x a) : EndsIn hidden x s (.ok a) s := by
  intro s₀ halike
  obtain ⟨t₀, hexec, halike'⟩ := h s₀
  exact ⟨t₀, hexec, halike.trans (halike'.but hidden)⟩

theorem pure (a : α) : EndsIn hidden (pure a : Run ε α) s (.ok a) s := of_tells (Tells.pure a)

theorem files : EndsIn hidden (files : Run ε FileSystem) s (.ok s.files) s :=
  fun s₀ h => ⟨s₀, by rw [exec_files, h.files], h⟩

/-- A call that is not hidden ends with the reply to it. -/
theorem call (hc : c ≠ hidden) :
    EndsIn hidden (call c : Run ε (Except RunError Output)) s (.ok (s.replyTo c)) (s.after c) :=
  fun s₀ h => ⟨s₀.after c, by rw [exec_call, h.replyTo hc], h.after hc⟩

/-- An operation that succeeds hands its result on. -/
theorem bind {a : α} {f : α → Run ε β} (hx : EndsIn hidden x s (.ok a) t) (hf : EndsIn hidden (f a) t r u) :
    EndsIn hidden (x >>= f) s r u := by
  intro s₀ halike
  obtain ⟨t₀, hexec, halike'⟩ := hx s₀ halike
  rw [exec_bind_of_ok hexec]
  exact hf t₀ halike'

/-- An operation that fails is the last one. -/
theorem bind_error {e : ε} {f : α → Run ε β} (hx : EndsIn hidden x s (.error e) t) :
    EndsIn hidden (x >>= f) s (.error e) t := by
  intro s₀ halike
  obtain ⟨t₀, hexec, halike'⟩ := hx s₀ halike
  exact ⟨t₀, exec_bind_of_error hexec f, halike'⟩

/-- After telling, all depends on how things go on. -/
theorem tells {a : α} {f : α → Run ε β} (hx : Tells x a) (hf : EndsIn hidden (f a) s r t) :
    EndsIn hidden (x >>= f) s r t :=
  (of_tells hx).bind hf

theorem adapt {r : Except ε α} (f : ε → ε') (h : EndsIn hidden x s r t) :
    EndsIn hidden (adapt f x) s (r.mapError f) t := by
  intro s₀ halike
  obtain ⟨t₀, hexec, halike'⟩ := h s₀ halike
  exact ⟨t₀, by rw [exec_adapt, hexec], halike'⟩

end EndsIn

end Run

end FipsAudit
